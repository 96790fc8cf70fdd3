import Mathlib.Logic.Relation
import OpenWoW.SpellRowSteps

/-! Which ranks of a spell are in the book, and which of them is active. -/
namespace OpenWoW.Spellbook

open Relation (ReflTransGen TransGen)

variable {tables : Tables} {env : Env} {p p' p'' : Player} {spell other : Nat}

/-- In the book, and not for a while only. -/
def Real (p : Player) (spell : Nat) : Prop :=
  ∃ entry, p.spells.lookup spell = some entry ∧ entry.state ≠ .removed ∧ entry.state ≠ .temporary

def Active (p : Player) (spell : Nat) : Prop :=
  ∃ entry, p.spells.lookup spell = some entry ∧ entry.state ≠ .removed ∧
    entry.state ≠ .temporary ∧ entry.active = true

/-- A rank of a spell of which no rank stacks. -/
def Single (tables : Tables) (spell : Nat) : Prop :=
  tables.Ranks spell spell ∧ ∀ other info, tables.Ranks spell other →
    tables.spellInfo other = some info → info.isStackableWithRanks = false

theorem Active.real (active : Active p spell) : Real p spell := by
  obtain ⟨entry, here, present, plain, _⟩ := active
  exact ⟨entry, here, present, plain⟩

theorem Real.congr (real : Real p spell)
    (same : p'.spells.lookup spell = p.spells.lookup spell) : Real p' spell := by
  obtain ⟨entry, here, present, plain⟩ := real
  exact ⟨entry, same.trans here, present, plain⟩

theorem Active.congr (active : Active p spell)
    (same : p'.spells.lookup spell = p.spells.lookup spell) : Active p' spell := by
  obtain ⟨entry, here, present, plain, isActive⟩ := active
  exact ⟨entry, same.trans here, present, plain, isActive⟩

theorem Single.of_ranks (single : Single tables spell) (same : tables.Ranks spell other) :
    Single tables other :=
  ⟨same.symm.self, fun third info also isInfo => single.2 third info (same.trans also) isInfo⟩

/-- The ranks in the book are the lowest ones; of those that do not stack only the highest may be
active. Nothing is disabled, and what is temporary has ranks that stack, or none. -/
structure Ranked (tables : Tables) (p : Player) : Prop where
  enabled : ∀ spell entry, p.spells.lookup spell = some entry → entry.disabled = false
  loose : ∀ spell entry, p.spells.lookup spell = some entry → entry.state = .temporary →
    Loose tables spell
  lower : ∀ spell, tables.getNextSpellInChain spell ≠ 0 →
    Real p (tables.getNextSpellInChain spell) → Real p spell
  top : ∀ spell, Single tables spell → Active p spell → tables.getNextSpellInChain spell ≠ 0 →
    ¬Real p (tables.getNextSpellInChain spell)

namespace Ranked

section
variable (ranked : Ranked tables p)
include ranked

theorem of_same (book : p'.spells = p.spells) : Ranked tables p' := by
  have same : ∀ spell, p'.spells.lookup spell = p.spells.lookup spell := fun spell => by rw [book]
  constructor
  · intro spell entry here
    exact ranked.enabled spell entry ((same spell).symm.trans here)
  · intro spell entry here temporary
    exact ranked.loose spell entry ((same spell).symm.trans here) temporary
  · intro spell some real
    exact (ranked.lower spell some (real.congr (same _).symm)).congr (same spell)
  · intro spell single active some real
    exact ranked.top spell single (active.congr (same spell).symm) some (real.congr (same _).symm)

theorem hasSpell_of_real (real : Real p spell) :
    p.hasSpell spell = true := by
  obtain ⟨entry, here, present, _⟩ := real
  rw [Player.hasSpell, here]
  simp [present, ranked.enabled spell entry here]

theorem real_of_hasSpell (quiet : Quiet tables env)
    (single : Single tables spell) (has : p.hasSpell spell = true) : Real p spell := by
  rw [Player.hasSpell] at has
  cases here : p.spells.lookup spell with
  | none =>
    rw [here] at has
    cases has
  | some entry =>
    rw [here] at has
    have present : entry.state ≠ .removed := by
      intro removed
      simp [removed] at has
    refine ⟨entry, here, present, ?_⟩
    intro temporary
    obtain ⟨info, isInfo⟩ := Option.isSome_iff_exists.mp (quiet.spellInfo spell single.1)
    have unstackable := ranked.loose spell entry here temporary spell info single.1 isInfo
    rw [single.2 spell info single.1 isInfo] at unstackable
    cases unstackable

theorem real_next (same : tables.Ranks spell other)
    (higher : tables.getSpellRank spell < tables.getSpellRank other) (real : Real p other) :
    tables.getNextSpellInChain spell ≠ 0 ∧ Real p (tables.getNextSpellInChain spell) := by
  have some := tables.exists_next same higher
  refine ⟨some, ?_⟩
  obtain ⟨inChain, rank⟩ := tables.next_spec some
  -- down from the higher rank, one rank at a time
  induction distance : tables.getSpellRank other - tables.getSpellRank spell generalizing other with
  | zero => omega
  | succ distance ih =>
    by_cases last : tables.getSpellRank other = tables.getSpellRank spell + 1
    · rwa [← same.eq_of_rank inChain (by omega)]
    have later : tables.getPrevSpellInChain other ≠ 0 :=
      tables.exists_prev same.symm.self (by omega)
    obtain ⟨prevSame, prevRank⟩ := tables.prev_spec later
    have step : Real p (tables.getPrevSpellInChain other) := by
      apply ranked.lower
      · rw [tables.next_prev later]
        exact same.ne_zero
      · rwa [tables.next_prev later]
    exact ih (same.trans prevSame) (by omega) step (by omega)

theorem real_of_higher (same : tables.Ranks spell other)
    (higher : tables.getSpellRank spell < tables.getSpellRank other) (real : Real p other) :
    Real p spell := by
  obtain ⟨some, next⟩ := ranked.real_next same higher real
  exact ranked.lower spell some next

theorem active_unique (single : Single tables spell)
    (same : tables.Ranks spell other) (active : Active p spell) (also : Active p other) :
    spell = other := by
  rcases Nat.lt_trichotomy (tables.getSpellRank spell) (tables.getSpellRank other) with
    below | level | above
  · obtain ⟨some, next⟩ := ranked.real_next same below also.real
    exact absurd next (ranked.top spell single active some)
  · exact same.self.eq_of_rank same level
  · obtain ⟨some, next⟩ := ranked.real_next same.symm above active.real
    exact absurd next (ranked.top other (single.of_ranks same) also some)

end

theorem exists_top {p : Player} (real : Real p spell) (inChain : tables.Ranks spell spell) :
    ∃ highest, tables.Ranks spell highest ∧
      tables.getSpellRank spell ≤ tables.getSpellRank highest ∧ Real p highest ∧
      (tables.getNextSpellInChain highest ≠ 0 → ¬Real p (tables.getNextSpellInChain highest)) := by
  induction left : (tables.ranks.chainOf spell).length - tables.getSpellRank spell
    using Nat.strong_induction_on generalizing spell with
  | _ left ih =>
    by_cases last : tables.getNextSpellInChain spell ≠ 0 ∧ Real p (tables.getNextSpellInChain spell)
    · obtain ⟨same, rank⟩ := tables.next_spec last.1
      obtain ⟨small, _⟩ := List.getElem?_eq_some_iff.mp same.getElem?
      have chain := same.chain
      obtain ⟨highest, above, more, isReal, isTop⟩ :=
        ih _ (by rw [chain]; omega) last.2 same.symm.self rfl
      exact ⟨highest, same.trans above, by omega, isReal, isTop⟩
    · exact ⟨spell, inChain, Nat.le_refl _, real, fun some next => last ⟨some, next⟩⟩

end Ranked

/-- Nothing is lost, and a rank that is the highest is active unless it was there, not active,
before. -/
structure Grown (tables : Tables) (p p' : Player) : Prop where
  real : ∀ spell, Real p spell → Real p' spell
  top : ∀ spell, Single tables spell → Real p' spell →
    (tables.getNextSpellInChain spell ≠ 0 → ¬Real p' (tables.getNextSpellInChain spell)) →
    (Real p spell → Active p spell) → Active p' spell

namespace Grown

theorem refl (p : Player) : Grown tables p p :=
  ⟨fun _ => id, fun _ _ real _ was => was real⟩

theorem trans (first : Grown tables p p') (second : Grown tables p' p'') : Grown tables p p'' := by
  constructor
  · intro spell was
    exact second.real spell (first.real spell was)
  · intro spell single real isTop was
    apply second.top spell single real isTop
    intro between
    exact first.top spell single between (fun some next => isTop some (second.real _ next)) was

theorem of_active (real : ∀ spell, Real p spell ↔ Real p' spell)
    (active : ∀ spell, Active p spell → Active p' spell) : Grown tables p p' :=
  ⟨fun spell => (real spell).mp, fun spell _ here _ was => active spell (was ((real spell).mpr here))⟩

end Grown

def Above (tables : Tables) (spell other : Nat) : Prop :=
  (tables.getNextSpellInChain spell ≠ 0 ∧ other = tables.getNextSpellInChain spell) ∨
    other ∈ tables.spellsRequiringSpell spell ∨
    ∃ node ∈ tables.spellLearnSpells spell, node.spell = other

/-- Nothing is added, and what is lost is of a kind. -/
structure Shrunk (kind : Nat → Prop) (p p' : Player) : Prop where
  real : ∀ spell, Real p' spell → Real p spell
  lost : ∀ spell, Real p spell → ¬Real p' spell → kind spell

namespace Shrunk

variable {kind kind' : Nat → Prop}

theorem refl (kind : Nat → Prop) (p : Player) : Shrunk kind p p :=
  ⟨fun _ => id, fun _ real gone => absurd real gone⟩

theorem trans (first : Shrunk kind p p') (second : Shrunk kind p' p'') : Shrunk kind p p'' := by
  constructor
  · intro spell real
    exact first.real spell (second.real spell real)
  · intro spell was gone
    by_cases between : Real p' spell
    · exact second.lost spell between gone
    · exact first.lost spell was between

theorem mono (shrunk : Shrunk kind p p') (more : ∀ spell, kind spell → kind' spell) :
    Shrunk kind' p p' :=
  ⟨shrunk.real, fun spell was gone => more spell (shrunk.lost spell was gone)⟩

end Shrunk

/-- Ranks that do not stack are added as active ones, and nothing is disabled. -/
def Call.Ranks (tables : Tables) (p : Player) : Call → Prop
  | .addSpell spell active learning _ disabled =>
    disabled = false ∧ (Single tables spell → active = true) ∧ (learning = true ∨ Real p spell)
  | .learnSpell _ _ => True
  | .removeSpell _ disabled _ => disabled = false
  | _ => False

def Call.Ranked (tables : Tables) (p : Player) : Call → Player → Prop
  | .addSpell spell _ _ _ _, p' =>
    Spellbook.Ranked tables p' ∧ Grown tables p p' ∧
      (tables.Ranks spell spell → Real p' spell) ∧
      (Real p spell → ∀ other, Real p' other → Real p other)
  | .learnSpell spell _, p' =>
    Spellbook.Ranked tables p' ∧ Grown tables p p' ∧ (tables.Ranks spell spell → Real p' spell)
  | .removeSpell spell _ _, p' =>
    Spellbook.Ranked tables p' ∧ Shrunk (ReflTransGen (Above tables) spell) p p' ∧ ¬Real p' spell
  | _, _ => False

end OpenWoW.Spellbook
