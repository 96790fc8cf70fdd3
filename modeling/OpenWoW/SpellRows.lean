import OpenWoW.SpellChains

/-! The rows of a spellbook in `character_spell`. -/
namespace OpenWoW.Spellbook

/-- The player's rows of `character_spell`, by their key: active and disabled. -/
abbrev SpellRows := Nat → Option (Bool × Bool)

inductive SpellStatement where
  | del (spell : Nat)
  | ins (spell : Nat) (active disabled : Bool)

def SpellStatement.spell : SpellStatement → Nat
  | .del spell | .ins spell _ _ => spell

/-- What a statement makes of the row of its spell: an insert needs that there is none. -/
def SpellStatement.act : SpellStatement → Option (Bool × Bool) → Option (Option (Bool × Bool))
  | .del _, _ => some none
  | .ins _ active disabled, none => some (some (active, disabled))
  | .ins _ _ _, some _ => none

def spellStatements (spell : Nat) (entry : PlayerSpell) : List SpellStatement :=
  (if entry.state = .removed ∨ entry.state = .changed then [.del spell] else []) ++
    if entry.dependent = false ∧ (entry.state = .new ∨ entry.state = .changed) then
      [.ins spell entry.active entry.disabled]
    else []

def Player.bookStatements (p : Player) : List SpellStatement :=
  p.spells.entries.flatMap fun entry => spellStatements entry.1 entry.2

def saveSpells (p : Player) (rows : SpellRows) : Player × SpellRows :=
  ({ p with
      spells := EntryMap.rewrite
        (fun _ entry => if entry.state = .removed then none
          else some { entry with state := .unchanged }) p.spells },
    EntryMap.commit SpellStatement.spell SpellStatement.act p.bookStatements rows)

inductive SpellInput where
  | learnSpell (depth spell : Nat) (dependent : Bool)
  | removeSpell (depth spell : Nat) (disabled learnLowRank : Bool)
  | addTemporarySpell (spell : Nat)
  | removeTemporarySpell (spell : Nat)
  | saveSpells

/-- `none` if the call does not return within its depth. -/
def spellStep (tables : Tables) (env : Env) (s : Player × SpellRows) :
    SpellInput → Option (Player × SpellRows)
  | .learnSpell depth spell dependent =>
    (exec tables env depth (.learnSpell spell dependent) s.1).map (·, s.2)
  | .removeSpell depth spell disabled learnLowRank =>
    (exec tables env depth (.removeSpell spell disabled learnLowRank) s.1).map (·, s.2)
  | .addTemporarySpell spell => some (s.1.addTemporarySpell spell, s.2)
  | .removeTemporarySpell spell => some (s.1.removeTemporarySpell spell, s.2)
  | .saveSpells => some (saveSpells s.1 s.2)

/-- A player in the world, valid spells without skills, and casts and auras that leave the book
alone. -/
structure Quiet (tables : Tables) (env : Env) : Prop where
  inWorld : env.inWorld = true
  isSpellValid : ∀ spell, env.isSpellValid spell = true
  castSpell : ∀ spell p, env.castSpell spell p = []
  removeAuras : ∀ spell p, env.removeAuras spell p = []
  spellLearnSkill : ∀ spell, tables.spellLearnSkill spell = none
  skillLineAbilities : tables.skillLineAbilities = []
  spellInfo : ∀ spell, tables.Ranks spell spell → (tables.spellInfo spell).isSome

namespace Quiet

variable {tables : Tables} {env : Env} (quiet : Quiet tables env)
variable {recur : Call → Player → Option Player}

include quiet

variable (info : SpellInfo) (spell : Nat) (p : Player)

theorem castPassive_eq :
    castPassive env recur info spell p = some p := by
  unfold castPassive
  rw [quiet.castSpell]
  split <;> rfl

theorem addDependentSkills_eq :
    addDependentSkills tables env recur spell p = some p := by
  unfold addDependentSkills
  rw [quiet.spellLearnSkill, quiet.skillLineAbilities]
  rfl

theorem finishAdd_eq :
    finishAdd tables env recur info spell p =
      if !info.isPassive && info.hasSkillStepEffect then some p
      else learnDependentSpells tables env recur spell (p.spendProfession info) := by
  unfold finishAdd
  rw [quiet.castSpell, quiet.castPassive_eq]
  split
  · rfl
  show (addDependentSkills tables env recur spell (p.spendProfession info) >>= _) = _
  rw [quiet.addDependentSkills_eq]
  rfl

theorem finishRemove_eq (disabled learnLowRank : Bool) (entry : PlayerSpell)
    (p : Player) :
    finishRemove tables env recur spell disabled learnLowRank entry p =
      (tables.spellLearnSpells spell).foldlM
        (fun p node => recur (.removeSpell node.spell disabled true) p)
        ((unlearn spell entry disabled p).regainProfession (tables.spellInfo spell)
          env.maxPrimaryTradeSkill) >>=
      activatePrevRank tables recur spell entry.active entry.dependent learnLowRank := by
  unfold finishRemove
  rw [quiet.removeAuras]
  show (removeDependentSkills tables env recur spell _ >>= _) = _
  unfold removeDependentSkills
  rw [quiet.spellLearnSkill, quiet.skillLineAbilities]
  rfl

end Quiet

end OpenWoW.Spellbook
