import OpenWoW.Lib.Yields
import OpenWoW.SpellRows

/-! Entries of the spellbook and their rows, through all calls of learning and unlearning. -/
namespace OpenWoW.Spellbook

variable {tables : Tables} {env : Env} {strict : Prop} {temps temps' pending pending' : Nat → Prop}
variable {rows : SpellRows} {p after : Player}

namespace Player

theorem lookup_setSpell (spell : Nat) (entry : PlayerSpell) (other : Nat) :
    (p.setSpell spell entry).spells.lookup other =
      if other = spell then some entry else p.spells.lookup other :=
  EntryMap.lookup_insert ..

theorem lookup_eraseSpell (spell other : Nat) :
    (p.eraseSpell spell).spells.lookup other =
      if other = spell then none else p.spells.lookup other :=
  EntryMap.lookup_erase ..

@[simp] theorem learned_setSpell (spell : Nat) (entry : PlayerSpell) :
    (p.setSpell spell entry).learned = p.learned := rfl

@[simp] theorem learned_eraseSpell (spell : Nat) : (p.eraseSpell spell).learned = p.learned := rfl

theorem book_spendProfession (info : SpellInfo) :
    (p.spendProfession info).spells = p.spells ∧ (p.spendProfession info).learned = p.learned := by
  unfold spendProfession
  split <;> exact ⟨rfl, rfl⟩

theorem book_regainProfession (info : Option SpellInfo) (most : Nat) :
    (p.regainProfession info most).spells = p.spells ∧
      (p.regainProfession info most).learned = p.learned := by
  unfold regainProfession
  split <;> exact ⟨rfl, rfl⟩

end Player

/-- The rank of a spell whose ranks all stack, or of none. -/
def Loose (tables : Tables) (spell : Nat) : Prop :=
  ∀ other info, tables.Ranks spell other → tables.spellInfo other = some info →
    info.isStackableWithRanks = true

/-- What the table has for a spell, by the state of its entry; nothing is said about the row of a
spell that is being learned again. Strictly, only what `addSpell` has put into the book is not
temporary. -/
def EntryOk (strict temp pending learned : Prop) (row : Option (Bool × Bool)) :
    Option PlayerSpell → Prop
  | none => pending ∨ row = none
  | some ⟨.temporary, active, dependent, disabled⟩ =>
    temp ∧ row = none ∧ active = true ∧ dependent = false ∧ disabled = false
  | some ⟨.new, _, _, _⟩ => (strict → learned) ∧ (pending ∨ row = none)
  | some ⟨.unchanged, active, dependent, disabled⟩ =>
    (strict → learned) ∧ (pending ∨ row = if dependent then none else some (active, disabled))
  | some ⟨.changed, _, _, _⟩ | some ⟨.removed, _, _, _⟩ => strict → learned

namespace EntryOk

variable {temp temp' mine mine' known known' : Prop} {row : Option (Bool × Bool)}

theorem mono {entry : Option PlayerSpell} (ok : EntryOk strict temp mine known row entry)
    (more : temp → temp') (waits : mine → mine') (grows : known → known') :
    EntryOk strict temp' mine' known' row entry := by
  cases entry with
  | none => exact ok.imp_left waits
  | some entry =>
    obtain ⟨state, active, dependent, disabled⟩ := entry
    cases state with
    | unchanged => exact ⟨fun is => grows (ok.1 is), ok.2.imp_left waits⟩
    | changed => exact fun is => grows (ok is)
    | new => exact ⟨fun is => grows (ok.1 is), ok.2.imp_left waits⟩
    | removed => exact fun is => grows (ok is)
    | temporary => exact ⟨more ok.1, ok.2⟩

section
variable {entry : PlayerSpell} (ok : EntryOk strict temp mine known row (some entry))
  (plain : strict → entry.state ≠ .temporary)
include ok plain

theorem learned (is : strict) : known := by
  obtain ⟨state, active, dependent, disabled⟩ := entry
  cases state with
  | unchanged => exact ok.1 is
  | changed => exact ok is
  | new => exact ok.1 is
  | removed => exact ok is
  | temporary => exact absurd rfl (plain is)

theorem touch (active dependent disabled : Bool) :
    EntryOk strict temp mine known row
      (some ⟨entry.state.touched, active, dependent, disabled⟩) := by
  have isLearned := ok.learned plain
  obtain ⟨state, _, _, _⟩ := entry
  cases state with
  | unchanged => exact isLearned
  | changed => exact isLearned
  | new => exact ok
  | removed => exact isLearned
  | temporary => exact isLearned

end

end EntryOk

/-- Entries and rows are in step, but for the spells that are being learned again. -/
structure BookKept (strict : Prop) (temps pending : Nat → Prop) (rows : SpellRows) (p : Player) :
    Prop where
  entry : ∀ spell, EntryOk strict (temps spell) (pending spell) (spell ∈ p.learned) (rows spell)
    (p.spells.lookup spell)

namespace BookKept

section
variable (kept : BookKept strict temps pending rows p)
include kept

theorem mono
    (waits : ∀ spell, pending spell → pending' spell) :
    BookKept strict temps pending' rows p :=
  ⟨fun spell => (kept.entry spell).mono id (waits spell) id⟩

theorem of_same (book : after.spells = p.spells)
    (learned : after.learned = p.learned) : BookKept strict temps pending rows after := by
  constructor
  intro spell
  rw [book, learned]
  exact kept.entry spell

theorem setSpell {spell : Nat} {entry : PlayerSpell}
    (ok : EntryOk strict (temps spell) (pending spell) (spell ∈ p.learned) (rows spell)
      (some entry)) : BookKept strict temps pending rows (p.setSpell spell entry) := by
  constructor
  intro other
  rw [Player.lookup_setSpell, Player.learned_setSpell]
  split
  · rename_i same
    rw [same]
    exact ok
  · exact kept.entry other

theorem eraseSpell {spell : Nat}
    (free : pending spell ∨ rows spell = none) :
    BookKept strict temps pending rows (p.eraseSpell spell) := by
  constructor
  intro other
  rw [Player.lookup_eraseSpell, Player.learned_eraseSpell]
  split
  · rename_i same
    rw [same]
    exact free
  · exact kept.entry other

theorem some {spell : Nat} {entry : PlayerSpell}
    (here : p.spells.lookup spell = some entry) :
    EntryOk strict (temps spell) (pending spell) (spell ∈ p.learned) (rows spell)
      (.some entry) := by
  rw [← here]
  exact kept.entry spell

theorem none {spell : Nat}
    (missing : p.spells.lookup spell = none) : pending spell ∨ rows spell = .none := by
  have ok := kept.entry spell
  rw [missing] at ok
  exact ok

end

end BookKept

/-- What a new entry may be: one that the table does not know, or one that it may know. -/
def NewEntry (pending : Nat → Prop) (rows : SpellRows) (spell : Nat) (state : PlayerSpellState) :
    Prop :=
  state = .changed ∨ state = .new ∧ (pending spell ∨ rows spell = none)

theorem NewEntry.touched {spell : Nat} {state : PlayerSpellState}
    (new : NewEntry pending rows spell state) : state.touched = state := by
  rcases new with rfl | ⟨rfl, _⟩ <;> rfl

theorem bookKept_supersedeRanks (loose : strict → ∀ spell, temps spell → Loose tables spell)
    (kept : BookKept strict temps pending rows p) {spell : Nat}
    {info : SpellInfo} (isInfo : tables.spellInfo spell = some info)
    (single : info.isStackableWithRanks = false) (ranked : tables.Ranks spell spell) :
    BookKept strict temps pending rows (supersedeRanks tables spell p) := by
  constructor
  intro other
  show EntryOk _ _ _ (other ∈ p.learned) _ ((EntryMap.rewrite _ p.spells).lookup other)
  rw [EntryMap.lookup_rewrite]
  cases here : p.spells.lookup other with
  | none =>
    have ok := kept.entry other
    rw [here] at ok
    exact ok
  | some entry =>
    have ok := kept.some here
    show EntryOk _ _ _ _ _ (some (supersede tables spell other entry))
    unfold supersede
    split
    · rename_i lower
      apply ok.touch
      -- a temporary spell is no rank of one that does not stack
      intro is temporary
      have same := ((tables.isDifferentRankOf_iff ranked).mp lower.2.2.1).2
      obtain ⟨state, _, _, _⟩ := entry
      subst temporary
      have unstackable := loose is other ok.1 spell info same.symm isInfo
      rw [single] at unstackable
      cases unstackable
    · exact ok

theorem bookKept_insertSpell (loose : strict → ∀ spell, temps spell → Loose tables spell)
    {spell : Nat} {state : PlayerSpellState}
    (kept : BookKept strict temps (fun x => pending x ∨ x = spell) rows p)
    (new : NewEntry pending rows spell state) {info : SpellInfo}
    (isInfo : tables.spellInfo spell = some info) (active dependent disabled : Bool) :
    BookKept strict temps pending rows
      (insertSpell tables info spell state active dependent disabled p) := by
  have put : ∀ (p : Player) (active : Bool),
      BookKept strict temps (fun x => pending x ∨ x = spell) rows p → spell ∈ p.learned →
      BookKept strict temps pending rows
        (p.setSpell spell ⟨state, active, dependent, disabled⟩) := by
    intro p active kept learned
    constructor
    intro other
    rw [Player.lookup_setSpell, Player.learned_setSpell]
    split
    · rename_i same
      subst same
      rcases new with rfl | ⟨rfl, free⟩
      · exact fun _ => learned
      · exact ⟨fun _ => learned, free⟩
    · rename_i different
      exact (kept.entry other).mono id (fun waits => waits.resolve_right different) id
  have noted : BookKept strict temps (fun x => pending x ∨ x = spell) rows
      { p with learned := spell :: p.learned } :=
    ⟨fun other => (kept.entry other).mono id id (List.mem_cons_of_mem _)⟩
  unfold insertSpell
  dsimp only
  rw [new.touched, ite_self]
  split
  · rename_i single
    have ranked := (tables.isRanked_iff).mp single.2.2.2
    have isSingle : info.isStackableWithRanks = false := by simpa using single.2.2.1
    apply put
    · exact bookKept_supersedeRanks loose noted isInfo isSingle ranked
    · exact List.mem_cons_self
  · exact put _ _ noted List.mem_cons_self

/-- An entry that may be looked for without learning. -/
def Ready (p : Player) : Call → Prop
  | .addSpell spell _ learning _ _ =>
    learning = true ∨ ∃ entry, p.spells.lookup spell = some entry ∧ entry.state ≠ .temporary
  | .learnSpell _ _ | .removeSpell _ _ _ => True
  | _ => False

/-- The book after `checkKnown`; a spell that will get a new entry may be without one. -/
def KnownOk (strict : Prop) (temps pending : Nat → Prop) (rows : SpellRows) (spell : Nat) :
    Known → Prop
  | .done _ p | .enabled _ p => BookKept strict temps pending rows p
  | .missing state _ p => NewEntry pending rows spell state ∧
      BookKept strict temps (fun x => pending x ∨ x = spell) rows p

theorem bookKept_updateKnown (kept : BookKept strict temps pending rows p) {spell : Nat}
    {entry : PlayerSpell} (ok : EntryOk strict (temps spell) (pending spell)
      (spell ∈ p.learned) (rows spell) (some entry)) (plain : entry.state ≠ .temporary)
    (active disabled dependentSet : Bool) :
    KnownOk strict temps pending rows spell
      (updateKnown spell active disabled false dependentSet entry p) := by
  have touched := fun active disabled =>
    kept.setSpell (ok.touch (fun _ => plain) active entry.dependent disabled)
  unfold updateKnown
  split
  · exact touched ..
  split
  · dsimp only
    split
    · exact touched ..
    · exact touched ..
  split
  · exact kept.setSpell ok
  · exact ⟨.inl rfl, (kept.mono fun _ => Or.inl).eraseSpell (.inl (.inr rfl))⟩
  · exact kept.setSpell ok

theorem bookKept_checkKnown (quiet : Quiet tables env) (kept : BookKept strict temps pending rows p)
    (info : SpellInfo) {spell : Nat} {active learning dependent disabled : Bool}
    (ready : Ready p (.addSpell spell active learning dependent disabled)) :
    KnownOk strict temps pending rows spell
      (checkKnown tables env info spell active learning dependent disabled p) := by
  have wider : BookKept strict temps (fun x => pending x ∨ x = spell) rows p :=
    kept.mono fun _ => Or.inl
  have notLoading : (!env.inWorld && !learning) = false := by rw [quiet.inWorld]; rfl
  unfold checkKnown
  rw [notLoading]
  cases here : p.spells.lookup spell with
  | none =>
    have learns : learning = true := by
      rcases ready with learns | ⟨entry, there, _⟩
      · exact learns
      · rw [here] at there
        cases there
    rw [learns]
    exact ⟨.inr ⟨rfl, kept.none here⟩, wider⟩
  | some entry =>
    have ok := kept.some here
    dsimp only
    split
    · rename_i temporary
      have learns : learning = true := by
        rcases ready with learns | ⟨entry', there, plain⟩
        · exact learns
        rw [here] at there
        cases there
        exact absurd temporary plain
      have noRow : rows spell = none := by
        obtain ⟨state, _, _, _⟩ := entry
        subst temporary
        exact ok.2.1
      rw [learns]
      refine ⟨.inr ⟨rfl, .inr noRow⟩, ?_⟩
      unfold Player.removeTemporarySpell
      rw [here]
      dsimp only
      rw [if_neg (not_not.mpr temporary)]
      exact wider.eraseSpell (.inl (.inr rfl))
    · rename_i plain
      split
      · exact kept
      split
      · apply bookKept_updateKnown kept (ok.touch (fun _ => plain) ..)
        obtain ⟨state, _, _, _⟩ := entry
        cases state <;> simp [PlayerSpellState.touched]
      · exact bookKept_updateKnown kept ok plain _ _ _

section

variable (quiet : Quiet tables env) {recur : Call → Player → Option Player}
variable (inner : ∀ temps, (strict → ∀ spell, temps spell → Loose tables spell) →
  ∀ pending call p, Ready p call → BookKept strict temps pending rows p →
    Yields (BookKept strict temps pending rows) (recur call p))
variable (loose : strict → ∀ spell, temps spell → Loose tables spell)

include quiet inner loose

omit quiet in
theorem bookKept_learnDependentSpells (spell : Nat) (kept : BookKept strict temps pending rows p) :
    Yields (BookKept strict temps pending rows)
      (learnDependentSpells tables env recur spell p) := by
  apply Yields.foldlM _ _ p kept
  intro node _ p kept
  apply Yields.ite
  · intro automatic
    exact .some kept
  · intro taught
    apply Yields.ite
    · intro hidden
      exact inner _ loose _ _ p (.inl rfl) kept
    · intro shown
      exact inner _ loose _ _ p trivial kept

theorem bookKept_finishAdd (info : SpellInfo) (spell : Nat)
    (kept : BookKept strict temps pending rows p) :
    Yields (BookKept strict temps pending rows) (finishAdd tables env recur info spell p) := by
  rw [quiet.finishAdd_eq]
  apply Yields.ite
  · intro skillStep
    exact .some kept
  · intro other
    have same := Player.book_spendProfession (p := p) info
    exact bookKept_learnDependentSpells inner loose spell (kept.of_same same.1 same.2)

omit quiet in
theorem bookKept_learnPrevRank (spell : Nat) (active disabled : Bool)
    (kept : BookKept strict temps pending rows p) :
    Yields (BookKept strict temps pending rows)
      (learnPrevRank tables env recur spell active disabled p) := by
  apply Yields.ite
  · intro first
    exact .some kept
  · intro later
    apply Yields.ite
    · intro hidden
      exact inner _ loose _ _ p (.inl rfl) kept
    · intro shown
      exact inner _ loose _ _ p trivial kept

theorem bookKept_addSpell {spell : Nat} {active learning dependent disabled : Bool}
    (ready : Ready p (.addSpell spell active learning dependent disabled))
    (kept : BookKept strict temps pending rows p) :
    Yields (BookKept strict temps pending rows)
      (addSpell tables env recur spell active learning dependent disabled p) := by
  unfold addSpell
  cases isInfo : tables.spellInfo spell with
  | none => exact .some kept
  | some info =>
    dsimp only
    rw [quiet.isSpellValid, Bool.not_true, if_neg Bool.false_ne_true]
    have known := bookKept_checkKnown quiet kept info ready
    split
    · rename_i cast p' isDone
      rw [isDone] at known
      rw [quiet.castPassive_eq, ite_self]
      exact .some known
    · rename_i active' p' isEnabled
      rw [isEnabled] at known
      exact bookKept_finishAdd quiet inner loose info spell known
    · rename_i state active' p' isMissing
      rw [isMissing] at known
      obtain ⟨new, kept'⟩ := known
      apply (bookKept_learnPrevRank inner loose spell active' disabled kept').bind
      intro p₂ kept₂
      have put := bookKept_insertSpell loose kept₂ new isInfo active' dependent disabled
      exact .ite (fun _ => .some put) (fun _ => bookKept_finishAdd quiet inner loose info spell put)

omit quiet in
theorem bookKept_learnDisabled (spell : Nat) (kept : BookKept strict temps pending rows p) :
    Yields (BookKept strict temps pending rows) (learnDisabled recur spell p) :=
  .ite (fun _ => inner _ loose _ _ p trivial kept) (fun _ => .some kept)

omit quiet in
theorem bookKept_learnSpell (spell : Nat) (dependent : Bool)
    (kept : BookKept strict temps pending rows p) :
    Yields (BookKept strict temps pending rows) (learnSpell tables recur spell dependent p) := by
  have first := fun active =>
    inner _ loose pending (.addSpell spell active true dependent false) p (.inl rfl) kept
  apply Yields.ite
  · intro disabled
    apply (first _).bind
    intro p kept
    have next : Yields (BookKept strict temps pending rows) (learnNextRank tables recur spell p) :=
      .ite (fun _ => .some kept) (fun _ => bookKept_learnDisabled inner loose _ kept)
    apply next.bind
    apply Yields.foldlM
    intro other _ p kept
    exact bookKept_learnDisabled inner loose other kept
  · intro enabled
    exact first true

omit quiet inner loose in
theorem bookKept_unlearn {spell : Nat} {entry : PlayerSpell}
    (kept : BookKept strict temps pending rows p) (here : p.spells.lookup spell = some entry)
    (plain : strict → entry.state ≠ .temporary) (disabled : Bool) :
    BookKept strict temps pending rows (unlearn spell entry disabled p) := by
  have ok := kept.some here
  unfold unlearn
  split
  · exact kept.setSpell (ok.touch plain entry.active entry.dependent disabled)
  split
  · rename_i isNew
    apply kept.eraseSpell
    obtain ⟨state, _, _, _⟩ := entry
    subst isNew
    exact ok.2
  · exact kept.setSpell (ok.learned plain)

omit quiet in
theorem bookKept_activatePrevRank (spell : Nat) (active dependent learnLowRank : Bool)
    (kept : BookKept strict temps pending rows p) :
    Yields (BookKept strict temps pending rows)
      (activatePrevRank tables recur spell active dependent learnLowRank p) := by
  unfold activatePrevRank
  dsimp only
  split
  · rename_i info entry isInfo here
    apply Yields.ite
    · intro ⟨lower, wasActive, single, ranked⟩
      have ok := kept.some here
      have same := (tables.prev_spec lower).1
      -- a temporary spell is no rank of one that does not stack
      have plain : strict → entry.state ≠ .temporary := by
        intro is temporary
        obtain ⟨state, _, _, _⟩ := entry
        subst temporary
        have unstackable := loose is _ ok.1 spell info same.symm isInfo
        rw [unstackable] at single
        cases single
      have changed : EntryOk strict (temps (tables.getPrevSpellInChain spell))
          (pending (tables.getPrevSpellInChain spell))
          (tables.getPrevSpellInChain spell ∈ p.learned)
          (rows (tables.getPrevSpellInChain spell))
          (some (if entry.dependent ≠ dependent then
            { entry with dependent, state := entry.state.touched } else entry)) := by
        split
        · exact ok.touch plain entry.active dependent entry.disabled
        · exact ok
      have kept' := kept.setSpell changed
      apply Yields.ite
      · intro ⟨asleep, _⟩
        apply inner _ loose _ _ _ _ kept'
        refine .inr ⟨_, by rw [Player.lookup_setSpell, if_pos rfl], ?_⟩
        intro temporary
        generalize (if entry.dependent ≠ dependent then
            { entry with dependent, state := entry.state.touched } else entry) = after
          at changed asleep temporary
        obtain ⟨state, _, _, _⟩ := after
        subst temporary
        rw [show _ = true from changed.2.2.1] at asleep
        cases asleep
      · intro awake
        exact .some kept'
    · intro other
      exact .some kept
  · exact .some kept

theorem bookKept_finishRemove {spell : Nat} {entry : PlayerSpell}
    (kept : BookKept strict temps pending rows p) (here : p.spells.lookup spell = some entry)
    (plain : strict → entry.state ≠ .temporary) (disabled learnLowRank : Bool) :
    Yields (BookKept strict temps pending rows)
      (finishRemove tables env recur spell disabled learnLowRank entry p) := by
  rw [quiet.finishRemove_eq]
  have unlearned := bookKept_unlearn kept here plain disabled
  have same := Player.book_regainProfession (p := unlearn spell entry disabled p)
    (tables.spellInfo spell) env.maxPrimaryTradeSkill
  have dependents := Yields.foldlM (tables.spellLearnSpells spell)
    (fun node _ p => inner temps loose pending (.removeSpell node.spell disabled true) p trivial) _
    (unlearned.of_same same.1 same.2)
  apply dependents.bind
  intro p kept
  exact bookKept_activatePrevRank inner loose spell entry.active entry.dependent learnLowRank kept

/-- No call makes a spell temporary, so that a spell that was not is not one later. -/
theorem bookKept_removeSpell (spell : Nat) (disabled learnLowRank : Bool)
    (kept : BookKept strict temps pending rows p) :
    Yields (BookKept strict temps pending rows)
      (removeSpell tables env recur spell disabled learnLowRank p) := by
  unfold removeSpell
  split
  · exact .some kept
  next entry here =>
  apply Yields.ite
  · intro gone
    exact .some kept
  · intro present
    let now := fun x => temps x ∧ x ≠ spell
    have looseNow : strict → ∀ x, now x → Loose tables x := fun is x isTemp =>
      loose is x isTemp.1
    have keptNow : BookKept strict now pending rows p := by
      constructor
      intro other
      by_cases same : other = spell
      · subst same
        have ok := kept.some here
        rw [here]
        obtain ⟨state, _, _, _⟩ := entry
        cases state with
        | temporary => exact absurd (.inr (.inr rfl)) present
        | unchanged => exact ok
        | changed => exact ok
        | new => exact ok
        | removed => exact ok
      · exact (kept.entry other).mono (fun isTemp => ⟨isTemp, same⟩) id id
    have next : Yields (BookKept strict now pending rows)
        (removeNextRank tables recur spell disabled p) :=
      .ite (fun _ => inner _ looseNow _ _ p trivial keptNow) (fun _ => .some keptNow)
    apply next.bind
    intro p kept
    have required := Yields.foldlM (tables.spellsRequiringSpell spell)
      (fun other _ p => inner now looseNow pending (.removeSpell other disabled true) p trivial)
      p kept
    apply required.bind
    intro p kept
    have back : ∀ p, BookKept strict now pending rows p →
        BookKept strict temps pending rows p :=
      fun p kept => ⟨fun x => (kept.entry x).mono And.left id id⟩
    split
    · exact .some (back p kept)
    next entry' here' =>
    have plain : strict → entry'.state ≠ .temporary := by
      intro is temporary
      have ok := kept.some here'
      obtain ⟨state, _, _, _⟩ := entry'
      subst temporary
      exact ok.1.2 rfl
    exact bookKept_finishRemove quiet inner loose (back p kept) here' plain disabled learnLowRank

theorem bookKept_perform {call : Call} (ready : Ready p call)
    (kept : BookKept strict temps pending rows p) :
    Yields (BookKept strict temps pending rows) (perform tables env recur call p) := by
  cases call with
  | addSpell spell active learning dependent disabled =>
    exact bookKept_addSpell quiet inner loose ready kept
  | learnSpell spell dependent => exact bookKept_learnSpell inner loose spell dependent kept
  | removeSpell spell disabled learnLowRank =>
    exact bookKept_removeSpell quiet inner loose spell disabled learnLowRank kept
  | setSkill id step newVal maxVal => exact ready.elim
  | modifySkillBonus skill val talent => exact ready.elim
  | learnSkillRewardedSpells skill value => exact ready.elim

end

theorem bookKept_exec (quiet : Quiet tables env)
    (loose : strict → ∀ spell, temps spell → Loose tables spell) (depth : Nat) (call : Call)
    (ready : Ready p call) (kept : BookKept strict temps pending rows p) :
    Yields (BookKept strict temps pending rows) (exec tables env depth call p) := by
  induction depth generalizing temps pending call p with
  | zero => exact .none
  | succ depth ih =>
    exact bookKept_perform quiet
      (fun temps loose pending call p ready kept => ih loose call ready kept) loose ready kept

end OpenWoW.Spellbook
