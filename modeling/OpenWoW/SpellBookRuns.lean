import OpenWoW.SkillSlotRuns
import OpenWoW.SpellRankCalls

/-! Runs of learning, unlearning and saves from an empty spellbook. -/
namespace OpenWoW.Spellbook

open List Option

open Relation (TransGen)

variable {tables : Tables} {env : Env} {strict : Prop} {rows : SpellRows} {p : Player}

def spellRow (entry : PlayerSpell) : Option (Bool × Bool) :=
  if entry.state = .temporary ∨ entry.dependent then none else some (entry.active, entry.disabled)

def RowsMatch (p : Player) (rows : SpellRows) : Prop :=
  ∀ spell, rows spell = (p.spells.lookup spell).bind spellRow

def NoTemporary (p : Player) : Prop :=
  ∀ spell entry, p.spells.lookup spell = some entry → entry.state ≠ .temporary

instance (p : Player) : Decidable (NoTemporary p) :=
  decidable_of_iff (∀ entry ∈ p.spells.entries, entry.2.state ≠ .temporary)
    ⟨fun all spell entry here => all ⟨spell, entry⟩ (AList.mem_lookup_iff.mp here),
      fun all entry there => all entry.1 entry.2 (AList.mem_lookup_iff.mpr there)⟩

def savedSpellRow (entry : PlayerSpell) : Option (Bool × Bool) :=
  if entry.state = .removed ∨ entry.dependent then none else some (entry.active, entry.disabled)

theorem spellStatements_spell (spell : Nat) (entry : PlayerSpell) :
    ∀ s ∈ spellStatements spell entry, s.spell = spell := by
  intro s there
  rcases mem_append.mp there with del | ins
  · split at del
    · rw [mem_singleton.mp del]
      rfl
    · cases del
  split at ins
  · rw [mem_singleton.mp ins]
    rfl
  · cases ins

theorem foldlM_spellStatements {entry : PlayerSpell} {temp learned : Prop} (spell : Nat)
    {row : Option (Bool × Bool)} (ok : EntryOk strict temp False learned row (some entry))
    (plain : entry.state ≠ .temporary) :
    (spellStatements spell entry).foldlM (fun row s => SpellStatement.act s row) row =
      some (savedSpellRow entry) := by
  obtain ⟨state, active, dependent, disabled⟩ := entry
  cases state with
  | unchanged =>
    rw [ok.2.resolve_left id]
    cases dependent <;> rfl
  | changed => cases dependent <;> rfl
  | new =>
    rw [ok.2.resolve_left id]
    cases dependent <;> rfl
  | removed => cases dependent <;> rfl
  | temporary => exact absurd rfl plain

section

variable {temps : Nat → Prop} (kept : BookKept strict temps (fun _ => False) rows p)
variable (plain : NoTemporary p)

include kept plain

theorem foldlM_bookStatements :
    (p.bookStatements.foldlM (EntryMap.execute SpellStatement.spell SpellStatement.act)
      rows).isSome = true := by
  have executed := EntryMap.foldlM_execute_entries SpellStatement.spell SpellStatement.act
    spellStatements (fun _ => savedSpellRow) spellStatements_spell p.spells.entries p.spells.nodupKeys
    rows
  have done := executed fun entry there => by
    have here : p.spells.lookup entry.1 = some entry.2 := AList.mem_lookup_iff.mpr there
    exact foldlM_spellStatements entry.1 (kept.some here) (plain entry.1 entry.2 here)
  exact isSome_iff_exists.mpr ⟨_, done⟩

theorem rows_saveSpells (spell : Nat) :
    (saveSpells p rows).2 spell = match p.spells.lookup spell with
      | none => none
      | some entry => savedSpellRow entry := by
  have saved := EntryMap.commit_entries SpellStatement.spell SpellStatement.act spellStatements
    (fun _ => savedSpellRow) spellStatements_spell p.spells rows
    (fun spell entry here => foldlM_spellStatements spell (kept.some here) (plain spell entry here))
    spell
  apply saved.trans
  cases here : p.spells.lookup spell with
  | none =>
    have ok := kept.entry spell
    rw [here] at ok
    exact ok.resolve_left id
  | some entry => rfl

omit kept plain in
theorem lookup_saveSpells (p : Player) (rows : SpellRows) (spell : Nat) :
    (saveSpells p rows).1.spells.lookup spell = (p.spells.lookup spell).bind fun entry =>
      if entry.state = .removed then none else some { entry with state := .unchanged } :=
  EntryMap.lookup_rewrite ..

theorem rowsMatch_saveSpells : RowsMatch (saveSpells p rows).1 (saveSpells p rows).2 := by
  intro spell
  rw [rows_saveSpells kept plain, lookup_saveSpells]
  cases p.spells.lookup spell with
  | none => rfl
  | some entry =>
    obtain ⟨state, active, dependent, disabled⟩ := entry
    cases state <;> cases dependent <;> rfl

theorem bookKept_saveSpells :
    BookKept strict temps (fun _ => False) (saveSpells p rows).2 (saveSpells p rows).1 := by
  constructor
  intro spell
  rw [rows_saveSpells kept plain, lookup_saveSpells]
  cases here : p.spells.lookup spell with
  | none => exact .inr rfl
  | some entry =>
    have learned := (kept.some here).learned (fun _ => plain spell entry here)
    obtain ⟨state, active, dependent, disabled⟩ := entry
    by_cases removed : state = .removed
    · subst removed
      exact .inr rfl
    show EntryOk strict _ _ _ _ (if state = .removed then none else some _)
    rw [if_neg removed]
    refine ⟨learned, .inr ?_⟩
    cases dependent <;> simp [savedSpellRow, removed]

end

theorem bookKept_addTemporarySpell {spell : Nat} {temps : Nat → Prop} (temp : temps spell)
    (kept : BookKept strict temps (fun _ => False) rows p) :
    BookKept strict temps (fun _ => False) rows (p.addTemporarySpell spell) := by
  unfold Player.addTemporarySpell
  split
  · exact kept
  next missing =>
  have ok := kept.entry spell
  rw [not_isSome_iff_eq_none.mp missing] at ok
  exact kept.setSpell ⟨temp, ok.resolve_left id, rfl, rfl, rfl⟩

theorem bookKept_removeTemporarySpell {temps : Nat → Prop} (spell : Nat)
    (kept : BookKept strict temps (fun _ => False) rows p) :
    BookKept strict temps (fun _ => False) rows (p.removeTemporarySpell spell) := by
  unfold Player.removeTemporarySpell
  split
  · exact kept
  next entry here =>
  split
  · exact kept
  next temporary =>
  have ok := kept.some here
  obtain ⟨state, _, _, _⟩ := entry
  cases not_not.mp temporary
  constructor
  intro other
  rw [Player.lookup_eraseSpell]
  split
  · rename_i same
    rw [same]
    exact .inr ok.2.1
  · exact kept.entry other

theorem Ranked.of_real {p' : Player} (ranked : Ranked tables p)
    (real : ∀ spell, Real p' spell ↔ Real p spell)
    (active : ∀ spell, Active p' spell → Active p spell)
    (enabled : ∀ spell entry, p'.spells.lookup spell = some entry → entry.disabled = false)
    (loose : ∀ spell entry, p'.spells.lookup spell = some entry → entry.state = .temporary →
      Loose tables spell) : Ranked tables p' := by
  refine ⟨enabled, loose, ?_, ?_⟩
  · intro spell some next
    exact (real spell).mpr (ranked.lower spell some ((real _).mp next))
  · intro spell single isActive some next
    exact ranked.top spell single (active spell isActive) some ((real _).mp next)

theorem ranked_addTemporarySpell {spell : Nat} (isLoose : Loose tables spell)
    (ranked : Ranked tables p) : Ranked tables (p.addTemporarySpell spell) := by
  unfold Player.addTemporarySpell
  split
  · exact ranked
  next missing =>
  have was : p.spells.lookup spell = none := not_isSome_iff_eq_none.mp missing
  have here := p.lookup_setSpell spell ⟨.temporary, true, false, false⟩
  have unreal : ¬Real (p.setSpell spell ⟨.temporary, true, false, false⟩) spell := by
    intro ⟨entry, there, _, plain⟩
    rw [here, if_pos rfl] at there
    cases there
    exact plain rfl
  have missing : ¬Real p spell := by
    intro ⟨entry, there, _⟩
    rw [was] at there
    cases there
  have others := fun other (different : other ≠ spell) => (here other).trans (if_neg different)
  have same := real_of_others others (iff_of_false unreal missing)
  apply ranked.of_others others _ (fun other => (same other).mp)
    (fun other _ _ => (same other).mpr) (fun _ active => absurd active.real unreal)
  intro entry there
  rw [here, if_pos rfl] at there
  cases there
  exact ⟨rfl, fun _ => isLoose⟩

theorem ranked_removeTemporarySpell (spell : Nat) (ranked : Ranked tables p) :
    Ranked tables (p.removeTemporarySpell spell) := by
  unfold Player.removeTemporarySpell
  split
  · exact ranked
  next entry was =>
  split
  · exact ranked
  next temporary =>
  have here := p.lookup_eraseSpell spell
  have kept : ∀ other entry', (p.eraseSpell spell).spells.lookup other = some entry' →
      p.spells.lookup other = some entry' := by
    intro other entry' there
    rw [here] at there
    split at there
    · cases there
    · exact there
  apply ranked.of_real
  · intro other
    constructor
    · intro ⟨entry', there, present, plain⟩
      exact ⟨entry', kept other entry' there, present, plain⟩
    · intro ⟨entry', there, present, plain⟩
      have different : other ≠ spell := by
        intro same
        rw [same, was] at there
        cases there
        exact temporary plain
      exact ⟨entry', ((here other).trans (if_neg different)).trans there, present, plain⟩
  · intro other ⟨entry', there, present, plain, active⟩
    exact ⟨entry', kept other entry' there, present, plain, active⟩
  · intro other entry' there
    exact ranked.enabled other entry' (kept other entry' there)
  · intro other entry' there
    exact ranked.loose other entry' (kept other entry' there)

theorem ranked_saveSpells (plain : NoTemporary p) (ranked : Ranked tables p) :
    Ranked tables (saveSpells p rows).1 := by
  have here := lookup_saveSpells p rows
  have saved : ∀ spell entry, (saveSpells p rows).1.spells.lookup spell = some entry →
      ∃ was, p.spells.lookup spell = some was ∧ was.state ≠ .removed ∧
        entry = { was with state := .unchanged } := by
    intro spell entry there
    rw [here] at there
    obtain ⟨was, before, became⟩ := bind_eq_some_iff.mp there
    split at became
    · cases became
    next present =>
    cases became
    exact ⟨was, before, present, rfl⟩
  apply ranked.of_real
  · intro spell
    constructor
    · intro ⟨entry, there, _⟩
      obtain ⟨was, before, present, _⟩ := saved spell entry there
      exact ⟨was, before, present, plain spell was before⟩
    · intro ⟨was, before, present, _⟩
      refine ⟨{ was with state := .unchanged }, ?_, nofun, nofun⟩
      rw [here, before]
      exact if_neg present
  · intro spell ⟨entry, there, _, _, active⟩
    obtain ⟨was, before, present, became⟩ := saved spell entry there
    rw [became] at active
    exact ⟨was, before, present, plain spell was before, active⟩
  · intro spell entry there
    obtain ⟨was, before, _, became⟩ := saved spell entry there
    rw [became]
    exact ranked.enabled spell was before
  · intro spell entry there temporary
    obtain ⟨was, _, _, became⟩ := saved spell entry there
    rw [became] at temporary
    cases temporary

def SpellInput.SavesApart (s : Player × SpellRows) : SpellInput → Prop
  | .saveSpells => NoTemporary s.1
  | _ => True

/-- A rank that is added for a while is one of ranks that stack. -/
def SpellInput.AddsLoose (tables : Tables) : SpellInput → Prop
  | .addTemporarySpell spell => Loose tables spell
  | _ => True

def SpellInput.Unlearns : SpellInput → Prop
  | .removeSpell _ _ disabled _ => disabled = false
  | _ => True

def SavedApart (tables : Tables) (env : Env) : Player × SpellRows → List SpellInput → Prop
  | _, [] => True
  | s, input :: inputs => input.SavesApart s ∧
      ∀ s', spellStep tables env s input = some s' → SavedApart tables env s' inputs

instance (s : Player × SpellRows) (input : SpellInput) : Decidable (input.SavesApart s) :=
  match input with
  | .saveSpells => inferInstanceAs (Decidable (NoTemporary s.1))
  | .learnSpell .. | .removeSpell .. | .addTemporarySpell _ | .removeTemporarySpell _ =>
    .isTrue trivial

instance decidableSavedApart (tables : Tables) (env : Env) :
    ∀ s inputs, Decidable (SavedApart tables env s inputs)
  | _, [] => .isTrue trivial
  | s, input :: inputs =>
    match taken : spellStep tables env s input with
    | none => decidable_of_iff (input.SavesApart s)
        ⟨fun apart => ⟨apart, fun _ next => nomatch taken.symm.trans next⟩, And.left⟩
    | some s' =>
      have := decidableSavedApart tables env s' inputs
      decidable_of_iff (input.SavesApart s ∧ SavedApart tables env s' inputs)
        ⟨fun ⟨apart, rest⟩ => ⟨apart, fun _ next =>
          Option.some.inj (taken.symm.trans next) ▸ rest⟩,
        fun ⟨apart, rest⟩ => ⟨apart, rest s' taken⟩⟩

structure BookRun (tables : Tables) (strict ranks : Prop) (s : Player × SpellRows) : Prop where
  book : BookKept strict (fun spell => strict → Loose tables spell) (fun _ => False) s.2 s.1
  ranked : ranks → Ranked tables s.1

theorem bookRun_start (tables : Tables) (strict ranks : Prop) (free : Nat) :
    BookRun tables strict ranks (newPlayer ∅ free, fun _ => none) := by
  have none : ∀ spell, (newPlayer ∅ free).spells.lookup spell = none :=
    fun spell => AList.lookup_empty spell
  have absent : ∀ spell, ¬Real (newPlayer ∅ free) spell := by
    intro spell ⟨entry, there, _⟩
    rw [none] at there
    cases there
  refine ⟨⟨fun spell => ?_⟩, fun _ => ⟨?_, ?_, ?_, ?_⟩⟩
  · rw [none]
    exact .inr rfl
  · intro spell entry there
    rw [none] at there
    cases there
  · intro spell entry there
    rw [none] at there
    cases there
  · intro spell _ real
    exact absurd real (absent _)
  · intro spell _ _ _ real
    exact absent _ real

section

variable (quiet : Quiet tables env)

include quiet

theorem bookRun_step {ranks : Prop} (rankTables : ranks → RankTables tables)
    {s : Player × SpellRows} {input : SpellInput} (apart : input.SavesApart s)
    (loose : strict → input.AddsLoose tables)
    (whole : ranks → input.AddsLoose tables ∧ input.Unlearns)
    (run : BookRun tables strict ranks s) :
    Yields (BookRun tables strict ranks) (spellStep tables env s input) := by
  have isLoose : strict → ∀ spell, (strict → Loose tables spell) → Loose tables spell :=
    fun is _ temp => temp is
  cases input with
  | learnSpell depth spell dependent =>
    refine ⟨fun s' result => ?_⟩
    obtain ⟨p', learnt, same⟩ := map_eq_some_iff.mp result
    subst same
    have kept := bookKept_exec quiet isLoose depth (.learnSpell spell dependent) trivial run.book
    refine ⟨kept.holds p' learnt, fun is => ?_⟩
    have ranked := ranked_exec quiet (rankTables is) depth (.learnSpell spell dependent) trivial
      (run.ranked is)
    exact (ranked.holds p' learnt).1
  | removeSpell depth spell disabled learnLowRank =>
    refine ⟨fun s' result => ?_⟩
    obtain ⟨p', unlearnt, same⟩ := map_eq_some_iff.mp result
    subst same
    have kept := bookKept_exec quiet isLoose depth (.removeSpell spell disabled learnLowRank)
      trivial run.book
    refine ⟨kept.holds p' unlearnt, fun is => ?_⟩
    have ranked := ranked_exec quiet (rankTables is) depth
      (.removeSpell spell disabled learnLowRank) (whole is).2 (run.ranked is)
    exact (ranked.holds p' unlearnt).1
  | addTemporarySpell spell =>
    apply Yields.some
    exact ⟨bookKept_addTemporarySpell loose run.book,
      fun is => ranked_addTemporarySpell (whole is).1 (run.ranked is)⟩
  | removeTemporarySpell spell =>
    apply Yields.some
    exact ⟨bookKept_removeTemporarySpell spell run.book,
      fun is => ranked_removeTemporarySpell spell (run.ranked is)⟩
  | saveSpells =>
    apply Yields.some
    exact ⟨bookKept_saveSpells run.book apart, fun is => ranked_saveSpells apart (run.ranked is)⟩

theorem bookRun_inputs (strict ranks : Prop) (rankTables : ranks → RankTables tables)
    {inputs : List SpellInput} (loose : strict → ∀ input ∈ inputs, input.AddsLoose tables)
    (whole : ranks → ∀ input ∈ inputs, input.AddsLoose tables ∧ input.Unlearns)
    (s : Player × SpellRows) (apart : SavedApart tables env s inputs)
    (run : BookRun tables strict ranks s) :
    Yields (BookRun tables strict ranks) (inputs.foldlM (spellStep tables env) s) := by
  induction inputs generalizing s with
  | nil => exact .some run
  | cons input inputs ih =>
    rw [foldlM_cons]
    have step := bookRun_step quiet rankTables apart.1
      (fun is => loose is input mem_cons_self) (fun is => whole is input mem_cons_self)
      run
    refine ⟨fun s' result => ?_⟩
    obtain ⟨between, first, rest⟩ := bind_eq_some_iff.mp result
    exact (ih (fun is other there => loose is other (mem_cons_of_mem _ there))
      (fun is other there => whole is other (mem_cons_of_mem _ there)) between
      (apart.2 between first) (step.holds between first)).holds s' rest

end

def KnownActive (p : Player) (spell : Nat) : Prop :=
  ∃ entry, p.spells.lookup spell = some entry ∧ entry.state ≠ .removed ∧ entry.disabled = false ∧
    entry.active = true

theorem Ranked.active_of_known (ranked : Ranked tables p) (quiet : Quiet tables env) {spell : Nat}
    (single : Single tables spell) (known : KnownActive p spell) : Active p spell := by
  obtain ⟨entry, here, present, enabled, active⟩ := known
  have has : p.hasSpell spell = true := by
    rw [Player.hasSpell, here]
    simp [present, enabled]
  obtain ⟨entry', there, _, plain⟩ := ranked.real_of_hasSpell quiet single has
  rw [here] at there
  cases there
  exact ⟨entry, here, present, plain, active⟩

theorem EntryOk.temporary_of_not_learned {temp known : Prop} {row : Option (Bool × Bool)}
    {entry : PlayerSpell} (ok : EntryOk strict temp False known row (some entry)) (is : strict)
    (never : ¬known) : entry.state = .temporary ∧ row = none := by
  by_cases temporary : entry.state = .temporary
  · obtain ⟨state, _, _, _⟩ := entry
    subst temporary
    exact ⟨rfl, ok.2.1⟩
  · exact absurd (ok.learned (fun _ => temporary) is) never

/-- Over runs whose saves find no temporary spell: a save leaves the rows of the book. If only
ranks that stack are added for a while, what was never learned has no row and can be taken out; if
moreover nothing is disabled, at most one of the ranks that do not stack is active. -/
theorem spellbook_in_step (quiet : Quiet tables env) (free : Nat) (inputs : List SpellInput)
    (s : Player × SpellRows)
    (ran : inputs.foldlM (spellStep tables env) (newPlayer ∅ free, fun _ => none) = some s)
    (apart : SavedApart tables env (newPlayer ∅ free, fun _ => none) inputs) :
    (NoTemporary s.1 →
      (s.1.bookStatements.foldlM (EntryMap.execute SpellStatement.spell SpellStatement.act)
        s.2).isSome = true ∧
      RowsMatch (saveSpells s.1 s.2).1 (saveSpells s.1 s.2).2) ∧
    ((∀ input ∈ inputs, input.AddsLoose tables) → ∀ spell, spell ∉ s.1.learned →
      s.2 spell = none ∧ (s.1.removeTemporarySpell spell).hasSpell spell = false) ∧
    ((∀ input ∈ inputs, input.AddsLoose tables ∧ input.Unlearns) → RankTables tables →
      ∀ spell other, Single tables spell → tables.Ranks spell other →
        KnownActive s.1 spell → KnownActive s.1 other → spell = other) := by
  refine ⟨?_, ?_, ?_⟩
  · intro plain
    have run := (bookRun_inputs quiet False False False.elim
      False.elim False.elim _ apart (bookRun_start tables False False free)).holds s ran
    exact ⟨foldlM_bookStatements run.book plain, rowsMatch_saveSpells run.book plain⟩
  · intro loose spell never
    have run := (bookRun_inputs quiet True False False.elim
      (fun _ => loose) False.elim _ apart (bookRun_start tables True False free)).holds s ran
    have ok := run.book.entry spell
    rw [Player.removeTemporarySpell]
    cases here : s.1.spells.lookup spell with
    | none =>
      rw [here] at ok
      refine ⟨ok.resolve_left id, ?_⟩
      rw [Player.hasSpell, here]
      rfl
    | some entry =>
      obtain ⟨temporary, noRow⟩ := (run.book.some here).temporary_of_not_learned trivial never
      refine ⟨noRow, ?_⟩
      dsimp only
      rw [if_neg (not_not.mpr temporary), Player.hasSpell, Player.lookup_eraseSpell, if_pos rfl]
      rfl
  · intro whole rankTables spell other single same active also
    have run := (bookRun_inputs quiet True True (fun _ => rankTables)
      (fun _ input there => (whole input there).1) (fun _ => whole) _ apart
      (bookRun_start tables True True free)).holds s ran
    have ranked := run.ranked trivial
    exact ranked.active_unique single same (ranked.active_of_known quiet single active)
      (ranked.active_of_known quiet (single.of_ranks same) also)

/-- Spell 2 is the second rank of spell 1. -/
def twoRanks : Tables where
  spellInfo := fun _ => some {}
  ranks := ⟨[[1, 2]], by decide, by decide⟩
  skillLine := fun _ => none
  skillLineAbilities := []
  spellLearnSkill := fun _ => none
  spellLearnSpells := fun _ => []
  spellsRequiringSpell := fun _ => []

def quietWorld : Env := { quietEnv with inWorld := true }

theorem twoRanks_quiet : Quiet twoRanks quietWorld :=
  ⟨rfl, fun _ => rfl, fun _ _ => rfl, fun _ _ => rfl, fun _ => rfl, rfl, fun _ _ => rfl⟩

theorem twoRanks_rankTables : RankTables twoRanks := by
  have rises : ∀ spell other, TransGen (Above twoRanks) spell other →
      twoRanks.getSpellRank spell < twoRanks.getSpellRank other := by
    intro spell other above
    have one : ∀ spell other, Above twoRanks spell other →
        twoRanks.getSpellRank spell < twoRanks.getSpellRank other := by
      intro spell other above
      rcases above with ⟨some, isNext⟩ | requires | ⟨_, teaches, _⟩
      · rw [isNext, (twoRanks.next_spec some).2]
        exact Nat.lt_succ_self _
      · cases requires
      · cases teaches
    induction above with
    | single step => exact one _ _ step
    | tail _ step ih => exact ih.trans (one _ _ step)
  refine ⟨?_, fun spell above => Nat.lt_irrefl _ (rises _ _ above)⟩
  intro _ _ taught
  cases taught

theorem loose_of_unranked {spell : Nat} (unranked : tables.isRanked spell = false) :
    Loose tables spell := by
  intro other info same
  have ranked := (tables.isRanked_iff).mpr same.self
  rw [unranked] at ranked
  cases ranked

/-- Both ranks learned, and a spell added for a while. -/
theorem spellbook_in_step_twoRanks :
    ∃ s, [SpellInput.learnSpell 5 1 false, .learnSpell 5 2 false, .saveSpells,
        .addTemporarySpell 7, .removeTemporarySpell 7].foldlM (spellStep twoRanks quietWorld)
          (newPlayer ∅ 0, fun _ => none) = some s ∧
      ((s.1.bookStatements.foldlM (EntryMap.execute SpellStatement.spell SpellStatement.act)
          s.2).isSome = true ∧
        RowsMatch (saveSpells s.1 s.2).1 (saveSpells s.1 s.2).2) ∧
      (s.2 7 = none ∧ (s.1.removeTemporarySpell 7).hasSpell 7 = false) ∧
      (KnownActive s.1 1 → KnownActive s.1 2 → (1 : Nat) = 2) := by
  have whole : ∀ input ∈ [SpellInput.learnSpell 5 1 false, .learnSpell 5 2 false, .saveSpells,
      .addTemporarySpell 7, .removeTemporarySpell 7],
      input.AddsLoose twoRanks ∧ input.Unlearns := by
    intro input there
    simp only [mem_cons, not_mem_nil, or_false] at there
    rcases there with rfl | rfl | rfl | rfl | rfl
    · exact ⟨trivial, trivial⟩
    · exact ⟨trivial, trivial⟩
    · exact ⟨trivial, trivial⟩
    · exact ⟨loose_of_unranked (by decide), trivial⟩
    · exact ⟨trivial, trivial⟩
  have same : twoRanks.Ranks 1 2 := by decide
  obtain ⟨rows, temporary, ranks⟩ := spellbook_in_step twoRanks_quiet 0
    [.learnSpell 5 1 false, .learnSpell 5 2 false, .saveSpells, .addTemporarySpell 7,
      .removeTemporarySpell 7] _ rfl (by decide)
  refine ⟨_, rfl, rows (by decide), ?_, ?_⟩
  · exact temporary (fun input there => (whole input there).1) 7 (by decide)
  · apply ranks whole twoRanks_rankTables 1 2 ⟨same.self, fun _ _ _ isInfo => ?_⟩ same
    cases isInfo
    rfl

/-- Over runs that disable nothing and add only ranks that stack for a while: with a rank that does
not stack the book holds all lower ranks, and the one that is active is the highest. -/
theorem lower_ranks_known (quiet : Quiet tables env) (rankTables : RankTables tables) (free : Nat)
    (inputs : List SpellInput) (s : Player × SpellRows)
    (ran : inputs.foldlM (spellStep tables env) (newPlayer ∅ free, fun _ => none) = some s)
    (apart : SavedApart tables env (newPlayer ∅ free, fun _ => none) inputs)
    (whole : ∀ input ∈ inputs, input.AddsLoose tables ∧ input.Unlearns)
    (spell higher : Nat) (single : Single tables spell) (same : tables.Ranks spell higher)
    (above : tables.getSpellRank spell < tables.getSpellRank higher)
    (known : s.1.hasSpell higher = true) :
    s.1.hasSpell spell = true ∧ ¬KnownActive s.1 spell := by
  have run := (bookRun_inputs quiet True True (fun _ => rankTables)
    (fun _ input there => (whole input there).1) (fun _ => whole) _ apart
    (bookRun_start tables True True free)).holds s ran
  have ranked := run.ranked trivial
  have real := ranked.real_of_hasSpell quiet (single.of_ranks same) known
  refine ⟨ranked.hasSpell_of_real (ranked.real_of_higher same above real), fun active => ?_⟩
  obtain ⟨some, next⟩ := ranked.real_next same above real
  exact ranked.top spell single (ranked.active_of_known quiet single active) some next

theorem lower_ranks_known_two :
    ∃ s, [SpellInput.learnSpell 5 1 false, .learnSpell 5 2 false].foldlM
        (spellStep twoRanks quietWorld) (newPlayer ∅ 0, fun _ => none) = some s ∧
      s.1.hasSpell 1 = true ∧ ¬KnownActive s.1 1 := by
  refine ⟨_, rfl, lower_ranks_known twoRanks_quiet twoRanks_rankTables 0
    [.learnSpell 5 1 false, .learnSpell 5 2 false] _ rfl (by decide) ?_ 1 2
    ⟨by decide, fun _ _ _ isInfo => ?_⟩ (by decide) (by decide) (by decide)⟩
  · intro input there
    simp only [mem_cons, not_mem_nil, or_false] at there
    rcases there with rfl | rfl <;> exact ⟨trivial, trivial⟩
  · cases isInfo
    rfl

/-- A save makes a temporary spell permanent, and a rank that was disabled comes back beside the
lower one. -/
theorem spellbook_out_of_step :
    (∃ s, [SpellInput.addTemporarySpell 7, .saveSpells].foldlM (spellStep twoRanks quietWorld)
        (newPlayer ∅ 0, fun _ => none) = some s ∧
      ¬RowsMatch s.1 s.2 ∧ 7 ∉ s.1.learned ∧ (s.1.removeTemporarySpell 7).hasSpell 7 = true) ∧
    ∃ s, [SpellInput.learnSpell 5 1 false, .learnSpell 5 2 false, .removeSpell 5 2 true true,
        .learnSpell 5 2 false].foldlM (spellStep twoRanks quietWorld)
          (newPlayer ∅ 0, fun _ => none) = some s ∧
      Single twoRanks 1 ∧ twoRanks.Ranks 1 2 ∧ KnownActive s.1 1 ∧ KnownActive s.1 2 := by
  refine ⟨⟨_, rfl, ?_, by decide, by decide⟩, _, rfl, ?_, by decide, ?_, ?_⟩
  · intro same
    exact absurd (same 7) (by decide)
  · refine ⟨by decide, fun _ _ _ isInfo => ?_⟩
    cases isInfo
    rfl
  · exact ⟨⟨.new, true, false, false⟩, by decide, nofun, rfl, rfl⟩
  · exact ⟨⟨.new, true, false, false⟩, by decide, nofun, rfl, rfl⟩

end OpenWoW.Spellbook
