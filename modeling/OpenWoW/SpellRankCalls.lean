import OpenWoW.SpellRankSteps

/-! Ranks in the book, through all the calls that learning and unlearning make of each other. -/
namespace OpenWoW.Spellbook

open Relation (ReflTransGen TransGen)

variable {tables : Tables} {env : Env} {p p' : Player} {spell : Nat}

/-- Ranks that do not stack are taught as active ones, and no spell is above itself. -/
structure RankTables (tables : Tables) : Prop where
  taught : ∀ spell, ∀ node ∈ tables.spellLearnSpells spell, node.autoLearned = false →
    Single tables node.spell → node.active = true
  acyclic : ∀ spell, ¬TransGen (Above tables) spell spell

theorem touched_ne (state : PlayerSpellState) :
    state.touched ≠ .removed ∧ state.touched ≠ .temporary := by
  cases state <;> exact ⟨nofun, nofun⟩

section

variable (others : ∀ other, other ≠ spell → p'.spells.lookup other = p.spells.lookup other)

include others

theorem real_of_others (mine : Real p' spell ↔ Real p spell) (other : Nat) :
    Real p' other ↔ Real p other := by
  by_cases equal : other = spell
  · rw [equal]
    exact mine
  · exact ⟨fun real => real.congr (others other equal).symm,
      fun real => real.congr (others other equal)⟩

theorem Ranked.of_others (ranked : Ranked tables p)
    (mine : ∀ entry, p'.spells.lookup spell = some entry →
      entry.disabled = false ∧ (entry.state = .temporary → Loose tables spell))
    (fewer : ∀ other, Real p' other → Real p other)
    (under : ∀ other, tables.getNextSpellInChain other ≠ 0 →
      Real p' (tables.getNextSpellInChain other) → Real p other → Real p' other)
    (top : Single tables spell → Active p' spell → tables.getNextSpellInChain spell ≠ 0 →
      ¬Real p' (tables.getNextSpellInChain spell)) : Ranked tables p' := by
  constructor
  · intro other entry there
    by_cases equal : other = spell
    · exact (mine entry (equal ▸ there)).1
    · exact ranked.enabled other entry ((others other equal).symm.trans there)
  · intro other entry there temporary
    by_cases equal : other = spell
    · subst equal
      exact (mine entry there).2 temporary
    · exact ranked.loose other entry ((others other equal).symm.trans there) temporary
  · intro other some next
    exact under other some next (ranked.lower other some (fewer _ next))
  · intro other single active some next
    by_cases equal : other = spell
    · subst equal
      exact top single active some next
    · exact ranked.top other single (active.congr (others other equal).symm) some (fewer _ next)

end

/-- An entry that is there afterwards, enabled and active as asked. -/
def Updated (p p' : Player) (spell : Nat) (active : Bool) : Prop :=
  (∀ other, other ≠ spell → p'.spells.lookup other = p.spells.lookup other) ∧
    ∃ entry, p'.spells.lookup spell = some entry ∧ entry.state ≠ .removed ∧
      entry.state ≠ .temporary ∧ entry.disabled = false ∧ entry.active = active

theorem updated_setSpell (p : Player) (spell : Nat) (entry : PlayerSpell)
    (present : entry.state ≠ .removed)
    (plain : entry.state ≠ .temporary) (enabled : entry.disabled = false) :
    Updated p (p.setSpell spell entry) spell entry.active := by
  constructor
  · intro other different
    rw [Player.lookup_setSpell, if_neg different]
  · exact ⟨entry, by rw [Player.lookup_setSpell, if_pos rfl], present, plain, enabled, rfl⟩

/-- What `checkKnown` finds: a spell of the book, or one to be added. -/
def KnownRanked (tables : Tables) (p : Player) (info : SpellInfo) (spell : Nat) (active : Bool) :
    Known → Prop
  | .done _ p' => Real p spell ∧ Updated p p' spell (activeRank tables info spell active p)
  | .enabled _ _ => False
  | .missing state active' p' =>
    ¬Real p spell ∧ (∀ other, other ≠ spell → p'.spells.lookup other = p.spells.lookup other) ∧
      p'.spells.lookup spell = none ∧ (state = .new ∨ state = .changed) ∧
      (Single tables spell → active = true → active' = true)

theorem updateKnown_real (info : SpellInfo) (active loading dependentSet : Bool)
    {entry : PlayerSpell} (real : Real p spell) (present : entry.state ≠ .removed)
    (plain : entry.state ≠ .temporary) (enabled : entry.disabled = false) :
    KnownRanked tables p info spell active
      (updateKnown spell (activeRank tables info spell active p) false loading dependentSet entry
        p) := by
  unfold updateKnown
  split
  · refine ⟨real, updated_setSpell _ _ _ ?_ ?_ enabled⟩
    · split
      · exact nofun
      · exact (touched_ne _).1
    · split
      · exact nofun
      · exact (touched_ne _).2
  · rename_i same
    have isActive : entry.active = activeRank tables info spell active p := by
      by_contra different
      exact same ⟨different, present, enabled⟩
    rw [if_neg (fun is => is.1 enabled)]
    split
    · refine ⟨real, ?_⟩
      rw [← isActive]
      exact updated_setSpell _ _ _ present plain enabled
    · next removed => exact absurd removed present
    refine ⟨real, ?_⟩
    rw [← isActive]
    refine updated_setSpell p spell { entry with state := _ } ?_ ?_ enabled
    · dsimp only
      split
      · exact nofun
      · exact present
    · dsimp only
      split
      · exact nofun
      · exact plain

theorem checkKnown_ranked (quiet : Quiet tables env) (ranked : Ranked tables p) (info : SpellInfo)
    (active : Bool) {learning : Bool} (dependent : Bool) (learns : learning = true ∨ Real p spell) :
    KnownRanked tables p info spell active
      (checkKnown tables env info spell active learning dependent false p) := by
  have missing : ∀ p' : Player, ¬Real p spell → (∀ other, other ≠ spell →
      p'.spells.lookup other = p.spells.lookup other) → p'.spells.lookup spell = none →
      KnownRanked tables p info spell active
        (.missing (if learning then .new else .unchanged) active p') := by
    intro p' unreal others gone
    rw [learns.resolve_right unreal]
    exact ⟨unreal, others, gone, .inl rfl, fun _ => id⟩
  unfold checkKnown
  dsimp only
  cases here : p.spells.lookup spell with
  | none =>
    apply missing p _ (fun _ _ => rfl) here
    intro ⟨entry, there, _⟩
    rw [here] at there
    cases there
  | some entry =>
    have enabled := ranked.enabled spell entry here
    dsimp only
    split
    · rename_i temporary
      have removed : (p.removeTemporarySpell spell) = p.eraseSpell spell := by
        unfold Player.removeTemporarySpell
        rw [here]
        exact if_neg (not_not.mpr temporary)
      rw [removed]
      apply missing
      · intro ⟨entry', there, _, plain⟩
        rw [here] at there
        cases there
        exact plain temporary
      · intro other different
        rw [Player.lookup_eraseSpell, if_neg different]
      · rw [Player.lookup_eraseSpell, if_pos rfl]
    · rename_i plain
      by_cases removed : entry.state = .removed
      · have unreal : ¬Real p spell := by
          intro ⟨entry', there, present, _⟩
          rw [here] at there
          cases there
          exact present removed
        rw [if_neg (fun is => is.1 removed), if_neg (fun is => is.1 removed)]
        unfold updateKnown
        rw [if_neg (fun is => is.2.1 removed), if_neg (fun is => is.2 removed), removed]
        refine ⟨unreal, ?_, ?_, .inr rfl, ?_⟩
        · intro other different
          rw [Player.lookup_eraseSpell, if_neg different]
        · rw [Player.lookup_eraseSpell, if_pos rfl]
        · intro single isActive
          unfold activeRank
          dsimp only
          rw [isActive, Bool.true_and, Bool.not_eq_true', Bool.and_eq_false_imp]
          intro ranks
          have some : tables.getNextSpellInChain spell ≠ 0 := by
            rw [Bool.and_eq_true] at ranks
            exact of_decide_eq_true ranks.2
          by_contra has
          have next := single.of_ranks (tables.next_spec some).1
          have real := ranked.real_of_hasSpell quiet next (by simpa using has)
          exact unreal (ranked.lower spell some real)
      · have real : Real p spell := ⟨entry, here, removed, plain⟩
        split
        · rename_i same
          refine ⟨real, ?_⟩
          rw [quiet.inWorld, ← same.2.1]
          exact ⟨fun _ _ => rfl, entry, here, removed, plain, enabled, rfl⟩
        split
        · exact updateKnown_real info active _ _ real (touched_ne _).1 (touched_ne _).2 enabled
        · exact updateKnown_real info active _ _ real removed plain enabled

theorem Updated.ranked {info : SpellInfo} {active : Bool}
    (updated : Updated p p' spell (activeRank tables info spell active p))
    (ranked : Ranked tables p) (quiet : Quiet tables env) (real : Real p spell)
    (isInfo : tables.spellInfo spell = some info) (asks : Single tables spell → active = true) :
    Ranked tables p' ∧ Grown tables p p' ∧ ∀ other, Real p' other → Real p other := by
  obtain ⟨others, entry, here, present, plain, enabled, isActive⟩ := updated
  have same : ∀ other, Real p' other ↔ Real p other :=
    real_of_others others ⟨fun _ => real, fun _ => ⟨entry, here, present, plain⟩⟩
  -- the spell is active just when its next rank is not in the book
  have activity : Single tables spell → (entry.active = true ↔
      (tables.getNextSpellInChain spell ≠ 0 → ¬Real p (tables.getNextSpellInChain spell))) := by
    intro single
    rw [isActive]
    unfold activeRank
    dsimp only
    rw [asks single, single.2 spell info single.1 isInfo, (tables.isRanked_iff).mpr single.1]
    simp only [Bool.true_and, Bool.not_false, Bool.not_eq_true', Bool.and_eq_false_imp,
      decide_eq_true_eq]
    constructor
    · intro alone some next
      rw [ranked.hasSpell_of_real next] at alone
      cases alone some
    · intro alone some
      by_contra has
      have next := single.of_ranks (tables.next_spec some).1
      exact alone some (ranked.real_of_hasSpell quiet next (by simpa using has))
  have mine : ∀ entry', p'.spells.lookup spell = some entry' → entry' = entry := by
    intro entry' there
    rw [here] at there
    exact (Option.some.inj there).symm
  refine ⟨ranked.of_others others ?_ (fun other => (same other).mp)
    (fun other _ _ => (same other).mpr) ?_, ⟨fun other => (same other).mpr, ?_⟩,
    fun other => (same other).mp⟩
  · intro entry' there
    rw [mine entry' there]
    exact ⟨enabled, fun temporary => absurd temporary plain⟩
  · intro single ⟨entry', there, _, _, awake⟩ some next
    rw [mine entry' there] at awake
    exact (activity single).mp awake some ((same _).mp next)
  · intro other single here' isTop was
    by_cases equal : other = spell
    · subst equal
      refine ⟨entry, here, present, plain, (activity single).mpr ?_⟩
      intro some next
      exact isTop some ((same _).mpr next)
    · exact (was ((same other).mp here')).congr (others other equal)

/-- A spell put into the book: of the other ranks only the lower ones may stop being active. -/
structure Inserted (tables : Tables) (spell : Nat) (p p' : Player) : Prop where
  mine : ∃ entry, p'.spells.lookup spell = some entry ∧ entry.state ≠ .removed ∧
    entry.state ≠ .temporary ∧ entry.disabled = false
  enabled : ∀ other entry, other ≠ spell → p'.spells.lookup other = some entry →
    entry.disabled = false
  loose : ∀ other entry, other ≠ spell → p'.spells.lookup other = some entry →
    entry.state = .temporary → Loose tables other
  real : ∀ other, other ≠ spell → (Real p' other ↔ Real p other)
  less : ∀ other, other ≠ spell → Active p' other → Active p other
  higher : ∀ other, other ≠ spell → Active p other → ¬tables.isHighRankOf spell other →
    Active p' other
  lower : Single tables spell → ∀ other, tables.isHighRankOf spell other → ¬Active p' other
  active : Single tables spell → (Active p' spell ↔ ∀ other, tables.Ranks spell other →
    tables.getSpellRank spell < tables.getSpellRank other → ¬Active p other)

theorem lookup_supersedeRanks (spell other : Nat) :
    (supersedeRanks tables spell p).spells.lookup other =
      (p.spells.lookup other).map (supersede tables spell other) := by
  show (EntryMap.rewrite _ p.spells).lookup other = _
  rw [EntryMap.lookup_rewrite]
  cases p.spells.lookup other <;> rfl

theorem lookup_insertSpell (tables : Tables) (p : Player) (info : SpellInfo) (spell : Nat)
    (state : PlayerSpellState) (active dependent : Bool) (other : Nat) :
    (insertSpell tables info spell state active dependent false p).spells.lookup other =
      if other = spell then
        some (if active ∧ !info.isStackableWithRanks ∧ tables.isRanked spell then
          ⟨if superseded tables spell p then state.touched else state,
            if superseded tables spell p then false else active, dependent, false⟩
        else ⟨state, active, dependent, false⟩)
      else if active ∧ !info.isStackableWithRanks ∧ tables.isRanked spell then
        (p.spells.lookup other).map (supersede tables spell other)
      else p.spells.lookup other := by
  unfold insertSpell
  simp only [Bool.not_false, true_and]
  split
  · rw [Player.lookup_setSpell, lookup_supersedeRanks]
    rfl
  · rw [Player.lookup_setSpell]

theorem superseded_iff (quiet : Quiet tables env) (ranked : Ranked tables p)
    (single : Single tables spell) : superseded tables spell p = true ↔
      ∃ other, tables.Ranks spell other ∧
        tables.getSpellRank spell < tables.getSpellRank other ∧ Active p other := by
  unfold superseded
  rw [List.any_eq_true]
  constructor
  · intro ⟨⟨other, entry⟩, there, is⟩
    simp only [Bool.and_eq_true, decide_eq_true_eq, Bool.not_eq_true', ne_eq] at is
    obtain ⟨⟨⟨⟨present, known⟩, different⟩, isActive⟩, notLower⟩ := is
    obtain ⟨apart, same⟩ := (tables.isDifferentRankOf_iff single.1).mp different
    have here : p.spells.lookup other = some entry := AList.mem_lookup_iff.mpr there
    refine ⟨other, same, ?_, entry, here, present, ?_, isActive⟩
    · by_contra low
      have unequal : tables.getSpellRank spell ≠ tables.getSpellRank other := fun level =>
        apart (same.self.eq_of_rank same level)
      rw [(tables.isHighRankOf_iff).mpr ⟨same, by omega⟩] at notLower
      cases notLower
    · intro temporary
      obtain ⟨info, isInfo⟩ := Option.isSome_iff_exists.mp known
      have single' := single.of_ranks same
      have unstackable := ranked.loose other entry here temporary other info single'.1 isInfo
      rw [single'.2 other info single'.1 isInfo] at unstackable
      cases unstackable
  · intro ⟨other, same, higher, entry, here, present, plain, isActive⟩
    refine ⟨⟨other, entry⟩, AList.mem_lookup_iff.mp here, ?_⟩
    have apart : spell ≠ other := by
      intro equal
      rw [equal] at higher
      omega
    have different := (tables.isDifferentRankOf_iff single.1).mpr ⟨apart, same⟩
    have notLower : tables.isHighRankOf spell other = false := by
      by_contra low
      have := ((tables.isHighRankOf_iff).mp (by simpa using low)).2
      omega
    simp [present, quiet.spellInfo other same.symm.self, different, isActive, notLower]

theorem supersede_spec (ranked : Ranked tables p) {info : SpellInfo}
    (isInfo : tables.spellInfo spell = some info) (unstackable : info.isStackableWithRanks = false)
    (inChain : tables.Ranks spell spell) (other : Nat) (entry : PlayerSpell)
    (here : p.spells.lookup other = some entry) :
    ((supersede tables spell other entry).state = .removed ↔ entry.state = .removed) ∧
      ((supersede tables spell other entry).state = .temporary ↔ entry.state = .temporary) ∧
      (supersede tables spell other entry).disabled = entry.disabled ∧
      ((supersede tables spell other entry).active = true → entry.active = true) := by
  unfold supersede
  split
  · rename_i lower
    obtain ⟨present, _, different, _⟩ := lower
    have same := ((tables.isDifferentRankOf_iff inChain).mp different).2
    have plain : entry.state ≠ .temporary := by
      intro temporary
      have loose := ranked.loose other entry here temporary spell info same.symm isInfo
      rw [unstackable] at loose
      cases loose
    exact ⟨iff_of_false (touched_ne _).1 present, iff_of_false (touched_ne _).2 plain, rfl, nofun⟩
  · exact ⟨Iff.rfl, Iff.rfl, rfl, id⟩

theorem inserted_insertSpell (quiet : Quiet tables env) (ranked : Ranked tables p)
    {info : SpellInfo} (isInfo : tables.spellInfo spell = some info) {state : PlayerSpellState}
    (new : state = .new ∨ state = .changed) {active : Bool}
    (asks : Single tables spell → active = true) (dependent : Bool) :
    Inserted tables spell p (insertSpell tables info spell state active dependent false p) := by
  have touched : state.touched = state := by rcases new with rfl | rfl <;> rfl
  have look := lookup_insertSpell tables p info spell state active dependent
  rw [touched] at look
  simp only [ite_self] at look
  generalize insertSpell tables info spell state active dependent false p = after at look
  have present : state ≠ .removed := by rcases new with rfl | rfl <;> exact nofun
  have plain : state ≠ .temporary := by rcases new with rfl | rfl <;> exact nofun
  by_cases alone : active ∧ !info.isStackableWithRanks ∧ tables.isRanked spell
  · simp only [if_pos alone] at look
    obtain ⟨isActive, single, isRanked⟩ := alone
    have unstackable : info.isStackableWithRanks = false := by simpa using single
    have inChain := (tables.isRanked_iff).mp isRanked
    have others : ∀ other, other ≠ spell → after.spells.lookup other =
        (p.spells.lookup other).map (supersede tables spell other) := by
      intro other different
      rw [look, if_neg different]
    have mine : after.spells.lookup spell = some
        ⟨state, if superseded tables spell p then false else active, dependent, false⟩ := by
      rw [look, if_pos rfl]
    have before : ∀ other entry', other ≠ spell → after.spells.lookup other = some entry' →
        ∃ entry, p.spells.lookup other = some entry ∧ supersede tables spell other entry = entry' := by
      intro other entry' different here
      rw [others other different] at here
      exact Option.map_eq_some_iff.mp here
    have spec := supersede_spec ranked isInfo unstackable inChain
    constructor
    · exact ⟨_, mine, present, plain, rfl⟩
    · intro other entry' different here
      obtain ⟨entry, was, became⟩ := before other entry' different here
      rw [← became, (spec other entry was).2.2.1]
      exact ranked.enabled other entry was
    · intro other entry' different here temporary
      obtain ⟨entry, was, became⟩ := before other entry' different here
      rw [← became, (spec other entry was).2.1] at temporary
      exact ranked.loose other entry was temporary
    · intro other different
      constructor
      · intro ⟨entry', here, present', plain'⟩
        obtain ⟨entry, was, became⟩ := before other entry' different here
        rw [← became, ne_eq, (spec other entry was).1] at present'
        rw [← became, ne_eq, (spec other entry was).2.1] at plain'
        exact ⟨entry, was, present', plain'⟩
      · intro ⟨entry, was, present', plain'⟩
        refine ⟨supersede tables spell other entry, ?_, ?_, ?_⟩
        · rw [others other different, was]
          rfl
        · rwa [ne_eq, (spec other entry was).1]
        · rwa [ne_eq, (spec other entry was).2.1]
    · intro other different ⟨entry', here, present', plain', active'⟩
      obtain ⟨entry, was, became⟩ := before other entry' different here
      rw [← became, ne_eq, (spec other entry was).1] at present'
      rw [← became, ne_eq, (spec other entry was).2.1] at plain'
      rw [← became] at active'
      exact ⟨entry, was, present', plain', (spec other entry was).2.2.2 active'⟩
    · intro other different ⟨entry, was, present', plain', active'⟩ notLower
      refine ⟨entry, ?_, present', plain', active'⟩
      rw [others other different, was, Option.map_some, supersede, if_neg]
      exact fun lower => notLower lower.2.2.2.2
    · intro single' other lower ⟨entry', here, present', plain', active'⟩
      obtain ⟨same, rank⟩ := (tables.isHighRankOf_iff).mp lower
      have different : other ≠ spell := by
        intro equal
        rw [equal] at rank
        omega
      obtain ⟨entry, was, became⟩ := before other entry' different here
      rw [← became, ne_eq, (spec other entry was).1] at present'
      rw [← became] at active'
      have wasActive := (spec other entry was).2.2.2 active'
      rw [supersede, if_pos ⟨present', quiet.spellInfo other same.symm.self,
        (tables.isDifferentRankOf_iff inChain).mpr ⟨different.symm, same⟩, wasActive, lower⟩]
        at active'
      cases active'
    · intro single'
      have iff := superseded_iff quiet ranked single'
      constructor
      · intro ⟨entry', here, _, _, active'⟩ other same higher wasActive
        rw [mine] at here
        cases here
        rw [iff.mpr ⟨other, same, higher, wasActive⟩] at active'
        cases active'
      · intro none
        have low : superseded tables spell p = false := by
          by_contra is
          obtain ⟨other, same, higher, wasActive⟩ := iff.mp (by simpa using is)
          exact none other same higher wasActive
        refine ⟨_, mine, present, plain, ?_⟩
        rw [low]
        exact isActive
  · simp only [if_neg alone] at look
    have others : ∀ other, other ≠ spell → after.spells.lookup other = p.spells.lookup other := by
      intro other different
      rw [look, if_neg different]
    have notSingle : ¬Single tables spell := by
      intro single
      apply alone
      exact ⟨asks single, by simp [single.2 spell info single.1 isInfo],
        (tables.isRanked_iff).mpr single.1⟩
    constructor
    · exact ⟨_, by rw [look, if_pos rfl], present, plain, rfl⟩
    · intro other entry different here
      exact ranked.enabled other entry ((others other different).symm.trans here)
    · intro other entry different here temporary
      exact ranked.loose other entry ((others other different).symm.trans here) temporary
    · intro other different
      exact ⟨fun real => real.congr (others other different).symm,
        fun real => real.congr (others other different)⟩
    · intro other different is
      exact is.congr (others other different).symm
    · intro other different is _
      exact is.congr (others other different)
    · exact fun single => absurd single notSingle
    · exact fun single => absurd single notSingle

/-- A spell that was not in the book, put into it after its lower rank; `p` is the book before the
lower rank was learned. -/
theorem Inserted.ranked {p₁ p₂ : Player} (inserted : Inserted tables spell p₂ p')
    (before : Ranked tables p₁) (missing : ¬Real p₁ spell) (ranked : Ranked tables p₂)
    (grown : Grown tables p₁ p₂)
    (prev : tables.getPrevSpellInChain spell ≠ 0 → Real p₂ (tables.getPrevSpellInChain spell)) :
    Ranked tables p' ∧ Grown tables p₁ p' ∧ Real p' spell := by
  obtain ⟨entry, here, present, plain, enabled⟩ := inserted.mine
  have real : Real p' spell := ⟨entry, here, present, plain⟩
  have keeps : ∀ other, Real p₂ other → Real p' other := by
    intro other was
    by_cases equal : other = spell
    · rw [equal]
      exact real
    · exact (inserted.real other equal).mpr was
  have lowest : ∀ other, tables.getNextSpellInChain other ≠ 0 →
      Real p' (tables.getNextSpellInChain other) → Real p₂ other := by
    intro other some next
    by_cases isNext : tables.getNextSpellInChain other = spell
    · have isPrev := tables.prev_next some
      rw [isNext] at isPrev
      have later : tables.getPrevSpellInChain spell ≠ 0 := by
        rw [isPrev]
        exact (tables.next_spec some).1.self.ne_zero
      rw [← isPrev]
      exact prev later
    · exact ranked.lower other some ((inserted.real _ isNext).mp next)
  have notBefore : ∀ other, tables.Ranks spell other →
      tables.getSpellRank spell < tables.getSpellRank other → ¬Real p₁ other :=
    fun other same higher was => missing (before.real_of_higher same higher was)
  have ranked' : Ranked tables p' := by
    refine ⟨?_, ?_, fun other some next => keeps other (lowest other some next), ?_⟩
    · intro other entry' there
      by_cases equal : other = spell
      · rw [equal, here] at there
        cases there
        exact enabled
      · exact inserted.enabled other entry' equal there
    · intro other entry' there temporary
      by_cases equal : other = spell
      · rw [equal, here] at there
        cases there
        exact absurd temporary plain
      · exact inserted.loose other entry' equal there temporary
    · intro other single active some next
      obtain ⟨same, rank⟩ := tables.next_spec some
      by_cases equal : other = spell
      · subst equal
        have different : tables.getNextSpellInChain other ≠ other := by
          intro loops
          rw [loops] at rank
          omega
        -- the highest rank above was learned just now, and is active
        have above := (inserted.real _ different).mp next
        obtain ⟨highest, inChain, higher, isReal, isTop⟩ :=
          Ranked.exists_top above same.symm.self
        have same' := same.trans inChain
        have unknown := notBefore highest same' (by omega)
        have isActive := grown.top highest (single.of_ranks same') isReal isTop
          (fun was => absurd was unknown)
        exact (inserted.active single).mp active highest same' (by omega) isActive
      · by_cases isNext : tables.getNextSpellInChain other = spell
        · -- a lower rank is not active any more
          have low : tables.isHighRankOf spell other := by
            rw [← isNext]
            exact (tables.isHighRankOf_iff).mpr ⟨same.symm, by omega⟩
          have single' : Single tables spell := by
            rw [← isNext]
            exact single.of_ranks same
          exact inserted.lower single' other low active
        · exact ranked.top other single (inserted.less other equal active) some
            ((inserted.real _ isNext).mp next)
  refine ⟨ranked', ⟨fun other was => keeps other (grown.real other was), ?_⟩, real⟩
  intro other single isReal isTop was
  by_cases equal : other = spell
  · subst equal
    apply (inserted.active single).mpr
    intro third same higher active
    have different : third ≠ other := by
      intro equal
      rw [equal] at higher
      omega
    obtain ⟨some, next⟩ :=
      ranked'.real_next same higher ((inserted.real third different).mpr active.real)
    exact isTop some next
  · have isReal₂ := (inserted.real other equal).mp isReal
    apply inserted.higher other equal
    · apply grown.top other single isReal₂ _ was
      intro some next
      exact isTop some (keeps _ next)
    · intro low
      obtain ⟨same, rank⟩ := (tables.isHighRankOf_iff).mp low
      obtain ⟨some, next⟩ := ranked'.real_next same.symm rank real
      exact isTop some next

section

variable (quiet : Quiet tables env) (rankTables : RankTables tables)
variable {recur : Call → Player → Option Player}
variable (inner : ∀ call p, call.Ranks tables p → Ranked tables p →
  Yields (call.Ranked tables p) (recur call p))

include quiet rankTables inner

omit quiet in
theorem ranked_learnDependentSpells (spell : Nat) (ranked : Ranked tables p) :
    Yields (fun p' => Ranked tables p' ∧ Grown tables p p')
      (learnDependentSpells tables env recur spell p) := by
  apply Yields.foldlM _ _ p ⟨ranked, .refl p⟩
  intro node there p' ⟨ranked, grown⟩
  apply Yields.ite
  · intro automatic
    exact .some ⟨ranked, grown⟩
  · intro taught
    apply Yields.ite
    · intro hidden
      have asks := rankTables.taught spell node there (by simpa using taught)
      apply (inner (.addSpell node.spell node.active true true false) p' ⟨rfl, asks, .inl rfl⟩
        ranked).mono
      intro p'' ⟨ranked', grown', _⟩
      exact ⟨ranked', grown.trans grown'⟩
    · intro shown
      apply (inner (.learnSpell node.spell true) p' trivial ranked).mono
      intro p'' ⟨ranked', grown', _⟩
      exact ⟨ranked', grown.trans grown'⟩

theorem ranked_finishAdd (info : SpellInfo) (spell : Nat) (ranked : Ranked tables p) :
    Yields (fun p' => Ranked tables p' ∧ Grown tables p p')
      (finishAdd tables env recur info spell p) := by
  rw [quiet.finishAdd_eq]
  apply Yields.ite
  · intro skillStep
    exact .some ⟨ranked, .refl p⟩
  · intro other
    have same := (Player.book_spendProfession (p := p) info).1
    have look : ∀ other, (p.spendProfession info).spells.lookup other = p.spells.lookup other :=
      fun other => by rw [same]
    have spent : Grown tables p (p.spendProfession info) :=
      .of_active (fun other => ⟨fun real => real.congr (look other),
        fun real => real.congr (look other).symm⟩) (fun other active => active.congr (look other))
    apply (ranked_learnDependentSpells rankTables inner spell (ranked.of_same same)).mono
    intro p' ⟨ranked', grown⟩
    exact ⟨ranked', spent.trans grown⟩

omit rankTables in
theorem ranked_learnPrevRank (spell : Nat) (active : Bool) (ranked : Ranked tables p) :
    Yields (fun p' => Ranked tables p' ∧ Grown tables p p' ∧
        (tables.getPrevSpellInChain spell ≠ 0 → Real p' (tables.getPrevSpellInChain spell)))
      (learnPrevRank tables env recur spell active false p) := by
  unfold learnPrevRank
  apply Yields.ite
  · intro first
    exact .some ⟨ranked, .refl p, fun later => absurd first later⟩
  · intro later
    rw [quiet.inWorld, if_neg (by decide)]
    apply (inner (.learnSpell (tables.getPrevSpellInChain spell) true) p trivial ranked).mono
    intro p' ⟨ranked', grown, real⟩
    exact ⟨ranked', grown, fun later => real (tables.prev_spec later).1.symm.self⟩

theorem ranked_addSpell {spell : Nat} {active learning : Bool} (dependent : Bool)
    (asks : Single tables spell → active = true) (learns : learning = true ∨ Real p spell)
    (ranked : Ranked tables p) :
    Yields ((Call.addSpell spell active learning dependent false).Ranked tables p)
      (addSpell tables env recur spell active learning dependent false p) := by
  unfold addSpell
  cases isInfo : tables.spellInfo spell with
  | none =>
    apply Yields.some
    refine ⟨ranked, .refl p, fun inChain => ?_, fun _ _ => id⟩
    have known := quiet.spellInfo spell inChain
    rw [isInfo] at known
    cases known
  | some info =>
    dsimp only
    rw [quiet.isSpellValid, Bool.not_true, if_neg Bool.false_ne_true]
    have known := checkKnown_ranked quiet ranked info active dependent learns
    split
    · rename_i cast p' isDone
      rw [isDone] at known
      rw [quiet.castPassive_eq, ite_self]
      obtain ⟨real, updated⟩ := known
      obtain ⟨ranked', grown, none⟩ := updated.ranked ranked quiet real isInfo asks
      exact .some ⟨ranked', grown, fun _ => grown.real spell real, fun _ => none⟩
    · rename_i active' p' isEnabled
      rw [isEnabled] at known
      exact known.elim
    · rename_i state active' p₁ isMissing
      rw [isMissing] at known
      obtain ⟨missing, others, gone, new, asks'⟩ := known
      -- the entry that was there did not count
      have unreal : ¬Real p₁ spell := by
        intro ⟨entry, here, _⟩
        rw [gone] at here
        cases here
      have same : ∀ other, Real p₁ other ↔ Real p other :=
        real_of_others others (iff_of_false unreal missing)
      have grown₁ : Grown tables p p₁ := by
        apply Grown.of_active fun other => (same other).symm
        intro other isActive
        apply isActive.congr
        apply others
        intro equal
        rw [equal] at isActive
        exact missing isActive.real
      have ranked₁ : Ranked tables p₁ := by
        apply ranked.of_others others _ (fun other => (same other).mp)
          (fun other _ _ => (same other).mpr) (fun _ isActive => absurd isActive.real unreal)
        intro entry here
        rw [gone] at here
        cases here
      apply (ranked_learnPrevRank quiet inner spell active' ranked₁).bind
      intro p₂ ⟨ranked₂, grown₂, prev⟩
      have inserted := inserted_insertSpell quiet ranked₂ isInfo new
        (fun single => asks' single (asks single)) dependent
      obtain ⟨ranked₃, grown₃, real⟩ := inserted.ranked ranked₁ unreal ranked₂ grown₂ prev
      rw [if_neg Bool.false_ne_true]
      apply (ranked_finishAdd quiet rankTables inner info spell ranked₃).mono
      intro p' ⟨ranked', grown'⟩
      exact ⟨ranked', (grown₁.trans grown₃).trans grown', fun _ => grown'.real spell real,
        fun was => absurd was missing⟩

omit quiet rankTables in
theorem ranked_learnSpell (spell : Nat) (dependent : Bool) (ranked : Ranked tables p) :
    Yields ((Call.learnSpell spell dependent).Ranked tables p)
      (learnSpell tables recur spell dependent p) := by
  have enabled : (p.spells.lookup spell).any (·.disabled) = false := by
    cases here : p.spells.lookup spell with
    | none => rfl
    | some entry => exact ranked.enabled spell entry here
  unfold learnSpell
  dsimp only
  rw [enabled, if_neg Bool.false_ne_true]
  apply (inner (.addSpell spell true true dependent false) p ⟨rfl, fun _ => rfl, .inl rfl⟩
    ranked).mono
  intro p' ⟨ranked', grown, real, _⟩
  exact ⟨ranked', grown, real⟩

omit quiet rankTables inner in
theorem Above.trans {third : Nat} (above : Above tables spell third) {other : Nat}
    (rest : ReflTransGen (Above tables) third other) : TransGen (Above tables) spell other :=
  .head' above rest

omit quiet rankTables in
theorem ranked_removeAll {α : Type} (spell : Nat) (spells : List α) (id : α → Nat)
    (above : ∀ a ∈ spells, Above tables spell (id a)) (ranked : Ranked tables p) :
    Yields (fun p' => Ranked tables p' ∧ Shrunk (TransGen (Above tables) spell) p p')
      (spells.foldlM (fun p a => recur (.removeSpell (id a) false true) p) p) := by
  apply Yields.foldlM _ _ p ⟨ranked, .refl _ p⟩
  intro a there p' ⟨ranked, shrunk⟩
  apply (inner (.removeSpell (id a) false true) p' rfl ranked).mono
  intro p'' ⟨ranked', shrunk', _⟩
  exact ⟨ranked', shrunk.trans (shrunk'.mono fun other rest => (above a there).trans rest)⟩

omit quiet rankTables in
theorem ranked_removeNextRank (spell : Nat) (ranked : Ranked tables p) :
    Yields (fun p' => Ranked tables p' ∧ Shrunk (TransGen (Above tables) spell) p p' ∧
        (tables.getNextSpellInChain spell ≠ 0 → ¬Real p' (tables.getNextSpellInChain spell)))
      (removeNextRank tables recur spell false p) := by
  unfold removeNextRank
  dsimp only
  split
  · rename_i next
    apply (inner (.removeSpell (tables.getNextSpellInChain spell) false false) p rfl ranked).mono
    intro p' ⟨ranked', shrunk, gone⟩
    have above : Above tables spell (tables.getNextSpellInChain spell) := .inl ⟨next.1, rfl⟩
    exact ⟨ranked', shrunk.mono fun other rest => above.trans rest, fun _ => gone⟩
  · rename_i last
    apply Yields.some
    refine ⟨ranked, .refl _ p, fun some real => last ⟨some, ranked.hasSpell_of_real real⟩⟩

omit quiet rankTables inner in
theorem ranked_unlearn {entry : PlayerSpell} (ranked : Ranked tables p)
    (here : p.spells.lookup spell = some entry)
    (highest : tables.getNextSpellInChain spell ≠ 0 → ¬Real p (tables.getNextSpellInChain spell)) :
    Ranked tables (unlearn spell entry false p) ∧
      ∀ other, Real (unlearn spell entry false p) other ↔ Real p other ∧ other ≠ spell := by
  have others : ∀ other, other ≠ spell →
      (unlearn spell entry false p).spells.lookup other = p.spells.lookup other := by
    intro other different
    unfold unlearn
    rw [if_neg Bool.false_ne_true]
    split
    · rw [Player.lookup_eraseSpell, if_neg different]
    · rw [Player.lookup_setSpell, if_neg different]
  have mine : ∀ entry', (unlearn spell entry false p).spells.lookup spell = some entry' →
      entry'.state = .removed ∧ entry'.disabled = entry.disabled := by
    intro entry' there
    unfold unlearn at there
    rw [if_neg Bool.false_ne_true] at there
    split at there
    · rw [Player.lookup_eraseSpell, if_pos rfl] at there
      cases there
    rw [Player.lookup_setSpell, if_pos rfl] at there
    cases there
    exact ⟨rfl, rfl⟩
  generalize unlearn spell entry false p = after at others mine
  have gone : ¬Real after spell := by
    intro ⟨entry', there, present, _⟩
    exact present (mine entry' there).1
  have real : ∀ other, Real after other ↔ Real p other ∧ other ≠ spell := by
    intro other
    by_cases equal : other = spell
    · rw [equal]
      exact iff_of_false gone fun both => both.2 rfl
    rw [and_iff_left equal]
    exact ⟨fun real => real.congr (others other equal).symm,
      fun real => real.congr (others other equal)⟩
  refine ⟨ranked.of_others others ?_ (fun other is => ((real other).mp is).1) ?_
    (fun _ active => absurd active.real gone), real⟩
  · intro entry' there
    rw [(mine entry' there).1, (mine entry' there).2]
    exact ⟨ranked.enabled spell entry here, nofun⟩
  · intro other some next was
    refine (real other).mpr ⟨was, ?_⟩
    intro equal
    rw [equal] at some next
    exact highest some ((real _).mp next).1

omit quiet rankTables in
theorem ranked_activatePrevRank {spell : Nat} (active dependent learnLowRank : Bool)
    (ranked : Ranked tables p)
    (prev : tables.getPrevSpellInChain spell ≠ 0 → Real p (tables.getPrevSpellInChain spell)) :
    Yields (fun p' => Ranked tables p' ∧ ∀ other, Real p' other ↔ Real p other)
      (activatePrevRank tables recur spell active dependent learnLowRank p) := by
  unfold activatePrevRank
  dsimp only
  split
  · rename_i info entry isInfo here
    apply Yields.ite
    · intro ⟨later, _⟩
      obtain ⟨entry', there, present, plain⟩ := prev later
      rw [here] at there
      cases there
      have enabled := ranked.enabled _ entry here
      have changed : ∃ state, (if entry.dependent ≠ dependent then
          { entry with dependent, state := entry.state.touched } else entry) =
          ⟨state, entry.active, dependent, false⟩ ∧ state ≠ .removed ∧ state ≠ .temporary := by
        obtain ⟨state, _, dependent', _⟩ := entry
        cases enabled
        split
        · exact ⟨state.touched, rfl, touched_ne state⟩
        next same =>
        cases not_not.mp same
        exact ⟨state, rfl, present, plain⟩
      obtain ⟨state, became, present', plain'⟩ := changed
      rw [became]
      have updated := updated_setSpell p (tables.getPrevSpellInChain spell)
        ⟨state, entry.active, dependent, false⟩ present' plain' rfl
      generalize p.setSpell (tables.getPrevSpellInChain spell)
        ⟨state, entry.active, dependent, false⟩ = p₁ at updated
      obtain ⟨others, entry₁, here₁, present₁, plain₁, enabled₁, active₁⟩ := updated
      have same : ∀ other, Real p₁ other ↔ Real p other := real_of_others others
        ⟨fun _ => prev later, fun _ => ⟨entry₁, here₁, present₁, plain₁⟩⟩
      have ranked₁ : Ranked tables p₁ := by
        apply ranked.of_others others _ (fun other => (same other).mp)
          (fun other _ _ => (same other).mpr)
        · intro single ⟨entry', there, _, _, awake⟩ some next
          rw [here₁] at there
          cases there
          exact ranked.top _ single ⟨entry, here, present, plain, active₁.symm.trans awake⟩ some
            ((same _).mp next)
        · intro entry' there
          rw [here₁] at there
          cases there
          exact ⟨enabled₁, fun temporary => absurd temporary plain₁⟩
      apply Yields.ite
      · intro asleep
        have real := (same _).mpr (prev later)
        apply (inner (.addSpell (tables.getPrevSpellInChain spell) true false dependent false) p₁
          ⟨rfl, fun _ => rfl, .inr real⟩ ranked₁).mono
        intro p' ⟨ranked', grown, _, back⟩
        exact ⟨ranked', fun other =>
          ⟨fun real' => (same other).mp (back real other real'),
            fun was => grown.real other ((same other).mpr was)⟩⟩
      · intro awake
        exact .some ⟨ranked₁, same⟩
    · intro first
      exact .some ⟨ranked, fun _ => Iff.rfl⟩
  · exact .some ⟨ranked, fun _ => Iff.rfl⟩

/-- What `removeSpell` takes is the spell and what is above it, so that the lesser rank that it
activates at the end is still in the book. -/
theorem ranked_removeSpell (spell : Nat) (learnLowRank : Bool) (ranked : Ranked tables p) :
    Yields ((Call.removeSpell spell false learnLowRank).Ranked tables p)
      (removeSpell tables env recur spell false learnLowRank p) := by
  have still : ¬Real p spell →
      (Call.removeSpell spell false learnLowRank).Ranked tables p p := fun gone =>
    ⟨ranked, .refl _ p, gone⟩
  unfold removeSpell
  split
  · rename_i missing
    apply Yields.some (still _)
    intro ⟨entry, here, _⟩
    rw [missing] at here
    cases here
  · rename_i entry here
    apply Yields.ite
    · intro gone
      apply Yields.some (still _)
      intro ⟨entry', there, present, plain⟩
      rw [here] at there
      cases there
      rcases gone with removed | disabled | temporary
      · exact present removed
      · exact Bool.false_ne_true disabled.1
      · exact plain temporary
    · intro is
      have real : Real p spell := by
        refine ⟨entry, here, ?_, ?_⟩
        · exact fun removed => is (.inl removed)
        · exact fun temporary => is (.inr (.inr temporary))
      apply (ranked_removeNextRank inner spell ranked).bind
      intro p₁ ⟨ranked₁, shrunk₁, gone₁⟩
      have required := ranked_removeAll inner spell
        (tables.spellsRequiringSpell spell) id (fun other there => .inr (.inl there)) ranked₁
      apply required.bind
      intro p₂ ⟨ranked₂, shrunk₂⟩
      have before := shrunk₁.trans shrunk₂
      split
      · rename_i missing
        apply Yields.some
        refine ⟨ranked₂, before.mono fun other rest => rest.to_reflTransGen, ?_⟩
        intro ⟨entry', there, _⟩
        rw [missing] at there
        cases there
      · rename_i entry₂ here₂
        have gone₂ : tables.getNextSpellInChain spell ≠ 0 →
            ¬Real p₂ (tables.getNextSpellInChain spell) := fun some next =>
          gone₁ some (shrunk₂.real _ next)
        obtain ⟨ranked₃, real₃⟩ := ranked_unlearn ranked₂ here₂ gone₂
        rw [quiet.finishRemove_eq]
        have same := (Player.book_regainProfession (p := unlearn spell entry₂ false p₂)
          (tables.spellInfo spell) env.maxPrimaryTradeSkill).1
        generalize (unlearn spell entry₂ false p₂).regainProfession (tables.spellInfo spell)
          env.maxPrimaryTradeSkill = p₃ at same
        have ranked₃' : Ranked tables p₃ := ranked₃.of_same same
        have real₃' : ∀ other, Real p₃ other ↔ Real p₂ other ∧ other ≠ spell := by
          intro other
          rw [← real₃ other]
          exact ⟨fun real => real.congr (by rw [same]), fun real => real.congr (by rw [same])⟩
        have dependents := ranked_removeAll inner spell
          (tables.spellLearnSpells spell) (·.spell)
          (fun node there => .inr (.inr ⟨node, there, rfl⟩)) ranked₃'
        apply dependents.bind
        intro p₄ ⟨ranked₄, shrunk₄⟩
        have prev : tables.getPrevSpellInChain spell ≠ 0 →
            Real p₄ (tables.getPrevSpellInChain spell) := by
          intro later
          have isNext := tables.next_prev later
          have inChain := (tables.prev_spec later).1
          have below : Above tables (tables.getPrevSpellInChain spell) spell :=
            .inl ⟨by rw [isNext]; exact inChain.self.ne_zero, isNext.symm⟩
          have was : Real p (tables.getPrevSpellInChain spell) := by
            apply ranked.lower
            · rw [isNext]
              exact inChain.self.ne_zero
            · rwa [isNext]
          -- it is not above the spell, whose lesser rank it is
          have notAbove : ¬TransGen (Above tables) spell (tables.getPrevSpellInChain spell) :=
            fun above => rankTables.acyclic spell (above.tail below)
          by_contra lost
          have was₂ : Real p₂ (tables.getPrevSpellInChain spell) := by
            by_contra lost₂
            exact notAbove (before.lost _ was lost₂)
          have different : tables.getPrevSpellInChain spell ≠ spell := by
            intro equal
            have rank := (tables.prev_spec later).2
            rw [equal] at rank
            omega
          exact notAbove (shrunk₄.lost _ ((real₃' _).mpr ⟨was₂, different⟩) lost)
        apply (ranked_activatePrevRank inner entry₂.active entry₂.dependent learnLowRank
          ranked₄ prev).mono
        intro p₅ ⟨ranked₅, real₅⟩
        have whole : ∀ other, Real p₅ other → Real p₂ other ∧ other ≠ spell :=
          fun other isReal => (real₃' other).mp (shrunk₄.real other ((real₅ other).mp isReal))
        refine ⟨ranked₅, ⟨fun other isReal => before.real other (whole other isReal).1, ?_⟩,
          fun isReal => (whole spell isReal).2 rfl⟩
        intro other was lost
        by_cases equal : other = spell
        · rw [equal]
        by_cases between : Real p₂ other
        · have lost₄ : ¬Real p₄ other := fun is => lost ((real₅ other).mpr is)
          exact (shrunk₄.lost other ((real₃' other).mpr ⟨between, equal⟩) lost₄).to_reflTransGen
        · exact (before.lost other was between).to_reflTransGen

theorem ranked_perform {call : Call} (asks : call.Ranks tables p) (ranked : Ranked tables p) :
    Yields (call.Ranked tables p) (perform tables env recur call p) := by
  cases call with
  | addSpell spell active learning dependent disabled =>
    obtain ⟨rfl, asks, learns⟩ := asks
    exact ranked_addSpell quiet rankTables inner dependent asks learns ranked
  | learnSpell spell dependent => exact ranked_learnSpell inner spell dependent ranked
  | removeSpell spell disabled learnLowRank =>
    cases asks
    exact ranked_removeSpell quiet rankTables inner spell learnLowRank ranked
  | setSkill id step newVal maxVal => exact asks.elim
  | modifySkillBonus skill val talent => exact asks.elim
  | learnSkillRewardedSpells skill value => exact asks.elim

end

theorem ranked_exec (quiet : Quiet tables env) (rankTables : RankTables tables) (depth : Nat)
    (call : Call) (asks : call.Ranks tables p) (ranked : Ranked tables p) :
    Yields (call.Ranked tables p) (exec tables env depth call p) := by
  induction depth generalizing call p with
  | zero => exact .none
  | succ depth ih =>
    exact ranked_perform quiet rankTables (fun call p asks ranked => ih call asks ranked)
      asks ranked

end OpenWoW.Spellbook
