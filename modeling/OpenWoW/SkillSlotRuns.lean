import Mathlib.Algebra.Order.Group.Unbundled.Int
import OpenWoW.SkillSlotCalls

/-! Loading, any calls and saves: positions, values and rows of the skills over a session. -/
namespace OpenWoW.Spellbook

open List Function

variable {tables : Tables} {p : Player} {rows rows' : SkillRows} {pending pending' : Nat → Prop}

theorem RowKept.congr {row row' : Option (Nat × Nat)} {mine mine' : Prop}
    {entry : Option SkillStatusData} (kept : RowKept p mine row entry) (waits : mine' ↔ mine)
    (same : row' = row) : RowKept p mine' row' entry := by
  rw [same]
  rwa [show mine' = mine from propext waits]

theorem skill_of_skillStatements (p : Player) (skill : Nat) (data : SkillStatusData) :
    ∀ statement ∈ p.skillStatements skill data, statement.skill = skill := by
  intro statement there
  unfold Player.skillStatements at there
  split at there
  · cases there
  · rw [mem_singleton.mp there]
    rfl
  · rw [mem_singleton.mp there]
    rfl
  · rw [mem_singleton.mp there]
    rfl

def savedRow (p : Player) (data : SkillStatusData) : Option (Nat × Nat) :=
  if data.uState = .deleted then none
  else some ((p.skillSlots data.pos).rank, (p.skillSlots data.pos).maxRank)

theorem Kept.statements (kept : Kept (fun _ => False) rows p) (skill : Nat)
    (data : SkillStatusData) (here : p.skillStatus.lookup skill = some data) :
    (p.skillStatements skill data).foldlM (fun row s => SkillStatement.act s row) (rows skill) =
      some (savedRow p data) := by
  have row := kept.row skill
  rw [here] at row
  obtain ⟨pos, state⟩ := data
  cases state with
  | unchanged =>
    show some (rows skill) = _
    rw [row.2]
    rfl
  | changed =>
    obtain ⟨value, known⟩ := Option.isSome_iff_exists.mp row.2
    rw [known]
    rfl
  | new =>
    rw [row id]
    rfl
  | deleted => rfl

theorem Kept.rows_saveSkills (kept : Kept (fun _ => False) rows p) (skill : Nat) :
    (saveSkills p rows).2 skill =
      (p.skill? skill).map fun data =>
        ((p.skillSlots data.pos).rank, (p.skillSlots data.pos).maxRank) := by
  have saved := EntryMap.commit_entries SkillStatement.skill SkillStatement.act p.skillStatements
    (fun _ => savedRow p) (skill_of_skillStatements p) p.skillStatus rows kept.statements skill
  rw [show (saveSkills p rows).2 skill = _ from saved, Player.skill?]
  cases here : p.skillStatus.lookup skill with
  | none =>
    have row := kept.row skill
    rw [here] at row
    exact row id
  | some data =>
    obtain ⟨pos, state⟩ := data
    cases state <;> rfl

theorem lookup_saveSkills (p : Player) (rows : SkillRows) (skill : Nat) :
    (saveSkills p rows).1.skillStatus.lookup skill =
      (p.skill? skill).map fun data => { data with uState := .unchanged } := by
  show (EntryMap.rewrite _ p.skillStatus).lookup skill = _
  rw [EntryMap.lookup_rewrite, Player.skill?]
  cases p.skillStatus.lookup skill with
  | none => rfl
  | some data =>
    obtain ⟨pos, state⟩ := data
    cases state <;> rfl

theorem Kept.saveSkills (kept : Kept (fun _ => False) rows p) :
    Kept (fun _ => False) (saveSkills p rows).2 (saveSkills p rows).1 := by
  have slots : (Spellbook.saveSkills p rows).1.skillSlots = p.skillSlots := rfl
  have has : ∀ skill, (Spellbook.saveSkills p rows).1.skill? skill =
      (p.skill? skill).map fun data => { data with uState := .unchanged } := by
    intro skill
    rw [Player.skill?, lookup_saveSkills]
    cases p.skill? skill <;> rfl
  constructor
  · intro skill data here
    rw [has] at here
    obtain ⟨was, before, rfl⟩ := Option.map_eq_some_iff.mp here
    exact kept.own skill was before
  · intro pos used
    obtain ⟨data, here, there⟩ := kept.line pos used
    rw [slots, has, here]
    exact ⟨_, rfl, there⟩
  · intro skill
    rw [kept.rows_saveSkills, lookup_saveSkills]
    cases p.skill? skill with
    | none => exact fun _ => rfl
    | some data => exact ⟨id, rfl⟩

/-- A row that the loader takes as it is, into a free position and for a skill that the player
does not have: the skill is known, its value is its fixed one if there is one, and no spell that
an earlier row taught has taken the position or the skill. -/
def RowFits (tables : Tables) (s : Loading) (row : SkillRow) : Prop :=
  row.skill ≠ 0 ∧ (tables.skillLine row.skill).any
      (fun line => tables.fixedRange line row = (row.value, row.max)) ∧
    (row.value ≠ 0 → (s.player.skillSlots s.count).lineId = 0 ∧ s.player.hasSkill row.skill = false)

/-- Every row fits when it is read, and no position that the loop did not reach is taken. -/
def RowsFit (tables : Tables) (env : Env) (depth : Nat) : List SkillRow → Loading → Prop
  | [], s => ∀ pos, s.count ≤ pos → pos < playerMaxSkills → (s.player.skillSlots pos).lineId = 0
  | row :: rows, s =>
    RowFits tables s row ∧
      match loadSkill tables env depth s row with
      | none => True
      | some s' => RowsFit tables env depth rows s'

/-- The loop, with the rows still to be read. -/
structure Kept.Loads (rest : List SkillRow) (s : Loading) : Prop where
  kept : Kept (· ∈ rest.map (·.skill)) s.rows s.player
  stored : ∀ row ∈ rest, s.rows row.skill = some (row.value, row.max)
  few : s.count + rest.length ≤ playerMaxSkills

variable {rest : List SkillRow}

theorem Kept.put {s : Loading} {row : SkillRow} (line : SkillLineEntry)
    (kept : Kept (· ∈ (row :: rest).map (·.skill)) s.rows s.player)
    (distinct : ((row :: rest).map (·.skill)).Nodup) (positive : row.skill ≠ 0)
    (stored : s.rows row.skill = some (row.value, row.max)) (small : s.count < playerMaxSkills)
    (free : (s.player.skillSlots s.count).lineId = 0)
    (missing : s.player.hasSkill row.skill = false) :
    Kept (· ∈ rest.map (·.skill)) s.rows (s.put line row.skill row.value row.max).player := by
  have apart : row.skill ∉ rest.map (·.skill) := (nodup_cons.mp distinct).1
  have hasNot : s.player.skill? row.skill = none := by
    simpa [Player.hasSkill, positive] using missing
  -- a row that is still to be read has no entry, or that of a skill the player has
  have absent : s.player.skillStatus.lookup row.skill = none := by
    cases entry : s.player.skillStatus.lookup row.skill with
    | none => rfl
    | some data =>
      have before := kept.row row.skill
      rw [entry] at before
      obtain ⟨pos, state⟩ := data
      cases state with
      | unchanged => exact absurd mem_cons_self before.1
      | changed => exact absurd mem_cons_self before.1
      | deleted => exact absurd mem_cons_self before.1
      | new =>
        have has := Player.skill?_eq_some.mpr ⟨entry, by simp⟩
        rw [hasNot] at has
        cases has
  have lines : ∀ p : Player, p.skillSlots = s.player.skillSlots →
      p.skillStatus = s.player.skillStatus → ∀ slot : SkillSlot, slot.lineId = row.skill →
      slot.rank = row.value → slot.maxRank = row.max →
      Kept (· ∈ rest.map (·.skill)) s.rows
        ((p.setSlot s.count slot).setStatus row.skill ⟨s.count, .unchanged⟩) := by
    intro p slots status slot isLine rank maxRank
    have there : ((p.setSlot s.count slot).setStatus row.skill
        ⟨s.count, .unchanged⟩).skill? row.skill = some ⟨s.count, .unchanged⟩ := by
      apply Player.skill?_eq_some.mpr
      exact ⟨by rw [Player.lookup_setStatus, if_pos rfl], by simp⟩
    apply kept.change
    · intro other different
      rw [Player.skillSlots_setStatus, Player.skillSlots_setSlot, if_neg different, slots]
    · intro other different
      rw [Player.lookup_setStatus, if_neg different, Player.skillStatus_setSlot, status]
    · intro other different
      refine ⟨?_, rfl⟩
      rw [map_cons, mem_cons, or_iff_right different]
    · intro other data different has same
      obtain ⟨positive', _, isLine'⟩ := kept.own other data has
      rw [same, free] at isLine'
      exact positive' isLine'.symm
    · intro data has
      rw [hasNot] at has
      cases has
    · intro data same
      rw [there] at same
      rw [← Option.some.inj same]
      exact ⟨positive, rfl, small⟩
    · rw [there, Player.skillSlots_setStatus, Player.skillSlots_setSlot, if_pos rfl, isLine]
      rfl
    · rw [Player.lookup_setStatus, if_pos rfl]
      refine ⟨apart, ?_⟩
      rw [Player.skillSlots_setStatus, Player.skillSlots_setSlot, if_pos rfl, rank, maxRank, stored]
  unfold Loading.put
  dsimp only
  rw [if_neg]
  · split
    · exact lines { s.player with professionSkillLine1 := row.skill } rfl rfl
        ⟨row.skill, _, row.value, row.max, 0, 0⟩ rfl rfl rfl
    · split
      · exact lines { s.player with professionSkillLine2 := row.skill } rfl rfl
          ⟨row.skill, _, row.value, row.max, 0, 0⟩ rfl rfl rfl
      · exact lines s.player rfl rfl ⟨row.skill, _, row.value, row.max, 0, 0⟩ rfl rfl rfl
  · rw [Player.skillStatus_setSlot]
    split
    · rw [show AList.lookup row.skill _ = _ from absent]
      exact Bool.false_ne_true
    split
    · rw [show AList.lookup row.skill _ = _ from absent]
      exact Bool.false_ne_true
    · rw [absent]
      exact Bool.false_ne_true

theorem Kept.Loads.loadSkill {s : Loading} {row : SkillRow}
    (loads : Loads (row :: rest) s) (distinct : ((row :: rest).map (·.skill)).Nodup)
    (fits : RowFits tables s row) (env : Env) (depth : Nat) :
    Yields (Loads rest) (loadSkill tables env depth s row) := by
  obtain ⟨positive, known, free⟩ := fits
  have few : s.count + (rest.length + 1) ≤ playerMaxSkills := loads.few
  have apart : row.skill ∉ rest.map (·.skill) := (nodup_cons.mp distinct).1
  have later : ∀ other ∈ rest, other.skill ≠ row.skill := by
    intro other there same
    apply apart
    rw [← same]
    exact mem_map_of_mem there
  unfold Spellbook.loadSkill
  rw [if_neg (by omega)]
  cases entry : tables.skillLine row.skill with
  | none =>
    rw [entry] at known
    cases known
  | some line =>
    rw [entry] at known
    have range : tables.fixedRange line row = (row.value, row.max) := by simpa using known
    dsimp only
    rw [range]
    apply Yields.ite
    · intro zero
      apply Yields.some
      refine ⟨⟨loads.kept.own, loads.kept.line, fun skill => ?_⟩, ?_, by dsimp only; omega⟩
      · dsimp only
        by_cases same : skill = row.skill
        · -- the entry of a row that is still to be read is none or new
          have before := loads.kept.row skill
          have waits : skill ∈ (row :: rest).map (·.skill) := same ▸ mem_cons_self
          rw [same, update_self]
          rw [same] at before waits
          cases entry : s.player.skillStatus.lookup row.skill with
          | none => exact fun _ => rfl
          | some data =>
            rw [entry] at before
            obtain ⟨pos, state⟩ := data
            cases state with
            | new => exact fun _ => rfl
            | unchanged => exact absurd waits before.1
            | changed => exact absurd waits before.1
            | deleted => exact absurd waits before.1
        · apply (loads.kept.row skill).congr
          · rw [map_cons, mem_cons, or_iff_right same]
          · rw [update_of_ne same]
      · intro other there
        show Function.update s.rows row.skill none other.skill = _
        rw [update_of_ne (later other there)]
        exact loads.stored other (mem_cons_of_mem _ there)
    · intro some
      obtain ⟨unused, missing⟩ := free some
      have put := loads.kept.put line distinct positive
        (loads.stored row mem_cons_self) (by omega) unused missing
      apply (kept_exec tables env depth (.learnSkillRewardedSpells row.skill row.value) _ put).bind
      intro p kept
      apply Yields.some
      refine ⟨kept, fun other there => loads.stored other (mem_cons_of_mem _ there), ?_⟩
      show s.count + 1 + rest.length ≤ playerMaxSkills
      omega

/-- The positions from the index on are free at the end, so that clearing them clears nothing. -/
def Kept.Loaded (s : Loading) : Prop :=
  Kept (fun _ => False) s.rows s.player ∧
    ∀ pos, s.count ≤ pos → pos < playerMaxSkills → (s.player.skillSlots pos).lineId = 0

theorem Kept.Loads.loop {env : Env} {depth : Nat} (distinct : (rest.map (·.skill)).Nodup)
    (s : Loading) (loads : Loads rest s) (fits : RowsFit tables env depth rest s) :
    Yields Kept.Loaded (rest.foldlM (Spellbook.loadSkill tables env depth) s) := by
  induction rest generalizing s with
  | nil =>
    apply Yields.some
    refine ⟨⟨loads.kept.own, loads.kept.line, fun skill => ?_⟩, fits⟩
    exact (loads.kept.row skill).congr (by simp) rfl
  | cons row rest ih =>
    rw [foldlM_cons]
    obtain ⟨first, others⟩ := fits
    have turn : Yields (fun s' => Loads rest s' ∧ RowsFit tables env depth rest s')
        (Spellbook.loadSkill tables env depth s row) := by
      constructor
      intro s' read
      rw [read] at others
      exact ⟨(loads.loadSkill distinct first env depth).holds s' read, others⟩
    apply turn.bind
    intro s' ⟨loads', fits'⟩
    exact ih (nodup_cons.mp distinct).2 s' loads' fits'

theorem Kept.clearSlots (kept : Kept pending rows p) {count : Nat}
    (free : ∀ pos, count ≤ pos → pos < playerMaxSkills → (p.skillSlots pos).lineId = 0) :
    Kept pending rows (clearSlots count p) := by
  have still : ∀ skill data, p.skill? skill = some data →
      (Spellbook.clearSlots count p).skillSlots data.pos = p.skillSlots data.pos := by
    intro skill data has
    obtain ⟨positive, small, isLine⟩ := kept.own skill data has
    apply if_neg
    intro ⟨late, _⟩
    rw [free data.pos late small] at isLine
    exact positive isLine.symm
  constructor
  · intro skill data has
    rw [still skill data has]
    exact kept.own skill data has
  · intro pos used
    have same : (Spellbook.clearSlots count p).skillSlots pos = p.skillSlots pos := by
      apply if_neg
      intro cleared
      apply used
      show (if count ≤ pos ∧ pos < playerMaxSkills then ({} : SkillSlot)
        else p.skillSlots pos).lineId = 0
      rw [if_pos cleared]
    rw [same] at used ⊢
    exact kept.line pos used
  · intro skill
    have row := kept.row skill
    show RowKept _ _ _ (p.skillStatus.lookup skill)
    cases entry : p.skillStatus.lookup skill with
    | none =>
      rw [entry] at row
      exact row
    | some data =>
      rw [entry] at row
      obtain ⟨pos, state⟩ := data
      cases state with
      | unchanged =>
        have has : p.skill? skill = some ⟨pos, .unchanged⟩ :=
          Player.skill?_eq_some.mpr ⟨entry, by simp⟩
        show _ ∧ _
        rw [still skill _ has]
        exact row
      | changed => exact row
      | new => exact row
      | deleted => exact row

/-- A player object with no skill yet. -/
def newPlayer (spells : EntryMap.Map Nat PlayerSpell) (freePrimaryProfessions : Nat) : Player :=
  { spells, freePrimaryProfessions }

variable {list : List SkillRow}

theorem find?_row (distinct : (list.map (·.skill)).Nodup) {row : SkillRow}
    (there : row ∈ list) : list.find? (·.skill = row.skill) = some row := by
  induction list with
  | nil => cases there
  | cons first rest ih =>
    rw [map_cons, nodup_cons] at distinct
    rcases mem_cons.mp there with same | later
    · subst same
      rw [find?_cons_of_pos]
      simp
    rw [find?_cons_of_neg]
    · exact ih distinct.2 later
    · intro same
      apply distinct.1
      rw [show first.skill = row.skill by simpa using same]
      exact mem_map_of_mem later

theorem Kept.Loads.start (distinct : (list.map (·.skill)).Nodup)
    (few : list.length ≤ playerMaxSkills) (spells : EntryMap.Map Nat PlayerSpell) (free : Nat) :
    Loads list ⟨newPlayer spells free, skillRows list, 0, 0⟩ := by
  have none : ∀ skill, (newPlayer spells free).skillStatus.lookup skill = none :=
    fun skill => AList.lookup_empty skill
  refine ⟨⟨?_, ?_, ?_⟩, ?_, by dsimp only; omega⟩
  · intro skill data has
    rw [Player.skill?, none] at has
    cases has
  · intro pos used
    exact absurd rfl used
  · intro skill
    rw [none]
    intro other
    show ((list.find? (·.skill = skill)).map _) = _
    rw [find?_eq_none.mpr, Option.map_none]
    intro row there same
    apply other
    rw [← show row.skill = skill by simpa using same]
    exact mem_map_of_mem there
  · intro row there
    show ((list.find? (·.skill = row.skill)).map _) = _
    rw [find?_row distinct there]
    rfl

theorem kept_loadSkills {login : Login}
    (distinct : (list.map (·.skill)).Nodup) (few : list.length ≤ playerMaxSkills)
    {spells : EntryMap.Map Nat PlayerSpell} {free : Nat}
    (fits : RowsFit tables login.env login.depth list ⟨newPlayer spells free, skillRows list, 0, 0⟩) :
    Yields (fun s : Player × SkillRows => Kept (fun _ => False) s.2 s.1)
      (loadSkills tables login list (newPlayer spells free)) := by
  apply (Kept.Loads.loop distinct _ (.start distinct few spells free) fits).bind
  intro s ⟨kept, unreached⟩
  have cleared := kept.clearSlots unreached
  have knight : Yields (Kept (fun _ => False) s.rows)
      (loadDeathKnightSkills tables login.env login.depth login.level login.startHeroicPlayerLevel
        (clearSlots s.count s.player)) := by
    apply Yields.foldlM _ _ _ cleared
    intro skill _ p kept
    exact .ite (fun _ => kept_exec tables login.env login.depth _ p kept) (fun _ => .some kept)
  split
  · exact knight.bind fun p kept => .some kept
  · exact .some cleared

theorem kept_updateSkillPro (kept : Kept (fun _ => False) rows p) (env : Env)
    (depth skillId : Nat) (chance : Int) (step roll : Nat) :
    Yields (Kept (fun _ => False) rows)
      (updateSkillPro tables env depth skillId chance step roll p) := by
  apply Yields.ite
  · intro hopeless
    exact .some kept
  · intro real
    split
    · exact .some kept
    next data has =>
    apply Yields.ite
    · intro full
      exact .some kept
    · intro open_
      apply Yields.ite
      · intro missed
        exact .some kept
      · intro raised
        have touched := fun rank =>
          kept.touch has { p.skillSlots data.pos with rank } rfl
        exact .ite (fun _ => kept_exec tables env depth _ _ (touched _))
          (fun _ => .some (touched _))

theorem kept_skillStep {s : Player × SkillRows} (kept : Kept (fun _ => False) s.2 s.1)
    (input : SkillInput) :
    Yields (fun s : Player × SkillRows => Kept (fun _ => False) s.2 s.1)
      (skillStep tables s input) := by
  cases input with
  | setSkill env depth id step newVal maxVal =>
    exact (kept_exec tables env depth _ s.1 kept).map fun p kept => kept
  | updateSkillPro env depth skillId chance step roll =>
    exact (kept_updateSkillPro kept env depth _ chance step roll).map fun p kept => kept
  | modifySkillBonus skill val talent => exact .some (kept.modifySkillBonus skill val talent)
  | saveSkills => exact .some kept.saveSkills

/-- A skill's rank with its temporary and its permanent bonus, as signed numbers. -/
def skillTotal (p : Player) (skill : Nat) : Int :=
  p.getPureSkillValue skill + getSkillTempBonusValue p skill + getSkillPermBonusValue p skill

theorem getSkillValue_iff (p : Player) (skill : Nat) :
    (getSkillValue p skill : Int) = max 0 (skillTotal p skill) % 65536 ↔
      0 ≤ skillTotal p skill ∨ skillTotal p skill = -65536 := by
  unfold getSkillValue skillTotal getSkillTempBonusValue getSkillPermBonusValue
  unfold Player.getPureSkillValue uint16
  dsimp only
  rw [if_neg (by omega), Int.bmod_def, Int.bmod_def]
  split <;> split <;> omega

/-- Every skill that the player has is the line of a position of its own, and the other positions
have no line. -/
structure SkillsConsistent (p : Player) : Prop where
  own : ∀ skill data, p.skill? skill = some data →
    data.pos < playerMaxSkills ∧ (p.skillSlots data.pos).lineId = skill ∧
      ∀ other data', p.skill? other = some data' → data'.pos = data.pos → other = skill
  others : ∀ pos, (∀ skill data, p.skill? skill = some data → data.pos ≠ pos) →
    (p.skillSlots pos).lineId = 0

theorem Kept.consistent (kept : Kept pending rows p) : SkillsConsistent p := by
  constructor
  · intro skill data has
    obtain ⟨_, small, isLine⟩ := kept.own skill data has
    exact ⟨small, isLine, fun other data' also same => kept.apart also has same⟩
  · intro pos unowned
    by_contra used
    obtain ⟨data, has, there⟩ := kept.line pos used
    exact unowned _ data has there

/-- Over a session in which every row fits when it is read: positions are consistent, a skill's
value is right just when it is not below zero, and a save leaves the rows of the skills. -/
theorem skills_in_step (tables : Tables) (login : Login) (list : List SkillRow)
    (distinct : (list.map (·.skill)).Nodup) (few : list.length ≤ playerMaxSkills)
    (spells : EntryMap.Map Nat PlayerSpell) (free : Nat)
    (fits : RowsFit tables login.env login.depth list ⟨newPlayer spells free, skillRows list, 0, 0⟩)
    (inputs : List SkillInput) (s : Player × SkillRows)
    (ran : session tables login list (newPlayer spells free) inputs = some s) :
    SkillsConsistent s.1 ∧
      (∀ skill, (getSkillValue s.1 skill : Int) = max 0 (skillTotal s.1 skill) % 65536 ↔
        0 ≤ skillTotal s.1 skill ∨ skillTotal s.1 skill = -65536) ∧
      ∀ skill, (saveSkills s.1 s.2).2 skill =
        (s.1.skill? skill).map fun data =>
          ((s.1.skillSlots data.pos).rank, (s.1.skillSlots data.pos).maxRank) := by
  have loaded : Yields (fun s : Player × SkillRows => Kept (fun _ => False) s.2 s.1)
      (loadSkills tables login list (newPlayer spells free)) :=
    kept_loadSkills distinct few fits
  have yields : Yields (fun s : Player × SkillRows => Kept (fun _ => False) s.2 s.1)
      (session tables login list (newPlayer spells free) inputs) := by
    apply loaded.bind
    apply Yields.foldlM
    intro input _ s kept
    exact kept_skillStep kept input
  have kept := yields.holds s ran
  exact ⟨kept.consistent, getSkillValue_iff s.1, kept.rows_saveSkills⟩

/-- Skill 1 rewards spell 10, which teaches skill 2. -/
def tailoringTables : Tables where
  spellInfo := fun spell => if spell = 10 then some {} else none
  ranks := ⟨[], List.nodup_nil, List.not_mem_nil⟩
  skillLine := fun skill => if skill = 1 ∨ skill = 2 then some ⟨skill, 12⟩ else none
  skillLineAbilities := [⟨1, 10, 0, 0, 0, 1, 0⟩]
  spellLearnSkill := fun spell => if spell = 10 then some ⟨2, 1, 5, 75⟩ else none
  spellLearnSpells := fun _ => []
  spellsRequiringSpell := fun _ => []

def quietEnv : Env where
  inWorld := false
  raceMask := 1
  classMask := 1
  maxSkillValueForLevel := 5
  maxPrimaryTradeSkill := 2
  isSpellValid := fun _ => true
  isNeedCastPassiveSpellAtLearn := fun _ => false
  modSkillAuras := []
  modSkillTalentAuras := []
  castSpell := fun _ _ => []
  removeAuras := fun _ _ => []

def quietLogin : Login := ⟨quietEnv, 5, false, 1, 55⟩

/-- The taught skill's row comes first, and is only raised. -/
theorem skills_in_step_taught_first :
    ∃ s, session tailoringTables quietLogin [⟨2, 7, 75⟩, ⟨1, 5, 75⟩] (newPlayer ∅ 0)
        [.modifySkillBonus 2 5 false, .saveSkills] = some s ∧
      SkillsConsistent s.1 ∧
      (∀ skill, (getSkillValue s.1 skill : Int) = max 0 (skillTotal s.1 skill) % 65536 ↔
        0 ≤ skillTotal s.1 skill ∨ skillTotal s.1 skill = -65536) ∧
      ∀ skill, (saveSkills s.1 s.2).2 skill =
        (s.1.skill? skill).map fun data =>
          ((s.1.skillSlots data.pos).rank, (s.1.skillSlots data.pos).maxRank) := by
  have fits : RowsFit tailoringTables quietLogin.env quietLogin.depth [⟨2, 7, 75⟩, ⟨1, 5, 75⟩]
      ⟨newPlayer ∅ 0, skillRows [⟨2, 7, 75⟩, ⟨1, 5, 75⟩], 0, 0⟩ := by
    refine ⟨⟨by decide, by decide, fun _ => ⟨rfl, rfl⟩⟩,
      ⟨by decide, by decide, fun _ => ⟨rfl, rfl⟩⟩, ?_⟩
    intro pos late small
    have far : 2 ≤ pos := late
    show (Function.update (Function.update (Function.update (fun _ => ({} : SkillSlot)) 0
      ⟨2, 0, 7, 75, 0, 0⟩) 1 ⟨1, 0, 5, 75, 0, 0⟩) 0 ⟨2, 1, 7, 75, 0, 0⟩ pos).lineId = 0
    rw [update_of_ne (by omega), update_of_ne (by omega),
      update_of_ne (by omega)]
  exact ⟨_, rfl, skills_in_step tailoringTables quietLogin [⟨2, 7, 75⟩, ⟨1, 5, 75⟩] (by decide)
    (by decide) ∅ 0 fits [.modifySkillBonus 2 5 false, .saveSkills] _ rfl⟩

/-- The taught skill's position is cleared when the loop ends, and a malus below zero wraps. -/
theorem taught_skill_cleared :
    (∃ s, session tailoringTables quietLogin [⟨1, 5, 75⟩] (newPlayer ∅ 0) [] = some s ∧
      s.1.skill? 2 = some ⟨1, .new⟩ ∧ (s.1.skillSlots 1).lineId = 0 ∧ ¬SkillsConsistent s.1) ∧
    ∃ s, session tailoringTables quietLogin [⟨2, 5, 75⟩] (newPlayer ∅ 0)
        [.modifySkillBonus 2 (-10) false] = some s ∧
      skillTotal s.1 2 = -5 ∧ getSkillValue s.1 2 = 65531 ∧
      ¬(getSkillValue s.1 2 : Int) = max 0 (skillTotal s.1 2) % 65536 := by
  refine ⟨⟨_, rfl, by decide, by decide, ?_⟩, ⟨_, rfl, by decide, by decide, by decide⟩⟩
  intro consistent
  have own := (consistent.own 2 ⟨1, .new⟩ (by decide)).2.1
  exact absurd own (by decide)

end OpenWoW.Spellbook
