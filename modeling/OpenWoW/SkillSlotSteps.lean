import OpenWoW.Lib.Yields
import OpenWoW.SkillSlots

/-! What one call does to the positions of the skills and to the states of their rows. -/
namespace OpenWoW.Spellbook

open Option

open EntryMap (Map)

variable {p after : Player} {rows rows' : SkillRows} {pending pending' : Nat → Prop}

namespace Player

@[simp] theorem skillSlots_setStatus (skill : Nat) (data : SkillStatusData) :
    (p.setStatus skill data).skillSlots = p.skillSlots := rfl

@[simp] theorem skillStatus_setSlot (pos : Nat) (slot : SkillSlot) :
    (p.setSlot pos slot).skillStatus = p.skillStatus := rfl

theorem skillSlots_setSlot (pos : Nat) (slot : SkillSlot) (other : Nat) :
    (p.setSlot pos slot).skillSlots other = if other = pos then slot else p.skillSlots other :=
  Function.update_apply ..

theorem lookup_setStatus (skill : Nat) (data : SkillStatusData) (other : Nat) :
    (p.setStatus skill data).skillStatus.lookup other =
      if other = skill then some data else p.skillStatus.lookup other :=
  EntryMap.lookup_insert ..

theorem skill?_eq_some {skill : Nat} {data : SkillStatusData} :
    p.skill? skill = some data ↔
      p.skillStatus.lookup skill = some data ∧ data.uState ≠ .deleted := by
  simp [skill?, filter_eq_some_iff]

theorem skill?_congr {skill : Nat}
    (same : after.skillStatus.lookup skill = p.skillStatus.lookup skill) :
    after.skill? skill = p.skill? skill := by
  simp only [skill?, same]

theorem freeSlot_spec {pos : Nat} (free : p.freeSlot = some pos) :
    pos < playerMaxSkills ∧ (p.skillSlots pos).lineId = 0 := by
  have here := List.mem_of_find?_eq_some free
  have test := List.find?_some free
  exact ⟨List.mem_range.mp here, by simpa using test⟩

end Player

/-- What the table has for a skill, by the state of its entry; a row that is still to be read is
not known to the entry. -/
def RowKept (p : Player) (pending : Prop) (row : Option (Nat × Nat)) :
    Option SkillStatusData → Prop
  | none | some ⟨_, .new⟩ => ¬pending → row = none
  | some ⟨pos, .unchanged⟩ =>
    ¬pending ∧ row = some ((p.skillSlots pos).rank, (p.skillSlots pos).maxRank)
  | some ⟨_, .changed⟩ | some ⟨_, .deleted⟩ => ¬pending ∧ row.isSome

/-- Positions, entries and rows are in step, but for the rows still to be read. -/
structure Kept (pending : Nat → Prop) (rows : SkillRows) (p : Player) : Prop where
  own : ∀ skill data, p.skill? skill = some data →
    skill ≠ 0 ∧ data.pos < playerMaxSkills ∧ (p.skillSlots data.pos).lineId = skill
  line : ∀ pos, (p.skillSlots pos).lineId ≠ 0 →
    ∃ data, p.skill? (p.skillSlots pos).lineId = some data ∧ data.pos = pos
  row : ∀ skill, RowKept p (pending skill) (rows skill) (p.skillStatus.lookup skill)

namespace Kept

variable {skill : Nat} {data : SkillStatusData}

section
variable (kept : Kept pending rows p)
include kept

theorem apart {other : Nat} {data' : SkillStatusData}
    (has : p.skill? skill = some data) (also : p.skill? other = some data')
    (same : data.pos = data'.pos) : skill = other := by
  rw [← (kept.own skill data has).2.2, ← (kept.own other data' also).2.2, same]

theorem of_same (slots : after.skillSlots = p.skillSlots)
    (status : after.skillStatus = p.skillStatus) : Kept pending rows after := by
  have has : ∀ skill, after.skill? skill = p.skill? skill := fun skill =>
    Player.skill?_congr (by rw [status])
  constructor
  · intro skill data here
    rw [has] at here
    rw [slots]
    exact kept.own skill data here
  · intro pos used
    rw [slots] at used ⊢
    rw [has]
    exact kept.line pos used
  · intro skill
    have row := kept.row skill
    rw [status]
    cases entry : p.skillStatus.lookup skill with
    | none => simpa [entry, RowKept] using row
    | some data =>
      obtain ⟨pos, state⟩ := data
      cases state <;> simpa [entry, RowKept, slots] using row

/-- A change of one skill: only its entry and its position change. -/
theorem change {skill pos : Nat}
    (slots : ∀ other, other ≠ pos → after.skillSlots other = p.skillSlots other)
    (status : ∀ other, other ≠ skill → after.skillStatus.lookup other = p.skillStatus.lookup other)
    (others : ∀ other, other ≠ skill → (pending' other ↔ pending other) ∧ rows' other = rows other)
    (mine : ∀ other data, other ≠ skill → p.skill? other = some data → data.pos ≠ pos)
    (old : ∀ data, p.skill? skill = some data → data.pos = pos)
    (own : ∀ data, after.skill? skill = some data →
      skill ≠ 0 ∧ data.pos = pos ∧ pos < playerMaxSkills)
    (line : (after.skillSlots pos).lineId = if (after.skill? skill).isSome then skill else 0)
    (row : RowKept after (pending' skill) (rows' skill) (after.skillStatus.lookup skill)) :
    Kept pending' rows' after := by
  have has : ∀ other, other ≠ skill → after.skill? other = p.skill? other := fun other different =>
    Player.skill?_congr (status other different)
  constructor
  · intro other data here
    by_cases same : other = skill
    · subst same
      obtain ⟨positive, place, small⟩ := own data here
      rw [here] at line
      rw [place]
      exact ⟨positive, small, line⟩
    · rw [has other same] at here
      rw [slots data.pos (mine other data same here)]
      exact kept.own other data here
  · intro place used
    by_cases same : place = pos
    · subst same
      cases entry : after.skill? skill with
      | none =>
        rw [entry] at line
        exact absurd line used
      | some data =>
        rw [entry] at line
        rw [show (after.skillSlots place).lineId = skill from line]
        exact ⟨data, entry, (own data entry).2.1⟩
    · rw [slots place same] at used ⊢
      obtain ⟨data, here, there⟩ := kept.line place used
      have different : (p.skillSlots place).lineId ≠ skill := by
        intro isSkill
        rw [isSkill] at here
        apply same
        rw [← there]
        exact old data here
      rw [has _ different]
      exact ⟨data, here, there⟩
  · intro other
    by_cases same : other = skill
    · rw [same]
      exact row
    have before := kept.row other
    rw [status other same, (others other same).2]
    have waits := (others other same).1
    cases entry : p.skillStatus.lookup other with
    | none => simpa [entry, RowKept, waits] using before
    | some data =>
      obtain ⟨place, state⟩ := data
      cases state with
      | unchanged =>
        have here : p.skill? other = some ⟨place, .unchanged⟩ :=
          Player.skill?_eq_some.mpr ⟨entry, by simp⟩
        rw [entry] at before
        show ¬pending' other ∧ _
        rw [slots place (mine other _ same here), waits]
        exact before
      | changed => simpa [entry, RowKept, waits] using before
      | new => simpa [entry, RowKept, waits] using before
      | deleted => simpa [entry, RowKept, waits] using before

/-- A skill that there is stays at its position, or is gone. -/
theorem change_own (has : p.skill? skill = some data) {slot : SkillSlot}
    (slots : after.skillSlots = (p.setSlot data.pos slot).skillSlots)
    (status : ∀ other, other ≠ skill → after.skillStatus.lookup other = p.skillStatus.lookup other)
    (own : ∀ data', after.skill? skill = some data' → data'.pos = data.pos)
    (line : slot.lineId = if (after.skill? skill).isSome then skill else 0)
    (row : RowKept after (pending skill) (rows skill) (after.skillStatus.lookup skill)) :
    Kept pending rows after := by
  obtain ⟨positive, small, _⟩ := kept.own skill data has
  apply kept.change
  · intro other different
    rw [slots, Player.skillSlots_setSlot, if_neg different]
  · exact status
  · exact fun _ _ => ⟨Iff.rfl, rfl⟩
  · exact fun other _ different also same => different (kept.apart also has same)
  · intro data' same
    rw [has] at same
    rw [some.inj same]
  · exact fun data' same => ⟨positive, own data' same, small⟩
  · rw [slots, Player.skillSlots_setSlot, if_pos rfl, line]
  · exact row

theorem setSlot (has : p.skill? skill = some data) {slot : SkillSlot}
    (line : slot.lineId = (p.skillSlots data.pos).lineId)
    (rank : slot.rank = (p.skillSlots data.pos).rank)
    (maxRank : slot.maxRank = (p.skillSlots data.pos).maxRank) :
    Kept pending rows (p.setSlot data.pos slot) := by
  have still : (p.setSlot data.pos slot).skill? skill = some data := has
  refine kept.change_own has rfl (fun _ _ => rfl) ?_ ?_ ?_
  · intro data' same
    rw [still] at same
    rw [← some.inj same]
  · rw [still, line, (kept.own skill data has).2.2]
    rfl
  · have row := kept.row skill
    rw [Player.skillStatus_setSlot]
    have entry := (Player.skill?_eq_some.mp has).1
    rw [entry] at row ⊢
    obtain ⟨pos, state⟩ := data
    cases state with
    | unchanged =>
      show ¬pending skill ∧ rows skill = some _
      rw [Player.skillSlots_setSlot, if_pos rfl, rank, maxRank]
      exact row
    | changed => exact row
    | new => exact row
    | deleted => exact row

theorem modifySkillBonus (skill : Nat) (val : Int) (talent : Bool) :
    Kept pending rows (p.modifySkillBonus skill val talent) := by
  unfold Player.modifySkillBonus
  split
  · exact kept
  next data has =>
  apply kept.setSlot has
  · split <;> rfl
  · split <;> rfl
  · split <;> rfl

theorem touch (has : p.skill? skill = some data) (slot : SkillSlot)
    (line : slot.lineId = (p.skillSlots data.pos).lineId) :
    Kept pending rows ((p.setSlot data.pos slot).touchSkill skill data) := by
  obtain ⟨entry, alive⟩ := Player.skill?_eq_some.mp has
  have touched : ((p.setSlot data.pos slot).touchSkill skill data).skillStatus.lookup skill =
      some { data with uState := if data.uState = .new then .new else .changed } := by
    rw [Player.touchSkill, Player.lookup_setStatus, if_pos rfl]
  have still : ((p.setSlot data.pos slot).touchSkill skill data).skill? skill =
      some { data with uState := if data.uState = .new then .new else .changed } := by
    apply Player.skill?_eq_some.mpr
    refine ⟨touched, ?_⟩
    split <;> simp
  refine kept.change_own has rfl ?_ ?_ ?_ ?_
  · intro other different
    rw [Player.touchSkill, Player.lookup_setStatus, if_neg different]
    rfl
  · intro data' same
    rw [still] at same
    rw [← some.inj same]
  · rw [still, line, (kept.own skill data has).2.2]
    rfl
  · have row := kept.row skill
    rw [entry] at row
    rw [touched]
    obtain ⟨pos, state⟩ := data
    cases state with
    | unchanged =>
      show ¬pending skill ∧ (rows skill).isSome
      exact ⟨row.1, by rw [row.2]; rfl⟩
    | changed => exact row
    | new => exact row
    | deleted => exact absurd rfl alive

theorem dropSkill
    (has : p.skill? skill = some data) : Kept pending rows (p.dropSkill skill data) := by
  obtain ⟨entry, alive⟩ := Player.skill?_eq_some.mp has
  have slots : (p.dropSkill skill data).skillSlots = (p.setSlot data.pos {}).skillSlots := by
    unfold Player.dropSkill
    split <;> rfl
  have status : ∀ other, (p.dropSkill skill data).skillStatus.lookup other =
      if other = skill then
        if data.uState = .new then none else some { data with uState := .deleted }
      else p.skillStatus.lookup other := by
    intro other
    unfold Player.dropSkill
    split
    · exact EntryMap.lookup_erase ..
    · exact EntryMap.lookup_insert ..
  have gone : (p.dropSkill skill data).skill? skill = none := by
    rw [Player.skill?, status, if_pos rfl]
    split <;> rfl
  refine kept.change_own has slots ?_ ?_ ?_ ?_
  · intro other different
    rw [status, if_neg different]
  · intro data' same
    rw [gone] at same
    cases same
  · rw [gone]
    rfl
  · have row := kept.row skill
    rw [entry] at row
    rw [status, if_pos rfl]
    obtain ⟨pos, state⟩ := data
    cases state with
    | unchanged =>
      show ¬pending skill ∧ (rows skill).isSome
      exact ⟨row.1, by rw [row.2]; rfl⟩
    | changed => exact row
    | new => exact row
    | deleted => exact absurd rfl alive

end

theorem slots_addProfessionLine (p : Player) (id : Nat) :
    (p.addProfessionLine id).skillSlots = p.skillSlots ∧
      (p.addProfessionLine id).skillStatus = p.skillStatus := by
  unfold Player.addProfessionLine
  split
  · exact ⟨rfl, rfl⟩
  · split <;> exact ⟨rfl, rfl⟩

theorem putSkill (kept : Kept pending rows p) {id pos : Nat} (positive : id ≠ 0)
    (missing : p.skill? id = none) (free : p.freeSlot = some pos) (line : SkillLineEntry)
    (step newVal maxVal : Nat) : Kept pending rows (p.putSkill line pos id step newVal maxVal) := by
  obtain ⟨small, unused⟩ := Player.freeSlot_spec free
  have slots : (p.putSkill line pos id step newVal maxVal).skillSlots =
      (p.setSlot pos ⟨id, step, newVal, maxVal, 0, 0⟩).skillSlots := by
    unfold Player.putSkill
    split
    · show Function.update (p.addProfessionLine id).skillSlots pos _ = _
      rw [(slots_addProfessionLine p id).1]
      rfl
    · rfl
  have status : ∀ other, (p.putSkill line pos id step newVal maxVal).skillStatus.lookup other =
      if other = id then
        some ⟨pos, if (p.skillStatus.lookup id).isSome then .changed else .new⟩
      else p.skillStatus.lookup other := by
    intro other
    have lines : (if line.categoryId = skillCategoryProfession then p.addProfessionLine id
        else p).skillStatus = p.skillStatus := by
      split
      · exact (slots_addProfessionLine p id).2
      · rfl
    unfold Player.putSkill
    rw [Player.lookup_setStatus, Player.skillStatus_setSlot, lines]
  have there : (p.putSkill line pos id step newVal maxVal).skill? id =
      some ⟨pos, if (p.skillStatus.lookup id).isSome then .changed else .new⟩ := by
    apply Player.skill?_eq_some.mpr
    refine ⟨by rw [status, if_pos rfl], ?_⟩
    split <;> simp
  apply kept.change
  · intro other different
    rw [slots, Player.skillSlots_setSlot, if_neg different]
  · intro other different
    rw [status, if_neg different]
  · intro other different
    exact ⟨Iff.rfl, rfl⟩
  · intro other data different has same
    obtain ⟨positive', _, isLine⟩ := kept.own other data has
    rw [same, unused] at isLine
    exact positive' isLine.symm
  · intro data has
    rw [missing] at has
    cases has
  · intro data same
    rw [there] at same
    rw [← some.inj same]
    exact ⟨positive, rfl, small⟩
  · rw [slots, Player.skillSlots_setSlot, if_pos rfl, there]
    rfl
  · have row := kept.row id
    rw [status, if_pos rfl]
    cases entry : p.skillStatus.lookup id with
    | none =>
      rw [entry] at row
      exact row
    | some data =>
      rw [entry] at row
      -- what is in the map and not had is deleted
      have deleted : data.uState = .deleted := by
        by_contra alive
        have has := Player.skill?_eq_some.mpr ⟨entry, alive⟩
        rw [missing] at has
        cases has
      obtain ⟨pos', state⟩ := data
      cases deleted
      exact row

theorem applySkillAuras (kept : Kept pending rows p) (env : Env) (id : Nat) :
    Kept pending rows (env.applySkillAuras id p) := by
  have each : ∀ (talent : Bool) (auras : List (Nat × Int)) (p : Player), Kept pending rows p →
      Kept pending rows (auras.foldl (fun p aura =>
        if aura.1 = id ∧ id ≠ skillDefense then p.modifySkillBonus id aura.2 talent else p) p) := by
    intro talent auras
    induction auras with
    | nil => exact fun p kept => kept
    | cons aura auras ih =>
      intro p kept
      rw [List.foldl_cons]
      apply ih
      split
      · exact kept.modifySkillBonus id aura.2 talent
      · exact kept
  exact each true _ _ (each false _ _ kept)

end Kept

end OpenWoW.Spellbook
