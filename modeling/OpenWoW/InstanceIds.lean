import Mathlib
import OpenWoW.Lib.Run

/-! The ids of instances: a bit for each id that is in use, and a cursor to the lowest free one. -/
namespace OpenWoW.Instances

open List Option

/-- How much memory a growing vector takes, which the standard library leaves open. -/
structure Allocator where
  /-- The capacity after a vector of a capacity is resized beyond it. -/
  capacityFor : Nat → Nat → Nat
  enough : ∀ capacity size, size ≤ capacityFor capacity size

structure MapManager where
  instanceIds : List Bool
  capacity : Nat
  nextInstanceId : Nat
  deriving DecidableEq, Repr

/-- The ids of the table `instance`, in the order in which they are loaded. -/
structure Database where
  ids : List Nat
  ascending : ids.Pairwise (· < ·)
  bounded : ∀ id ∈ ids, id < 2 ^ 32

/-- The next multiple of 32, as an `uint32`. -/
def roundUp (n : Nat) : Nat := (n / 32 * 32 + if 0 < n % 32 then 32 else 0) % 2 ^ 32

namespace MapManager

variable (a : Allocator) (m : MapManager)

def empty : MapManager := ⟨[], 0, 0⟩

/-- `resize` of the vector. -/
def resize (n : Nat) : MapManager :=
  { m with
    instanceIds := m.instanceIds.take n ++ List.replicate (n - m.instanceIds.length) false
    capacity := if n ≤ m.capacity then m.capacity else a.capacityFor m.capacity n }

/-- `_instanceIds[instanceId] = used`; none is an access beyond the size. -/
def setId (instanceId : Nat) (used : Bool) : Option MapManager :=
  if instanceId < m.instanceIds.length then
    some { m with instanceIds := m.instanceIds.set instanceId used }
  else none

def setNextInstanceId (nextInstanceId : Nat) : MapManager :=
  { m with nextInstanceId := nextInstanceId }

/-- `SELECT MAX(id)`, and 0 for `NULL`. -/
def maxId (ids : List Nat) : Nat := ids.foldr max 0

def initInstanceIds (ids : List Nat) : MapManager :=
  (m.setNextInstanceId 1).resize a (roundUp (maxId ids))

def registerInstanceId (instanceId : Nat) : Option MapManager := m.setId instanceId true

/-- A row in the loop of `LoadResetTimes`. -/
def loadRow (instanceId : Nat) : Option MapManager :=
  (if m.nextInstanceId = instanceId then m.setNextInstanceId ((instanceId + 1) % 2 ^ 32)
    else m).registerInstanceId instanceId

/-- The registration loop of `LoadResetTimes`. -/
def loadResetTimes (ids : List Nat) : Option MapManager := ids.foldlM loadRow m

/-- The start of the server. -/
def load (db : Database) : Option MapManager :=
  (empty.initInstanceIds a db.ids).loadResetTimes db.ids

/-- The lowest id from one on whose bit is not set, or that has none. -/
def firstFree (start : Nat) : Nat := start + (m.instanceIds.drop start).findIdx (!·)

/-- The cursor after the search of `GenerateInstanceId`. -/
def advance : Nat :=
  let start := (m.nextInstanceId + 1) % 2 ^ 32
  if m.firstFree start < 0xFFFFFFFF then m.firstFree start else start

/-- The vector after `GenerateInstanceId` made room for an id. -/
def allocate (newInstanceId : Nat) : MapManager :=
  if m.instanceIds.length % 2 ^ 32 ≤ newInstanceId then
    if m.instanceIds.length < m.capacity then m.resize a m.capacity
    else m.resize a (roundUp newInstanceId)
  else m

/-- `GenerateInstanceId`; the flag stops the world. -/
def generateInstanceId : Option MapManager × Bool :=
  let newInstanceId := m.nextInstanceId
  let nextInstanceId := m.advance
  ((((m.setNextInstanceId nextInstanceId).allocate a newInstanceId).setId newInstanceId true),
    newInstanceId = nextInstanceId)

def freeInstanceId (instanceId : Nat) : Option MapManager :=
  (if instanceId < m.nextInstanceId then m.setNextInstanceId instanceId else m).setId instanceId
    false

end MapManager

inductive Call where
  | generateInstanceId
  | freeInstanceId (instanceId : Nat)
  deriving DecidableEq, Repr

inductive Answer where
  | outOfRange
  | generated (instanceId : Nat) (stops : Bool)
  | freed
  deriving DecidableEq, Repr

/-- The manager, with the ids that were registered or generated and not freed. -/
structure Server where
  manager : MapManager
  live : Finset Nat

namespace Server

def step (a : Allocator) (s : Server) : Call → Server × Answer
  | .generateInstanceId =>
    match s.manager.generateInstanceId a with
    | (some manager, stops) =>
      (⟨manager, insert s.manager.nextInstanceId s.live⟩, .generated s.manager.nextInstanceId stops)
    | (none, _) => (s, .outOfRange)
  | .freeInstanceId instanceId =>
    match s.manager.freeInstanceId instanceId with
    | some manager => (⟨manager, s.live.erase instanceId⟩, .freed)
    | none => (s, .outOfRange)

end Server

def LowestFree (live : Finset Nat) (next : Nat) : Prop :=
  1 ≤ next ∧ next ∉ live ∧ ∀ id, 1 ≤ id → id < next → id ∈ live

/-- A call accesses bits that exist, hands out a new id, and leaves the cursor at the lowest free one. -/
def Handed (t : Run.Taken Server Call Answer) : Prop :=
  t.out ≠ .outOfRange ∧
    (∀ id stops, t.out = .generated id stops → id ≠ 0 ∧ id ∉ t.before.live) ∧
    LowestFree t.after.live t.after.manager.nextInstanceId

/-- A server that starts with a database and serves calls as it should. -/
def Sound (a : Allocator) (db : Database) (calls : List Call) : Prop :=
  ∃ m, MapManager.load a db = some m ∧ LowestFree db.ids.toFinset m.nextInstanceId ∧
    ∀ t ∈ Run.trace (Server.step a) ⟨m, db.ids.toFinset⟩ calls, Handed t

namespace MapManager

variable {a : Allocator} {m : MapManager}

def IsSet (m : MapManager) (id : Nat) : Prop := m.instanceIds[id]? = some true

theorem IsSet.lt {id : Nat} (isSet : m.IsSet id) : id < m.instanceIds.length :=
  (List.getElem?_eq_some_iff.mp isSet).1

variable (n next start : Nat)

@[simp] theorem setNextInstanceId_next :
    (m.setNextInstanceId next).nextInstanceId = next := rfl

@[simp] theorem setNextInstanceId_ids :
    (m.setNextInstanceId next).instanceIds = m.instanceIds := rfl

@[simp] theorem setNextInstanceId_capacity :
    (m.setNextInstanceId next).capacity = m.capacity := rfl

@[simp] theorem resize_next : (m.resize a n).nextInstanceId = m.nextInstanceId := rfl

theorem resize_length {n : Nat} (grows : m.instanceIds.length ≤ n) :
    (m.resize a n).instanceIds.length = n := by
  simp only [resize, length_append, length_take, length_replicate]
  omega

theorem resize_isSet {n : Nat} (grows : m.instanceIds.length ≤ n) (id : Nat) :
    (m.resize a n).IsSet id ↔ m.IsSet id := by
  unfold IsSet resize
  simp only [take_of_length_le grows]
  rcases Nat.lt_or_ge id m.instanceIds.length with inside | beyond
  · rw [getElem?_append_left inside]
  · rw [getElem?_append_right beyond, getElem?_eq_none beyond, getElem?_replicate]
    split <;> simp

theorem resize_capacity : n ≤ (m.resize a n).capacity := by
  unfold resize
  split
  · assumption
  · exact a.enough m.capacity n

theorem setId_some_iff {id : Nat} {used : Bool} {after : MapManager} :
    m.setId id used = some after ↔
      id < m.instanceIds.length ∧ after = { m with instanceIds := m.instanceIds.set id used } := by
  unfold setId
  split
  · rename_i inside
    simp only [some.injEq, inside, true_and]
    exact eq_comm
  · rename_i outside
    simp [outside]

theorem setId_none_iff {id : Nat} {used : Bool} :
    m.setId id used = none ↔ m.instanceIds.length ≤ id := by
  unfold setId
  split
  · rename_i inside
    simpa using inside
  · rename_i outside
    simpa using outside

theorem set_isSet {id : Nat} (inside : id < m.instanceIds.length) (used : Bool) (other : Nat) :
    ({ m with instanceIds := m.instanceIds.set id used } : MapManager).IsSet other ↔
      if other = id then used = true else m.IsSet other := by
  unfold IsSet
  simp only [getElem?_set]
  by_cases here : other = id
  · subst here
    simp [inside]
  · simp [here, Ne.symm here]

theorem le_firstFree : start ≤ m.firstFree start := Nat.le_add_right _ _

theorem firstFree_le : m.firstFree start ≤ max start m.instanceIds.length := by
  have bound : (m.instanceIds.drop start).findIdx (!·) ≤ (m.instanceIds.drop start).length :=
    findIdx_le_length
  rw [length_drop] at bound
  unfold firstFree
  omega

theorem firstFree_not_set : ¬ m.IsSet (m.firstFree start) := by
  intro isSet
  unfold IsSet firstFree at isSet
  rw [← List.getElem?_drop] at isSet
  obtain ⟨inside, bit⟩ := List.getElem?_eq_some_iff.mp isSet
  have free := List.findIdx_getElem (w := inside)
  rw [bit] at free
  cases free

theorem set_of_lt_firstFree {start id : Nat} (above : start ≤ id) (below : id < m.firstFree start) :
    m.IsSet id := by
  unfold firstFree at below
  have inside : id - start < (m.instanceIds.drop start).findIdx (!·) := by omega
  have bound : (m.instanceIds.drop start).findIdx (!·) ≤ (m.instanceIds.drop start).length :=
    findIdx_le_length
  have isSet := not_of_lt_findIdx inside
  have stands : (m.instanceIds.drop start)[id - start]? = some true := by
    rw [getElem?_eq_getElem (Nat.lt_of_lt_of_le inside bound)]
    simpa using isSet
  rw [List.getElem?_drop, show start + (id - start) = id by omega] at stands
  exact stands

end MapManager

/-- The bits are set for the live ids, and the cursor is at the lowest free one. -/
structure Kept (s : Server) : Prop where
  bits : ∀ id, s.manager.IsSet id ↔ id ∈ s.live
  cursor : LowestFree s.live s.manager.nextInstanceId
  room : s.manager.instanceIds.length ≤ s.manager.capacity
  unallocated : s.manager.instanceIds.length = 0 → s.manager.capacity = 0

/-- The vector is far from as many bits as there are ids. -/
def Small (s : Server) : Prop := s.manager.capacity + 33 < 2 ^ 32

/-- No id is free in a vector that is as large as its memory and a multiple of 32. -/
def Full (s : Server) : Prop :=
  s.manager.nextInstanceId = s.manager.instanceIds.length ∧
    s.manager.instanceIds.length = s.manager.capacity ∧ s.manager.instanceIds.length % 32 = 0

/-- The calls that go well: a new id where the vector is not full, and no freeing of id 0. -/
def Plain (s : Server) : Call → Prop
  | .generateInstanceId => ¬ Full s
  | .freeInstanceId instanceId => instanceId ≠ 0

variable {s : Server}

theorem Kept.next_le (kept : Kept s) :
    s.manager.nextInstanceId ≤ s.manager.instanceIds.length ∨
      s.manager.nextInstanceId = 1 ∧ s.manager.instanceIds.length = 0 := by
  obtain ⟨positive, _, below⟩ := kept.cursor
  rcases Nat.lt_or_ge 1 s.manager.nextInstanceId with more | one
  · have used := (kept.bits _).mpr (below (s.manager.nextInstanceId - 1) (by omega) (by omega))
    have := used.lt
    omega
  · omega

theorem Kept.next_lt (kept : Kept s) (small : Small s) :
    s.manager.nextInstanceId + 1 < 0xFFFFFFFF := by
  have := kept.next_le
  have := kept.room
  unfold Small at small
  omega

theorem Kept.advance_eq (kept : Kept s) (small : Small s) :
    s.manager.advance = s.manager.firstFree (s.manager.nextInstanceId + 1) := by
  have next := kept.next_lt small
  have bound := s.manager.firstFree_le (s.manager.nextInstanceId + 1)
  have room := kept.room
  unfold Small at small
  unfold MapManager.advance
  rw [Nat.mod_eq_of_lt (by omega)]
  exact if_pos (by omega)

theorem Kept.never_stops (kept : Kept s) (small : Small s) (a : Allocator) :
    (s.manager.generateInstanceId a).2 = false := by
  have above := s.manager.le_firstFree (s.manager.nextInstanceId + 1)
  unfold MapManager.generateInstanceId
  simp only [decide_eq_false_iff_not]
  rw [kept.advance_eq small]
  omega

theorem roundUp_eq {n : Nat} (fits : n + 32 < 2 ^ 32) :
    roundUp n = n / 32 * 32 + if 0 < n % 32 then 32 else 0 := by
  apply Nat.mod_eq_of_lt
  split <;> omega

theorem Kept.allocate_length (kept : Kept s) (small : Small s) (a : Allocator) :
    s.manager.nextInstanceId <
        (s.manager.allocate a s.manager.nextInstanceId).instanceIds.length ↔ ¬ Full s := by
  have next := kept.next_le
  have room := kept.room
  have unallocated := kept.unallocated
  unfold Small at small
  unfold Full MapManager.allocate
  rw [Nat.mod_eq_of_lt (by omega)]
  split
  · split
    · rw [MapManager.resize_length room]
      omega
    · have rounded := roundUp_eq (n := s.manager.nextInstanceId) (by omega)
      rw [MapManager.resize_length (by rw [rounded]; split <;> omega), rounded]
      split <;> omega
  · omega

theorem Kept.allocate_isSet (kept : Kept s) (small : Small s) (a : Allocator) (id : Nat) :
    (s.manager.allocate a s.manager.nextInstanceId).IsSet id ↔ s.manager.IsSet id := by
  have next := kept.next_le
  have room := kept.room
  unfold Small at small
  unfold MapManager.allocate
  split
  · split
    · exact MapManager.resize_isSet room id
    · have rounded := roundUp_eq (n := s.manager.nextInstanceId) (by omega)
      exact MapManager.resize_isSet (by rw [rounded]; split <;> omega) id
  · rfl

theorem MapManager.allocate_capacity (a : Allocator) {m : MapManager} (id : Nat)
    (room : m.instanceIds.length ≤ m.capacity) :
    (m.allocate a id).instanceIds.length ≤ (m.allocate a id).capacity := by
  have resized : ∀ n, m.instanceIds.length ≤ n →
      (m.resize a n).instanceIds.length ≤ (m.resize a n).capacity := by
    intro n grows
    rw [resize_length grows]
    exact resize_capacity n
  unfold allocate
  split
  · split
    · exact resized _ room
    · rcases Nat.le_total m.instanceIds.length (roundUp id) with grows | shrinks
      · exact resized _ grows
      · have within : (m.resize a (roundUp id)).instanceIds.length = roundUp id := by
          simp only [resize, length_append, length_take, length_replicate]
          omega
        rw [within]
        exact resize_capacity _
  · exact room

theorem MapManager.allocate_setNext (a : Allocator) (m : MapManager) (next id : Nat) :
    (m.setNextInstanceId next).allocate a id = (m.allocate a id).setNextInstanceId next := by
  unfold allocate
  rw [apply_ite (MapManager.setNextInstanceId · next),
    apply_ite (MapManager.setNextInstanceId · next)]
  rfl

theorem Kept.cursor_after (kept : Kept s) :
    LowestFree (insert s.manager.nextInstanceId s.live)
      (s.manager.firstFree (s.manager.nextInstanceId + 1)) := by
  have above := s.manager.le_firstFree (s.manager.nextInstanceId + 1)
  obtain ⟨_, _, below⟩ := kept.cursor
  refine ⟨by omega, ?_, ?_⟩
  · rw [Finset.mem_insert, ← kept.bits]
    rintro (same | isSet)
    · omega
    · exact s.manager.firstFree_not_set _ isSet
  · intro id positive before
    rw [Finset.mem_insert]
    rcases Nat.lt_trichotomy id s.manager.nextInstanceId with less | same | more
    · exact Or.inr (below id positive less)
    · exact Or.inl same
    · exact Or.inr ((kept.bits id).mp (MapManager.set_of_lt_firstFree more before))

theorem step_generate (kept : Kept s) (small : Small s) (a : Allocator) (free : ¬ Full s) :
    (s.step a .generateInstanceId).2 = .generated s.manager.nextInstanceId false ∧
      (s.step a .generateInstanceId).1.live = insert s.manager.nextInstanceId s.live ∧
      Kept (s.step a .generateInstanceId).1 := by
  have inside := (kept.allocate_length small a).mpr free
  have stops := kept.never_stops small a
  have generated : s.manager.generateInstanceId a =
      (some { (s.manager.allocate a s.manager.nextInstanceId).setNextInstanceId s.manager.advance with
        instanceIds := (s.manager.allocate a s.manager.nextInstanceId).instanceIds.set
          s.manager.nextInstanceId true }, false) := by
    rw [← stops]
    unfold MapManager.generateInstanceId
    simp only [Prod.mk.injEq, and_true]
    rw [MapManager.allocate_setNext]
    exact MapManager.setId_some_iff.mpr ⟨inside, rfl⟩
  unfold Server.step
  simp only [generated, true_and]
  constructor
  · intro id
    show (MapManager.IsSet { (s.manager.allocate a s.manager.nextInstanceId) with
      instanceIds := _ }) id ↔ _
    rw [MapManager.set_isSet inside, Finset.mem_insert]
    by_cases here : id = s.manager.nextInstanceId
    · simp [here]
    · rw [if_neg here, kept.allocate_isSet small a, kept.bits]
      simp [here]
  · show LowestFree _ s.manager.advance
    rw [kept.advance_eq small]
    exact kept.cursor_after
  · show (List.set _ _ _).length ≤ (s.manager.allocate a s.manager.nextInstanceId).capacity
    rw [length_set]
    exact MapManager.allocate_capacity a _ kept.room
  · show (List.set _ _ _).length = 0 → _
    rw [length_set]
    intro none_
    rw [none_] at inside
    exact absurd inside (Nat.not_lt_zero _)

theorem step_full (kept : Kept s) (small : Small s) (a : Allocator) (full : Full s) :
    (s.step a .generateInstanceId).2 = .outOfRange := by
  have outside : ¬ _ := fun inside => (kept.allocate_length small a).mp inside full
  have none_ : (s.manager.generateInstanceId a).1 = none := by
    unfold MapManager.generateInstanceId
    simp only
    rw [MapManager.allocate_setNext]
    exact MapManager.setId_none_iff.mpr (Nat.le_of_not_lt outside)
  unfold Server.step
  simp only
  split
  · rename_i generated
    rw [generated] at none_
    cases none_
  · rfl

theorem step_free (kept : Kept s) (a : Allocator) {id : Nat} (used : id ∈ s.live) :
    (s.step a (.freeInstanceId id)).2 = .freed ∧
      (LowestFree (s.step a (.freeInstanceId id)).1.live
        (s.step a (.freeInstanceId id)).1.manager.nextInstanceId ↔ id ≠ 0) ∧
      (id ≠ 0 → Kept (s.step a (.freeInstanceId id)).1) := by
  have inside := ((kept.bits id).mpr used).lt
  obtain ⟨positive, free, below⟩ := kept.cursor
  have freed : s.manager.freeInstanceId id = some
      { (s.manager.setNextInstanceId (min id s.manager.nextInstanceId)) with
        instanceIds := s.manager.instanceIds.set id false } := by
    unfold MapManager.freeInstanceId
    split
    · rename_i less
      rw [Nat.min_eq_left (Nat.le_of_lt less)]
      exact MapManager.setId_some_iff.mpr ⟨inside, rfl⟩
    rename_i less
    rw [Nat.min_eq_right (Nat.le_of_not_lt less)]
    exact MapManager.setId_some_iff.mpr ⟨inside, rfl⟩
  have cursor : id ≠ 0 →
      LowestFree (s.live.erase id) (min id s.manager.nextInstanceId) := by
    intro nonzero
    rcases Nat.lt_trichotomy id s.manager.nextInstanceId with less | same | more
    · rw [Nat.min_eq_left (Nat.le_of_lt less)]
      refine ⟨Nat.pos_of_ne_zero nonzero, Finset.notMem_erase id _, fun other one before => ?_⟩
      exact Finset.mem_erase.mpr ⟨by omega, below other one (by omega)⟩
    · exact absurd (same ▸ used) free
    rw [Nat.min_eq_right (Nat.le_of_lt more)]
    refine ⟨positive, fun there => free (Finset.mem_of_mem_erase there), ?_⟩
    intro other one before
    exact Finset.mem_erase.mpr ⟨by omega, below other one before⟩
  unfold Server.step
  simp only [freed, true_and]
  refine ⟨⟨fun lowest nonzero => ?_, cursor⟩, fun nonzero => ?_⟩
  · have one := lowest.1
    rw [nonzero] at one
    simp at one
  · constructor
    · intro other
      show (MapManager.IsSet { s.manager with instanceIds := _ }) other ↔ _
      rw [MapManager.set_isSet inside, Finset.mem_erase, kept.bits]
      by_cases here : other = id <;> simp [here]
    · exact cursor nonzero
    · show (List.set _ _ _).length ≤ _
      rw [length_set]
      exact kept.room
    · show (List.set _ _ _).length = 0 → _
      rw [length_set]
      exact kept.unallocated

section
variable (a : Allocator) (kept : Kept s) (small : Small s) {call : Call}
  (frees : ∀ id, call = .freeInstanceId id → id ∈ s.live)
include a kept small frees

theorem handed_iff :
    Handed (Run.take (Server.step a) s call) ↔ Plain s call := by
  unfold Handed
  simp only [Run.take_out, Run.take_before, Run.take_after]
  cases call with
  | generateInstanceId =>
    by_cases full : Full s
    · simp [step_full kept small a full, Plain, full]
    obtain ⟨out, live, after⟩ := step_generate kept small a full
    obtain ⟨positive, free, _⟩ := kept.cursor
    rw [out]
    simp only [Plain, full, not_false_eq_true, iff_true]
    refine ⟨by simp, fun id stops same => ?_, after.cursor⟩
    obtain ⟨rfl, _⟩ := Answer.generated.inj same
    exact ⟨Nat.ne_of_gt positive, free⟩
  | freeInstanceId id =>
    obtain ⟨out, cursor, _⟩ := step_free kept a (frees id rfl)
    rw [out, cursor]
    simp [Plain]

theorem kept_step (plain : Plain s call) :
    Kept (s.step a call).1 := by
  cases call with
  | generateInstanceId => exact (step_generate kept small a plain).2.2
  | freeInstanceId id => exact (step_free kept a (frees id rfl)).2.2 plain

end

namespace MapManager

variable {ids : List Nat}

theorem le_maxId {id : Nat} (listed : id ∈ ids) : id ≤ maxId ids := by
  induction ids with
  | nil => cases listed
  | cons first ids ih =>
    rcases mem_cons.mp listed with rfl | later
    · exact Nat.le_max_left _ _
    · exact Nat.le_trans (ih later) (Nat.le_max_right _ _)

theorem maxId_mem (some_ : ids ≠ []) : maxId ids ∈ ids := by
  induction ids with
  | nil => exact absurd rfl some_
  | cons first ids ih =>
    by_cases last : ids = []
    · simp [last, maxId]
    have later := ih last
    rcases Nat.le_total first (maxId ids) with less | more
    · rw [maxId, foldr_cons, ← maxId, Nat.max_eq_right less]
      exact mem_cons_of_mem _ later
    · rw [maxId, foldr_cons, ← maxId, Nat.max_eq_left more]
      exact mem_cons_self

variable {m : MapManager}

theorem loadRow_inside {after : MapManager} {id : Nat} (loads : m.loadRow id = some after) :
    id < m.instanceIds.length ∧ after.instanceIds.length = m.instanceIds.length := by
  have ids : ∀ next, (if m.nextInstanceId = id then m.setNextInstanceId next
      else m).instanceIds = m.instanceIds := by
    intro next
    split <;> rfl
  obtain ⟨inside, rfl⟩ := setId_some_iff.mp loads
  rw [ids] at inside ⊢
  exact ⟨inside, length_set⟩

theorem loadResetTimes_inside {after : MapManager}
    (loads : m.loadResetTimes ids = some after) : ∀ id ∈ ids, id < m.instanceIds.length := by
  unfold loadResetTimes at loads
  induction ids generalizing m with
  | nil =>
    intro id listed
    cases listed
  | cons first ids ih =>
    rw [foldlM_cons] at loads
    obtain ⟨middle, row, rest⟩ := bind_eq_some_iff.mp loads
    obtain ⟨inside, length⟩ := loadRow_inside row
    intro id listed
    rcases mem_cons.mp listed with rfl | later
    · exact inside
    · rw [← length]
      exact ih rest id later

/-- A row above all others registers its id, and moves the cursor off it. -/
theorem loadRow_kept {live : Finset Nat} {id : Nat} (kept : Kept ⟨m, live⟩)
    (above : ∀ other ∈ live, other < id) (inside : id < m.instanceIds.length)
    (fits : m.instanceIds.length < 2 ^ 32) :
    ∃ after, m.loadRow id = some after ∧ after.instanceIds.length = m.instanceIds.length ∧
      Kept ⟨after, insert id live⟩ := by
  have id_fits : (id + 1) % 2 ^ 32 = id + 1 := Nat.mod_eq_of_lt (by omega)
  have loads : ∃ next, m.loadRow id = some ⟨m.instanceIds.set id true, m.capacity, next⟩ ∧
      LowestFree (insert id live) next := by
    obtain ⟨positive, free, below⟩ := kept.cursor
    unfold loadRow registerInstanceId
    rw [id_fits]
    split
    · rename_i here
      refine ⟨id + 1, setId_some_iff.mpr ⟨inside, rfl⟩, by omega, ?_, ?_⟩
      · rw [Finset.mem_insert]
        rintro (same | there)
        · omega
        · have := above _ there
          omega
      · intro other one before
        rw [Finset.mem_insert]
        by_cases same : other = id
        · exact Or.inl same
        · have lower : m.nextInstanceId = id := here
          exact Or.inr (below other one (by show other < m.nextInstanceId; omega))
    · rename_i elsewhere
      refine ⟨m.nextInstanceId, setId_some_iff.mpr ⟨inside, rfl⟩, positive, ?_, ?_⟩
      · rw [Finset.mem_insert]
        rintro (same | there)
        · exact elsewhere same
        · exact free there
      · intro other one before
        exact Finset.mem_insert_of_mem (below other one before)
  obtain ⟨next, row, cursor⟩ := loads
  refine ⟨_, row, length_set, ?_⟩
  constructor
  · intro other
    show (MapManager.IsSet { m with instanceIds := _ }) other ↔ _
    rw [set_isSet inside, Finset.mem_insert]
    have was := kept.bits other
    by_cases here : other = id
    · simp [here]
    · rw [if_neg here]
      simpa [here] using was
  · exact cursor
  · show (List.set _ _ _).length ≤ _
    rw [length_set]
    exact kept.room
  · show (List.set _ _ _).length = 0 → _
    rw [length_set]
    exact kept.unallocated

theorem loadResetTimes_kept {live : Finset Nat} (kept : Kept ⟨m, live⟩)
    (ascending : ids.Pairwise (· < ·)) (above : ∀ other ∈ live, ∀ id ∈ ids, other < id)
    (inside : ∀ id ∈ ids, id < m.instanceIds.length) (fits : m.instanceIds.length < 2 ^ 32) :
    ∃ after, m.loadResetTimes ids = some after ∧ Kept ⟨after, live ∪ ids.toFinset⟩ := by
  induction ids generalizing m live with
  | nil =>
    refine ⟨m, rfl, ?_⟩
    rw [toFinset_nil, Finset.union_empty]
    exact kept
  | cons first ids ih =>
    obtain ⟨before, ascending⟩ := pairwise_cons.mp ascending
    obtain ⟨middle, row, length, registered⟩ := loadRow_kept kept
      (fun other there => above other there first mem_cons_self)
      (inside first mem_cons_self) fits
    obtain ⟨after, rest, all⟩ := ih registered ascending
      (by
        intro other there id listed
        rcases Finset.mem_insert.mp there with rfl | old
        · exact before id listed
        · exact above other old id (mem_cons_of_mem _ listed))
      (fun id listed => length ▸ inside id (mem_cons_of_mem _ listed)) (length ▸ fits)
    refine ⟨after, ?_, ?_⟩
    · unfold loadResetTimes at rest ⊢
      rw [foldlM_cons, row]
      exact rest
    · rw [toFinset_cons, Finset.union_insert, ← Finset.insert_union]
      exact all

end MapManager

/-- The largest id of the database is none of the last ones and no multiple of 32. -/
def Loads (db : Database) : Prop :=
  db.ids = [] ∨ MapManager.maxId db.ids % 32 ≠ 0 ∧ MapManager.maxId db.ids + 32 < 2 ^ 32

theorem init_kept (a : Allocator) (ids : List Nat) :
    Kept ⟨MapManager.empty.initInstanceIds a ids, ∅⟩ := by
  have clear : (MapManager.empty.setNextInstanceId 1).instanceIds.length ≤
      roundUp (MapManager.maxId ids) := Nat.zero_le _
  constructor
  · intro id
    show (MapManager.resize a _ _).IsSet id ↔ _
    rw [MapManager.resize_isSet clear]
    simp [MapManager.IsSet, MapManager.empty]
  · exact ⟨Nat.le_refl 1, Finset.notMem_empty _, fun id one less => by
      have : id < 1 := less
      omega⟩
  · show (MapManager.resize a _ _).instanceIds.length ≤ _
    rw [MapManager.resize_length clear]
    exact MapManager.resize_capacity _
  · show (MapManager.resize a _ _).instanceIds.length = 0 → (if _ ≤ 0 then 0 else _) = 0
    rw [MapManager.resize_length clear]
    intro none_
    rw [none_]
    rfl

theorem init_length (a : Allocator) (ids : List Nat) :
    (MapManager.empty.initInstanceIds a ids).instanceIds.length = roundUp (MapManager.maxId ids) :=
  MapManager.resize_length (Nat.zero_le _)

theorem lt_roundUp_iff {n : Nat} (fits : n < 2 ^ 32) :
    n < roundUp n ↔ n % 32 ≠ 0 ∧ n + 32 < 2 ^ 32 := by
  unfold roundUp
  split <;> omega

theorem load_kept (a : Allocator) {db : Database} (loads : Loads db) :
    ∃ m, MapManager.load a db = some m ∧ Kept ⟨m, db.ids.toFinset⟩ := by
  have inside : ∀ id ∈ db.ids, id < roundUp (MapManager.maxId db.ids) := by
    intro id listed
    rcases loads with none_ | last
    · rw [none_] at listed
      cases listed
    · have fits : MapManager.maxId db.ids < 2 ^ 32 := by omega
      exact Nat.lt_of_le_of_lt (MapManager.le_maxId listed) ((lt_roundUp_iff fits).mpr last)
  obtain ⟨m, loaded, kept⟩ := MapManager.loadResetTimes_kept (init_kept a db.ids) db.ascending
    (fun _ there => absurd there (Finset.notMem_empty _)) (by rw [init_length]; exact inside)
    (by rw [init_length]; exact Nat.mod_lt _ (by decide))
  rw [Finset.empty_union] at kept
  exact ⟨m, loaded, kept⟩

theorem loads_of_load {a : Allocator} {db : Database} {m : MapManager}
    (loaded : MapManager.load a db = some m) : Loads db := by
  by_cases none_ : db.ids = []
  · exact Or.inl none_
  right
  have last := MapManager.maxId_mem none_
  have inside := MapManager.loadResetTimes_inside loaded _ last
  rw [init_length] at inside
  exact (lt_roundUp_iff (db.bounded _ last)).mp inside

def FreesLive (a : Allocator) (db : Database) (calls : List Call) : Prop :=
  ∀ m, MapManager.load a db = some m →
    ∀ t ∈ Run.trace (Server.step a) ⟨m, db.ids.toFinset⟩ calls,
      ∀ id, t.input = .freeInstanceId id → id ∈ t.before.live

/-- The state before every call of a run meets a condition. -/
def Throughout (a : Allocator) (db : Database) (calls : List Call)
    (holds : Server → Call → Prop) : Prop :=
  ∀ m, MapManager.load a db = some m →
    ∀ t ∈ Run.trace (Server.step a) ⟨m, db.ids.toFinset⟩ calls, holds t.before t.input

/-- While the vector is small, ids are handed out as they should be exactly where the database loads
and each call is plain. -/
theorem instance_ids_iff (a : Allocator) (db : Database) (calls : List Call)
    (frees : FreesLive a db calls) :
    (Loads db → Throughout a db calls (fun s call => Small s ∧ Plain s call) → Sound a db calls) ∧
    (Throughout a db calls (fun s _ => Small s) → Sound a db calls →
      Loads db ∧ Throughout a db calls Plain) := by
  have exact_ : Throughout a db calls (fun s _ => Small s) →
      ∀ m, MapManager.load a db = some m → Loads db →
        ((∀ t ∈ Run.trace (Server.step a) ⟨m, db.ids.toFinset⟩ calls, Handed t) ↔
          ∀ t ∈ Run.trace (Server.step a) ⟨m, db.ids.toFinset⟩ calls, Plain t.before t.input) := by
    intro small m loaded loads
    obtain ⟨m', loaded', kept⟩ := load_kept a loads
    obtain rfl := some.inj (loaded.symm.trans loaded')
    apply Run.good_iff_within (Server.step a)
      (fun s call => Small s ∧ ∀ id, call = .freeInstanceId id → id ∈ s.live) Plain Kept Handed
      (fun s call kept within => handed_iff a kept within.1 within.2)
      (fun s call kept within plain => kept_step a kept within.1 within.2 plain) _ kept
    exact fun t there => ⟨small m loaded t there, frees m loaded t there⟩
  constructor
  · intro loads all
    obtain ⟨m, loaded, kept⟩ := load_kept a loads
    refine ⟨m, loaded, kept.cursor, ?_⟩
    exact (exact_ (fun m loaded t there => (all m loaded t there).1) m loaded loads).mpr
      fun t there => (all m loaded t there).2
  · rintro small ⟨m, loaded, _, handed⟩
    have loads := loads_of_load loaded
    refine ⟨loads, fun m' loaded' => ?_⟩
    obtain rfl := some.inj (loaded.symm.trans loaded')
    exact (exact_ small m loaded loads).mp handed

/-- Memory in words of 64 bits, at least twice as much as before. -/
def Allocator.words : Allocator where
  capacityFor capacity size := (max (2 * capacity) size + 63) / 64 * 64
  enough := by
    intro capacity size
    have := Nat.le_max_right (2 * capacity) size
    omega

def Database.single (id : Nat) (bounded : id < 2 ^ 32) : Database where
  ids := [id]
  ascending := List.pairwise_singleton _ _
  bounded := by simpa using bounded

theorem instance_ids_iff_five :
    Sound .words (.single 5 (by decide)) [.generateInstanceId, .freeInstanceId 1] := by
  have loaded : MapManager.load .words (.single 5 (by decide)) =
      some ⟨(List.replicate 32 false).set 5 true, 64, 1⟩ := by decide
  have frees : FreesLive .words (.single 5 (by decide)) [.generateInstanceId, .freeInstanceId 1] := by
    intro m loaded' t there id input
    obtain rfl := some.inj (loaded.symm.trans loaded')
    simp only [Run.trace, mem_cons, not_mem_nil, or_false] at there
    rcases there with rfl | rfl
    · cases input
    · obtain rfl := Call.freeInstanceId.inj input
      decide
  apply (instance_ids_iff .words _ _ frees).1
  · right
    decide
  · intro m loaded' t there
    obtain rfl := some.inj (loaded.symm.trans loaded')
    simp only [Run.trace, mem_cons, not_mem_nil, or_false] at there
    rcases there with rfl | rfl
    · refine ⟨by show 64 + 33 < 2 ^ 32; decide, ?_⟩
      rintro ⟨cursor, _⟩
      exact absurd cursor (by decide)
    refine ⟨?_, fun zero => by cases zero⟩
    unfold Small
    decide

/-- A database with the one id 32 is loaded into a vector of 32 bits, and a fresh server has no bit for
its 64th id. -/
theorem last_bit_missing :
    ¬ Sound .words (.single 32 (by decide)) [] ∧
      ¬ Sound .words ⟨[], .nil, nofun⟩ (List.replicate 64 .generateInstanceId) := by
  constructor
  · rintro ⟨m, loaded, _⟩
    have fails : MapManager.load .words (.single 32 (by decide)) = none := by decide
    rw [fails] at loaded
    cases loaded
  · rintro ⟨m, loaded, _, handed⟩
    have starts : MapManager.load .words ⟨[], .nil, nofun⟩ = some ⟨[], 0, 1⟩ := by decide
    obtain rfl := some.inj (starts.symm.trans loaded)
    have outOfRange : Answer.outOfRange ∈ (Run.trace (Server.step .words) ⟨⟨[], 0, 1⟩, ∅⟩
        (List.replicate 64 .generateInstanceId)).map (·.out) := by decide +kernel
    obtain ⟨t, there, out⟩ := mem_map.mp outOfRange
    exact (handed t there).1 out

end OpenWoW.Instances
