import Mathlib.Data.List.Nodup
import Mathlib.Data.List.Perm.Basic
import Mathlib.Data.List.Range

/-! Ids that are given out again once they are free: a running maximum, and a list of the free ids below
it. An id is a number below `m`, and the maximum wraps. -/

structure IdPool where
  max : Nat
  free : List Nat
  deriving DecidableEq, Repr

namespace IdPool

open List

variable (m : Nat)

/-- The first free id, or the one above the maximum. -/
def take (pool : IdPool) : Nat × IdPool :=
  match pool.free with
  | [] => ((pool.max + 1) % m, { pool with max := (pool.max + 1) % m })
  | id :: free => (id, { pool with free := free })

def give (pool : IdPool) (id : Nat) : IdPool :=
  if id = pool.max then { pool with max := (pool.max + m - 1) % m }
  else { pool with free := pool.free ++ [id] }

/-- The pool for ids that are in use already. -/
def load (ids : List Nat) : IdPool :=
  let max := ids.foldl Nat.max 0
  ⟨max, (List.range' 1 (max - 1)).filter (· ∉ ids)⟩

/-- The live ids are distinct, no id is free twice or free and live, and zero is neither. -/
structure Sound (pool : IdPool) (live : List Nat) : Prop where
  live_nodup : live.Nodup
  free_nodup : pool.free.Nodup
  apart : ∀ id ∈ pool.free, id ∉ live
  live_range : ∀ id ∈ live, 0 < id ∧ id ≤ pool.max
  free_range : ∀ id ∈ pool.free, 0 < id ∧ id ≤ pool.max
  max_lt : pool.max < m

/-- So many ids can be taken before the maximum wraps. -/
def HasRoom (pool : IdPool) (count : Nat) : Prop := pool.max + (count - pool.free.length) < m

/-- An id that was given out, but is not live. -/
def Lost (pool : IdPool) (live : List Nat) (id : Nat) : Prop :=
  0 < id ∧ id ≤ pool.max ∧ id ∉ live ∧ id ∉ pool.free

instance decidableHasRoom (pool : IdPool) (count : Nat) : Decidable (pool.HasRoom m count) :=
  inferInstanceAs (Decidable (_ < _))

instance decidableLost (pool : IdPool) (live : List Nat) (id : Nat) : Decidable (pool.Lost live id) :=
  inferInstanceAs (Decidable (_ ∧ _ ∧ _ ∧ _))

variable {m} {pool : IdPool} {live : List Nat}

theorem Sound.mono (sound : pool.Sound m live) {others : List Nat} (fewer : others ⊆ live)
    (nodup : others.Nodup) : pool.Sound m others where
  live_nodup := nodup
  free_nodup := sound.free_nodup
  apart id free there := sound.apart id free (fewer there)
  live_range id there := sound.live_range id (fewer there)
  free_range := sound.free_range
  max_lt := sound.max_lt

theorem Sound.perm (sound : pool.Sound m live) {others : List Nat} (perm : others.Perm live) :
    pool.Sound m others :=
  sound.mono perm.subset (perm.nodup_iff.mpr sound.live_nodup)

theorem Sound.tail {id : Nat} (sound : pool.Sound m (id :: live)) : pool.Sound m live :=
  sound.mono (subset_cons_self id live) (nodup_cons.mp sound.live_nodup).2

theorem Sound.claim (sound : pool.Sound m live) {id : Nat} (lost : pool.Lost live id) :
    pool.Sound m (id :: live) := by
  obtain ⟨some, within, unused, taken⟩ := lost
  refine ⟨nodup_cons.mpr ⟨unused, sound.live_nodup⟩, sound.free_nodup, ?_, ?_,
    sound.free_range, sound.max_lt⟩
  · intro other free there
    rcases mem_cons.mp there with rfl | old
    · exact taken free
    · exact sound.apart other free old
  · intro other there
    rcases mem_cons.mp there with rfl | old
    · exact ⟨some, within⟩
    · exact sound.live_range other old

theorem Sound.take (sound : pool.Sound m live) {count : Nat} (room : pool.HasRoom m (count + 1)) :
    (pool.take m).2.Sound m ((pool.take m).1 :: live) := by
  unfold IdPool.take
  cases free : pool.free with
  | nil =>
    have small : pool.max + 1 < m := by
      unfold HasRoom at room
      rw [free, length_nil] at room
      omega
    have id_eq : (pool.max + 1) % m = pool.max + 1 := Nat.mod_eq_of_lt small
    simp only [id_eq]
    refine ⟨nodup_cons.mpr ⟨?_, sound.live_nodup⟩, ?_, ?_, ?_, ?_, small⟩
    · intro there
      have within := (sound.live_range _ there).2
      omega
    · exact nodup_nil
    · exact fun id none => absurd none not_mem_nil
    · intro id there
      rcases mem_cons.mp there with rfl | old
      · exact ⟨Nat.succ_pos _, le_rfl⟩
      · exact ⟨(sound.live_range id old).1, Nat.le_succ_of_le (sound.live_range id old).2⟩
    · exact fun id none => absurd none not_mem_nil
  | cons id rest =>
    have nodup := sound.free_nodup
    rw [free, nodup_cons] at nodup
    have here : id ∈ pool.free := free ▸ mem_cons_self
    have later (other : Nat) (there : other ∈ rest) : other ∈ pool.free :=
      free ▸ mem_cons_of_mem id there
    refine ⟨nodup_cons.mpr ⟨sound.apart id here, sound.live_nodup⟩, nodup.2, ?_, ?_, ?_,
      sound.max_lt⟩
    · intro other there live
      rcases mem_cons.mp live with rfl | old
      · exact nodup.1 there
      · exact sound.apart other (later other there) old
    · intro other there
      rcases mem_cons.mp there with rfl | old
      · exact sound.free_range other here
      · exact sound.live_range other old
    · exact fun other there => sound.free_range other (later other there)

theorem HasRoom.take {count : Nat} (room : pool.HasRoom m (count + 1)) :
    (pool.take m).2.HasRoom m count := by
  unfold IdPool.take
  unfold HasRoom at room
  cases free : pool.free with
  | nil =>
    rw [free, length_nil] at room
    simp only [HasRoom, length_nil]
    rw [Nat.mod_eq_of_lt (by omega)]
    omega
  | cons id rest =>
    rw [free, length_cons] at room
    simp only [HasRoom]
    omega

theorem Sound.give {id : Nat} (sound : pool.Sound m (id :: live)) : (pool.give m id).Sound m live := by
  have range := sound.live_range id mem_cons_self
  have nodup := nodup_cons.mp sound.live_nodup
  have taken : id ∉ pool.free := fun free => sound.apart id free mem_cons_self
  have max_lt := sound.max_lt
  unfold IdPool.give
  split
  · rename_i last
    have max_eq : (pool.max + m - 1) % m = pool.max - 1 := by
      rw [show pool.max + m - 1 = pool.max - 1 + m by omega, Nat.add_mod_right,
        Nat.mod_eq_of_lt (by omega)]
    have below (other : Nat) (within : other ≤ pool.max) (different : other ≠ id) :
        other ≤ pool.max - 1 := by omega
    refine ⟨nodup.2, sound.free_nodup, ?_, ?_, ?_, ?_⟩
    · exact fun other free there => sound.apart other free (mem_cons_of_mem id there)
    · intro other there
      have range := sound.live_range other (mem_cons_of_mem id there)
      simp only [max_eq]
      exact ⟨range.1, below other range.2 fun same => nodup.1 (same ▸ there)⟩
    · intro other there
      have range := sound.free_range other there
      simp only [max_eq]
      exact ⟨range.1, below other range.2 fun same => taken (same ▸ there)⟩
    · simp only [max_eq]
      omega
  · refine ⟨nodup.2, ?_, ?_, sound.tail.live_range, ?_, max_lt⟩
    · exact nodup_append'.mpr ⟨sound.free_nodup, nodup_singleton id,
        disjoint_singleton.mpr taken⟩
    · intro other free there
      rcases mem_append.mp free with old | new
      · exact sound.apart other old (mem_cons_of_mem id there)
      · rw [mem_singleton.mp new] at there
        exact nodup.1 there
    · intro other free
      rcases mem_append.mp free with old | new
      · exact sound.free_range other old
      · rw [mem_singleton.mp new]
        exact range

theorem Sound.giveAll {ids : List Nat} (sound : pool.Sound m (ids ++ live)) :
    (ids.foldl (IdPool.give m) pool).Sound m live := by
  induction ids generalizing pool with
  | nil => exact sound
  | cons id ids ih => exact ih sound.give

theorem le_foldl_max (ids : List Nat) (start : Nat) :
    start ≤ ids.foldl Nat.max start ∧ ∀ id ∈ ids, id ≤ ids.foldl Nat.max start := by
  induction ids generalizing start with
  | nil => exact ⟨le_rfl, fun id none => absurd none not_mem_nil⟩
  | cons id ids ih =>
    obtain ⟨least, all⟩ := ih (Nat.max start id)
    refine ⟨le_trans (Nat.le_max_left start id) least, fun other there => ?_⟩
    rcases mem_cons.mp there with rfl | later
    · exact le_trans (Nat.le_max_right start other) least
    · exact all other later

theorem foldl_max_lt {ids : List Nat} {start : Nat} (small : start < m) (all : ∀ id ∈ ids, id < m) :
    ids.foldl Nat.max start < m := by
  induction ids generalizing start with
  | nil => exact small
  | cons id ids ih =>
    rw [forall_mem_cons] at all
    exact ih (max_lt small all.1) all.2

theorem load_sound {ids : List Nat} (some : 0 < m) (nodup : ids.Nodup)
    (range : ∀ id ∈ ids, 0 < id ∧ id < m) : (load ids).Sound m ids where
  live_nodup := nodup
  free_nodup := (nodup_range' ..).filter _
  apart id free there := of_decide_eq_true (mem_filter.mp free).2 there
  live_range id there := ⟨(range id there).1, (le_foldl_max ids 0).2 id there⟩
  free_range id free := by
    obtain ⟨some, less⟩ := mem_range'_1.mp (mem_filter.mp free).1
    change 0 < id ∧ id ≤ ids.foldl Nat.max 0
    omega
  max_lt := foldl_max_lt some fun id there => (range id there).2

end IdPool
