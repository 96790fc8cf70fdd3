import Mathlib

/-! Maps as lists of entries in the order of their keys, and how many entries pass a test
after an entry was inserted, set or erased. -/
namespace OrderedMap

open List

section

variable {κ β : Type}

def keys (map : List (κ × β)) : List κ := map.map (·.1)

/-- How many values pass a test. -/
def count (map : List (κ × β)) (p : β → Bool) : Nat := map.countP fun entry => p entry.2

@[simp] theorem keys_cons (entry : κ × β) (map : List (κ × β)) :
    keys (entry :: map) = entry.1 :: keys map := rfl

theorem count_cons (entry : κ × β) (map : List (κ × β)) (p : β → Bool) :
    count (entry :: map) p = count map p + if p entry.2 then 1 else 0 := countP_cons

variable [DecidableEq κ]

/-- An entry that is there is set. -/
def assign (map : List (κ × β)) (k : κ) (b : β) : List (κ × β) :=
  map.map fun entry => if entry.1 = k then (k, b) else entry

def erase (map : List (κ × β)) (k : κ) : List (κ × β) := map.filter fun entry => entry.1 ≠ k

def value? (map : List (κ × β)) (k : κ) : Option β :=
  (map.find? fun entry => entry.1 = k).map (·.2)

theorem value?_cons (entry : κ × β) (map : List (κ × β)) (k : κ) :
    value? (entry :: map) k = if entry.1 = k then some entry.2 else value? map k := by
  unfold value?
  by_cases same : entry.1 = k
  · rw [find?_cons_of_pos (by simpa using same), if_pos same]
    rfl
  · rw [find?_cons_of_neg (by simpa using same), if_neg same]

variable {map : List (κ × β)} {k : κ}

theorem mem_of_value? {b : β} (here : value? map k = some b) : (k, b) ∈ map := by
  induction map with
  | nil => cases here
  | cons entry map ih =>
    rw [value?_cons] at here
    split at here
    · rename_i same
      obtain rfl := Option.some.inj here
      rw [← same]
      exact mem_cons_self
    · exact mem_cons_of_mem entry (ih here)

theorem value?_eq_none : value? map k = none ↔ k ∉ keys map := by
  induction map with
  | nil => simp [value?, keys]
  | cons entry map ih =>
    rw [value?_cons, keys_cons, mem_cons, not_or, ← ih]
    by_cases same : entry.1 = k
    · simp [same]
    · simp [same, Ne.symm same]

@[simp] theorem keys_assign (map : List (κ × β)) (k : κ) (b : β) :
    keys (assign map k b) = keys map := by
  unfold keys assign
  rw [map_map]
  apply map_congr_left
  intro entry _
  by_cases same : entry.1 = k <;> simp [same]

@[simp] theorem length_assign (map : List (κ × β)) (k : κ) (b : β) :
    (assign map k b).length = map.length := length_map _

theorem assign_of_not_mem (b : β) (other : k ∉ keys map) : assign map k b = map := by
  conv_rhs => rw [← map_id map]
  apply map_congr_left
  intro entry there
  have apart : entry.1 ≠ k := fun same => other (same ▸ mem_map_of_mem there)
  rw [if_neg apart, id]

theorem value?_assign (map : List (κ × β)) (k : κ) (b : β) (key : κ) :
    value? (assign map k b) key =
      if k = key then (value? map k).map fun _ => b else value? map key := by
  induction map with
  | nil => simp [value?, assign]
  | cons entry map ih =>
    have first : assign (entry :: map) k b =
        (if entry.1 = k then (k, b) else entry) :: assign map k b := rfl
    rw [first, value?_cons, value?_cons, value?_cons, ih]
    by_cases same : entry.1 = k
    · rw [if_pos same, if_pos same, same]
      by_cases eq : k = key
      · simp [eq]
      · simp [eq]
    rw [if_neg same, if_neg same]
    by_cases eq : k = key
    · subst eq
      simp [same]
    · simp [eq]

theorem value?_of_mem (distinct : (keys map).Nodup) {entry : κ × β}
    (there : entry ∈ map) : value? map entry.1 = some entry.2 := by
  induction map with
  | nil => cases there
  | cons first map ih =>
    rw [keys_cons, nodup_cons] at distinct
    rw [value?_cons]
    rcases mem_cons.mp there with here | later
    · rw [if_pos (congrArg Prod.fst here).symm, here]
    have other : ¬ first.1 = entry.1 := fun same =>
      distinct.1 (same ▸ mem_map_of_mem later)
    rw [if_neg other]
    exact ih distinct.2 later

theorem erase_of_not_mem (other : k ∉ keys map) : erase map k = map := by
  apply filter_eq_self.mpr
  intro entry there
  have apart : entry.1 ≠ k := fun same => other (same ▸ mem_map_of_mem there)
  exact decide_eq_true apart

theorem mem_assign {b : β} {entry : κ × β}
    (mem : entry ∈ assign map k b) : entry = (k, b) ∨ (entry ∈ map ∧ entry.1 ≠ k) := by
  obtain ⟨was, there, rfl⟩ := mem_map.mp mem
  by_cases same : was.1 = k
  · exact .inl (if_pos same)
  · rw [if_neg same]
    exact .inr ⟨there, same⟩

theorem nodup_keys_erase (distinct : (keys map).Nodup) (k : κ) :
    (keys (erase map k)).Nodup :=
  distinct.sublist (filter_sublist.map _)

theorem value?_erase (map : List (κ × β)) (k : κ) : value? (erase map k) k = none := by
  rw [value?_eq_none]
  intro mem
  obtain ⟨entry, there, same⟩ := mem_map.mp mem
  have other := (mem_filter.mp there).2
  rw [decide_eq_true_eq] at other
  exact other same

section
variable {map : List (κ × β)} (distinct : (keys map).Nodup) {was : β}
  (here : value? map k = some was)
include distinct here

theorem count_assign (b : β) (p : β → Bool) :
    count (assign map k b) p + (if p was then 1 else 0) = count map p + (if p b then 1 else 0) := by
  induction map with
  | nil => cases here
  | cons entry map ih =>
    rw [keys_cons, nodup_cons] at distinct
    rw [value?_cons] at here
    by_cases same : entry.1 = k
    · rw [if_pos same] at here
      obtain rfl := Option.some.inj here
      have rest := assign_of_not_mem b (same ▸ distinct.1)
      have first : assign (entry :: map) k b = (k, b) :: assign map k b := by
        simp [assign, same]
      rw [first, rest, count_cons, count_cons]
      dsimp only
      omega
    · rw [if_neg same] at here
      have first : assign (entry :: map) k b = entry :: assign map k b := by
        simp [assign, same]
      have rest := ih distinct.2 here
      rw [first, count_cons, count_cons]
      omega

theorem count_erase (p : β → Bool) :
    count (erase map k) p + (if p was then 1 else 0) = count map p := by
  induction map with
  | nil => cases here
  | cons entry map ih =>
    rw [keys_cons, nodup_cons] at distinct
    rw [value?_cons] at here
    by_cases same : entry.1 = k
    · rw [if_pos same] at here
      obtain rfl := Option.some.inj here
      have first : erase (entry :: map) k = erase map k := by simp [erase, same]
      rw [first, erase_of_not_mem (same ▸ distinct.1), count_cons]
    rw [if_neg same] at here
    have first : erase (entry :: map) k = entry :: erase map k := by simp [erase, same]
    have rest := ih distinct.2 here
    rw [first, count_cons, count_cons]
    omega

theorem length_erase : (erase map k).length + 1 = map.length := by
  have less := count_erase distinct here (fun _ => true)
  simpa [count] using less

end

end

section

variable {κ β : Type} [LinearOrder κ]

/-- `map[k] = b`. -/
def insert (k : κ) (b : β) : List (κ × β) → List (κ × β)
  | [] => [(k, b)]
  | entry :: map =>
    if k < entry.1 then (k, b) :: entry :: map
    else if k = entry.1 then (k, b) :: map
    else entry :: insert k b map

/-- The keys are in order, each once. -/
def Ordered (map : List (κ × β)) : Prop := (keys map).Pairwise (· < ·)

instance (map : List (κ × β)) : Decidable (Ordered map) := inferInstanceAs (Decidable (List.Pairwise _ _))

variable {map : List (κ × β)}

theorem Ordered.nodup (ordered : Ordered map) : (keys map).Nodup :=
  ordered.imp ne_of_lt

theorem mem_keys_insert {k key : κ} {b : β}
    (mem : key ∈ keys (insert k b map)) : key = k ∨ key ∈ keys map := by
  induction map with
  | nil => exact .inl (mem_singleton.mp mem)
  | cons entry map ih =>
    unfold insert at mem
    split at mem
    · exact mem_cons.mp mem
    split at mem
    · exact (mem_cons.mp mem).imp_right (mem_cons_of_mem _)
    rcases mem_cons.mp mem with first | later
    · exact .inr (mem_cons.mpr (.inl first))
    · exact (ih later).imp_right (mem_cons_of_mem _)

theorem Ordered.insert (ordered : Ordered map) (k : κ) (b : β) : Ordered (insert k b map) := by
  induction map with
  | nil => exact pairwise_singleton _ _
  | cons entry map ih =>
    have ⟨before, rest⟩ := pairwise_cons.mp ordered
    unfold OrderedMap.insert
    split
    · rename_i less
      refine pairwise_cons.mpr ⟨fun key there => ?_, ordered⟩
      rcases mem_cons.mp there with rfl | later
      · exact less
      · exact lt_trans less (before key later)
    · rename_i notLess
      split
      · rename_i same
        exact pairwise_cons.mpr ⟨fun key there => same ▸ before key there, rest⟩
      rename_i apart
      refine pairwise_cons.mpr ⟨fun key there => ?_, ih rest⟩
      rcases mem_keys_insert there with rfl | later
      · exact lt_of_le_of_ne (not_lt.mp notLess) (Ne.symm apart)
      · exact before key later

theorem length_insert_of_mem (ordered : Ordered map) {k : κ} (b : β)
    (there : k ∈ keys map) : (insert k b map).length = map.length := by
  induction map with
  | nil => cases there
  | cons entry map ih =>
    have ⟨before, rest⟩ := pairwise_cons.mp ordered
    unfold insert
    split
    · rename_i less
      rcases mem_cons.mp there with rfl | later
      · exact absurd less (lt_irrefl _)
      · exact absurd (lt_trans less (before k later)) (lt_irrefl _)
    split
    · rfl
    rename_i apart
    rw [length_cons, length_cons, ih rest]
    exact (mem_cons.mp there).resolve_left apart

section
variable {k : κ} (b : β) (fresh : k ∉ keys map)
include b fresh

theorem insert_perm :
    (insert k b map).Perm ((k, b) :: map) := by
  induction map with
  | nil => exact List.Perm.refl _
  | cons entry map ih =>
    rw [keys_cons, mem_cons, not_or] at fresh
    unfold insert
    split
    · exact List.Perm.refl _
    · rw [if_neg fresh.1]
      exact ((ih fresh.2).cons entry).trans (List.Perm.swap _ _ _)

theorem keys_insert_perm :
    (keys (insert k b map)).Perm (k :: keys map) := (insert_perm b fresh).map _

theorem count_insert
    (p : β → Bool) : count (insert k b map) p = count map p + if p b then 1 else 0 := by
  unfold count
  rw [(insert_perm b fresh).countP_eq, countP_cons]

theorem length_insert :
    (insert k b map).length = map.length + 1 := (insert_perm b fresh).length_eq

end

end

end OrderedMap
