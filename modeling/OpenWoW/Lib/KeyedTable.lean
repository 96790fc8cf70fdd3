import Mathlib.Data.List.Nodup
import Mathlib.Data.List.Perm.Basic

/-- A database table whose rows are told apart by a primary key. -/
structure KeyedTable {ρ κ : Type} (key : ρ → κ) where
  rows : List ρ
  distinct : (rows.map key).Nodup

namespace KeyedTable

open List

variable {ρ κ : Type} {key : ρ → κ}

def empty (key : ρ → κ) : KeyedTable key := ⟨[], List.nodup_nil⟩

instance : Membership ρ (KeyedTable key) := ⟨fun table row => row ∈ table.rows⟩

variable {table : KeyedTable key}

theorem mem_rows {row : ρ} : row ∈ table.rows ↔ row ∈ table := Iff.rfl

@[simp] theorem notMem_empty (row : ρ) : row ∉ empty key := not_mem_nil

theorem eq_of_key {row other : ρ} (mem : row ∈ table)
    (there : other ∈ table) (same : key row = key other) : row = other :=
  inj_on_of_nodup_map table.distinct mem there same

/-- `DELETE FROM table WHERE p`. -/
def delete (table : KeyedTable key) (p : ρ → Bool) : KeyedTable key :=
  ⟨table.rows.filter fun row => !p row, table.distinct.sublist (List.filter_sublist.map key)⟩

@[simp] theorem mem_delete {p : ρ → Bool} {row : ρ} :
    row ∈ table.delete p ↔ row ∈ table ∧ p row = false := by
  change row ∈ table.rows.filter _ ↔ _
  rw [mem_filter, mem_rows, Bool.not_eq_true']

variable [DecidableEq κ]

/-- `REPLACE INTO table VALUES row`. -/
def replace (table : KeyedTable key) (row : ρ) : KeyedTable key where
  rows := row :: table.rows.filter fun other => key other ≠ key row
  distinct := by
    rw [List.map_cons, List.nodup_cons]
    refine ⟨?_, table.distinct.sublist (List.filter_sublist.map key)⟩
    rw [List.mem_map]
    rintro ⟨other, mem, same⟩
    exact of_decide_eq_true (List.mem_filter.mp mem).2 same

@[simp] theorem mem_replace {row other : ρ} :
    other ∈ table.replace row ↔ other = row ∨ other ∈ table ∧ key other ≠ key row := by
  change other ∈ row :: table.rows.filter _ ↔ _
  rw [mem_cons, mem_filter, mem_rows, decide_eq_true_iff]

def replaceAll (table : KeyedTable key) (rows : List ρ) : KeyedTable key := rows.foldl replace table

theorem mem_replaceAll {rows : List ρ} (distinct : (rows.map key).Nodup)
    {row : ρ} : row ∈ table.replaceAll rows ↔
      row ∈ rows ∨ row ∈ table ∧ ∀ other ∈ rows, key row ≠ key other := by
  unfold replaceAll
  induction rows generalizing table with
  | nil => simp
  | cons first rest ih =>
    rw [map_cons, nodup_cons] at distinct
    rw [foldl_cons, ih distinct.2, mem_replace, mem_cons, forall_mem_cons]
    have apart : row = first → ∀ other ∈ rest, key row ≠ key other := by
      rintro rfl other there same
      exact distinct.1 (same ▸ mem_map_of_mem there)
    constructor
    · rintro (there | ⟨rfl | ⟨old, differs⟩, others⟩)
      · exact Or.inl (Or.inr there)
      · exact Or.inl (Or.inl rfl)
      · exact Or.inr ⟨old, differs, others⟩
    · rintro ((isFirst | there) | ⟨old, differs, others⟩)
      · exact Or.inr ⟨Or.inl isFirst, apart isFirst⟩
      · exact Or.inl there
      · exact Or.inr ⟨Or.inr ⟨old, differs⟩, others⟩

end KeyedTable
