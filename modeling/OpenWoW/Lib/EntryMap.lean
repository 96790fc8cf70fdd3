import Mathlib.Data.List.AList

/-! Maps whose entries are gone over one by one, and the tables that a transaction brings into
line with them: each statement touches the row of its own key, and one that is refused undoes
the whole. -/
namespace EntryMap

open List Function

variable {κ β ρ σ : Type}

/-- A finite map with values of one type. -/
abbrev Map (κ β : Type) := AList fun _ : κ => β

def rewriteEntry (f : κ → β → Option β) (entry : Sigma fun _ : κ => β) :
    Option (Sigma fun _ : κ => β) :=
  (f entry.1 entry.2).map fun b => ⟨entry.1, b⟩

theorem mem_filterMap_rewriteEntry (f : κ → β → Option β) (entries : List (Sigma fun _ : κ => β))
    (k : κ) (b : β) : (⟨k, b⟩ : Sigma fun _ : κ => β) ∈ entries.filterMap (rewriteEntry f) ↔
      ∃ was, (⟨k, was⟩ : Sigma fun _ : κ => β) ∈ entries ∧ f k was = some b := by
  rw [mem_filterMap]
  constructor
  · intro ⟨⟨k', was⟩, there, became⟩
    obtain ⟨b', value, same⟩ := Option.map_eq_some_iff.mp became
    cases same
    exact ⟨was, there, value⟩
  · intro ⟨was, there, value⟩
    exact ⟨⟨k, was⟩, there, by simp [rewriteEntry, value]⟩

theorem keys_filterMap_rewriteEntry (f : κ → β → Option β) (entries : List (Sigma fun _ : κ => β)) :
    ((entries.filterMap (rewriteEntry f)).map Sigma.fst).Sublist (entries.map Sigma.fst) := by
  induction entries with
  | nil => exact List.Sublist.refl _
  | cons entry entries ih =>
    rw [filterMap_cons]
    split
    · next dropped => exact ih.cons _
    next kept became =>
    obtain ⟨b, _, same⟩ := Option.map_eq_some_iff.mp became
    rw [map_cons, map_cons, ← same]
    exact ih.cons_cons _

def rewrite (f : κ → β → Option β) (map : Map κ β) : Map κ β where
  entries := map.entries.filterMap (rewriteEntry f)
  nodupKeys := List.Nodup.sublist (keys_filterMap_rewriteEntry f map.entries) map.nodupKeys

variable [DecidableEq κ]

theorem lookup_insert (map : Map κ β) (k : κ) (b : β) (key : κ) :
    (map.insert k b).lookup key = if key = k then some b else map.lookup key := by
  by_cases same : key = k
  · rw [if_pos same, same]
    exact AList.lookup_insert map
  · rw [if_neg same]
    exact AList.lookup_insert_ne same

theorem lookup_erase (map : Map κ β) (k key : κ) :
    (map.erase k).lookup key = if key = k then none else map.lookup key := by
  by_cases same : key = k
  · rw [if_pos same, same]
    exact AList.lookup_erase k map
  · rw [if_neg same]
    exact AList.lookup_erase_ne same

theorem lookup_rewrite (f : κ → β → Option β) (map : Map κ β) (k : κ) :
    (rewrite f map).lookup k = (map.lookup k).bind (f k) := by
  ext b
  rw [← Option.mem_def, AList.mem_lookup_iff]
  show _ ∈ map.entries.filterMap (rewriteEntry f) ↔ _
  rw [mem_filterMap_rewriteEntry, Option.bind_eq_some_iff]
  apply exists_congr
  intro was
  rw [← AList.mem_lookup_iff]
  exact Iff.rfl

section

variable (key : σ → κ) (act : σ → Option ρ → Option (Option ρ))

def execute (rows : κ → Option ρ) (statement : σ) : Option (κ → Option ρ) :=
  (act statement (rows (key statement))).map (Function.update rows (key statement))

def commit (statements : List σ) (rows : κ → Option ρ) : κ → Option ρ :=
  (statements.foldlM (execute key act) rows).getD rows

theorem foldlM_execute_one (k : κ) {statements : List σ} (own : ∀ s ∈ statements, key s = k)
    (rows : κ → Option ρ) :
    statements.foldlM (execute key act) rows =
      (statements.foldlM (fun row s => act s row) (rows k)).map (Function.update rows k) := by
  induction statements generalizing rows with
  | nil =>
    show some rows = some (Function.update rows k (rows k))
    rw [update_eq_self]
  | cons s rest ih =>
    have here : key s = k := own s mem_cons_self
    rw [foldlM_cons, foldlM_cons, execute, here]
    cases acted : act s (rows k) with
    | none => rfl
    | some row =>
      show rest.foldlM (execute key act) (Function.update rows k row) =
        (rest.foldlM (fun row s => act s row) row).map (Function.update rows k)
      rw [ih (fun s later => own s (mem_cons_of_mem _ later)), update_self]
      rw [show Function.update (Function.update rows k row) k = Function.update rows k from
        funext fun _ => update_idem _ _ _]

variable (statements : κ → β → List σ) (result : κ → β → Option ρ)

theorem foldlM_execute_entries (own : ∀ k b, ∀ s ∈ statements k b, key s = k)
    (entries : List (Sigma fun _ : κ => β)) (distinct : entries.NodupKeys) (rows : κ → Option ρ)
    (done : ∀ entry ∈ entries, (statements entry.1 entry.2).foldlM (fun row s => act s row)
      (rows entry.1) = some (result entry.1 entry.2)) :
    (entries.flatMap fun entry => statements entry.1 entry.2).foldlM (execute key act) rows =
      some fun k => match entries.dlookup k with
        | none => rows k
        | some b => result k b := by
  induction entries generalizing rows with
  | nil => rfl
  | cons entry entries ih =>
    obtain ⟨k, b⟩ := entry
    have apart : k ∉ entries.keys := (nodupKeys_cons.mp distinct).1
    have first := foldlM_execute_one key act k (own k b) rows
    rw [done ⟨k, b⟩ mem_cons_self] at first
    rw [flatMap_cons, foldlM_append, first]
    show ((entries.flatMap fun entry => statements entry.1 entry.2).foldlM (execute key act)
      (Function.update rows k (result k b))) = _
    rw [ih (nodupKeys_cons.mp distinct).2]
    · congr 1
      funext other
      by_cases same : other = k
      · subst same
        rw [dlookup_cons_eq, dlookup_eq_none.mpr apart, update_self]
      rw [dlookup_cons_ne _ _ same]
      cases entries.dlookup other with
      | none => exact update_of_ne same _ _
      | some b' => rfl
    · intro entry there
      have other : entry.1 ≠ k := by
        intro same
        apply apart
        rw [← same]
        exact mem_keys_of_mem there
      rw [update_of_ne other]
      exact done entry (mem_cons_of_mem _ there)

theorem commit_entries (own : ∀ k b, ∀ s ∈ statements k b, key s = k) (map : Map κ β)
    (rows : κ → Option ρ)
    (done : ∀ k b, map.lookup k = some b →
      (statements k b).foldlM (fun row s => act s row) (rows k) = some (result k b)) (k : κ) :
    commit key act (map.entries.flatMap fun entry => statements entry.1 entry.2) rows k =
      match map.lookup k with
      | none => rows k
      | some b => result k b := by
  have executed := foldlM_execute_entries key act statements result own map.entries map.nodupKeys
    rows (fun entry there => done entry.1 entry.2 (AList.mem_lookup_iff.mpr there))
  rw [commit, executed]
  rfl

end

end EntryMap
