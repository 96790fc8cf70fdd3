import Mathlib.Data.List.Infix

/-! Searching a text for a symbol or a pattern, and replacing the part between two places. -/
namespace Search

open List

section

variable {α : Type} [DecidableEq α]

/-- The first place of a symbol from a start on. -/
def find (c : α) (l : List α) (start : Nat) : Option Nat :=
  ((l.drop start).findIdx? fun a => a = c).map (start + ·)

/-- The first place of a pattern. -/
def findSub (pattern : List α) : List α → Option Nat
  | [] => if pattern = [] then some 0 else none
  | c :: l => if pattern.isPrefixOf (c :: l) then some 0 else (findSub pattern l).map (· + 1)

theorem find_bounds {c : α} {l : List α} {start place : Nat}
    (found : find c l start = some place) : start ≤ place ∧ place < l.length := by
  obtain ⟨i, here, same⟩ := Option.map_eq_some_iff.mp found
  have inside := (findIdx?_eq_some_iff_findIdx_eq.mp here).1
  rw [length_drop] at inside
  omega

theorem find_at (c : α) (before text after : List α) (free : c ∉ text) :
    find c (before ++ (text ++ c :: after)) before.length = some (before.length + text.length) := by
  have first : (text ++ c :: after).findIdx? (fun a => a = c) = some text.length := by
    rw [findIdx?_append, findIdx?_eq_none_iff.mpr fun a there => by
      simpa using ne_of_mem_of_not_mem there free]
    simp [findIdx?_cons]
  unfold find
  rw [drop_left, first]
  rfl

theorem find_end (c : α) (l : List α) {start : Nat} (over_ : l.length ≤ start) :
    find c l start = none := by
  unfold find
  rw [drop_eq_nil_of_le over_]
  rfl

theorem findSub_last (c : α) {before pattern : List α} (after : List α) (free : c ∉ before)
    (word : c ∉ pattern) :
    findSub (pattern ++ [c]) (before ++ (pattern ++ [c] ++ after)) = some before.length := by
  induction before with
  | nil =>
    have starts : (pattern ++ [c]).isPrefixOf (pattern ++ [c] ++ after) = true :=
      isPrefixOf_iff_prefix.mpr (List.prefix_append _ _)
    rw [nil_append]
    cases text : pattern ++ [c] ++ after with
    | nil => simp at text
    | cons a l =>
      rw [text] at starts
      rw [findSub, if_pos starts]
      rfl
  | cons a before ih =>
    have fails : ¬(pattern ++ [c]).isPrefixOf
        (a :: (before ++ (pattern ++ [c] ++ after))) = true := by
      intro starts
      -- the last symbol of the pattern would lie before its first place
      obtain ⟨rest, same⟩ := isPrefixOf_iff_prefix.mp starts
      have here := congrArg (fun l => l[pattern.length]?) same
      have last : (pattern ++ [c] ++ rest)[pattern.length]? = some c := by simp
      have early : c ∈ (a :: before) ++ pattern := by
        have split : a :: (before ++ (pattern ++ [c] ++ after)) =
            (a :: before) ++ pattern ++ ([c] ++ after) := by simp
        rw [last, split, getElem?_append_left (by simp only [length_append, length_cons]; omega)] at here
        exact mem_of_getElem? here.symm
      rcases mem_append.mp early with early | inside
      · exact free early
      · exact word inside
    rw [cons_append, findSub, if_neg fails, ih (not_mem_of_not_mem_cons free)]
    rfl

end

/-- The part between two places gives way to another text. -/
def replaceAt {α : Type} (l : List α) (first last : Nat) (text : List α) : List α :=
  l.take first ++ text ++ l.drop last

theorem replaceAt_between {α : Type} (before text after new : List α) :
    replaceAt (before ++ (text ++ after)) before.length (before.length + text.length) new =
      before ++ (new ++ after) := by
  unfold replaceAt
  rw [take_left, ← length_append, ← List.append_assoc before text, drop_left, List.append_assoc]

end Search
