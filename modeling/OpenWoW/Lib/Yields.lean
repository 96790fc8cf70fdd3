import Mathlib.Tactic.SplitIfs
import Mathlib.Logic.Basic

/-! What holds of a computation's result, if it has one. -/

/-- Whatever the computation yields satisfies the postcondition. -/
structure Yields {α : Type} (post : α → Prop) (result : Option α) : Prop where
  holds : ∀ a, result = some a → post a

namespace Yields

variable {α β γ : Type} {post : β → Prop}

theorem some {b : β} (holds : post b) : Yields post (some b) where
  holds := by
    intro b' same
    cases same
    exact holds

theorem none : Yields post none where
  holds := by
    intro b absurdity
    cases absurdity

theorem mono {weaker : β → Prop} {result : Option β} (yields : Yields post result)
    (implies : ∀ b, post b → weaker b) : Yields weaker result where
  holds b same := implies b (yields.holds b same)

theorem bind {middle : α → Prop} {first : Option α} {next : α → Option β}
    (yields : Yields middle first) (onward : ∀ a, middle a → Yields post (next a)) :
    Yields post (first >>= next) where
  holds := by
    intro b result
    cases value : first with
    | none =>
      rw [value] at result
      cases result
    | some a =>
      rw [value] at result
      exact (onward a (yields.holds a value)).holds b result

theorem map {middle : α → Prop} {first : Option α} {f : α → β} (yields : Yields middle first)
    (onward : ∀ a, middle a → post (f a)) : Yields post (first.map f) where
  holds := by
    intro b result
    obtain ⟨a, value, same⟩ := Option.map_eq_some_iff.mp result
    rw [← same]
    exact onward a (yields.holds a value)

theorem ite {p : Prop} [Decidable p] {yes no : Option β} (whenTrue : p → Yields post yes)
    (whenFalse : ¬p → Yields post no) : Yields post (if p then yes else no) := by
  split_ifs with holds
  · exact whenTrue holds
  · exact whenFalse holds

theorem foldlM {turn : β → γ → Option β} (turns : List γ)
    (keeps : ∀ c ∈ turns, ∀ b, post b → Yields post (turn b c)) :
    ∀ b, post b → Yields post (turns.foldlM turn b) := by
  induction turns with
  | nil =>
    intro b holds
    exact some holds
  | cons c turns ih =>
    intro b holds
    rw [List.foldlM_cons]
    apply (keeps c List.mem_cons_self b holds).bind
    exact ih fun c' later => keeps c' (List.mem_cons_of_mem _ later)

end Yields
