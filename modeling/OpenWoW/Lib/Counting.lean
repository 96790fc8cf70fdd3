import Mathlib.Data.Finset.Card
import Mathlib.Data.List.Nodup

/-! Counting the elements of a list that pass a test, and what the change of one element does
to the count. -/
namespace Counting

open List

section

variable {α : Type} (p : α → Bool)

variable {as : List α}

theorem countP_split (q r : α → Bool) (split : ∀ a ∈ as, (p a).toNat = (q a).toNat + (r a).toNat) :
    as.countP p = as.countP q + as.countP r := by
  induction as with
  | nil => rfl
  | cons a as ih =>
    have rest := ih fun b later => split b (mem_cons_of_mem a later)
    have first := split a mem_cons_self
    simp only [countP_cons, rest]
    cases hp : p a <;> cases hq : q a <;> cases hr : r a <;>
      simp only [hp, hq, hr, Bool.toNat_true, Bool.toNat_false] at first <;>
      simp <;> omega

theorem countP_modify (f : α → α) (i : Nat) (a : α) (here : as[i]? = some a)
    (was : p a = true) (gone : p (f a) = false) : (as.modify i f).countP p + 1 = as.countP p := by
  induction as generalizing i with
  | nil => cases here
  | cons b as ih =>
    cases i with
    | zero =>
      obtain rfl := Option.some.inj here
      simp [was, gone]
    | succ i =>
      have rest := ih i here
      simp only [modify_succ_cons, countP_cons]
      omega

theorem countP_modify_same (f : α → α) (as : List α) (i : Nat)
    (same : ∀ a, as[i]? = some a → p (f a) = p a) : (as.modify i f).countP p = as.countP p := by
  induction as generalizing i with
  | nil => cases i <;> rfl
  | cons b as ih =>
    cases i with
    | zero => simp [countP_cons, same b rfl]
    | succ i => simp [countP_cons, ih i fun a here => same a here]

theorem countP_eraseIdx (i : Nat) (a : α) (here : as[i]? = some a) :
    (as.eraseIdx i).countP p + (if p a then 1 else 0) = as.countP p := by
  induction as generalizing i with
  | nil => cases here
  | cons b as ih =>
    cases i with
    | zero =>
      obtain rfl := Option.some.inj here
      exact countP_cons.symm
    | succ i =>
      have rest := ih i here
      simp only [eraseIdx_cons_succ, countP_cons]
      omega

theorem countP_set (i : Nat) (a b : α) (here : as[i]? = some a) :
    (as.set i b).countP p + (if p a then 1 else 0) = as.countP p + (if p b then 1 else 0) := by
  induction as generalizing i with
  | nil => cases here
  | cons c as ih =>
    cases i with
    | zero =>
      obtain rfl := Option.some.inj here
      simp only [set_cons_zero, countP_cons]
      omega
    | succ i =>
      have rest := ih i here
      simp only [set_cons_succ, countP_cons]
      omega

theorem countP_change (q : α → Bool) (distinct : as.Nodup) {a : α} (here : a ∈ as)
    (same : ∀ b ∈ as, b ≠ a → q b = p b) :
    as.countP q + (p a).toNat = as.countP p + (q a).toNat := by
  induction as with
  | nil => cases here
  | cons b as ih =>
    rw [nodup_cons] at distinct
    by_cases first : b = a
    · subst first
      have rest : as.countP q = as.countP p := by
        refine countP_congr fun c later => ?_
        rw [same c (mem_cons_of_mem b later) fun eq => distinct.1 (eq ▸ later)]
      rw [countP_cons, countP_cons, rest]
      cases p b <;> cases q b <;> simp
    · have there : a ∈ as := (mem_cons.mp here).resolve_left fun eq => first eq.symm
      have rest := ih distinct.2 there fun c later => same c (mem_cons_of_mem b later)
      rw [countP_cons, countP_cons, same b mem_cons_self first]
      omega

variable [DecidableEq α]

theorem card_filter_toFinset (distinct : as.Nodup) :
    (as.toFinset.filter fun a => p a = true).card = as.countP p := by
  have set : as.toFinset.filter (fun a => p a = true) = (as.filter p).toFinset := by
    ext a
    simp
  rw [set, toFinset_card_of_nodup (distinct.filter p), countP_eq_length_filter]

end

end Counting
