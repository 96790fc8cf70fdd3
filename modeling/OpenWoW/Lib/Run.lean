import Mathlib.Data.List.Basic

/-! Runs of a deterministic machine that answers each input with a new state and an
output, and the induction rules for properties of whole runs. -/
namespace Run

open List

/-- One step as an observer of the machine sees it. -/
structure Taken (σ α ε : Type) where
  before : σ
  input : α
  after : σ
  out : ε

section

variable {σ α ε : Type} (step : σ → α → σ × ε)

def take (s : σ) (a : α) : Taken σ α ε := ⟨s, a, (step s a).1, (step s a).2⟩

variable (ok : σ → α → Prop) (inv : List (Taken σ α ε) → σ → Prop) (s : σ) (a : α)

@[simp] theorem take_before : (take step s a).before = s := rfl

@[simp] theorem take_input : (take step s a).input = a := rfl

@[simp] theorem take_after : (take step s a).after = (step s a).1 := rfl

@[simp] theorem take_out : (take step s a).out = (step s a).2 := rfl

def trace : σ → List α → List (Taken σ α ε)
  | _, [] => []
  | s, a :: as => take step s a :: trace (step s a).1 as

def final : σ → List α → σ
  | s, [] => s
  | s, a :: as => final (step s a).1 as

theorem trace_append (as bs : List α) :
    trace step s (as ++ bs) = trace step s as ++ trace step (final step s as) bs := by
  induction as generalizing s with
  | nil => rfl
  | cons a as ih => simp [trace, final, ih]

theorem final_append (as bs : List α) :
    final step s (as ++ bs) = final step (final step s as) bs := by
  induction as generalizing s with
  | nil => rfl
  | cons a as ih => exact ih (step s a).1

theorem final_mem (as : List α) :
    ∃ t ∈ trace step s (a :: as), t.after = final step s (a :: as) := by
  induction as generalizing s a with
  | nil => exact ⟨take step s a, mem_cons_self, rfl⟩
  | cons b as ih =>
    obtain ⟨t, here, last⟩ := ih (step s a).1 b
    exact ⟨t, mem_cons_of_mem _ here, last⟩

theorem taken_of_mem (as : List α) (t : Taken σ α ε) (here : t ∈ trace step s as) :
    t = take step t.before t.input := by
  induction as generalizing s with
  | nil => cases here
  | cons a as ih =>
    rcases mem_cons.mp here with first | later
    · subst first
      rfl
    · exact ih _ later

variable {as : List α}

theorem input_mem {t : Taken σ α ε} (here : t ∈ trace step s as) : t.input ∈ as := by
  induction as generalizing s with
  | nil => cases here
  | cons a as ih =>
    rcases mem_cons.mp here with first | later
    · subst first
      exact mem_cons_self
    · exact mem_cons_of_mem a (ih _ later)

theorem history
    (keep : ∀ past s a, inv past s → ok s a → inv (past ++ [take step s a]) (step s a).1)
    (past : List (Taken σ α ε)) (s : σ) (as : List α) (start : inv past s)
    (allowed : ∀ t ∈ trace step s as, ok t.before t.input) :
    inv (past ++ trace step s as) (final step s as) := by
  induction as generalizing past s with
  | nil => simpa [trace, final] using start
  | cons a as ih =>
    have now : ok s a := allowed (take step s a) (by simp [trace])
    have later := ih (past ++ [take step s a]) (step s a).1 (keep past s a start now)
      (fun t there => allowed t (by simp [trace, there]))
    simpa [trace, final] using later

variable {post : List (Taken σ α ε)}

theorem trace_split (pre : List (Taken σ α ε)) (split : trace step s as = pre ++ post) :
    ∃ first second, as = first ++ second ∧ pre = trace step s first ∧
      post = trace step (final step s first) second := by
  induction as generalizing s pre with
  | nil =>
    obtain ⟨rfl, rfl⟩ := append_eq_nil_iff.mp split.symm
    exact ⟨[], [], rfl, rfl, rfl⟩
  | cons a as ih =>
    cases pre with
    | nil => exact ⟨[], a :: as, rfl, rfl, split.symm⟩
    | cons t pre =>
      simp only [trace, cons_append, List.cons.injEq] at split
      obtain ⟨first, second, rfl, rfl, rfl⟩ := ih _ pre split.2
      exact ⟨a :: first, second, rfl, by rw [← split.1]; rfl, rfl⟩

theorem history_at
    (keep : ∀ past s a, inv past s → ok s a → inv (past ++ [take step s a]) (step s a).1)
    (past : List (Taken σ α ε)) (s : σ) (start : inv past s)
    (allowed : ∀ t ∈ trace step s as, ok t.before t.input)
    (pre : List (Taken σ α ε)) {t : Taken σ α ε}
    (split : trace step s as = pre ++ t :: post) : inv (past ++ pre) t.before := by
  obtain ⟨first, second, rfl, rfl, rest⟩ := trace_split step s pre split
  cases second with
  | nil => cases rest
  | cons a second =>
    rw [(List.cons.inj rest).1]
    refine history step ok inv keep past s first start fun t there => allowed t ?_
    rw [trace_append]
    exact mem_append_left _ there

theorem invariant (inv : σ → Prop)
    (keep : ∀ s a, inv s → ok s a → inv (step s a).1) (s : σ) (start : inv s)
    (allowed : ∀ t ∈ trace step s as, ok t.before t.input) :
    ∀ t ∈ trace step s as, inv t.before := by
  intro t here
  obtain ⟨pre, post, split⟩ := append_of_mem here
  exact history_at step ok (fun _ s => inv s) (fun _ s a => keep s a) [] s start allowed pre split

theorem good_iff_within (within ok : σ → α → Prop) (inv : σ → Prop) (good : Taken σ α ε → Prop)
    (step_iff : ∀ s a, inv s → within s a → (good (take step s a) ↔ ok s a))
    (keep : ∀ s a, inv s → within s a → ok s a → inv (step s a).1) (s : σ) (start : inv s)
    (limited : ∀ t ∈ trace step s as, within t.before t.input) :
    (∀ t ∈ trace step s as, good t) ↔ ∀ t ∈ trace step s as, ok t.before t.input := by
  induction as generalizing s with
  | nil => simp [trace]
  | cons a as ih =>
    simp only [trace, forall_mem_cons, take_before, take_input] at limited ⊢
    rw [step_iff s a start limited.1]
    constructor
    · intro ⟨now, later⟩
      exact ⟨now, (ih _ (keep s a start limited.1 now) limited.2).mp later⟩
    · intro ⟨now, later⟩
      exact ⟨now, (ih _ (keep s a start limited.1 now) limited.2).mpr later⟩

theorem good_iff (inv : σ → Prop) (good : Taken σ α ε → Prop)
    (step_iff : ∀ s a, inv s → (good (take step s a) ↔ ok s a))
    (keep : ∀ s a, inv s → ok s a → inv (step s a).1) (s : σ) (as : List α) (start : inv s) :
    (∀ t ∈ trace step s as, good t) ↔ ∀ t ∈ trace step s as, ok t.before t.input :=
  good_iff_within step (fun _ _ => True) ok inv good (fun s a holds _ => step_iff s a holds)
    (fun s a holds _ => keep s a holds) s start fun _ _ => trivial

/-- The machine with notes that an observer keeps about its steps. The notes do not
influence the machine. -/
def observe {ν : Type} (note : ν → Taken σ α ε → ν) (s : σ × ν) (a : α) : (σ × ν) × ε :=
  (((step s.1 a).1, note s.2 (take step s.1 a)), (step s.1 a).2)

theorem observed_at {ν : Type} (note : ν → Taken σ α ε → ν) (ok : σ × ν → α → Prop)
    (inv : List (Taken σ α ε) → σ × ν → Prop)
    (keep : ∀ past s a, inv past s → ok s a →
      inv (past ++ [take step s.1 a]) (observe step note s a).1)
    (past : List (Taken σ α ε)) (s : σ × ν) (start : inv past s)
    (allowed : ∀ t ∈ trace (observe step note) s as, ok t.before t.input)
    (pre : List (Taken σ α ε)) {t : Taken σ α ε}
    (split : trace step s.1 as = pre ++ t :: post) :
    ∃ notes, inv (past ++ pre) (t.before, notes) ∧ ok (t.before, notes) t.input := by
  induction as generalizing past s pre with
  | nil => simp [trace] at split
  | cons a as ih =>
    have now : ok s a := allowed (take (observe step note) s a) (by simp [trace])
    cases pre with
    | nil =>
      simp only [trace, nil_append, List.cons.injEq] at split
      refine ⟨s.2, ?_, ?_⟩
      · simpa [← split.1] using start
      · simpa [← split.1] using now
    | cons first pre =>
      simp only [trace, cons_append, List.cons.injEq] at split
      have later := ih (past ++ [take step s.1 a]) (observe step note s a).1
        (keep past s a start now) (fun t there => allowed t (by simp [trace, there])) pre
        split.2
      rw [← split.1]
      simpa using later

end

end Run
