import Mathlib.Data.Fintype.Prod
import OpenWoW.MotionCalls

/-! Runs of a motion master whose generators call back, and what holds in between. -/
namespace OpenWoW.Motion

open List Option

open MotionMaster

namespace Invariant

variable {s : State}

theorem rebased (inv : Invariant s) (empty : s.stack = []) (m : MotionMaster) (base : Base)
    (frames : List Frame) (impl : m.impl = s.master.impl) (top : m.top = s.master.top)
    (holes : replacing frames = []) (debts : ∀ id, debt frames id = 0)
    (framesOk : FramesOk m [] frames) (ok : BaseOk m [] base)
    (waits : ∀ id, waitCount m base id + stackCount frames id = waitCount s.master s.base id)
    (updating : ∀ id, base = .updating (.made id) → 1 ≤ slotCount s.master id) :
    Invariant { s with master := m, base, stack := frames } where
  slots := by
    have before := inv.slots.of_same impl top
    rw [empty] at before
    rw [holes]
    exact before
  frames := framesOk
  base := by
    rw [holes]
    exact ok
  started begun := by
    have before := inv.started begun
    rw [empty] at before
    rw [holes, impl]
    exact before
  held id := by
    have before := inv.held id
    have change := waits id
    unfold Motion.held at before ⊢
    rw [empty, stackCount_nil] at before
    dsimp only
    rw [slotCount_eq impl]
    omega
  ended id := by
    have before := inv.ended id
    rw [empty] at before
    rw [debts]
    exact before
  updating id runs := by
    rw [slotCount_eq impl]
    have inside := updating id runs
    omega

theorem slotCount_pos {m : MotionMaster} {slot : MovementSlot} {id : Nat}
    (here : m.impl slot = some (.made id)) : 1 ≤ slotCount m id :=
  countP_pos_iff.mpr ⟨slot, mem_finRange slot, decide_eq_true here⟩

theorem updateMotion (inv : Invariant s) (idle : s.idle = true)
    (taken : s.master.impl motionSlotIdle ≠ none) :
    ∃ after, s.updateMotion = some after ∧ Invariant after := by
  unfold State.idle at idle
  rw [Bool.and_eq_true, decide_eq_true_eq, decide_eq_true_eq] at idle
  obtain ⟨empty, rest⟩ := idle
  obtain ⟨t, top, filled⟩ := inv.slots.ready taken
  rw [empty] at filled
  have occupied := filled.resolve_right not_mem_nil
  obtain ⟨g, here⟩ := ne_none_iff_exists'.mp occupied
  have base := inv.base
  rw [rest] at base
  have next := inv.rebased empty { s.master with update := true } (.updating g) [] rfl
    rfl rfl (fun _ => rfl) trivial ⟨rfl, .inl taken, t, top, filled⟩
    (fun id => by rw [rest]; rfl) fun id runs => by
      obtain rfl := Base.updating.inj runs
      exact slotCount_pos here
  unfold State.updateMotion
  rw [top?_of top here]
  refine ⟨_, rfl, ?_⟩
  rw [← empty] at next
  exact next

theorem runBase (inv : Invariant s) (empty : s.stack = []) (selects : Nat → Bool) :
    ∃ after, s.runBase selects = some after ∧ Invariant after := by
  have base := inv.base
  rw [empty] at base
  unfold State.runBase
  cases here : s.base with
  | rest => exact ⟨s, rfl, inv⟩
  | updating g => exact ⟨s, rfl, inv⟩
  | updated goes =>
    rw [here] at base
    obtain ⟨update, idle, ready⟩ := base
    have next := inv.rebased empty { s.master with update := false } (.expiring 0) []
      rfl rfl rfl (fun _ => rfl) trivial
      ⟨rfl, idle, ready, fun _ => rfl⟩ (fun id => by rw [here]; rfl) nofun
    rw [← empty] at next
    cases goes with
    | true => exact ⟨_, rfl, next⟩
    | false =>
      obtain ⟨t, top, filled⟩ := ready
      exact next.directExpire top (filled.resolve_right not_mem_nil)
        (idle.resolve_right not_mem_nil) id (by rw [empty]; nofun) rfl true
  | expiring i =>
    rw [here] at base
    obtain ⟨update, idle, ready, zero⟩ := base
    cases list : s.master.expList with
    | none =>
      have next := inv.rebased empty s.master .rest [] rfl rfl rfl
        (fun _ => rfl) trivial ⟨update, list⟩ (fun id => by
          unfold waitCount
          rw [list]
          simp) nofun
      rw [← empty] at next
      exact ⟨_, rfl, next⟩
    | some expired =>
      dsimp only
      cases entry : expired[i]? with
      | some g =>
        obtain ⟨frames, run, holes, counts, debts, framesOk⟩ := directDelete_ok g
        have next := inv.rebased empty s.master (.expiring (i + 1)) frames
          rfl rfl holes debts (by simpa using framesOk s.master [] [] trivial)
          ⟨update, idle, ready, fun nothing => absurd (list.symm.trans nothing) nofun⟩
          (fun id => by
            obtain ⟨bound, value⟩ := List.getElem?_eq_some_iff.mp entry
            unfold waitCount
            rw [here, list, counts, getD_some]
            change ((expired.drop (i + 1)).countP _) + _ = (expired.drop i).countP _
            rw [drop_eq_getElem_cons bound, countP_cons, value]
            simp only [decide_eq_true_eq]) nofun
        simp only [run, bind_eq_bind, bind_some, State.push, empty, append_nil]
        exact ⟨_, rfl, next⟩
      | none =>
        have next := inv.rebased empty { s.master with expList := none }
          .finishing [] rfl rfl rfl (fun _ => rfl) trivial
          ⟨update, rfl⟩ (fun id => by
            have beyond := drop_eq_nil_of_le (getElem?_eq_none_iff.mp entry)
            unfold waitCount
            rw [here, list, getD_some]
            change _ = (expired.drop i).countP _
            rw [beyond]
            simp) nofun
        rw [← empty] at next
        obtain ⟨t, top, filled⟩ := ready
        have occupied : (s.master.empty) = false := by
          unfold MotionMaster.empty
          rw [top]
          rfl
        rw [if_neg (by
          change ¬s.master.empty = true
          rw [occupied]
          exact Bool.false_ne_true)]
        exact next.initOrReset ⟨t, top, filled⟩ _
  | finishing =>
    rw [here] at base
    have next := inv.rebased empty { s.master with reset := false } .rest []
      rfl rfl rfl (fun _ => rfl) trivial base
      (fun id => by rw [here]; rfl) nofun
    rw [← empty] at next
    exact ⟨_, rfl, next⟩

end Invariant

/-- The slot does not hold, below another one, the generator that is under update. -/
def State.free (s : State) (slot : MovementSlot) : Bool :=
  match s.base with
  | .updating (.made id) => s.master.impl slot ≠ some (.made id) || s.master.top = some slot
  | _ => true

/-- What a caller must not do while other calls are in progress: initialize again, empty a master
that has no idle movement, expire the top while the slots below it are being replaced, or use a
slot that is being replaced or that of the generator under update. -/
def Careful (s : State) : Input → Prop
  | .tick => True
  | .ret _ => True
  | .call op => s.waiting = true → match op with
      | .initializeAll => s.idle = true → s.master.top = none
      | .updateMotion => s.idle = true → s.master.impl motionSlotIdle ≠ none
      | .clear _ => s.master.impl motionSlotIdle ≠ none ∧
          ∀ h ∈ replacing s.stack, h = motionSlotIdle
      | .movementExpired _ => ∃ t n, s.master.top = some t ∧ s.master.impl t ≠ none ∧
          s.master.impl n ≠ none ∧ (motionSlotIdle < t → n < t) ∧
          ∀ h ∈ replacing s.stack, h ≤ n
      | .moveIdle => s.free motionSlotIdle = true
      | .move slot => slot ∉ replacing s.stack ∧ s.free slot = true

instance (s : State) (input : Input) : Decidable (Careful s input) :=
  match input with
  | .tick => inferInstanceAs (Decidable True)
  | .ret _ => inferInstanceAs (Decidable True)
  | .call .initializeAll => inferInstanceAs (Decidable (_ → _ → _))
  | .call .updateMotion => inferInstanceAs (Decidable (_ → _ → _))
  | .call (.clear _) => inferInstanceAs (Decidable (_ → _ ∧ _))
  | .call (.movementExpired _) => inferInstanceAs (Decidable (_ → ∃ _ _, _))
  | .call .moveIdle => inferInstanceAs (Decidable (_ → _))
  | .call (.move _) => inferInstanceAs (Decidable (_ → _ ∧ _))

namespace Invariant

variable {s : State}

theorem of_free {slot : MovementSlot} (free : s.free slot = true) (id : Nat)
    (updating : s.base = .updating (.made id)) (here : s.master.impl slot = some (.made id)) :
    s.master.top = some slot := by
  unfold State.free at free
  rw [updating] at free
  simpa [here] using free

theorem runFrame {frame : Frame} (inv : Invariant (s.push [frame]))
    (code : ∀ method g, frame ≠ .running method g) (selects : Nat → Bool) :
    ∃ after, s.runFrame selects frame = some after ∧ Invariant after := by
  cases frame with
  | running method g => exact absurd rfl (code method g)
  | deleteGenerator id => exact ⟨_, rfl, inv.deleteGenerator⟩
  | initializeLoop => exact inv.onTop.elim
  | install g slot => exact ⟨_, rfl, inv.install⟩
  | cleanLoop reset => exact inv.cleanLoop
  | expireRest reset => exact inv.expireRest
  | initTopDone => exact inv.initTopDone

theorem initializeAll (inv : Invariant s) (idle : s.idle = true) (top : s.master.top = none)
    (selects : Nat → Bool) :
    ∃ after, { s with initialized := true }.initializeLoop selects = some after ∧
      Invariant after := by
  unfold State.idle at idle
  rw [Bool.and_eq_true, decide_eq_true_eq, decide_eq_true_eq] at idle
  obtain ⟨stack, rest⟩ := idle
  have nothing := inv.slots.bottom top motionSlotIdle
  have unused : motionSlotIdle ∉ replacing s.stack := by
    rw [stack]
    exact not_mem_nil
  have starts (after : State) (hole : motionSlotIdle ∈ replacing after.stack)
      (kept : Invariant after) : Invariant { after with initialized := true } :=
    ⟨kept.slots, kept.frames, kept.base, fun _ => .inr hole, kept.held, kept.ended, kept.updating⟩
  unfold State.initializeLoop State.initDefault State.make State.mutate
  rw [if_pos (show s.master.empty = true by unfold MotionMaster.empty; rw [top]; rfl)]
  rw [nothing]
  split
  · obtain ⟨after, run, kept⟩ := inv.mutate
      (.inr ⟨rfl, rfl⟩) (fun hole => absurd hole unused) fun id updating =>
        absurd (rest.symm.trans updating) nofun
    unfold State.mutate at run
    rw [nothing] at run
    obtain rfl := some.inj run
    exact ⟨_, rfl, starts _ mem_cons_self kept⟩
  · obtain ⟨after, run, kept⟩ := inv.mutate
      (.inl ⟨rfl, rfl⟩) (fun hole => absurd hole unused) fun id updating =>
        absurd (rest.symm.trans updating) nofun
    unfold State.mutate at run
    rw [nothing] at run
    obtain rfl := some.inj run
    exact ⟨_, rfl, starts _ mem_cons_self kept⟩

theorem call (inv : Invariant s) (waits : s.waiting = true) {op : Op}
    (careful : Careful s (.call op)) (selects : Nat → Bool) :
    ∃ after, s.call selects op = some after ∧ Invariant after := by
  have allowed := careful waits
  unfold State.call
  cases op with
  | initializeAll =>
    dsimp only
    split
    · next idle => exact inv.initializeAll idle (allowed idle) selects
    · exact ⟨s, rfl, inv⟩
  | updateMotion =>
    dsimp only
    split
    · next idle => exact inv.updateMotion idle (allowed idle)
    · exact ⟨s, rfl, inv⟩
  | clear reset =>
    obtain ⟨taken, safe⟩ := allowed
    dsimp only
    unfold State.clear
    split
    · rename_i update
      have flagged : Invariant { s with master := { s.master with reset } } :=
        inv.flagged rfl rfl rfl rfl
      obtain ⟨after, run, kept⟩ := flagged.delayedCleanLoop taken safe update 3
      exact ⟨_, congrArg (Option.bind · _) run, kept⟩
    · rename_i update
      have off : s.master.update = false := Bool.eq_false_iff.mpr update
      have starts : Invariant (s.push [.cleanLoop reset]) :=
        inv.pushed (m := s.master) rfl rfl rfl rfl [.cleanLoop reset] rfl
          (fun _ => ⟨rfl, rfl⟩) fun ok =>
            ⟨⟨off, .inl taken, inv.slots.readyAbove taken safe, safe⟩, ok⟩
      exact starts.cleanLoop
  | movementExpired reset =>
    obtain ⟨t, n, top, here, taken, less, safe⟩ := allowed
    dsimp only
    unfold State.movementExpired
    split
    · rename_i update
      have flagged : Invariant { s with master := { s.master with reset } } :=
        inv.flagged rfl rfl rfl rfl
      obtain ⟨after, run, kept⟩ := flagged.delayedExpire top here taken less safe update
      exact ⟨_, congrArg (Option.bind · _) run, kept⟩
    · rename_i update
      exact inv.directExpire top here taken less safe (Bool.eq_false_iff.mpr update) reset
  | moveIdle =>
    dsimp only
    unfold State.moveIdle
    split
    · exact inv.mutate (.inl ⟨rfl, rfl⟩) (fun _ => rfl) (of_free allowed)
    · exact ⟨s, rfl, inv⟩
  | move slot =>
    exact inv.mutate (.inr ⟨rfl, rfl⟩) (fun hole => absurd hole allowed.1) (of_free allowed.2)

theorem returned {method : Method} {g : MovementGenerator}
    (inv : Invariant (s.push [.running method g])) : Invariant (s.returned method g) := by
  have others (debt : ∀ id, (Frame.running method g).debt id = 0) : Invariant s :=
    inv.drop rfl (fun _ => rfl) debt
  cases method with
  | init => exact others fun _ => rfl
  | reset => exact others fun _ => rfl
  | finalize =>
    cases g with
    | idle => exact others fun _ => rfl
    | made name =>
      refine inv.exchange [.running .finalize (.made name)] [] s.stack
        (m := s.master) rfl (Grows.of_same rfl rfl rfl) (.inl rfl) inv.slots
        id (fun id => ?_) (fun id => ?_) inv.updating
      · have before := inv.held id
        unfold Motion.held at before
        rw [show (s.push [.running .finalize (.made name)]).stack =
          .running .finalize (.made name) :: s.stack from rfl, stackCount_cons] at before
        change _ + (0 + _) + _ = _ at before
        rw [Nat.zero_add] at before
        exact before
      · have before := inv.ended id
        change (s.finalized.count id : Int) =
          s.deleted.count id + ((if name = id then -1 else 0) + debt s.stack id) at before
        rw [count_cons, nil_append]
        simp only [beq_iff_eq]
        change ((s.finalized.count id + if name = id then 1 else 0 : Nat) : Int) =
          s.deleted.count id + debt s.stack id
        by_cases same : name = id
        · rw [if_pos same] at before ⊢
          push_cast
          omega
        rw [if_neg same] at before ⊢
        push_cast
        omega

theorem perform (inv : Invariant s) {input : Input} (careful : Careful s input)
    (selects : Nat → Bool) : ∃ after, s.perform selects input = some after ∧ Invariant after := by
  have split (frame : Frame) (rest : List Frame) (stack : s.stack = frame :: rest) :
      Invariant ({ s with stack := rest }.push [frame]) := by
    have same : { s with stack := rest }.push [frame] = s := by
      unfold State.push
      rw [singleton_append, ← stack]
    rw [same]
    exact inv
  unfold State.perform
  cases input with
  | tick =>
    cases stack : s.stack with
    | nil => exact inv.runBase stack selects
    | cons frame rest =>
      dsimp only
      by_cases waits : s.waiting = true
      · rw [if_pos waits]
        exact ⟨s, rfl, inv⟩
      rw [if_neg waits]
      refine runFrame (split frame rest stack) ?_ selects
      rintro method g rfl
      apply waits
      unfold State.waiting
      rw [stack]
  | call op =>
    dsimp only
    by_cases waits : s.waiting = true
    · rw [if_pos waits]
      exact inv.call waits careful selects
    · rw [if_neg waits]
      exact ⟨s, rfl, inv⟩
  | ret goes =>
    dsimp only
    split
    · next method g rest base stack => exact ⟨_, rfl, (split _ _ stack).returned⟩
    · rename_i g stack base
      have ok := inv.base
      rw [stack, base] at ok
      have next := inv.rebased stack s.master (.updated goes) [] rfl
        rfl rfl (fun _ => rfl) trivial ok (fun id => by rw [base]; rfl) nofun
      rw [← stack] at next
      exact ⟨_, rfl, next⟩
    · exact ⟨s, rfl, inv⟩

end Invariant

/-- What the slots and the generators promise after each piece of code, and between operations. -/
structure Orderly (s : State) : Prop where
  /-- A generator that is finalized or deleted has left its slot and is not under update. -/
  leaving : ∀ id, .running .finalize (.made id) ∈ s.stack ∨ .deleteGenerator id ∈ s.stack →
    (∀ slot, s.master.impl slot ≠ some (.made id)) ∧ s.base ≠ .updating (.made id)
  once : ∀ id, s.deleted.count id ≤ s.finalized.count id ∧ s.finalized.count id ≤ 1
  updating : ∀ id, s.base = .updating (.made id) → id ∉ s.finalized
  top : s.idle = true → s.initialized = true →
    s.master.impl motionSlotIdle ≠ none ∧ ∃ t, s.master.top = some t ∧ s.master.impl t ≠ none ∧
      ∀ u, t < u → s.master.impl u = none
  /-- Each generator that was made is in a slot, or finalized and deleted. -/
  ended : s.idle = true → ∀ id < s.next,
    (slotCount s.master id = 1 ∧ s.finalized.count id = 0 ∧ s.deleted.count id = 0) ∨
    slotCount s.master id = 0 ∧ s.finalized.count id = 1 ∧ s.deleted.count id = 1

theorem debt_le (stack : List Frame) (id : Nat) : debt stack id ≤ stackCount stack id := by
  induction stack with
  | nil => exact le_refl _
  | cons frame stack ih =>
    rw [debt_cons, stackCount_cons]
    have first : frame.debt id ≤ frame.holds id := by
      cases frame with
      | running method g =>
        cases method with
        | init => exact le_refl _
        | reset => exact le_refl _
        | finalize =>
          cases g with
          | idle => exact le_refl _
          | made name => dsimp only [Frame.debt, Frame.holds]; split <;> decide
      | deleteGenerator name => dsimp only [Frame.debt, Frame.holds]; split <;> decide
      | install g slot => exact Int.natCast_nonneg _
      | initializeLoop => exact le_refl _
      | cleanLoop reset => exact le_refl _
      | expireRest reset => exact le_refl _
      | initTopDone => exact le_refl _
    push_cast
    omega

section
variable {m : MotionMaster} {holes : List MovementSlot} {stack : List Frame}
  (ok : FramesOk m holes stack)
include ok

theorem debt_nonneg (id : Nat) : 0 ≤ debt stack id ∧ 0 ≤ debt stack.tail id := by
  induction stack generalizing holes with
  | nil => exact ⟨le_refl _, le_refl _⟩
  | cons frame stack ih =>
    obtain ⟨whole, tail⟩ := ih ok.2
    refine ⟨?_, whole⟩
    rw [debt_cons]
    have here := ok.1
    cases frame with
    | running method g =>
      cases method with
      | finalize =>
        obtain ⟨name, rfl, below⟩ := here
        obtain ⟨rest, rfl⟩ := head?_eq_some_iff.mp below
        rw [tail_cons] at tail
        rw [debt_cons]
        dsimp only [Frame.debt]
        split <;> omega
      | init => simpa [Frame.debt] using whole
      | reset => simpa [Frame.debt] using whole
    | deleteGenerator name =>
      dsimp only [Frame.debt]
      split <;> omega
    | initializeLoop => simpa [Frame.debt] using whole
    | install g slot => simpa [Frame.debt] using whole
    | cleanLoop reset => simpa [Frame.debt] using whole
    | expireRest reset => simpa [Frame.debt] using whole
    | initTopDone => simpa [Frame.debt] using whole

theorem deletes_of_finalizes {id : Nat}
    (runs : .running .finalize (.made id) ∈ stack) : .deleteGenerator id ∈ stack := by
  induction stack generalizing holes with
  | nil => cases runs
  | cons frame stack ih =>
    rcases mem_cons.mp runs with first | later
    · subst first
      obtain ⟨name, same, below⟩ := ok.1
      obtain rfl := MovementGenerator.made.inj same
      exact mem_cons_of_mem _ (mem_of_mem_head? below)
    · exact mem_cons_of_mem _ (ih ok.2 later)

end

theorem stackCount_pos {stack : List Frame} {id : Nat} (there : .deleteGenerator id ∈ stack) :
    1 ≤ stackCount stack id := by
  induction stack with
  | nil => cases there
  | cons frame stack ih =>
    rw [stackCount_cons]
    rcases mem_cons.mp there with first | later
    · subst first
      simp [Frame.holds]
    · have rest := ih later
      omega

namespace Invariant

variable {s : State}

theorem held_le (inv : Invariant s) (id : Nat) : Motion.held s id ≤ 1 := by
  rw [inv.held]
  split <;> omega

theorem orderly (inv : Invariant s) : Orderly s where
  leaving id there := by
    have deletes : .deleteGenerator id ∈ s.stack :=
      there.elim (deletes_of_finalizes inv.frames) fun here => here
    have one := stackCount_pos deletes
    have most := inv.held_le id
    unfold Motion.held at most
    refine ⟨fun slot here => ?_, fun runs => ?_⟩
    · have inside := slotCount_pos here
      omega
    · have waits := inv.updating id runs
      omega
  once id := by
    have ended := inv.ended id
    have most := inv.held_le id
    have upper := debt_le s.stack id
    have lower := (debt_nonneg inv.frames id).1
    unfold Motion.held at most
    omega
  updating id runs finalized := by
    have waits := inv.updating id runs
    have ended := inv.ended id
    have most := inv.held_le id
    have upper := debt_le s.stack id
    have one : 1 ≤ s.finalized.count id := count_pos_iff.mpr finalized
    unfold Motion.held at most
    omega
  top idle begun := by
    unfold State.idle at idle
    rw [Bool.and_eq_true, decide_eq_true_eq, decide_eq_true_eq] at idle
    have bottom := inv.started begun
    rw [idle.1] at bottom
    have taken := bottom.resolve_right not_mem_nil
    obtain ⟨t, top, filled⟩ := inv.slots.ready taken
    rw [idle.1] at filled
    exact ⟨taken, t, top, filled.resolve_right not_mem_nil, fun u => inv.slots.above t u top⟩
  ended idle id made := by
    unfold State.idle at idle
    rw [Bool.and_eq_true, decide_eq_true_eq, decide_eq_true_eq] at idle
    have one := inv.held id
    have ended := inv.ended id
    have base := inv.base
    rw [idle.2] at base
    have nothing : waitCount s.master s.base id = 0 := by
      unfold waitCount
      rw [base.2, idle.2]
      rfl
    unfold Motion.held at one
    rw [if_pos made, nothing, idle.1, stackCount_nil] at one
    rw [idle.1, debt_nil] at ended
    omega

end Invariant

/-- A step accesses no slot that is not there and uses no NULL generator, and what it leaves is
orderly. -/
def Sound (t : Run.Taken State Input (Option State)) : Prop :=
  ∃ after, t.out = some after ∧ Orderly after

theorem Invariant.initial : Invariant {} where
  slots := ⟨nofun, fun _ _ => rfl, nofun, nofun⟩
  frames := trivial
  base := ⟨rfl, rfl⟩
  started := nofun
  held _ := rfl
  ended _ := rfl
  updating := nofun

/-- In a run whose calls are all careful every step is sound, whatever the generators call. -/
theorem sound_of_careful (selects : Nat → Bool) (inputs : List Input)
    (careful : ∀ t ∈ Run.trace (step selects) {} inputs, Careful t.before t.input) :
    ∀ t ∈ Run.trace (step selects) {} inputs, Sound t := by
  intro t there
  have inv := Run.invariant (step selects) Careful Invariant (fun s input inv ok => by
    obtain ⟨after, run, kept⟩ := inv.perform ok selects
    unfold step
    rw [run]
    exact kept) {} Invariant.initial careful t there
  obtain ⟨after, run, kept⟩ := inv.perform (careful t there) selects
  refine ⟨after, ?_, kept.orderly⟩
  rw [Run.taken_of_mem (step selects) {} inputs t there]
  exact run

section

local instance slots_neZero : NeZero 3 := ⟨by decide⟩

/-- A default movement that is replaced inside its `Initialize`, and another one that is put over
it and cleared inside an update. -/
def replacedInputs : List Input :=
  [.call .initializeAll, .tick, .call (.move 0), .ret true, .tick, .tick, .ret true, .ret true,
    .call .updateMotion, .call (.move 1), .tick, .ret true, .call (.clear true), .ret true, .tick,
    .tick, .ret true, .tick, .tick, .tick]

end

theorem sound_of_careful_replaced :
    ∃ t, (Run.trace (step fun _ => true) {} replacedInputs).getLast? = some t ∧ Sound t := by
  have all := sound_of_careful (fun _ => true) replacedInputs (by decide)
  exact ⟨_, rfl, all _ (mem_of_getLast? rfl)⟩

/-- A second `Initialize` pops the last slot and goes on below it. -/
theorem second_initialize_fails :
    ¬∀ t ∈ Run.trace (step fun _ => false) {} [.call .initializeAll, .tick, .ret true,
      .call .initializeAll], Sound t := by
  intro all
  obtain ⟨after, run, _⟩ := all _ (mem_of_getElem? (i := 3) rfl)
  cases run

end OpenWoW.Motion
