import OpenWoW.MotionSlots

/-! Every piece of code between two callbacks keeps what holds of the slots. -/
namespace OpenWoW.Motion

open List Option

open MotionMaster

variable {m : MotionMaster}

theorem top?_of {t : MovementSlot} {g : MovementGenerator}
    (top : m.top = some t) (here : m.impl t = some g) : m.top? = some (some g) := by
  unfold MotionMaster.top?
  rw [top, map_some, here]

theorem stacked_iff : m.stacked = true ↔ ∃ t, m.top = some t ∧ motionSlotIdle < t := by
  unfold MotionMaster.stacked
  rw [Option.any_eq_true]
  simp only [decide_eq_true_eq]
  rfl

variable {holes : List MovementSlot}

theorem slots_raised (ok : SlotsOk m holes) {slot : MovementSlot} (nothing : m.impl slot = none) :
    SlotsOk { m with top := if m.top.all (· < slot) then some slot else m.top }
      (slot :: holes) := by
  by_cases less : m.top.all (· < slot) = true
  · rw [if_pos less]
    have below : ∀ t, m.top = some t → t < slot := by
      intro t top
      rw [top, all_some, decide_eq_true_eq] at less
      exact less
    refine ⟨?_, nofun, ?_, ?_⟩
    · rintro _ u ⟨⟩ beyond
      cases top : m.top with
      | none => exact ok.bottom top u
      | some t => exact ok.above t u top ((below t top).trans beyond)
    · rintro _ ⟨⟩
      exact .inr mem_cons_self
    · intro h hole
      rcases mem_cons.mp hole with same | old
      · exact ⟨⟨slot, rfl, le_of_eq same⟩, .inl (same ▸ nothing)⟩
      · obtain ⟨⟨t, top, inside⟩, empty⟩ := ok.holes h old
        exact ⟨⟨slot, rfl, inside.trans (le_of_lt (below t top))⟩, empty⟩
  · rw [if_neg less]
    refine ⟨ok.above, ok.bottom, fun t top => (ok.filled t top).mono (subset_cons_self _ _),
      fun h hole => ?_⟩
    rcases mem_cons.mp hole with same | old
    · refine ⟨?_, .inl (same ▸ nothing)⟩
      cases top : m.top with
      | none => exact absurd (by rw [top]; rfl) less
      | some t =>
        rw [top, all_some, decide_eq_true_eq] at less
        exact ⟨t, rfl, same ▸ not_lt.mp less⟩
    · exact ok.holes h old

theorem grows_raised (m : MotionMaster) (slot : MovementSlot) :
    Grows m [] { m with top := if m.top.all (· < slot) then some slot else m.top } [slot] := by
  have keeps (t : MovementSlot) (filled : Filled m.impl [] t) : Filled m.impl [slot] t :=
    filled.mono (nil_subset _)
  refine ⟨keeps _, ?_, rfl⟩
  by_cases less : m.top.all (· < slot) = true
  · exact .inl ⟨slot, if_pos less, .inr (mem_singleton_self slot)⟩
  · exact .inr ⟨if_neg less, fun t _ => keeps t⟩

theorem Grows.of_same {after : MotionMaster}
    (impl : after.impl = m.impl) (top : after.top = m.top) (update : after.update = m.update) :
    Grows m holes after holes :=
  ⟨fun filled => impl ▸ filled, .inr ⟨top, fun _ _ filled => impl ▸ filled⟩, update⟩

theorem SlotsOk.of_same {after : MotionMaster}
    (ok : SlotsOk m holes) (impl : after.impl = m.impl) (top : after.top = m.top) :
    SlotsOk after holes := by
  obtain ⟨above, bottom, filled, free⟩ := ok
  rw [← impl, ← top] at *
  exact ⟨above, bottom, filled, free⟩

theorem SlotsOk.readyAbove (ok : SlotsOk m holes) (taken : m.impl motionSlotIdle ≠ none)
    (safe : ∀ h ∈ holes, h = motionSlotIdle) : Ready m [] := by
  obtain ⟨t, top, filled⟩ := ok.ready taken
  refine ⟨t, top, .inl ?_⟩
  rcases filled with occupied | hole
  · exact occupied
  · rw [safe t hole]
    exact taken

namespace Invariant

variable {s : State}

/-- `Mutate` with a new generator, or with the static one. -/
theorem mutate (inv : Invariant s) {g : MovementGenerator} {slot : MovementSlot} {next : Nat}
    (made : g = .idle ∧ next = s.next ∨ g = .made s.next ∧ next = s.next + 1)
    (free : slot ∈ replacing s.stack → g = .idle)
    (quiet : ∀ id, s.base = .updating (.made id) → s.master.impl slot = some (.made id) →
      s.master.top = some slot) :
    ∃ after, { s with next }.mutate g slot = some after ∧ Invariant after := by
  have born (id : Nat) : (if g = .made id then 1 else 0) + (if id < s.next then 1 else 0) =
      if id < next then 1 else 0 := by
    rcases made with ⟨rfl, rfl⟩ | ⟨rfl, rfl⟩
    · simp
    · simp only [MovementGenerator.made.injEq]
      split <;> split <;> split <;> omega
  have installs (id : Nat) : stackCount [.install g slot] id = if g = .made id then 1 else 0 := rfl
  unfold State.mutate
  cases here : s.master.impl slot with
  | none =>
    have counts (id : Nat) : slotCount s.master id + waitCount s.master s.base id +
        stackCount [.install g slot] id + (if id < s.next then 1 else 0) =
          slotCount s.master id + waitCount s.master s.base id + stackCount [] id +
            if id < next then 1 else 0 := by
      have sum := born id
      rw [installs, stackCount_nil]
      omega
    exact ⟨_, rfl, inv.nested [] [.install g slot] s.stack rfl
      (grows_raised s.master slot) (.inl rfl) (slots_raised inv.slots here)
      (fun ok => ⟨free, ok⟩) counts (fun _ => rfl) inv.updating⟩
  | some curr =>
    have taken : s.master.impl slot ≠ none := by
      rw [here]
      exact nofun
    have emptied := slotCount_emptied here
    dsimp only
    by_cases delayed : (s.master.setSlot slot none).top = some slot ∧
        (s.master.setSlot slot none).update = true
    · rw [if_pos delayed]
      obtain ⟨m, run, impl, top, update, waits⟩ :=
        delayedDelete_ok (s.master.setSlot slot none) curr
      have counted (id : Nat) := waits s.base id (done_of_update inv.base delayed.2)
      rw [run]
      refine ⟨_, rfl, inv.nested [] [.install g slot] s.stack rfl
        (grows_emptied s.master slot impl top update) (.inr delayed.2)
        (slots_emptied inv.slots taken impl top) (fun ok => ⟨free, ok⟩) (fun id => ?_)
        (fun _ => rfl) fun id updating => ?_⟩
      · have sum := born id
        have count := counted id
        have slots := emptied id
        rw [installs, stackCount_nil, slotCount_eq impl]
        change _ = waitCount s.master s.base id + _ at count
        omega
      · have before := inv.updating id updating
        have count := counted id
        have slots := emptied id
        rw [slotCount_eq impl]
        change _ = waitCount s.master s.base id + _ at count
        omega
    · rw [if_neg delayed]
      obtain ⟨frames, run, holes, counts, debts, framesOk⟩ := directDelete_ok curr
      have kept : Invariant { s with
          master := s.master.setSlot slot none
          stack := (frames ++ [.install g slot]) ++ s.stack
          next } := ?_
      · rw [← append_cons] at kept
        exact ⟨_, congrArg (Option.bind · _) run, kept⟩
      refine inv.nested [] _ s.stack rfl ?_ (.inl rfl) ?_ (fun ok => ?_) (fun id => ?_)
        (fun id => ?_) fun id updating => ?_
      · rw [replacing_append, holes]
        exact grows_emptied s.master slot rfl rfl rfl
      · rw [replacing_append, holes]
        exact slots_emptied inv.slots taken rfl rfl
      · rw [replacing_append, holes] at ok
        rw [append_assoc]
        exact framesOk _ _ _ ⟨free, ok⟩
      · have sum := born id
        have slots := emptied id
        rw [stackCount_append, counts, installs, stackCount_nil]
        change slotCount _ id + waitCount s.master s.base id + _ + _ = _
        omega
      · rw [debt_append, debts]
        rfl
      · have differs : curr ≠ .made id := fun same =>
          delayed ⟨quiet id updating (here.trans (congrArg some same)),
            update_of_updating (m := s.master) inv.base updating⟩
        have slots := emptied id
        rw [if_neg differs, Nat.add_zero] at slots
        rw [slots]
        exact inv.updating id updating

theorem onTop {frame : Frame} (inv : Invariant (s.push [frame])) :
    FrameOk s.master [] s.stack frame := inv.frames.1

theorem drop {frame : Frame} (inv : Invariant (s.push [frame])) (hole : frame.hole = [])
    (holds : ∀ id, frame.holds id = 0) (debt : ∀ id, frame.debt id = 0) : Invariant s := by
  have single : replacing [frame] = [] := by
    rw [replacing_cons, hole]
    rfl
  refine inv.nested [frame] [] s.stack (m := s.master) rfl ?_ (.inl rfl) ?_ id
    (fun id => ?_) (fun id => ?_) inv.updating
  · rw [single]
    exact Grows.of_same rfl rfl rfl
  · have before := inv.slots
    rwa [show (s.push [frame]).stack = [frame] ++ s.stack from rfl, replacing_append, single]
      at before
  · rw [stackCount_cons, holds id]
    rfl
  · rw [debt_cons, debt id]
    rfl

section
variable (inv : Invariant s) {m : MotionMaster} (impl : m.impl = s.master.impl)
  (top : m.top = s.master.top) (update : m.update = s.master.update)
  (list : m.expList = s.master.expList)
include inv impl top update list

theorem pushed (frames : List Frame) (none : replacing frames = [])
    (holds : ∀ id, stackCount frames id = 0 ∧ debt frames id = 0)
    (ok : FramesOk m [] s.stack → FramesOk m [] (frames ++ s.stack)) :
    Invariant ({ s with master := m }.push frames) := by
  have waits (id : Nat) : waitCount m s.base id = waitCount s.master s.base id := by
    unfold waitCount
    rw [list]
  refine inv.nested [] frames s.stack rfl ?_ (.inl list) ?_ (fun rest => ?_)
    (fun id => ?_) (fun id => (holds id).2) fun id updating => ?_
  · rw [none]
    exact Grows.of_same impl top update
  · rw [none]
    exact inv.slots.of_same impl top
  · rw [none] at rest
    exact ok rest
  · rw [slotCount_eq impl, waits, (holds id).1]
    rfl
  · rw [slotCount_eq impl, waits]
    exact inv.updating id updating

theorem flagged : Invariant { s with master := m } :=
  inv.pushed impl top update list [] rfl (fun _ => ⟨rfl, rfl⟩) id

end

theorem initOrReset (inv : Invariant s) (ready : Ready s.master []) (reset : Bool) :
    ∃ after, s.initOrReset reset = some after ∧ Invariant after := by
  obtain ⟨t, top, filled⟩ := ready
  have taken := filled.resolve_right not_mem_nil
  obtain ⟨g, here⟩ := ne_none_iff_exists'.mp taken
  unfold State.initOrReset State.initTop State.resetTop
  rw [top, top?_of top here, bind_eq_bind, bind_some]
  split
  · exact ⟨_, rfl, inv.pushed (m := s.master) rfl rfl rfl rfl [.running .init g, .initTopDone] rfl
      (fun _ => ⟨rfl, rfl⟩) fun ok => ⟨trivial, ⟨t, top, .inl taken⟩, ok⟩⟩
  split
  · exact ⟨_, rfl, inv.pushed (m := s.master) rfl rfl rfl rfl [.running .reset g] rfl
      (fun _ => ⟨rfl, rfl⟩) fun ok => ⟨trivial, ok⟩⟩
  · exact ⟨s, rfl, inv⟩

variable {t n : MovementSlot}

/-- A generator above an occupied slot is popped, finalized and deleted. -/
theorem popped (inv : Invariant s) {curr : MovementGenerator}
    (top : s.master.top = some t) (here : s.master.impl t = some curr) (less : n < t)
    (taken : s.master.impl n ≠ none) (safe : ∀ h ∈ replacing s.stack, h ≤ n)
    (update : s.master.update = false) (frame : Frame) (hole : frame.hole = [])
    (holds : ∀ id, frame.holds id = 0 ∧ frame.debt id = 0)
    (ok : ∀ m : MotionMaster, m.update = false → m.impl n ≠ none → Ready m [] →
      FrameOk m [] s.stack frame) :
    ∃ m frames, s.master.pop = some m ∧ State.directDelete (some curr) = some frames ∧
      Invariant ({ s with master := m }.push (frames ++ [frame])) := by
  obtain ⟨found, pop, _, lower, occupied, slots⟩ := inv.slots.pop top less taken safe
  obtain ⟨frames, run, holes, counts, debts, framesOk⟩ := directDelete_ok curr
  have still (u : MovementSlot) (ne : u ≠ t) :
      Function.update s.master.impl t none u = s.master.impl u := Function.update_of_ne ne _ _
  have bottom : motionSlotIdle ≠ t := fun zero =>
    absurd less (not_lt.mpr (zero ▸ slot_zero_le n))
  have ready : Ready { s.master.setSlot t none with top := some found } [] :=
    ⟨found, rfl, .inl (by
      change Function.update s.master.impl t none found ≠ none
      rw [still found (ne_of_lt lower)]
      exact occupied)⟩
  have empty : replacing (frames ++ [frame]) = [] := by
    rw [replacing_append, holes, replacing_cons, hole]
    rfl
  refine ⟨_, frames, pop, run, inv.nested [] (frames ++ [frame]) s.stack rfl ?_
    (.inl rfl) ?_ (fun rest => ?_) (fun id => ?_) (fun id => ?_) fun id updating => ?_⟩
  · rw [empty]
    refine ⟨fun filled => .inl ?_, .inl ready, rfl⟩
    change Function.update s.master.impl t none motionSlotIdle ≠ none
    rw [still _ bottom]
    exact filled.resolve_right not_mem_nil
  · rw [empty]
    exact slots
  · rw [empty] at rest
    rw [append_assoc]
    refine framesOk _ _ _ ⟨ok _ update ?_ ready, by rwa [hole]⟩
    change Function.update s.master.impl t none n ≠ none
    rw [still n (ne_of_lt less)]
    exact taken
  · have emptied := slotCount_emptied here id
    rw [stackCount_append, counts, stackCount_cons, (holds id).1, stackCount_nil]
    change slotCount (s.master.setSlot t none) id + waitCount s.master s.base id + _ +
      (if id < s.next then 1 else 0) =
        slotCount s.master id + waitCount s.master s.base id + 0 + if id < s.next then 1 else 0
    omega
  · rw [debt_append, debts, debt_cons, (holds id).2]
    rfl
  · have on := update_of_updating inv.base updating
    rw [update] at on
    cases on

theorem cleanLoop {reset : Bool} (inv : Invariant (s.push [.cleanLoop reset])) :
    ∃ after, s.cleanLoop reset = some after ∧ Invariant after := by
  obtain ⟨update, idle, ready, safe⟩ := inv.onTop
  have rest := inv.drop rfl (fun _ => rfl) fun _ => rfl
  have bottom : s.master.impl motionSlotIdle ≠ none := idle.resolve_right not_mem_nil
  have top := ready
  obtain ⟨t, top, filled⟩ := top
  obtain ⟨curr, here⟩ := ne_none_iff_exists'.mp (filled.resolve_right not_mem_nil)
  unfold State.cleanLoop
  by_cases more : s.master.stacked = true
  · obtain ⟨u, isTop, less⟩ := stacked_iff.mp more
    obtain rfl := some.inj (top.symm.trans isTop)
    obtain ⟨m, frames, pop, run, kept⟩ := rest.popped top here less bottom
      (fun h hole => le_of_eq (safe h hole)) update (.cleanLoop reset) rfl
      (fun _ => ⟨rfl, rfl⟩) fun m off still ready => ⟨off, .inl still, ready, safe⟩
    simp only [if_pos more, top?_of top here, pop, run, isSome_some, if_true, bind_eq_bind,
      bind_some]
    exact ⟨_, rfl, kept⟩
  · rw [if_neg more]
    exact rest.initOrReset ready reset

theorem directExpire (inv : Invariant s) (top : s.master.top = some t)
    (here : s.master.impl t ≠ none) (taken : s.master.impl n ≠ none)
    (less : motionSlotIdle < t → n < t) (safe : ∀ h ∈ replacing s.stack, h ≤ n)
    (update : s.master.update = false) (reset : Bool) :
    ∃ after, s.directExpire reset = some after ∧ Invariant after := by
  obtain ⟨curr, occupied⟩ := ne_none_iff_exists'.mp here
  unfold State.directExpire
  by_cases more : s.master.stacked = true
  · obtain ⟨u, isTop, above⟩ := stacked_iff.mp more
    obtain rfl := some.inj (top.symm.trans isTop)
    obtain ⟨m, frames, pop, run, kept⟩ := inv.popped top occupied (less above) taken safe update
      (.expireRest reset) rfl (fun _ => ⟨rfl, rfl⟩) fun _ _ _ ready => ready
    simp only [if_pos more, top?_of top occupied, pop, run, bind_eq_bind, bind_some]
    exact ⟨_, rfl, kept⟩
  · rw [if_neg more]
    exact ⟨_, rfl, inv.pushed (m := s.master) rfl rfl rfl rfl [.expireRest reset] rfl
      (fun _ => ⟨rfl, rfl⟩) fun ok => ⟨⟨t, top, .inl here⟩, ok⟩⟩

theorem expireRest {reset : Bool} (inv : Invariant (s.push [.expireRest reset])) :
    ∃ after, s.expireRest reset = some after ∧ Invariant after := by
  have ready : Ready s.master [] := inv.onTop
  have rest := inv.drop rfl (fun _ => rfl) fun _ => rfl
  have here := ready
  obtain ⟨t, top, filled⟩ := here
  obtain ⟨found, run, higher, within, _⟩ :=
    settle_of (le_refl t) (filled.resolve_right not_mem_nil)
  obtain rfl := le_antisymm within higher
  have same : { s.master with top := some found } = s.master := by
    rw [← top]
  unfold State.expireRest
  rw [top, bind_eq_bind, bind_some, run, bind_some, same]
  exact rest.initOrReset ready reset

theorem initTopDone (inv : Invariant (s.push [.initTopDone])) :
    ∃ after, s.initTopDone = some after ∧ Invariant after := by
  obtain ⟨t, top, _⟩ := inv.onTop
  have rest := inv.drop rfl (fun _ => rfl) fun _ => rfl
  unfold State.initTopDone
  rw [top]
  exact ⟨_, rfl, rest.flagged rfl rfl rfl rfl⟩

theorem install {g : MovementGenerator} {slot : MovementSlot}
    (inv : Invariant (s.push [.install g slot])) : Invariant (s.install g slot) := by
  have static : slot ∈ replacing s.stack → g = .idle := inv.onTop
  have slots : SlotsOk s.master ([slot] ++ replacing s.stack) := inv.slots
  obtain ⟨⟨t, top, inside⟩, free⟩ := slots.holes slot (mem_append_left _ mem_cons_self)
  have impl (u : MovementSlot) :
      (s.master.setSlot slot (some g)).impl u = if u = slot then some g else s.master.impl u :=
    Function.update_apply _ _ _ _
  have filled : SlotsOk (s.master.setSlot slot (some g)) (replacing s.stack) := by
    refine ⟨fun u v isTop beyond => ?_, fun isTop => ?_, fun u isTop => ?_, fun h hole => ?_⟩
    · rw [impl, if_neg]
      · exact slots.above u v isTop beyond
      · rintro rfl
        obtain rfl := some.inj (top.symm.trans isTop)
        exact absurd beyond (not_lt.mpr inside)
    · exact absurd (top.symm.trans isTop) nofun
    · by_cases same : u = slot
      · refine .inl ?_
        rw [impl, if_pos same]
        exact nofun
      · rcases slots.filled u isTop with taken | hole
        · refine .inl ?_
          rw [impl, if_neg same]
          exact taken
        · exact .inr ((mem_cons.mp hole).resolve_left same)
    · obtain ⟨bound, empty⟩ := slots.holes h (mem_append_right _ hole)
      refine ⟨bound, ?_⟩
      rw [impl]
      split
      · next same => exact .inr (congrArg some (static (same ▸ hole)))
      · exact empty
  have keeps (u : MovementSlot) (was : Filled s.master.impl [slot] u) :
      Filled (s.master.setSlot slot (some g)).impl [] u := by
    refine .inl ?_
    rw [impl]
    split
    · exact nofun
    · rename_i other
      exact was.resolve_right fun hole => other (mem_singleton.mp hole)
  have grows : Grows s.master [slot] (s.master.setSlot slot (some g)) [] :=
    ⟨keeps _, .inr ⟨rfl, fun u _ => keeps u⟩, rfl⟩
  have count (id : Nat) : slotCount (s.master.setSlot slot (some g)) id =
      slotCount s.master id + if g = .made id then 1 else 0 := by
    have change := slotCount_setSlot s.master slot (some g) id
    have lacks : s.master.impl slot ≠ some (.made id) := by
      intro here
      rcases free with nothing | static
      · cases nothing.symm.trans here
      · cases static.symm.trans here
    rw [if_neg lacks] at change
    simpa only [some.injEq, Nat.add_zero] using change
  have settled : Invariant { s with master := s.master.setSlot slot (some g) } := by
    refine inv.nested [.install g slot] [] s.stack rfl grows (.inl rfl) filled id
      (fun id => ?_) (fun _ => rfl) fun id updating => ?_
    · rw [count, stackCount_nil, stackCount_cons, stackCount_nil]
      change _ + waitCount s.master s.base id + _ + (if id < s.next then 1 else 0) =
        slotCount s.master id + waitCount s.master s.base id + ((if g = .made id then 1 else 0) + 0)
          + if id < s.next then 1 else 0
      omega
    · have before := inv.updating id updating
      change 1 ≤ slotCount s.master id + waitCount s.master s.base id at before
      change 1 ≤ _ + waitCount s.master s.base id
      rw [count]
      omega
  unfold State.install
  dsimp only
  split
  · exact settled.flagged rfl rfl rfl rfl
  have calls := settled.pushed (m := { s.master.setSlot slot (some g) with
      needInit := Function.update s.master.needInit slot false }) rfl rfl rfl rfl
    [.running .init g] rfl (fun _ => ⟨rfl, rfl⟩) fun ok => ⟨trivial, ok⟩
  exact calls

theorem deleteGenerator {name : Nat} (inv : Invariant (s.push [.deleteGenerator name])) :
    Invariant { s with deleted := name :: s.deleted } := by
  refine inv.exchange [.deleteGenerator name] [] s.stack
    (m := s.master) rfl (Grows.of_same rfl rfl rfl) (.inl rfl) inv.slots id (fun id => ?_)
    (fun id => ?_) inv.updating
  · have before := inv.held id
    change slotCount s.master id + waitCount s.master s.base id +
      ((if name = id then 1 else 0) + stackCount s.stack id) + s.deleted.count id =
        if id < s.next then 1 else 0 at before
    rw [count_cons, nil_append]
    simp only [beq_iff_eq]
    change slotCount s.master id + waitCount s.master s.base id + _ + _ =
      if id < s.next then 1 else 0
    omega
  · have before := inv.ended id
    change (s.finalized.count id : Int) =
      s.deleted.count id + ((if name = id then 1 else 0) + debt s.stack id) at before
    rw [count_cons, nil_append]
    simp only [beq_iff_eq]
    rw [before]
    split <;> push_cast <;> omega

/-- A generator above an occupied slot is popped while an update runs. -/
theorem delayedPop (inv : Invariant s) {curr : MovementGenerator} (top : s.master.top = some t)
    (here : s.master.impl t = some curr) (less : n < t) (taken : s.master.impl n ≠ none)
    (safe : ∀ h ∈ replacing s.stack, h ≤ n) (update : s.master.update = true) :
    ∃ popped after found, s.master.pop = some popped ∧
      popped.delayedDelete (some curr) = some after ∧ after.top = some found ∧
      after.impl found ≠ none ∧ after.impl n ≠ none ∧ after.update = true ∧
      Invariant { s with master := after } := by
  obtain ⟨found, pop, _, lower, occupied, slots⟩ := inv.slots.pop top less taken safe
  obtain ⟨after, run, impl, isTop, flag, waits⟩ :=
    delayedDelete_ok { s.master.setSlot t none with top := some found } curr
  have counted (id : Nat) : waitCount after s.base id =
      waitCount s.master s.base id + if curr = .made id then 1 else 0 :=
    waits s.base id (done_of_update inv.base update)
  have still (u : MovementSlot) (ne : u ≠ t) : after.impl u = s.master.impl u := by
    rw [impl]
    exact Function.update_of_ne ne _ _
  have bottom : motionSlotIdle ≠ t := fun zero =>
    absurd less (not_lt.mpr (zero ▸ slot_zero_le n))
  have high : after.impl found ≠ none := by
    rw [still found (ne_of_lt lower)]
    exact occupied
  have low : after.impl n ≠ none := by
    rw [still n (ne_of_lt less)]
    exact taken
  have emptied (id : Nat) : slotCount after id + (if curr = .made id then 1 else 0) =
      slotCount s.master id := by
    rw [slotCount_eq impl]
    exact slotCount_emptied here id
  have grows : Grows s.master [] after [] := by
    refine ⟨fun filled => .inl ?_, .inl ⟨found, isTop, .inl high⟩, flag⟩
    rw [still _ bottom]
    exact filled.resolve_right not_mem_nil
  refine ⟨_, after, found, pop, run, isTop, high, low, flag.trans update,
    inv.nested [] [] s.stack rfl grows (.inr update) (slots.of_same impl isTop) id
      (fun id => ?_) (fun _ => rfl) fun id updating => ?_⟩
  · have slot := emptied id
    have wait := counted id
    omega
  · have before := inv.updating id updating
    have slot := emptied id
    have wait := counted id
    omega

theorem delayedCleanLoop (inv : Invariant s) (taken : s.master.impl motionSlotIdle ≠ none)
    (safe : ∀ h ∈ replacing s.stack, h = motionSlotIdle) (update : s.master.update = true)
    (rounds : Nat) :
    ∃ after, delayedCleanLoop rounds s.master = some after ∧
      Invariant { s with master := after } := by
  induction rounds generalizing s with
  | zero => exact ⟨s.master, rfl, inv⟩
  | succ rounds ih =>
    unfold MotionMaster.delayedCleanLoop
    by_cases more : s.master.stacked = true
    · obtain ⟨t, top, less⟩ := stacked_iff.mp more
      have filled := inv.slots.filled t top
      have occupied : s.master.impl t ≠ none :=
        filled.resolve_right fun hole => absurd (safe t hole) (ne_of_gt less)
      obtain ⟨curr, here⟩ := ne_none_iff_exists'.mp occupied
      obtain ⟨popped, after, _, pop, run, _, _, low, flag, kept⟩ :=
        inv.delayedPop top here less taken (fun h hole => le_of_eq (safe h hole)) update
      simp only [if_pos more, top?_of top here, pop, run, isSome_some, if_true,
        bind_eq_bind, bind_some]
      exact ih kept low safe flag
    · rw [if_neg more]
      exact ⟨s.master, rfl, inv⟩

theorem delayedExpire (inv : Invariant s) (top : s.master.top = some t)
    (here : s.master.impl t ≠ none) (taken : s.master.impl n ≠ none)
    (less : motionSlotIdle < t → n < t) (safe : ∀ h ∈ replacing s.stack, h ≤ n)
    (update : s.master.update = true) :
    ∃ after, s.master.delayedExpire = some after ∧ Invariant { s with master := after } := by
  have settles (m : MotionMaster) (u : MovementSlot) (isTop : m.top = some u)
      (occupied : m.impl u ≠ none) :
      (m.top.bind fun t => (settle m.impl t).bind fun t => some { m with top := some t }) =
        some m := by
    obtain ⟨found, run, higher, within, _⟩ := settle_of (le_refl u) occupied
    obtain rfl := le_antisymm within higher
    rw [isTop, bind_some, run, bind_some, ← isTop]
  unfold MotionMaster.delayedExpire
  by_cases more : s.master.stacked = true
  · obtain ⟨u, isTop, above⟩ := stacked_iff.mp more
    obtain rfl := some.inj (top.symm.trans isTop)
    obtain ⟨curr, occupied⟩ := ne_none_iff_exists'.mp here
    obtain ⟨popped, after, found, pop, run, isTop, high, _, _, kept⟩ :=
      inv.delayedPop top occupied (less above) taken safe update
    simp only [if_pos more, top?_of top occupied, pop, run, bind_eq_bind, bind_some]
    exact ⟨after, settles after found isTop high, kept⟩
  · simp only [if_neg more, bind_eq_bind, bind_some]
    exact ⟨s.master, settles s.master t top here, inv⟩

end Invariant

end OpenWoW.Motion
