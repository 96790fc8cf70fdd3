import Mathlib
import OpenWoW.Lib.Counting
import OpenWoW.MotionMaster

/-! What holds of the slots and of the calls in progress at every point inside an operation. -/
namespace OpenWoW.Motion

open List

namespace MotionMaster

theorem settle_of {impl : MovementSlot → Option MovementGenerator} {t n : MovementSlot}
    (below : n ≤ t) (taken : impl n ≠ none) :
    ∃ found, settle impl t = some found ∧ n ≤ found ∧ found ≤ t ∧ impl found ≠ none ∧
      ∀ u, found < u → u ≤ t → impl u = none := by
  have slots : ∀ s : MovementSlot,
      s ∈ [motionSlotControlled, motionSlotActive, motionSlotIdle] := by decide
  have ordered : [motionSlotControlled, motionSlotActive, motionSlotIdle].Pairwise (· > ·) := by
    decide
  have stops (s : MovementSlot) : (s ≤ t && (impl s).isSome) = true ↔ s ≤ t ∧ impl s ≠ none := by
    rw [Bool.and_eq_true, decide_eq_true_eq, ← Option.ne_none_iff_isSome]
  cases result : settle impl t with
  | none =>
    have missing := find?_eq_none.mp result n (slots n)
    exact absurd ((stops n).mpr ⟨below, taken⟩) missing
  | some found =>
    obtain ⟨holds, before, after, split, earlier⟩ := find?_eq_some_iff_append.mp result
    obtain ⟨inside, occupied⟩ := (stops found).mp holds
    rw [split, pairwise_append, pairwise_cons] at ordered
    have higher : ∀ u, found < u → u ≤ t → impl u = none := by
      intro u more within
      have there := slots u
      rw [split] at there
      rcases mem_append.mp there with first | later
      · by_contra some'
        have fails := earlier u first
        rw [(stops u).mpr ⟨within, some'⟩] at fails
        cases fails
      rcases mem_cons.mp later with same | rest
      · exact absurd (same ▸ more) (lt_irrefl found)
      · exact absurd (ordered.2.1.1 u rest) (not_lt.mpr (le_of_lt more))
    refine ⟨found, rfl, ?_, inside, occupied, higher⟩
    by_contra less
    exact taken (higher n (not_le.mp less) below)

@[simp] theorem impl_setSlot (m : MotionMaster) (slot : MovementSlot)
    (g : Option MovementGenerator) : (m.setSlot slot g).impl = Function.update m.impl slot g := rfl

theorem slot_zero_le (slot : MovementSlot) : motionSlotIdle ≤ slot := Fin.zero_le slot

end MotionMaster

open MotionMaster

def Filled (impl : MovementSlot → Option MovementGenerator) (holes : List MovementSlot)
    (slot : MovementSlot) : Prop :=
  impl slot ≠ none ∨ slot ∈ holes

variable {slot : MovementSlot}

theorem Filled.mono {impl : MovementSlot → Option MovementGenerator}
    {holes more : List MovementSlot} (filled : Filled impl holes slot)
    (sub : holes ⊆ more) : Filled impl more slot :=
  filled.imp id fun hole => sub hole

/-- The top slot is filled. -/
def Ready (m : MotionMaster) (holes : List MovementSlot) : Prop :=
  ∃ t, m.top = some t ∧ Filled m.impl holes t

/-- The slots between two steps: nothing lies above the top, the top is filled, and what is about
to be filled lies not above the top and holds no generator that would get lost. -/
structure SlotsOk (m : MotionMaster) (holes : List MovementSlot) : Prop where
  above : ∀ t u, m.top = some t → t < u → m.impl u = none
  bottom : m.top = none → ∀ u, m.impl u = none
  filled : ∀ t, m.top = some t → Filled m.impl holes t
  holes : ∀ h ∈ holes, (∃ t, m.top = some t ∧ h ≤ t) ∧ (m.impl h = none ∨ m.impl h = some .idle)

namespace SlotsOk

variable {m : MotionMaster} {holes : List MovementSlot}

theorem le_top (ok : SlotsOk m holes) {slot : MovementSlot} (taken : m.impl slot ≠ none) :
    ∃ t, m.top = some t ∧ slot ≤ t := by
  cases top : m.top with
  | none => exact absurd (ok.bottom top slot) taken
  | some t =>
    refine ⟨t, rfl, ?_⟩
    by_contra beyond
    exact taken (ok.above t slot top (not_le.mp beyond))

theorem ready (ok : SlotsOk m holes) {slot : MovementSlot} (taken : m.impl slot ≠ none) :
    Ready m holes := by
  obtain ⟨t, top, _⟩ := ok.le_top taken
  exact ⟨t, top, ok.filled t top⟩

theorem pop (ok : SlotsOk m holes) {t n : MovementSlot} (top : m.top = some t) (less : n < t)
    (taken : m.impl n ≠ none) (safe : ∀ h ∈ holes, h ≤ n) :
    ∃ found, m.pop = some { m.setSlot t none with top := some found } ∧ n ≤ found ∧ found < t ∧
      m.impl found ≠ none ∧
      SlotsOk { m.setSlot t none with top := some found } holes := by
  have still : (m.setSlot t none).impl n ≠ none := by
    rw [impl_setSlot, Function.update_of_ne (ne_of_lt less)]
    exact taken
  obtain ⟨found, run, higher, within, occupied, gap⟩ := settle_of (le_of_lt less) still
  have differs : found ≠ t := by
    rintro rfl
    apply occupied
    exact Function.update_self _ _ _
  have was : (m.setSlot t none).impl found = m.impl found := Function.update_of_ne differs _ _
  have lower : found < t := lt_of_le_of_ne within differs
  refine ⟨found, ?_, higher, lower, was ▸ occupied, ?_, nofun, ?_, ?_⟩
  · unfold MotionMaster.pop
    rw [top, Option.bind_eq_bind, Option.bind_some]
    dsimp only
    rw [run]
    rfl
  · rintro _ u ⟨⟩ more
    rcases le_or_gt u t with inside | beyond
    · exact gap u more inside
    change Function.update m.impl t none u = none
    rw [Function.update_of_ne (ne_of_gt beyond)]
    exact ok.above t u top beyond
  · rintro _ ⟨⟩
    exact .inl occupied
  · intro h hole
    have low := safe h hole
    refine ⟨⟨found, rfl, low.trans higher⟩, ?_⟩
    change Function.update m.impl t none h = none ∨ Function.update m.impl t none h = some .idle
    rw [Function.update_of_ne (ne_of_lt (lt_of_le_of_lt low less))]
    exact (ok.holes h hole).2

end SlotsOk

def Frame.hole : Frame → List MovementSlot
  | .install _ slot => [slot]
  | _ => []

/-- The slots that the calls in progress are about to fill. -/
def replacing (stack : List Frame) : List MovementSlot := stack.flatMap Frame.hole

@[simp] theorem replacing_nil : replacing [] = [] := rfl

@[simp] theorem replacing_cons (frame : Frame) (stack : List Frame) :
    replacing (frame :: stack) = frame.hole ++ replacing stack := flatMap_cons

@[simp] theorem replacing_append (frames stack : List Frame) :
    replacing (frames ++ stack) = replacing frames ++ replacing stack := flatMap_append

/-- What a frame needs, where `holes` are the slots that the frames above it fill and `rest` are
the frames below. -/
def FrameOk (m : MotionMaster) (holes : List MovementSlot) (rest : List Frame) : Frame → Prop
  | .initializeLoop => False
  | .install g slot => slot ∈ replacing rest → g = .idle
  | .cleanLoop _ => m.update = false ∧ Filled m.impl holes motionSlotIdle ∧ Ready m holes ∧
      ∀ h ∈ replacing rest, h = motionSlotIdle
  | .expireRest _ => Ready m holes
  | .initTopDone => Ready m holes
  | .running .finalize g => ∃ id, g = .made id ∧ rest.head? = some (.deleteGenerator id)
  | .running _ _ => True
  | .deleteGenerator _ => True

def FramesOk (m : MotionMaster) : List MovementSlot → List Frame → Prop
  | _, [] => True
  | holes, frame :: rest => FrameOk m holes rest frame ∧ FramesOk m (holes ++ frame.hole) rest

/-- What the rest of `UpdateMotion` needs. -/
def BaseOk (m : MotionMaster) (holes : List MovementSlot) : Base → Prop
  | .rest => m.update = false ∧ m.expList = none
  | .updating _ => m.update = true ∧ Filled m.impl holes motionSlotIdle ∧ Ready m holes
  | .updated _ => m.update = true ∧ Filled m.impl holes motionSlotIdle ∧ Ready m holes
  | .expiring i => m.update = false ∧ Filled m.impl holes motionSlotIdle ∧ Ready m holes ∧
      (m.expList = none → i = 0)
  | .finishing => m.update = false ∧ m.expList = none

/-- A step of the frames above the others keeps what those rely on. -/
structure Grows (m : MotionMaster) (holes : List MovementSlot) (after : MotionMaster)
    (more : List MovementSlot) : Prop where
  idle : Filled m.impl holes motionSlotIdle → Filled after.impl more motionSlotIdle
  top : Ready after more ∨ after.top = m.top ∧
    ∀ t, m.top = some t → Filled m.impl holes t → Filled after.impl more t
  update : after.update = m.update

namespace Grows

variable {m after : MotionMaster} {holes more : List MovementSlot}

section
variable (grows : Grows m holes after more)
include grows

theorem filled (deeper : List MovementSlot)
    (was : Filled m.impl (holes ++ deeper) motionSlotIdle) :
    Filled after.impl (more ++ deeper) motionSlotIdle := by
  have sub : more ⊆ more ++ deeper := subset_append_left _ _
  rcases was with taken | hole
  · exact (grows.idle (.inl taken)).mono sub
  rcases mem_append.mp hole with above | below
  · exact (grows.idle (.inr above)).mono sub
  · exact .inr (mem_append_right _ below)

theorem ready (deeper : List MovementSlot)
    (was : Ready m (holes ++ deeper)) : Ready after (more ++ deeper) := by
  have sub : more ⊆ more ++ deeper := subset_append_left _ _
  rcases grows.top with ⟨t, top, filled⟩ | ⟨same, keeps⟩
  · exact ⟨t, top, filled.mono sub⟩
  obtain ⟨t, top, filled⟩ := was
  refine ⟨t, same.trans top, ?_⟩
  rcases filled with taken | hole
  · exact (keeps t top (.inl taken)).mono sub
  rcases mem_append.mp hole with above | below
  · exact (keeps t top (.inr above)).mono sub
  · exact .inr (mem_append_right _ below)

theorem deeper (frame : Frame) :
    Grows m (holes ++ frame.hole) after (more ++ frame.hole) where
  idle := grows.filled frame.hole
  top := by
    rcases grows.top with ⟨t, top, filled⟩ | ⟨same, keeps⟩
    · exact .inl ⟨t, top, filled.mono (subset_append_left _ _)⟩
    refine .inr ⟨same, fun t top filled => ?_⟩
    rcases filled with taken | hole
    · exact (keeps t top (.inl taken)).mono (subset_append_left _ _)
    rcases mem_append.mp hole with above | below
    · exact (keeps t top (.inr above)).mono (subset_append_left _ _)
    · exact .inr (mem_append_right _ below)
  update := grows.update

theorem frames {rest : List Frame}
    (ok : FramesOk m holes rest) : FramesOk after more rest := by
  induction rest generalizing holes more with
  | nil => trivial
  | cons frame rest ih =>
    refine ⟨?_, ih (grows.deeper frame) ok.2⟩
    have here := ok.1
    have ready (was : Ready m holes) : Ready after more := by
      simpa using grows.ready [] (by simpa using was)
    cases frame with
    | initializeLoop => exact here
    | install g slot => exact here
    | cleanLoop reset =>
      exact ⟨grows.update.trans here.1, grows.idle here.2.1, ready here.2.2.1, here.2.2.2⟩
    | expireRest reset => exact ready here
    | initTopDone => exact ready here
    | running method g => cases method <;> exact here
    | deleteGenerator id => trivial

theorem base (rest : List Frame) {base : Base}
    (ok : BaseOk m (holes ++ replacing rest) base)
    (same : after.expList = m.expList ∨ m.update = true) :
    BaseOk after (more ++ replacing rest) base := by
  have kept (off : m.update = false) : after.expList = m.expList :=
    same.resolve_right fun on => Bool.false_ne_true (off.symm.trans on)
  have filled := grows.filled (replacing rest)
  have ready := grows.ready (replacing rest)
  cases base with
  | rest => exact ⟨grows.update.trans ok.1, (kept ok.1).trans ok.2⟩
  | updating g => exact ⟨grows.update.trans ok.1, filled ok.2.1, ready ok.2.2⟩
  | updated goes => exact ⟨grows.update.trans ok.1, filled ok.2.1, ready ok.2.2⟩
  | expiring i =>
    exact ⟨grows.update.trans ok.1, filled ok.2.1, ready ok.2.2.1,
      fun nothing => ok.2.2.2 ((kept ok.1).symm.trans nothing)⟩
  | finishing => exact ⟨grows.update.trans ok.1, (kept ok.1).trans ok.2⟩

end

end Grows

/-- How many slots hold a generator. -/
def slotCount (m : MotionMaster) (id : Nat) : Nat :=
  (List.finRange 3).countP fun slot => m.impl slot = some (.made id)

/-- How many generators of the list are deleted already. -/
def Base.done : Base → Nat
  | .expiring i => i
  | _ => 0

/-- How often a generator waits for its deletion. -/
def waitCount (m : MotionMaster) (base : Base) (id : Nat) : Nat :=
  ((m.expList.getD []).drop base.done).countP fun g => g = .made id

def Frame.holds (id : Nat) : Frame → Nat
  | .deleteGenerator other => if other = id then 1 else 0
  | .install g _ => if g = .made id then 1 else 0
  | _ => 0

/-- How often the calls in progress delete or install a generator. -/
def stackCount (stack : List Frame) (id : Nat) : Nat := (stack.map (Frame.holds id)).sum

@[simp] theorem stackCount_nil (id : Nat) : stackCount [] id = 0 := rfl

@[simp] theorem stackCount_cons (frame : Frame) (stack : List Frame) (id : Nat) :
    stackCount (frame :: stack) id = frame.holds id + stackCount stack id := sum_cons

@[simp] theorem stackCount_append (frames stack : List Frame) (id : Nat) :
    stackCount (frames ++ stack) id = stackCount frames id + stackCount stack id := by
  unfold stackCount
  rw [map_append, sum_append]

/-- `delete` without its `Finalize`, or the other way round. -/
def Frame.debt (id : Nat) : Frame → Int
  | .running .finalize (.made other) => if other = id then -1 else 0
  | .deleteGenerator other => if other = id then 1 else 0
  | _ => 0

/-- By how many the finalizations of a generator exceed its deletions. -/
def debt (stack : List Frame) (id : Nat) : Int := (stack.map (Frame.debt id)).sum

@[simp] theorem debt_nil (id : Nat) : debt [] id = 0 := rfl

@[simp] theorem debt_cons (frame : Frame) (stack : List Frame) (id : Nat) :
    debt (frame :: stack) id = frame.debt id + debt stack id := sum_cons

@[simp] theorem debt_append (frames stack : List Frame) (id : Nat) :
    debt (frames ++ stack) id = debt frames id + debt stack id := by
  unfold debt
  rw [map_append, sum_append]

theorem slotCount_setSlot (m : MotionMaster) (slot : MovementSlot)
    (g : Option MovementGenerator) (id : Nat) :
    slotCount (m.setSlot slot g) id + (if m.impl slot = some (.made id) then 1 else 0) =
      slotCount m id + (if g = some (.made id) then 1 else 0) := by
  have change := Counting.countP_change
    (fun s : MovementSlot => decide (m.impl s = some (.made id)))
    (fun s => decide ((m.setSlot slot g).impl s = some (.made id)))
    (nodup_finRange 3) (mem_finRange slot) fun other _ ne => by
      rw [impl_setSlot, Function.update_of_ne ne]
  have bit (p : Prop) [Decidable p] : (decide p).toNat = if p then 1 else 0 := by
    by_cases holds : p <;> simp [holds]
  rw [impl_setSlot, Function.update_self, bit, bit] at change
  exact change

/-- A made generator is in one place: in a slot, in the list of those to be deleted, with a call
that installs or deletes it, or deleted. -/
def held (s : State) (id : Nat) : Nat :=
  slotCount s.master id + waitCount s.master s.base id + stackCount s.stack id + s.deleted.count id

structure Invariant (s : State) : Prop where
  slots : SlotsOk s.master (replacing s.stack)
  frames : FramesOk s.master [] s.stack
  base : BaseOk s.master (replacing s.stack) s.base
  started : s.initialized = true → Filled s.master.impl (replacing s.stack) motionSlotIdle
  held : ∀ id, held s id = if id < s.next then 1 else 0
  ended : ∀ id, (s.finalized.count id : Int) = s.deleted.count id + debt s.stack id
  updating : ∀ id, s.base = .updating (.made id) →
    1 ≤ slotCount s.master id + waitCount s.master s.base id

theorem framesOk_drop {m : MotionMaster} {holes : List MovementSlot} {old rest : List Frame}
    (ok : FramesOk m holes (old ++ rest)) : FramesOk m (holes ++ replacing old) rest := by
  induction old generalizing holes with
  | nil => simpa using ok
  | cons frame old ih =>
    have later := ih ok.2
    rwa [append_assoc, ← replacing_cons] at later

section
variable {s : State} (inv : Invariant s) (old new rest : List Frame) (stack : s.stack = old ++ rest)
  {m : MotionMaster} {next : Nat} (grows : Grows s.master (replacing old) m (replacing new))
  (list : m.expList = s.master.expList ∨ s.master.update = true)
  (slots : SlotsOk m (replacing new ++ replacing rest))
  (frames : FramesOk m (replacing new) rest → FramesOk m [] (new ++ rest))
include inv old new rest stack grows list slots frames

theorem Invariant.exchange {deleted finalized : List Nat}
    (counts : ∀ id, slotCount m id + waitCount m s.base id + stackCount (new ++ rest) id +
      deleted.count id = if id < next then 1 else 0)
    (ended : ∀ id, (finalized.count id : Int) = deleted.count id + debt (new ++ rest) id)
    (updating : ∀ id, s.base = .updating (.made id) → 1 ≤ slotCount m id + waitCount m s.base id) :
    Invariant { s with master := m, stack := new ++ rest, next, deleted, finalized } where
  slots := by
    rw [replacing_append]
    exact slots
  frames := by
    have before := inv.frames
    rw [stack] at before
    exact frames (grows.frames (by simpa using framesOk_drop before))
  base := by
    have before := inv.base
    rw [stack, replacing_append] at before
    change BaseOk m (replacing (new ++ rest)) s.base
    rw [replacing_append]
    exact grows.base rest before list
  started begun := by
    have before := inv.started begun
    rw [stack, replacing_append] at before
    change Filled m.impl (replacing (new ++ rest)) motionSlotIdle
    rw [replacing_append]
    exact grows.filled (replacing rest) before
  held := counts
  ended := ended
  updating := updating

theorem Invariant.nested
    (counts : ∀ id, slotCount m id + waitCount m s.base id + stackCount new id +
      (if id < s.next then 1 else 0) =
        slotCount s.master id + waitCount s.master s.base id + stackCount old id +
          if id < next then 1 else 0)
    (debts : ∀ id, debt new id = debt old id)
    (updating : ∀ id, s.base = .updating (.made id) → 1 ≤ slotCount m id + waitCount m s.base id) :
    Invariant { s with master := m, stack := new ++ rest, next } := by
  refine inv.exchange old new rest stack grows list slots frames (fun id => ?_) (fun id => ?_) updating
  · have before := inv.held id
    have change := counts id
    unfold Motion.held at before
    rw [stack, stackCount_append] at before
    rw [stackCount_append]
    omega
  · have before := inv.ended id
    rw [stack, debt_append] at before
    rw [debt_append, debts id]
    exact before

end

theorem done_of_update {m : MotionMaster} {holes : List MovementSlot} {base : Base}
    (ok : BaseOk m holes base) (update : m.update = true) : base.done = 0 := by
  cases base with
  | expiring i => exact absurd (ok.1.symm.trans update) Bool.false_ne_true
  | rest => rfl
  | updating g => rfl
  | updated goes => rfl
  | finishing => rfl

theorem update_of_updating {m : MotionMaster} {holes : List MovementSlot} {base : Base}
    (ok : BaseOk m holes base) {g : MovementGenerator} (updating : base = .updating g) :
    m.update = true := by
  subst updating
  exact ok.1

theorem delayedDelete_ok (m : MotionMaster) (g : MovementGenerator) :
    ∃ after, m.delayedDelete (some g) = some after ∧ after.impl = m.impl ∧ after.top = m.top ∧
      after.update = m.update ∧ ∀ (base : Base) (id : Nat), base.done = 0 →
        waitCount after base id = waitCount m base id + (if g = .made id then 1 else 0) := by
  cases g with
  | idle =>
    refine ⟨m, rfl, rfl, rfl, rfl, fun base id _ => ?_⟩
    rw [if_neg nofun, Nat.add_zero]
  | made name =>
    refine ⟨_, rfl, rfl, rfl, rfl, fun base id start => ?_⟩
    unfold waitCount
    rw [start, drop_zero, drop_zero]
    change (m.expList.getD [] ++ [MovementGenerator.made name]).countP _ = _
    rw [countP_append]
    simp [countP_cons]

theorem directDelete_ok (g : MovementGenerator) :
    ∃ frames, State.directDelete (some g) = some frames ∧ replacing frames = [] ∧
      (∀ id, stackCount frames id = if g = .made id then 1 else 0) ∧
      (∀ id, debt frames id = 0) ∧
      ∀ (m : MotionMaster) (holes : List MovementSlot) (rest : List Frame),
        FramesOk m holes rest → FramesOk m holes (frames ++ rest) := by
  cases g with
  | idle =>
    refine ⟨[], rfl, rfl, fun id => ?_, fun _ => rfl, fun _ _ _ ok => ok⟩
    rw [if_neg nofun]
    rfl
  | made name =>
    refine ⟨_, rfl, rfl, fun id => ?_, fun id => ?_, fun m holes rest ok => ?_⟩
    · simp [Frame.holds]
    · rw [debt_cons, debt_cons, debt_nil]
      dsimp only [Frame.debt]
      split <;> rfl
    · refine ⟨⟨name, rfl, rfl⟩, trivial, ?_⟩
      simpa [Frame.hole] using ok

theorem slotCount_eq {m after : MotionMaster} (same : after.impl = m.impl) (id : Nat) :
    slotCount after id = slotCount m id := by
  unfold slotCount
  rw [same]

theorem slotCount_emptied {m : MotionMaster} {curr : MovementGenerator}
    (here : m.impl slot = some curr) (id : Nat) :
    slotCount (m.setSlot slot none) id + (if curr = .made id then 1 else 0) = slotCount m id := by
  have change := slotCount_setSlot m slot none id
  simpa only [here, Option.some.injEq, reduceCtorEq, if_false, Nat.add_zero] using change

theorem grows_emptied (m : MotionMaster) (slot : MovementSlot) {after : MotionMaster}
    (impl : after.impl = (m.setSlot slot none).impl) (top : after.top = m.top)
    (update : after.update = m.update) : Grows m [] after [slot] := by
  have keeps : ∀ t, Filled m.impl [] t → Filled after.impl [slot] t := by
    intro t filled
    have taken := filled.resolve_right not_mem_nil
    by_cases same : t = slot
    · exact .inr (mem_singleton.mpr same)
    refine .inl ?_
    rw [impl, impl_setSlot, Function.update_of_ne same]
    exact taken
  exact ⟨keeps _, .inr ⟨top, fun t _ => keeps t⟩, update⟩

theorem slots_emptied {m : MotionMaster} {holes : List MovementSlot} (ok : SlotsOk m holes)
    (taken : m.impl slot ≠ none) {after : MotionMaster}
    (impl : after.impl = (m.setSlot slot none).impl) (top : after.top = m.top) :
    SlotsOk after (slot :: holes) := by
  have emptied (u : MovementSlot) :
      after.impl u = if u = slot then none else m.impl u := by
    rw [impl, impl_setSlot, Function.update_apply]
  refine ⟨fun t u isTop beyond => ?_, fun isTop u => ?_, fun t isTop => ?_, fun h hole => ?_⟩
  · rw [emptied]
    split
    · rfl
    · exact ok.above t u (top ▸ isTop) beyond
  · rw [emptied]
    split
    · rfl
    · exact ok.bottom (top ▸ isTop) u
  · by_cases same : t = slot
    · exact .inr (mem_cons.mpr (.inl same))
    · rcases ok.filled t (top ▸ isTop) with here | hole
      · refine .inl ?_
        rw [emptied, if_neg same]
        exact here
      · exact .inr (mem_cons_of_mem slot hole)
  · rw [emptied, top]
    by_cases same : h = slot
    · rw [if_pos same, same]
      exact ⟨ok.le_top taken, .inl rfl⟩
    · rw [if_neg same]
      exact ok.holes h ((mem_cons.mp hole).resolve_left same)

end OpenWoW.Motion
