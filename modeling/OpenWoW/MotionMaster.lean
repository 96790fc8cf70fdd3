import Mathlib.Data.Fintype.Basic
import Mathlib.Data.List.FinRange
import Mathlib.Logic.Function.Basic
import OpenWoW.Lib.Run

/-! The slots of movement generators, with generators that call back. -/
namespace OpenWoW.Motion

/-- The idle, the active and the controlled slot. -/
abbrev MovementSlot : Type := Fin 3

def motionSlotIdle : MovementSlot := 0
def motionSlotActive : MovementSlot := 1
def motionSlotControlled : MovementSlot := 2

/-- `si_idleMovement` is static, the others are made for one master. -/
inductive MovementGenerator where
  | idle
  | made (id : Nat)
  deriving DecidableEq, Repr

structure MotionMaster where
  impl : MovementSlot → Option MovementGenerator := fun _ => none
  /-- `none` is -1. -/
  top : Option MovementSlot := none
  needInit : MovementSlot → Bool := fun _ => true
  /-- `MMCF_UPDATE`. -/
  update : Bool := false
  /-- `MMCF_RESET`. -/
  reset : Bool := false
  expList : Option (List MovementGenerator) := none

namespace MotionMaster

def empty (m : MotionMaster) : Bool := m.top.isNone

/-- `size() > 1`. -/
def stacked (m : MotionMaster) : Bool := m.top.any fun t => 0 < t

/-- `top()`, which has no value below slot 0. -/
def top? (m : MotionMaster) : Option (Option MovementGenerator) := m.top.map m.impl

/-- `while (!top()) --_top` from a slot, which has no value where it would read below slot 0. -/
def settle (impl : MovementSlot → Option MovementGenerator) (t : MovementSlot) :
    Option MovementSlot :=
  [motionSlotControlled, motionSlotActive, motionSlotIdle].find? fun s =>
    s ≤ t && (impl s).isSome

def setSlot (m : MotionMaster) (slot : MovementSlot) (g : Option MovementGenerator) :
    MotionMaster :=
  { m with impl := Function.update m.impl slot g }

def pop (m : MotionMaster) : Option MotionMaster := do
  let t ← m.top
  let m := m.setSlot t none
  let t ← settle m.impl t
  some { m with top := some t }

/-- The log reads the type of the generator, which must not be null. -/
def delayedDelete (m : MotionMaster) : Option MovementGenerator → Option MotionMaster
  | none => none
  | some .idle => some m
  | some (.made id) => some { m with expList := some (m.expList.getD [] ++ [.made id]) }

/-- Each round lowers the top, so there are as many as slots at most. -/
def delayedCleanLoop : Nat → MotionMaster → Option MotionMaster
  | 0, m => some m
  | rounds + 1, m =>
    if m.stacked then do
      let curr ← m.top?
      let m ← m.pop
      let m ← (if curr.isSome then m.delayedDelete curr else some m)
      delayedCleanLoop rounds m
    else some m

def delayedClean (m : MotionMaster) : Option MotionMaster := delayedCleanLoop 3 m

def delayedExpire (m : MotionMaster) : Option MotionMaster := do
  let m ← (if m.stacked then do
      let curr ← m.top?
      let m ← m.pop
      m.delayedDelete curr
    else some m)
  let t ← m.top
  let t ← settle m.impl t
  some { m with top := some t }

/-- `top() != &si_idleMovement`, or there is no top. -/
def lacksIdle (m : MotionMaster) : Bool := m.empty || m.top? ≠ some (some .idle)

end MotionMaster

inductive Method where
  | init
  | finalize
  | reset
  deriving DecidableEq, Repr

/-- What is left of the calls that have not returned: code to run, or a method of a generator that
runs. -/
inductive Frame where
  | running (method : Method) (g : MovementGenerator)
  | deleteGenerator (id : Nat)
  | initializeLoop
  | install (g : MovementGenerator) (slot : MovementSlot)
  | cleanLoop (reset : Bool)
  | expireRest (reset : Bool)
  | initTopDone
  deriving DecidableEq, Repr

/-- Where a call of `UpdateMotion` is. -/
inductive Base where
  | rest
  | updating (g : MovementGenerator)
  | updated (goes : Bool)
  | expiring (i : Nat)
  | finishing
  deriving DecidableEq, Repr

structure State where
  master : MotionMaster := {}
  base : Base := .rest
  stack : List Frame := []
  /-- The number of the next generator that is made. -/
  next : Nat := 0
  /-- The generators whose `Finalize` has returned. -/
  finalized : List Nat := []
  deleted : List Nat := []
  initialized : Bool := false

namespace State

/-- `DirectDelete`: a finalization and a deletion. -/
def directDelete : Option MovementGenerator → Option (List Frame)
  | none => none
  | some .idle => some []
  | some (.made id) => some [.running .finalize (.made id), .deleteGenerator id]

def push (s : State) (frames : List Frame) : State := { s with stack := frames ++ s.stack }

def mutate (s : State) (g : MovementGenerator) (slot : MovementSlot) : Option State :=
  match s.master.impl slot with
  | some curr =>
    let m := s.master.setSlot slot none
    if m.top = some slot ∧ m.update then do
      let m ← m.delayedDelete (some curr)
      some { s with master := m, stack := .install g slot :: s.stack }
    else do
      let frames ← directDelete (some curr)
      some { s with master := m, stack := frames ++ .install g slot :: s.stack }
  | none =>
    let m := s.master
    let top := if m.top.all (· < slot) then some slot else m.top
    some { s with master := { m with top }, stack := .install g slot :: s.stack }

/-- The end of `Mutate`. -/
def install (s : State) (g : MovementGenerator) (slot : MovementSlot) : State :=
  let m := s.master.setSlot slot (some g)
  if m.top.any (slot < ·) then
    { s with master := { m with needInit := Function.update m.needInit slot true } }
  else
    { s with master := { m with needInit := Function.update m.needInit slot false } }.push
      [.running .init g]

/-- `Mutate` of a new generator. -/
def make (s : State) (slot : MovementSlot) : Option State :=
  { s with next := s.next + 1 }.mutate (.made s.next) slot

def moveIdle (s : State) : Option State :=
  if s.master.lacksIdle then s.mutate .idle motionSlotIdle else some s

def initTop (s : State) : Option State :=
  match s.master.top? with
  | some (some g) => some (s.push [.running .init g, .initTopDone])
  | _ => none

def resetTop (s : State) : Option State :=
  match s.master.top? with
  | some (some g) => some (s.push [.running .reset g])
  | _ => none

/-- `needInitTop()` reads a flag of the top slot. -/
def initOrReset (s : State) (reset : Bool) : Option State := do
  let t ← s.master.top
  if s.master.needInit t then s.initTop
  else if reset then s.resetTop
  else some s

/-- A round of `DirectClean`. -/
def cleanLoop (s : State) (reset : Bool) : Option State :=
  if s.master.stacked then do
    let curr ← s.master.top?
    let m ← s.master.pop
    let frames ← (if curr.isSome then directDelete curr else some [])
    some ({ s with master := m }.push (frames ++ [Frame.cleanLoop reset]))
  else s.initOrReset reset

def directExpire (s : State) (reset : Bool) : Option State :=
  if s.master.stacked then do
    let curr ← s.master.top?
    let m ← s.master.pop
    let frames ← directDelete curr
    some ({ s with master := m }.push (frames ++ [Frame.expireRest reset]))
  else some (s.push [.expireRest reset])

/-- The master is not empty where the loop has found a slot. -/
def expireRest (s : State) (reset : Bool) : Option State := do
  let t ← s.master.top
  let t ← MotionMaster.settle s.master.impl t
  { s with master := { s.master with top := some t } }.initOrReset reset

def initTopDone (s : State) : Option State := do
  let t ← s.master.top
  some { s with master := { s.master with needInit := Function.update s.master.needInit t false } }

def clear (s : State) (reset : Bool) : Option State :=
  if s.master.update then do
    let m ← { s.master with reset }.delayedClean
    some { s with master := m }
  else s.cleanLoop reset

def movementExpired (s : State) (reset : Bool) : Option State :=
  if s.master.update then do
    let m ← { s.master with reset }.delayedExpire
    some { s with master := m }
  else s.directExpire reset

section

variable (selects : Nat → Bool)

/-- `selects` is whether the factory makes a generator for a creature. -/
def initDefault (s : State) : Option State :=
  if selects s.next then s.make motionSlotIdle else s.mutate .idle motionSlotIdle

/-- A round of `Initialize`. -/
def initializeLoop (s : State) : Option State :=
  if s.master.empty then s.initDefault selects
  else do
    let curr ← s.master.top?
    let m ← s.master.pop
    let frames ← (if curr.isSome then directDelete curr else some [])
    some ({ s with master := m }.push (frames ++ [Frame.initializeLoop]))

/-- An assertion fails on an empty master. -/
def updateMotion (s : State) : Option State :=
  match s.master.top? with
  | some (some g) => some { s with master := { s.master with update := true }, base := .updating g }
  | _ => none

/-- A frame of code, which was taken from the stack. -/
def runFrame (s : State) : Frame → Option State
  | .running _ _ => some s
  | .deleteGenerator id => some { s with deleted := id :: s.deleted }
  | .initializeLoop => s.initializeLoop selects
  | .install g slot => some (s.install g slot)
  | .cleanLoop reset => s.cleanLoop reset
  | .expireRest reset => s.expireRest reset
  | .initTopDone => s.initTopDone

/-- `UpdateMotion` goes on. -/
def runBase (s : State) : Option State :=
  match s.base with
  | .rest => some s
  | .updating _ => some s
  | .updated goes =>
    let s := { s with master := { s.master with update := false }, base := .expiring 0 }
    if goes then some s else s.directExpire true
  | .expiring i =>
    match s.master.expList with
    | none => some { s with base := .rest }
    | some expired =>
      match expired[i]? with
      | some g => do
          let frames ← directDelete (some g)
          some ({ s with base := .expiring (i + 1) }.push frames)
      | none =>
        let s := { s with master := { s.master with expList := none }, base := .finishing }
        if s.master.empty then s.initializeLoop selects
        else s.initOrReset s.master.reset
  | .finishing => some { s with master := { s.master with reset := false }, base := .rest }

def returned (s : State) : Method → MovementGenerator → State
  | .finalize, .made id => { s with finalized := id :: s.finalized }
  | _, _ => s

/-- A generator's method runs, or nothing. -/
def waiting (s : State) : Bool :=
  match s.stack, s.base with
  | .running _ _ :: _, _ => true
  | [], .rest => true
  | [], .updating _ => true
  | _, _ => false

/-- No call is in progress. -/
def idle (s : State) : Bool := s.stack = [] && s.base = .rest

end

end State

/-- A call from outside or out of a generator's method. -/
inductive Op where
  | initializeAll
  | updateMotion
  | clear (reset : Bool)
  | movementExpired (reset : Bool)
  | moveIdle
  /-- Any other `Move*`, with the slot of its generator. -/
  | move (slot : MovementSlot)

/-- The code goes on, a method of a generator calls or returns, or somebody calls. -/
inductive Input where
  | tick
  | call (op : Op)
  | ret (goes : Bool)

variable (selects : Nat → Bool)

/-- Only `Move*`, `Clear` and `MovementExpired` are called by generators. -/
def State.call (s : State) : Op → Option State
  | .initializeAll =>
    if s.idle then { s with initialized := true }.initializeLoop selects else some s
  | .updateMotion => if s.idle then s.updateMotion else some s
  | .clear reset => s.clear reset
  | .movementExpired reset => s.movementExpired reset
  | .moveIdle => s.moveIdle
  | .move slot => s.make slot

def State.perform (s : State) : Input → Option State
  | .tick =>
    match s.stack with
    | [] => s.runBase selects
    | frame :: rest =>
      if s.waiting then some s else { s with stack := rest }.runFrame selects frame
  | .call op => if s.waiting then s.call selects op else some s
  | .ret goes =>
    match s.stack, s.base with
    | .running method g :: rest, _ => some ({ s with stack := rest }.returned method g)
    | [], .updating _ => some { s with base := .updated goes }
    | _, _ => some s

/-- No value after an access that is undefined or a failed assertion. -/
def step (s : State) (input : Input) : State × Option State :=
  ((s.perform selects input).getD s, s.perform selects input)

end OpenWoW.Motion
