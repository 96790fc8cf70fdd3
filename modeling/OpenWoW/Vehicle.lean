import Mathlib.Data.Finset.Basic
import Mathlib.Data.List.FinRange
import OpenWoW.Lib.OrderedMap
import OpenWoW.Lib.Run

/-! The seats of a vehicle, and the events by which units board it. -/
namespace OpenWoW.Vehicles

structure VehicleSeatEntry where
  canEnterOrExit : Bool
  isUsableByOverride : Bool
  deriving DecidableEq, Repr

structure VehicleSeat where
  seatInfo : VehicleSeatEntry
  /-- The guid, or 0. -/
  passenger : Nat := 0
  deriving DecidableEq, Repr

namespace VehicleSeat

def isEmpty (seat : VehicleSeat) : Bool := seat.passenger = 0

def isUsable (seat : VehicleSeat) : Bool := seat.isEmpty && seat.seatInfo.canEnterOrExit

end VehicleSeat

abbrev SeatMap : Type := List (Int8 × VehicleSeat)

/-- A unit that rides. -/
structure Rider where
  guid : Nat
  guid_ne_zero : guid ≠ 0

/-- `Seats.end()` is no seat. -/
structure VehicleJoinEvent where
  id : Nat
  passenger : Nat
  seat : Option Int8 := none
  /-- `Target` is the vehicle and not null. -/
  target : Bool := true
  toAbort : Bool := false
  deriving DecidableEq, Repr

inductive Status where
  | none
  | installed
  | uninstalling
  deriving DecidableEq, Repr

/-- A vehicle with the join events that are scheduled for it, in whatever unit's queue, and the
units whose vehicle it is. -/
structure Vehicle where
  seats : SeatMap
  usableSeatNum : Nat
  status : Status := .none
  pendingJoinEvents : List Nat := []
  events : List VehicleJoinEvent := []
  nextEvent : Nat := 0
  aboard : Finset Nat := ∅

namespace Vehicle

def seatsOf (seatID : Fin 8 → Option VehicleSeatEntry) : SeatMap :=
  (List.finRange 8).filterMap fun i => (seatID i).map fun info => (Int8.ofNat i, ⟨info, 0⟩)

def create (seatID : Fin 8 → Option VehicleSeatEntry) : Vehicle where
  seats := seatsOf seatID
  usableSeatNum := (seatsOf seatID).countP fun entry => entry.2.seatInfo.canEnterOrExit

def event? (v : Vehicle) (id : Nat) : Option VehicleJoinEvent :=
  v.events.find? fun event => event.id = id

/-- Every pending event still exists. -/
def pendingValid (v : Vehicle) : Bool :=
  v.pendingJoinEvents.all fun id => (v.event? id).isSome

def pendingSeated (v : Vehicle) : Bool :=
  v.pendingJoinEvents.all fun id => (v.event? id).any fun event => event.seat.isSome

def abortPending (v : Vehicle) (kind : VehicleJoinEvent → Bool) : Vehicle :=
  { v with
    events := v.events.map fun event =>
      if event.id ∈ v.pendingJoinEvents ∧ kind event then { event with toAbort := true } else event
    pendingJoinEvents := v.pendingJoinEvents.filter fun id => !(v.event? id).any kind }

def removePendingEventsForSeat (v : Vehicle) (seatId : Int8) : Option Vehicle :=
  if v.pendingSeated then some (v.abortPending fun event => event.seat = some seatId) else none

def removePendingEventsForPassenger (v : Vehicle) (guid : Nat) : Option Vehicle :=
  if v.pendingValid then some (v.abortPending fun event => event.passenger = guid) else none

/-- `GetSeatIteratorForPassenger`. -/
def getSeatForPassenger (v : Vehicle) (guid : Nat) : Option (Int8 × VehicleSeat) :=
  v.seats.find? fun entry => entry.2.passenger = guid

/-- A passenger has a seat, or an assertion fails. -/
def removePassenger (v : Vehicle) (guid : Nat) : Option Vehicle :=
  if guid ∈ v.aboard then do
    let (key, seat) ← v.getSeatForPassenger guid
    some { v with
      usableSeatNum := if seat.seatInfo.canEnterOrExit then v.usableSeatNum + 1 else v.usableSeatNum
      seats := OrderedMap.assign v.seats key { seat with passenger := 0 }
      aboard := v.aboard.erase guid }
  else some v

def controlRemoved (v : Vehicle) (guid : Nat) : Option Vehicle := do
  let v ← v.removePendingEventsForPassenger guid
  v.removePassenger guid

/-- `ExitVehicle` of a unit removes its control aura. -/
def exitVehicle (v : Vehicle) (guid : Nat) : Option Vehicle :=
  if guid ∈ v.aboard then v.controlRemoved guid else some v

/-- The event of a seat is pending. -/
def enqueue (v : Vehicle) (id : Nat) (seat : Int8) : Vehicle :=
  { v with
    events := v.events.map fun event =>
      if event.id = id then { event with seat := some seat } else event
    pendingJoinEvents := v.pendingJoinEvents ++ [id] }

def setToAbort (v : Vehicle) (id : Nat) : Vehicle :=
  { v with
    events := v.events.map fun event =>
      if event.id = id then { event with toAbort := true } else event }

/-- A new event without a seat in the queue of a unit. -/
def addEvent (v : Vehicle) (guid : Nat) : Vehicle :=
  { v with
    events := v.events ++ [{ id := v.nextEvent, passenger := guid }]
    nextEvent := v.nextEvent + 1 }

/-- Whoever sits on the seat leaves it, or an assertion fails. -/
def vacate (v : Vehicle) (seatId : Int8) : Option Vehicle := do
  let seat ← OrderedMap.value? v.seats seatId
  let v ← (if seat.isEmpty then some v else v.exitVehicle seat.passenger)
  let seat ← OrderedMap.value? v.seats seatId
  if seat.isEmpty then some v else none

def addPassenger (v : Vehicle) (unit : Rider) (seatId : Int8) : Option Vehicle :=
  if v.status = .uninstalling then some v
  else
    let id := v.nextEvent
    let v := v.addEvent unit.guid
    if seatId < 0 then
      match v.seats.find? fun entry => entry.2.isEmpty &&
          (entry.2.seatInfo.canEnterOrExit || entry.2.seatInfo.isUsableByOverride) with
      | none => some (v.setToAbort id)
      | some (key, _) => some (v.enqueue id key)
    else
      match OrderedMap.value? v.seats seatId with
      | none => some (v.setToAbort id)
      | some _ => (v.enqueue id seatId).vacate seatId

/-- `auras` are the casters of the control auras of the vehicle, in the order of removal. -/
def removeAllPassengers (v : Vehicle) (auras : List Nat) : Option Vehicle :=
  if v.pendingValid then
    let emptied := { v with
      events := v.events.map fun event =>
        if event.id ∈ v.pendingJoinEvents then
          { event with toAbort := true, target := v.status ≠ .uninstalling }
        else event
      pendingJoinEvents := [] }
    auras.foldlM controlRemoved emptied
  else none

def uninstall (v : Vehicle) (minion : Bool) (auras : List Nat) : Option Vehicle :=
  if v.status = .uninstalling ∧ ¬ minion then some v
  else { v with status := .uninstalling }.removeAllPassengers auras

def destroy (v : Vehicle) (event : VehicleJoinEvent) : Vehicle :=
  { v with
    events := v.events.filter fun other => other.id ≠ event.id
    pendingJoinEvents :=
      if event.target then v.pendingJoinEvents.erase event.id else v.pendingJoinEvents }

/-- The passenger takes the seat. -/
def board (v : Vehicle) (guid : Nat) (key : Int8) : Option Vehicle := do
  let seat ← OrderedMap.value? v.seats key
  let seats := OrderedMap.assign v.seats key { seat with passenger := guid }
  let aboard := insert guid v.aboard
  if seat.seatInfo.canEnterOrExit then
    -- the assertion that a usable seat is left
    if v.usableSeatNum = 0 then none
    else some { v with seats, aboard, usableSeatNum := v.usableSeatNum - 1 }
  else some { v with seats, aboard }

def execute (v : Vehicle) (event : VehicleJoinEvent) : Option Vehicle := do
  let key ← (if event.target then event.seat else none)
  let v ← v.removePendingEventsForSeat key
  let v ← v.removePendingEventsForPassenger event.passenger
  v.board event.passenger key

/-- `log` is whether the debug messages of vehicles are written, which name the seat, and `aura`
whether the passenger has a control aura on the vehicle. -/
def abort (v : Vehicle) (event : VehicleJoinEvent) (log aura : Bool) : Option Vehicle :=
  if log && event.seat.isNone then none
  else if event.target && aura then v.controlRemoved event.passenger
  else some v

/-- The queue of the unit runs the event. -/
def update (v : Vehicle) (event : VehicleJoinEvent) (log aura : Bool) : Option Vehicle := do
  let v ← (if event.toAbort then v.abort event log aura else v.execute event)
  some (v.destroy event)

/-- The queue of the unit is emptied. -/
def kill (v : Vehicle) (event : VehicleJoinEvent) (log aura : Bool) : Option Vehicle := do
  let v ← (v.setToAbort event.id).abort { event with toAbort := true } log aura
  some (v.destroy event)

end Vehicle

inductive Act where
  | addPassenger (unit : Rider) (seatId : Int8)
  | update (event : Nat) (log aura : Bool)
  | kill (event : Nat) (log aura : Bool)
  | removePassenger (unit : Rider)
  | controlRemoved (unit : Rider)
  | removeAllPassengers (auras : List Rider)
  | uninstall (minion : Bool) (auras : List Rider)

/-- No value after an undefined access or a failed assertion. An event that is not scheduled is
not run. -/
def Vehicle.perform (v : Vehicle) : Act → Option Vehicle
  | .addPassenger unit seatId => v.addPassenger unit seatId
  | .update id log aura =>
    match v.event? id with
    | some event => v.update event log aura
    | none => some v
  | .kill id log aura =>
    match v.event? id with
    | some event => v.kill event log aura
    | none => some v
  | .removePassenger unit => v.removePassenger unit.guid
  | .controlRemoved unit => v.controlRemoved unit.guid
  | .removeAllPassengers auras => v.removeAllPassengers (auras.map (·.guid))
  | .uninstall minion auras => v.uninstall minion (auras.map (·.guid))

def step (v : Vehicle) (act : Act) : Vehicle × Option Vehicle :=
  ((v.perform act).getD v, v.perform act)

end OpenWoW.Vehicles
