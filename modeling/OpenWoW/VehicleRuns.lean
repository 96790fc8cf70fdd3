import OpenWoW.VehicleSeats

/-! Runs of boarding and leaving, and what is consistent after each step. -/
namespace OpenWoW.Vehicles

open List Option

open OrderedMap (keys value? assign)

namespace Vehicle

variable {v : Vehicle}

/-- The seats of the pending events are free. -/
def Reserved (v : Vehicle) : Prop :=
  ∀ event ∈ v.events, event.id ∈ v.pendingJoinEvents → ∀ key, event.seat = some key →
    Free v.seats key

/-- What holds between the acts. -/
structure Invariant (v : Vehicle) : Prop where
  agrees : Agrees v
  reserved : v.Reserved
  closed : v.status = .uninstalling → v.pendingJoinEvents = []

theorem Reserved.of_less {after : Vehicle} (reserved : v.Reserved) (less : Less v after) :
    after.Reserved := by
  intro event there waits key seated
  obtain ⟨was, before, id, seat⟩ := less.seats event there
  exact less.free key (reserved was before (id ▸ less.pending waits) key (seat.trans seated))

theorem Invariant.of_less {after : Vehicle} (inv : Invariant v) (kept : Agrees after)
    (less : Less v after) : Invariant after where
  agrees := kept
  reserved := inv.reserved.of_less less
  closed status := by
    have none := inv.closed (less.status ▸ status)
    have fewer := less.pending
    rw [none] at fewer
    exact subset_nil.mp fewer

theorem Invariant.of_nothing_pending (agrees : Agrees v) (nothing : v.pendingJoinEvents = []) :
    Invariant v where
  agrees := agrees
  reserved event _ waits := by
    rw [nothing] at waits
    cases waits
  closed _ := nothing

/-- A new event that is to be aborted, or pending for a seat. -/
theorem Agrees.append (agrees : Agrees v) {new : VehicleJoinEvent} (id : new.id = v.nextEvent)
    (rider : new.passenger ≠ 0) {waits : Bool}
    (idle : waits = false → new.toAbort = true)
    (seated : waits = true → new.target = true ∧
      ∃ key seat, new.seat = some key ∧ value? v.seats key = some seat) :
    Agrees { v with
      events := v.events ++ [new]
      nextEvent := v.nextEvent + 1
      pendingJoinEvents := v.pendingJoinEvents ++ if waits then [v.nextEvent] else [] } where
  seats := agrees.seats
  events :=
    { ids := by
        rw [map_append, nodup_append]
        refine ⟨agrees.events.ids, nodup_singleton _, fun old isOld other isNew => ?_⟩
        obtain ⟨event, there, rfl⟩ := mem_map.mp isOld
        obtain rfl := mem_singleton.mp isNew
        have less := agrees.events.fresh event there
        dsimp only
        omega
      fresh := fun event there => by
        rcases mem_append.mp there with old | isNew
        · exact Nat.lt_succ_of_lt (agrees.events.fresh event old)
        obtain rfl := mem_singleton.mp isNew
        rw [id]
        exact Nat.lt_succ_self _
      distinct := by
        rw [nodup_append]
        refine ⟨agrees.events.distinct, by split <;> simp, fun old isOld other isNew => ?_⟩
        obtain ⟨event, there, rfl, _⟩ := agrees.events.pending old isOld
        have less := agrees.events.fresh event there
        split at isNew
        · obtain rfl := mem_singleton.mp isNew
          omega
        · cases isNew
      pending := fun name there => by
        rcases mem_append.mp there with old | isNew
        · obtain ⟨event, known, rest⟩ := agrees.events.pending name old
          exact ⟨event, mem_append_left _ known, rest⟩
        split at isNew
        · rename_i wait
          obtain rfl := mem_singleton.mp isNew
          exact ⟨new, mem_append_right _ (mem_singleton_self new), id, seated wait⟩
        · cases isNew
      waiting := fun event there running => by
        rcases mem_append.mp there with old | isNew
        · exact mem_append_left _ (agrees.events.waiting event old running)
        obtain rfl := mem_singleton.mp isNew
        cases wait : waits with
        | false => exact absurd (idle wait) (by rw [running]; decide)
        | true => exact mem_append_right _ (mem_singleton.mpr id)
      riders := fun event there => by
        rcases mem_append.mp there with old | isNew
        · exact agrees.events.riders event old
        · obtain rfl := mem_singleton.mp isNew
          exact rider }

theorem map_addEvent (agrees : Agrees v) (guid : Nat) (f : VehicleJoinEvent → VehicleJoinEvent) :
    (v.addEvent guid).events.map (fun event => if event.id = v.nextEvent then f event else event) =
      v.events ++ [f { id := v.nextEvent, passenger := guid }] := by
  unfold addEvent
  rw [map_append]
  congr 1
  · conv_rhs => rw [← map_id v.events]
    refine map_congr_left fun event there => ?_
    have less := agrees.events.fresh event there
    rw [if_neg (by omega), id]
  · simp

theorem aborted_eq (agrees : Agrees v) (guid : Nat) :
    (v.addEvent guid).setToAbort v.nextEvent =
      { v with
        events := v.events ++ [{ id := v.nextEvent, passenger := guid, toAbort := true }]
        nextEvent := v.nextEvent + 1
        pendingJoinEvents := v.pendingJoinEvents ++ if false then [v.nextEvent] else [] } := by
  unfold setToAbort
  rw [map_addEvent agrees guid fun event => { event with toAbort := true }]
  simp [addEvent]

theorem enqueued_eq (agrees : Agrees v) (guid : Nat) (key : Int8) :
    (v.addEvent guid).enqueue v.nextEvent key =
      { v with
        events := v.events ++ [{ id := v.nextEvent, passenger := guid, seat := some key }]
        nextEvent := v.nextEvent + 1
        pendingJoinEvents := v.pendingJoinEvents ++ if true then [v.nextEvent] else [] } := by
  unfold enqueue
  rw [map_addEvent agrees guid fun event => { event with seat := some key }]
  rfl

theorem Reserved.enqueue (reserved : v.Reserved) (agrees : Agrees v) (guid : Nat) {key : Int8}
    (free : Free v.seats key) : ((v.addEvent guid).enqueue v.nextEvent key).Reserved := by
  rw [enqueued_eq agrees]
  intro event there waits place seated
  rcases mem_append.mp there with old | isNew
  · rcases mem_append.mp waits with waited | new
    · exact reserved event old waited place seated
    · have less := agrees.events.fresh event old
      have same : event.id = v.nextEvent := mem_singleton.mp new
      omega
  · obtain rfl := mem_singleton.mp isNew
    obtain rfl := some.inj seated
    exact free

theorem vacate_agrees {seatId : Int8} {seat : VehicleSeat} (agrees : Agrees v)
    (here : value? v.seats seatId = some seat) :
    ∃ after, v.vacate seatId = some after ∧ Agrees after ∧ Less v after ∧
      Free after.seats seatId := by
  unfold vacate
  rw [here]
  by_cases empty : seat.isEmpty = true
  · refine ⟨v, ?_, agrees, Less.refl v, seat, here, empty⟩
    rw [bind_eq_bind, bind_some, if_pos empty, bind_eq_bind, bind_some,
      here, bind_some, if_pos empty]
  have nonzero : seat.passenger ≠ 0 := fun zero => empty (decide_eq_true zero)
  have aboard : seat.passenger ∈ v.aboard :=
    (agrees.seats.aboard _).mpr ⟨nonzero, seatId, seat, here, rfl⟩
  obtain ⟨after, run, kept, less, left⟩ := controlRemoved_agrees agrees seat.passenger
  obtain ⟨now, there, free⟩ := left seatId seat here rfl nonzero
  refine ⟨after, ?_, kept, less, now, there, free⟩
  unfold exitVehicle
  rw [bind_eq_bind, bind_some, if_neg empty, if_pos aboard, run,
    bind_eq_bind, bind_some, there, bind_some, if_pos free]

theorem addPassenger_inv (inv : Invariant v) (unit : Rider) (seatId : Int8) :
    ∃ after, v.addPassenger unit seatId = some after ∧ Invariant after := by
  have agrees := inv.agrees
  unfold addPassenger
  by_cases gone : v.status = .uninstalling
  · rw [if_pos gone]
    exact ⟨v, rfl, inv⟩
  rw [if_neg gone]
  have aborted : Invariant ((v.addEvent unit.guid).setToAbort v.nextEvent) := by
    rw [aborted_eq agrees]
    refine ⟨agrees.append rfl unit.guid_ne_zero (fun _ => rfl) nofun, ?_,
      fun status => absurd status gone⟩
    intro event there waits key seated
    have waited : event.id ∈ v.pendingJoinEvents := by simpa using waits
    rcases mem_append.mp there with old | isNew
    · exact inv.reserved event old waited key seated
    · obtain rfl := mem_singleton.mp isNew
      cases seated
  have queued : ∀ key seat, value? v.seats key = some seat →
      Agrees ((v.addEvent unit.guid).enqueue v.nextEvent key) := fun key seat here => by
    rw [enqueued_eq agrees]
    exact agrees.append rfl unit.guid_ne_zero nofun fun _ => ⟨rfl, key, seat, rfl, here⟩
  dsimp only
  split
  · split
    · exact ⟨_, rfl, aborted⟩
    · rename_i entry found
      have there := mem_of_find?_eq_some found
      have here := OrderedMap.value?_of_mem agrees.seats.distinct there
      have empty := find?_some found
      simp only [Bool.and_eq_true] at empty
      exact ⟨_, rfl, queued _ _ here,
        inv.reserved.enqueue agrees unit.guid ⟨_, here, empty.1⟩,
        fun status => absurd status gone⟩
  · split
    · exact ⟨_, rfl, aborted⟩
    · rename_i seat here
      obtain ⟨after, run, kept, less, free⟩ := vacate_agrees (queued _ _ here) here
      refine ⟨after, run, kept, ?_, fun status => absurd (less.status ▸ status) gone⟩
      intro event there waits key seated
      obtain ⟨was, before, id, same⟩ := less.seats event there
      rw [enqueued_eq agrees] at before less
      rcases mem_append.mp before with old | isNew
      · have waited := less.pending waits
        rw [← id] at waited
        rcases mem_append.mp waited with waited | new
        · exact less.free key (inv.reserved was old waited key (same.trans seated))
        have fresh := agrees.events.fresh was old
        have equal : was.id = v.nextEvent := mem_singleton.mp new
        omega
      · obtain rfl := mem_singleton.mp isNew
        obtain rfl := some.inj (same.trans seated)
        exact free

theorem destroy_agrees (agrees : Agrees v) (event : VehicleJoinEvent)
    (astray : event.target = false → event.id ∉ v.pendingJoinEvents) :
    Agrees (v.destroy event) ∧ Less v (v.destroy event) := by
  have left : ∀ id, id ∈ (v.destroy event).pendingJoinEvents ↔
      id ∈ v.pendingJoinEvents ∧ id ≠ event.id := by
    intro id
    unfold destroy
    split
    · rw [agrees.events.distinct.mem_erase_iff]
      exact And.comm
    next away =>
    refine ⟨fun waits => ⟨waits, ?_⟩, And.left⟩
    rintro rfl
    exact astray (Bool.eq_false_iff.mpr away) waits
  have sub : (v.destroy event).pendingJoinEvents.Sublist v.pendingJoinEvents := by
    unfold destroy
    split
    · exact erase_sublist
    · exact List.Sublist.refl _
  have mem : ∀ other, other ∈ (v.destroy event).events ↔
      other ∈ v.events ∧ other.id ≠ event.id := by
    intro other
    unfold destroy
    rw [mem_filter, decide_eq_true_eq]
  refine ⟨⟨agrees.seats, ?_⟩, sub.subset, rfl,
    fun other there => ⟨other, ((mem other).mp there).1, rfl, rfl⟩, fun _ free => free⟩
  exact
    { ids := agrees.events.ids.sublist (filter_sublist.map _)
      fresh := fun other there => agrees.events.fresh other ((mem other).mp there).1
      distinct := agrees.events.distinct.sublist sub
      pending := fun id waits => by
        obtain ⟨waited, differs⟩ := (left id).mp waits
        obtain ⟨other, there, rfl, rest⟩ := agrees.events.pending id waited
        exact ⟨other, (mem other).mpr ⟨there, differs⟩, rfl, rest⟩
      waiting := fun other there running => by
        obtain ⟨known, differs⟩ := (mem other).mp there
        exact (left other.id).mpr ⟨agrees.events.waiting other known running, differs⟩
      riders := fun other there => agrees.events.riders other ((mem other).mp there).1 }

variable {event : VehicleJoinEvent}

theorem astray (agrees : Agrees v) (there : event ∈ v.events)
    (away : event.target = false) : event.id ∉ v.pendingJoinEvents := by
  intro waits
  obtain ⟨other, known, same, aims, _⟩ := agrees.events.pending event.id waits
  rw [inj_on_of_nodup_map agrees.events.ids known there same, away] at aims
  cases aims

theorem setToAbort_agrees (agrees : Agrees v) (id : Nat) :
    Agrees (v.setToAbort id) ∧ Less v (v.setToAbort id) := by
  refine ⟨⟨agrees.seats, agrees.events.setToAbort id⟩, List.Subset.refl _, rfl, ?_,
    fun _ free => free⟩
  refine forall_mem_map.mpr fun event there => ⟨event, there, ?_⟩
  split <;> exact ⟨rfl, rfl⟩

theorem abort_agrees (agrees : Agrees v) (event : VehicleJoinEvent) {log : Bool} (aura : Bool)
    (named : log = true → event.seat.isSome = true) :
    ∃ after, v.abort event log aura = some after ∧ Agrees after ∧ Less v after := by
  have readable : ¬ (log && event.seat.isNone) = true := by
    cases log with
    | false => simp
    | true =>
      have seated := named rfl
      cases same : event.seat with
      | none =>
        rw [same] at seated
        cases seated
      | some key => simp
  unfold abort
  rw [if_neg readable]
  split
  · obtain ⟨after, run, kept, less, _⟩ := controlRemoved_agrees agrees event.passenger
    exact ⟨after, run, kept, less⟩
  · exact ⟨v, rfl, agrees, Less.refl v⟩

theorem abort_none {log : Bool} (aura : Bool)
    (unnamed : ¬ (log = true → event.seat.isSome = true)) : v.abort event log aura = none := by
  have unreadable : (log && event.seat.isNone) = true := by
    cases log with
    | false => exact absurd nofun unnamed
    | true =>
      cases same : event.seat with
      | none => rfl
      | some key =>
        rw [same] at unnamed
        exact absurd (fun _ => rfl) unnamed
  unfold abort
  rw [if_pos unreadable]

section
variable (inv : Invariant v) (there : event ∈ v.events)
include inv there

theorem kill_inv
    {log : Bool} (aura : Bool) (named : log = true → event.seat.isSome = true) :
    ∃ after, v.kill event log aura = some after ∧ Invariant after := by
  obtain ⟨marked, less⟩ := setToAbort_agrees inv.agrees event.id
  obtain ⟨next, run, kept, lesser⟩ :=
    abort_agrees marked { event with toAbort := true } aura named
  have away : event.target = false → event.id ∉ next.pendingJoinEvents := fun lost waits =>
    astray inv.agrees there lost (less.pending (lesser.pending waits))
  obtain ⟨last, least⟩ := destroy_agrees kept event away
  refine ⟨next.destroy event, ?_, inv.of_less last ((less.trans lesser).trans least)⟩
  unfold kill
  rw [run]
  rfl

theorem update_aborted_inv (marked : event.toAbort = true) {log : Bool} (aura : Bool)
    (named : log = true → event.seat.isSome = true) :
    ∃ after, v.update event log aura = some after ∧ Invariant after := by
  obtain ⟨next, run, kept, less⟩ := abort_agrees inv.agrees event aura named
  have away : event.target = false → event.id ∉ next.pendingJoinEvents := fun lost waits =>
    astray inv.agrees there lost (less.pending waits)
  obtain ⟨last, least⟩ := destroy_agrees kept event away
  refine ⟨next.destroy event, ?_, inv.of_less last (less.trans least)⟩
  unfold update
  rw [if_pos marked, run]
  rfl

theorem before_boarding
    (running : event.toAbort = false) :
    ∃ key seat next, event.seat = some key ∧ value? v.seats key = some seat ∧
      seat.isEmpty = true ∧ v.execute event = next.board event.passenger key ∧
      next.seats = v.seats ∧ next.aboard = v.aboard ∧ Agrees next ∧ Less v next ∧
      ∀ other ∈ next.events, other.id ∈ next.pendingJoinEvents → other.seat ≠ some key := by
  have waits := inv.agrees.events.waiting event there running
  obtain ⟨same, known, id, aims, key, _, seated, _⟩ := inv.agrees.events.pending event.id waits
  obtain rfl : same = event := inj_on_of_nodup_map inv.agrees.events.ids known there id
  obtain ⟨seat, here, empty⟩ := inv.reserved same there waits key seated
  obtain ⟨first, less⟩ := abortPending_agrees inv.agrees fun event => event.seat = some key
  obtain ⟨second, lesser⟩ :=
    abortPending_agrees first fun event => event.passenger = same.passenger
  refine ⟨key, seat, (v.abortPending fun event => event.seat = some key).abortPending
    fun event => event.passenger = same.passenger, seated, here, empty, ?_, rfl, rfl, second,
    less.trans lesser, ?_⟩
  · unfold execute
    rw [if_pos aims, seated, bind_eq_bind, bind_some,
      removePendingEventsForSeat_eq inv.agrees, bind_eq_bind, bind_some,
      removePendingEventsForPassenger_eq first]
    rfl
  · intro other later pending
    obtain ⟨was, between, name, place⟩ := lesser.seats other later
    have unlike := inv.agrees.events.pending_abortPending (fun event => event.seat = some key)
      (fun _ => rfl) between (name ▸ lesser.pending pending)
    rw [← place]
    exact of_decide_eq_false unlike

/-- Whoever boards takes the reserved seat. -/
theorem update_boards_inv
    (running : event.toAbort = false) (log aura : Bool) (outside : event.passenger ∉ v.aboard) :
    ∃ after, v.update event log aura = some after ∧ Invariant after := by
  obtain ⟨key, seat, next, seated, here, empty, run, seats, aboard, agrees, less, other⟩ :=
    before_boarding inv there running
  have nonzero := inv.agrees.events.riders event there
  rw [← seats] at here
  rw [← aboard] at outside
  obtain ⟨left, right⟩ := agrees.seats.sit here empty nonzero outside
  let after : Vehicle := { next with
    seats := assign next.seats key { seat with passenger := event.passenger }
    aboard := insert event.passenger next.aboard
    usableSeatNum :=
      if seat.seatInfo.canEnterOrExit then next.usableSeatNum - 1 else next.usableSeatNum }
  have boards : next.board event.passenger key = some after := by
    unfold board
    rw [here, bind_eq_bind, bind_some]
    dsimp only [after]
    split
    · next can => rw [if_neg (left can)]
    · rfl
  have still : ∀ place taken, value? next.seats place = some taken → place ≠ key →
      value? after.seats place = some taken := by
    intro place taken found differs
    rw [SeatsRight.value?_change here, if_neg (Ne.symm differs)]
    exact found
  have kept : Agrees after := by
    refine ⟨right, agrees.events.ids, agrees.events.fresh, agrees.events.distinct,
      fun id waits => ?_, agrees.events.waiting, agrees.events.riders⟩
    obtain ⟨waiter, known, same, aims, place, taken, sits, found⟩ :=
      agrees.events.pending id waits
    have differs : place ≠ key := by
      rintro rfl
      exact other waiter known (same ▸ waits) sits
    exact ⟨waiter, known, same, aims, place, taken, sits, still place taken found differs⟩
  have reserved : after.Reserved := by
    intro waiter known waits place sits
    have differs : place ≠ key := by
      rintro rfl
      exact other waiter known waits sits
    obtain ⟨taken, found, free⟩ := inv.reserved.of_less less waiter known waits place sits
    exact ⟨taken, still place taken found differs, free⟩
  have mid : Invariant after := ⟨kept, reserved, (inv.of_less agrees less).closed⟩
  have away : event.target = false → event.id ∉ after.pendingJoinEvents := fun lost waits =>
    astray inv.agrees there lost (less.pending waits)
  obtain ⟨last, least⟩ := destroy_agrees kept event away
  refine ⟨after.destroy event, ?_, mid.of_less last least⟩
  unfold update
  rw [if_neg (by rw [running]; decide), run, boards]
  rfl

end

end Vehicle

/-- Seats, units, the number of usable seats and the pending events agree, and nobody boards an
uninstalled vehicle. -/
structure Consistent (v : Vehicle) : Prop where
  single : ∀ (unit : Rider) (key other : Int8) (seat again : VehicleSeat),
    value? v.seats key = some seat → value? v.seats other = some again →
    seat.passenger = unit.guid → again.passenger = unit.guid → key = other
  aboard : ∀ unit : Rider, unit.guid ∈ v.aboard ↔
    ∃ key seat, value? v.seats key = some seat ∧ seat.passenger = unit.guid
  usable : v.usableSeatNum =
    v.seats.countP fun entry => entry.2.isEmpty && entry.2.seatInfo.canEnterOrExit
  pending : ∀ id ∈ v.pendingJoinEvents, ∃ event ∈ v.events, event.id = id ∧
    ∃ key ∈ keys v.seats, event.seat = some key
  uninstalled : v.status = .uninstalling → ∀ event ∈ v.events, event.toAbort = true

/-- A step reads no seat that is not there, no assertion fails, and what it leaves is
consistent. -/
def Sound (taken : Run.Taken Vehicle Act (Option Vehicle)) : Prop :=
  ∃ after, taken.out = some after ∧ Consistent after

/-- An event that boards has a passenger who is not on the vehicle. An event that is aborted has a
seat, if the abortion is logged. -/
def Careful (v : Vehicle) : Act → Prop
  | .update id log _ => ∀ event, v.event? id = some event →
      if event.toAbort then log = true → event.seat.isSome = true
      else event.passenger ∉ v.aboard
  | .kill id log _ => ∀ event, v.event? id = some event → log = true → event.seat.isSome = true
  | _ => True

open Vehicle

section
variable {v : Vehicle} (inv : Invariant v)
include inv

theorem Vehicle.Invariant.consistent : Consistent v where
  single unit key other seat again left right sits same :=
    inv.agrees.seats.single key other seat again left right (sits ▸ unit.guid_ne_zero)
      (sits.trans same.symm)
  aboard unit := by
    rw [inv.agrees.seats.aboard]
    exact and_iff_right unit.guid_ne_zero
  usable := inv.agrees.seats.usable
  pending id waits := by
    obtain ⟨event, there, same, _, key, seat, seated, here⟩ := inv.agrees.events.pending id waits
    exact ⟨event, there, same, key, mem_map_of_mem (OrderedMap.mem_of_value? here), seated⟩
  uninstalled status event there := by
    by_contra running
    have waits := inv.agrees.events.waiting event there (Bool.eq_false_iff.mpr running)
    rw [inv.closed status] at waits
    cases waits

theorem not_sound_boarding {event : VehicleJoinEvent}
    (there : event ∈ v.events) (running : event.toAbort = false) {log aura : Bool}
    (aboard : event.passenger ∈ v.aboard) {after : Vehicle}
    (run : v.update event log aura = some after) : ¬ Consistent after := by
  intro consistent
  obtain ⟨key, seat, next, seated, here, empty, runs, seats, _⟩ :=
    before_boarding inv there running
  obtain ⟨nonzero, place, taken, found, sits⟩ := (inv.agrees.seats.aboard _).mp aboard
  unfold update at run
  rw [if_neg (by rw [running]; decide), runs] at run
  unfold board at run
  rw [seats, here] at run
  simp only [bind_eq_bind, bind_some] at run
  have result : after.seats = assign v.seats key { seat with passenger := event.passenger } := by
    split at run
    · split at run
      · cases run
      · obtain rfl := some.inj run
        rfl
    · obtain rfl := some.inj run
      rfl
  have apart : ¬ key = place := by
    rintro rfl
    rw [here] at found
    obtain rfl := some.inj found
    exact nonzero (sits.symm.trans (of_decide_eq_true empty))
  refine apart (consistent.single ⟨event.passenger, nonzero⟩ key place
    { seat with passenger := event.passenger } taken ?_ ?_ rfl sits)
  · rw [result, SeatsRight.value?_change here, if_pos rfl]
  · rw [result, SeatsRight.value?_change here, if_neg apart]
    exact found

theorem careful_inv {act : Act} (careful : Careful v act) :
    ∃ after, v.perform act = some after ∧ Invariant after := by
  have ids := inv.agrees.events.ids
  cases act with
  | addPassenger unit seatId => exact addPassenger_inv inv unit seatId
  | update id log aura =>
    unfold perform
    dsimp only
    cases found : v.event? id with
    | none => exact ⟨v, rfl, inv⟩
    | some event =>
      have there := ((event?_eq_some ids).mp found).1
      have safe := careful event found
      by_cases marked : event.toAbort = true
      · rw [if_pos marked] at safe
        exact update_aborted_inv inv there marked aura safe
      · rw [if_neg marked] at safe
        exact update_boards_inv inv there (Bool.eq_false_iff.mpr marked) log aura safe
  | kill id log aura =>
    unfold perform
    dsimp only
    cases found : v.event? id with
    | none => exact ⟨v, rfl, inv⟩
    | some event =>
      exact kill_inv inv ((event?_eq_some ids).mp found).1 aura (careful event found)
  | removePassenger unit =>
    obtain ⟨after, run, kept, less, _⟩ := removePassenger_agrees inv.agrees unit.guid
    exact ⟨after, run, inv.of_less kept less⟩
  | controlRemoved unit =>
    obtain ⟨after, run, kept, less, _⟩ := controlRemoved_agrees inv.agrees unit.guid
    exact ⟨after, run, inv.of_less kept less⟩
  | removeAllPassengers auras =>
    obtain ⟨after, run, kept, nothing⟩ :=
      removeAllPassengers_agrees inv.agrees (auras.map (·.guid))
    exact ⟨after, run, .of_nothing_pending kept nothing⟩
  | uninstall minion auras =>
    rcases uninstall_agrees inv.agrees minion (auras.map (·.guid)) with
      same | ⟨after, run, kept, nothing⟩
    · exact ⟨v, same, inv⟩
    · exact ⟨after, run, .of_nothing_pending kept nothing⟩

theorem careful_of_sound {act : Act}
    (sound : Sound (Run.take step v act)) : Careful v act := by
  have ids := inv.agrees.events.ids
  obtain ⟨after, run, consistent⟩ := sound
  cases act with
  | update id log aura =>
    intro event found
    have there := ((event?_eq_some ids).mp found).1
    have runs : v.update event log aura = some after := by
      change v.perform (.update id log aura) = some after at run
      unfold perform at run
      dsimp only at run
      rw [found] at run
      exact run
    by_cases marked : event.toAbort = true
    · rw [if_pos marked]
      by_contra unnamed
      unfold update at runs
      rw [if_pos marked, abort_none aura unnamed] at runs
      cases runs
    · rw [if_neg marked]
      exact fun aboard => not_sound_boarding inv there (Bool.eq_false_iff.mpr marked)
        aboard runs consistent
  | kill id log aura =>
    intro event found
    have runs : v.kill event log aura = some after := by
      change v.perform (.kill id log aura) = some after at run
      unfold perform at run
      dsimp only at run
      rw [found] at run
      exact run
    by_contra unnamed
    have fails : (v.setToAbort event.id).abort { event with toAbort := true } log aura = none :=
      abort_none aura unnamed
    unfold kill at runs
    rw [fails] at runs
    cases runs
  | addPassenger unit seatId => trivial
  | removePassenger unit => trivial
  | controlRemoved unit => trivial
  | removeAllPassengers auras => trivial
  | uninstall minion auras => trivial

end

variable (seatID : Fin 8 → Option VehicleSeatEntry)

theorem keys_seatsOf :
    (OrderedMap.keys (seatsOf seatID)).Nodup := by
  have sub : (OrderedMap.keys (seatsOf seatID)).Sublist
      ((List.finRange 8).map fun i : Fin 8 => Int8.ofNat i) := by
    unfold OrderedMap.keys seatsOf
    generalize List.finRange 8 = places
    induction places with
    | nil => exact List.Sublist.refl _
    | cons i places ih =>
      rw [filterMap_cons, map_cons]
      cases seatID i with
      | none => exact ih.cons _
      | some info => exact ih.cons_cons _
  exact sub.nodup (by decide)

theorem create_inv : Invariant (create seatID) := by
  have empty : ∀ entry ∈ seatsOf seatID, entry.2.passenger = 0 := by
    intro entry there
    obtain ⟨i, -, found⟩ := mem_filterMap.mp there
    obtain ⟨info, -, rfl⟩ := map_eq_some_iff.mp found
    rfl
  have vacant : ∀ key seat, value? (seatsOf seatID) key = some seat → seat.passenger = 0 :=
    fun key seat here => empty (key, seat) (OrderedMap.mem_of_value? here)
  refine .of_nothing_pending ⟨⟨keys_seatsOf seatID, ?_, fun guid => ?_, ?_⟩,
    ⟨nodup_nil, nofun, nodup_nil, nofun, nofun, nofun⟩⟩ rfl
  · exact fun key other seat again left _ held _ => absurd (vacant key seat left) held
  · refine iff_of_false nofun ?_
    rintro ⟨nonzero, key, seat, here, rfl⟩
    exact nonzero (vacant key seat here)
  · refine countP_congr fun entry there => ?_
    unfold VehicleSeat.isUsable VehicleSeat.isEmpty
    rw [empty entry there]
    simp

end OpenWoW.Vehicles
