import OpenWoW.Vehicle

/-! What the seats, the units and the pending events of a vehicle agree on. -/
namespace OpenWoW.Vehicles

open List

open OrderedMap (keys value? assign count)

/-- The seats, the number of usable ones and the units of the vehicle agree. -/
structure SeatsRight (seats : SeatMap) (usable : Nat) (aboard : Finset Nat) : Prop where
  distinct : (keys seats).Nodup
  single : ∀ key other seat again, value? seats key = some seat → value? seats other = some again →
    seat.passenger ≠ 0 → seat.passenger = again.passenger → key = other
  aboard : ∀ guid, guid ∈ aboard ↔
    guid ≠ 0 ∧ ∃ key seat, value? seats key = some seat ∧ seat.passenger = guid
  usable : usable = count seats VehicleSeat.isUsable

namespace SeatsRight

variable {seats : SeatMap} {usable : Nat} {aboard : Finset Nat}

theorem value?_change {key : Int8} {seat : VehicleSeat} (here : value? seats key = some seat)
    (guid : Nat) (other : Int8) :
    value? (assign seats key { seat with passenger := guid }) other =
      if key = other then some { seat with passenger := guid } else value? seats other := by
  rw [OrderedMap.value?_assign, here]
  rfl

section
variable (right : SeatsRight seats usable aboard) {key : Int8} {seat : VehicleSeat}
  (here : value? seats key = some seat)
include right here

/-- Somebody else, or nobody, gets the seat. -/
theorem reseat {passenger usable' : Nat} {aboard' : Finset Nat}
    (once : passenger ≠ 0 → ∀ place taken, value? seats place = some taken →
      taken.passenger ≠ passenger)
    (members : ∀ guid, guid ∈ aboard' ↔
      (guid = passenger ∧ guid ≠ 0) ∨ (guid ∈ aboard ∧ guid ≠ seat.passenger))
    (counted : usable' = count (assign seats key { seat with passenger }) VehicleSeat.isUsable) :
    SeatsRight (assign seats key { seat with passenger }) usable' aboard' where
  distinct := by
    rw [OrderedMap.keys_assign]
    exact right.distinct
  single first second one two left later held same := by
    rw [value?_change here] at left later
    by_cases isFirst : key = first
    · rw [if_pos isFirst] at left
      obtain rfl := Option.some.inj left
      by_cases isSecond : key = second
      · exact isFirst.symm.trans isSecond
      · rw [if_neg isSecond] at later
        exact absurd same.symm (once held second two later)
    rw [if_neg isFirst] at left
    by_cases isSecond : key = second
    · rw [if_pos isSecond] at later
      obtain rfl := Option.some.inj later
      exact absurd same (once (fun zero => held (same.trans zero)) first one left)
    · rw [if_neg isSecond] at later
      exact right.single first second one two left later held same
  aboard other := by
    rw [members, right.aboard]
    constructor
    · rintro (⟨rfl, known⟩ | ⟨⟨known, place, taken, there, same⟩, differs⟩)
      · exact ⟨known, key, _, by rw [value?_change here, if_pos rfl], rfl⟩
      · have apart : ¬ key = place := by
          rintro rfl
          rw [here] at there
          obtain rfl := Option.some.inj there
          exact differs same.symm
        exact ⟨known, place, taken, by rw [value?_change here, if_neg apart]; exact there, same⟩
    · rintro ⟨known, place, taken, there, same⟩
      rw [value?_change here] at there
      by_cases isKey : key = place
      · rw [if_pos isKey] at there
        obtain rfl := Option.some.inj there
        exact .inl ⟨same.symm, known⟩
      · rw [if_neg isKey] at there
        refine .inr ⟨⟨known, place, taken, there, same⟩, ?_⟩
        rintro rfl
        exact isKey (right.single place key taken seat there here (same ▸ known) same).symm
  usable := counted

theorem leave {guid : Nat} (sits : seat.passenger = guid) (nonzero : guid ≠ 0) :
    SeatsRight (assign seats key { seat with passenger := 0 })
      (if seat.seatInfo.canEnterOrExit then usable + 1 else usable) (aboard.erase guid) := by
  refine right.reseat here (fun zero => absurd rfl zero) (fun other => ?_) ?_
  · rw [Finset.mem_erase, sits, and_comm]
    exact (or_iff_right fun both => both.2 both.1).symm
  have counts := OrderedMap.count_assign right.distinct here
    { seat with passenger := 0 } VehicleSeat.isUsable
  have now : VehicleSeat.isUsable { seat with passenger := 0 } = seat.seatInfo.canEnterOrExit := rfl
  have before : seat.isUsable = false := by
    unfold VehicleSeat.isUsable VehicleSeat.isEmpty
    rw [sits]
    simp [nonzero]
  simp only [now, before, Bool.false_eq_true, if_false, Nat.add_zero] at counts
  rw [right.usable]
  by_cases can : seat.seatInfo.canEnterOrExit = true
  · rw [if_pos can] at counts ⊢
    omega
  · rw [if_neg can] at counts ⊢
    omega

theorem sit (empty : seat.isEmpty = true) {guid : Nat} (nonzero : guid ≠ 0)
    (outside : guid ∉ aboard) :
    (seat.seatInfo.canEnterOrExit = true → usable ≠ 0) ∧
    SeatsRight (assign seats key { seat with passenger := guid })
      (if seat.seatInfo.canEnterOrExit then usable - 1 else usable) (insert guid aboard) := by
  have none : seat.passenger = 0 := of_decide_eq_true empty
  have counts := OrderedMap.count_assign right.distinct here
    { seat with passenger := guid } VehicleSeat.isUsable
  have now : VehicleSeat.isUsable { seat with passenger := guid } = false := by
    unfold VehicleSeat.isUsable VehicleSeat.isEmpty
    simp [nonzero]
  have before : seat.isUsable = seat.seatInfo.canEnterOrExit := by
    unfold VehicleSeat.isUsable
    rw [empty, Bool.true_and]
  simp only [now, before, Bool.false_eq_true, if_false, Nat.add_zero] at counts
  have total := right.usable
  refine ⟨fun can => ?_, right.reseat here (fun _ => ?_) (fun other => ?_) ?_⟩
  · rw [if_pos can] at counts
    omega
  · rintro place taken there rfl
    exact outside ((right.aboard _).mpr ⟨nonzero, place, taken, there, rfl⟩)
  · rw [Finset.mem_insert, none, right.aboard]
    constructor
    · rintro (rfl | ⟨known, there⟩)
      · exact .inl ⟨rfl, nonzero⟩
      · exact .inr ⟨⟨known, there⟩, known⟩
    · rintro (⟨rfl, _⟩ | ⟨there, _⟩)
      · exact .inl rfl
      · exact .inr there
  · by_cases can : seat.seatInfo.canEnterOrExit = true
    · rw [if_pos can] at counts ⊢
      omega
    · rw [if_neg can] at counts ⊢
      omega

end

end SeatsRight

/-- An empty seat of the vehicle. -/
def Free (seats : SeatMap) (key : Int8) : Prop :=
  ∃ seat, value? seats key = some seat ∧ seat.isEmpty = true

namespace Vehicle

/-- The scheduled and the pending events agree with each other and with the seats. -/
structure EventsRight (v : Vehicle) : Prop where
  ids : (v.events.map (·.id)).Nodup
  fresh : ∀ event ∈ v.events, event.id < v.nextEvent
  distinct : v.pendingJoinEvents.Nodup
  pending : ∀ id ∈ v.pendingJoinEvents, ∃ event ∈ v.events, event.id = id ∧
    event.target = true ∧ ∃ key seat, event.seat = some key ∧ value? v.seats key = some seat
  waiting : ∀ event ∈ v.events, event.toAbort = false → event.id ∈ v.pendingJoinEvents
  riders : ∀ event ∈ v.events, event.passenger ≠ 0

structure Agrees (v : Vehicle) : Prop where
  seats : SeatsRight v.seats v.usableSeatNum v.aboard
  events : v.EventsRight

variable {v : Vehicle}

theorem event?_eq_some (ids : (v.events.map (·.id)).Nodup) {id : Nat} {event : VehicleJoinEvent} :
    v.event? id = some event ↔ event ∈ v.events ∧ event.id = id := by
  constructor
  · intro found
    exact ⟨mem_of_find?_eq_some found, by simpa using find?_some found⟩
  · rintro ⟨there, rfl⟩
    cases found : v.event? event.id with
    | none =>
      have missing := find?_eq_none.mp found event there
      exact absurd (decide_eq_true rfl) missing
    | some other =>
      have same : other.id = event.id := by simpa using find?_some found
      rw [inj_on_of_nodup_map ids (mem_of_find?_eq_some found) there same]

namespace EventsRight

section
variable (right : v.EventsRight)
include right

theorem pendingValid : v.pendingValid = true := by
  refine all_eq_true.mpr fun id waits => ?_
  obtain ⟨event, there, same, _⟩ := right.pending id waits
  rw [(event?_eq_some right.ids).mpr ⟨there, same⟩]
  rfl

theorem pendingSeated : v.pendingSeated = true := by
  refine all_eq_true.mpr fun id waits => ?_
  obtain ⟨event, there, same, _, key, _, seated, _⟩ := right.pending id waits
  rw [(event?_eq_some right.ids).mpr ⟨there, same⟩, Option.any_some, seated]
  rfl

theorem mark (f : VehicleJoinEvent → VehicleJoinEvent) {pending : List Nat}
    (id : ∀ event, (f event).id = event.id) (seat : ∀ event, (f event).seat = event.seat)
    (target : ∀ event ∈ v.events, event.id ∈ pending → (f event).target = event.target)
    (passenger : ∀ event, (f event).passenger = event.passenger)
    (fewer : pending.Sublist v.pendingJoinEvents)
    (waiting : ∀ event ∈ v.events, (f event).toAbort = false → event.id ∈ pending) :
    EventsRight { v with events := v.events.map f, pendingJoinEvents := pending } where
  ids := by
    rw [map_map]
    have same : (fun event : VehicleJoinEvent => event.id) ∘ f = fun event => event.id :=
      funext id
    rw [same]
    exact right.ids
  fresh := forall_mem_map.mpr fun event there => by
    rw [id]
    exact right.fresh event there
  distinct := right.distinct.sublist fewer
  pending := fun name waits => by
    obtain ⟨event, there, same, aims, key, found, seated, here⟩ :=
      right.pending name (fewer.subset waits)
    refine ⟨f event, mem_map_of_mem there, (id event).trans same, ?_, key, found, ?_, here⟩
    · rw [target event there (same ▸ waits)]
      exact aims
    · rw [seat]
      exact seated
  waiting := forall_mem_map.mpr fun event there running => by
    rw [id]
    exact waiting event there running
  riders := forall_mem_map.mpr fun event there => by
    rw [passenger]
    exact right.riders event there

theorem setToAbort (id : Nat) : (v.setToAbort id).EventsRight := by
  refine right.mark _ (fun event => ?_) (fun event => ?_) (fun event _ _ => ?_)
    (fun event => ?_) (List.Sublist.refl _) fun event there running => ?_
  · split <;> rfl
  · split <;> rfl
  · split <;> rfl
  · split <;> rfl
  · split at running
    · cases running
    · exact right.waiting event there running

theorem abortPending (kind : VehicleJoinEvent → Bool) :
    (v.abortPending kind).EventsRight := by
  refine right.mark _
    (fun event => ?_) (fun event => ?_) (fun event _ _ => ?_) (fun event => ?_)
    filter_sublist fun event there running => ?_
  · split <;> rfl
  · split <;> rfl
  · split <;> rfl
  · split <;> rfl
  · split at running
    · cases running
    · rename_i unlike
      have waits := right.waiting event there running
      have found : v.event? event.id = some event :=
        (event?_eq_some right.ids).mpr ⟨there, rfl⟩
      refine mem_filter.mpr ⟨waits, ?_⟩
      rw [found, Option.any_some]
      have other : ¬ kind event = true := fun is => unlike ⟨waits, is⟩
      simp [other]

theorem pending_abortPending (kind : VehicleJoinEvent → Bool)
    (kept : ∀ event, kind { event with toAbort := true } = kind event) {event : VehicleJoinEvent}
    (there : event ∈ (v.abortPending kind).events)
    (waits : event.id ∈ (v.abortPending kind).pendingJoinEvents) : kind event = false := by
  obtain ⟨was, before, rfl⟩ := mem_map.mp there
  have same : ∀ event : VehicleJoinEvent, (if event.id ∈ v.pendingJoinEvents ∧ kind event then
      { event with toAbort := true } else event).id = event.id := by
    intro event
    split <;> rfl
  have found : v.event? was.id = some was := (event?_eq_some right.ids).mpr ⟨before, rfl⟩
  have unlike := (mem_filter.mp waits).2
  rw [same, found, Option.any_some] at unlike
  have not : kind was = false := by simpa using unlike
  split
  · rw [kept]
    exact not
  · exact not

end

end EventsRight

end Vehicle

namespace Vehicle

variable {v : Vehicle}

theorem EventsRight.emptied (right : v.EventsRight) {key : Int8} {seat : VehicleSeat}
    (here : value? v.seats key = some seat) (usable : Nat) (aboard : Finset Nat) :
    EventsRight { v with
      usableSeatNum := usable
      seats := assign v.seats key { seat with passenger := 0 }
      aboard := aboard } where
  ids := right.ids
  fresh := right.fresh
  distinct := right.distinct
  pending id waits := by
    obtain ⟨event, there, same, aims, place, taken, seated, found⟩ := right.pending id waits
    by_cases isKey : key = place
    · exact ⟨event, there, same, aims, place, _, seated,
        by rw [SeatsRight.value?_change here, if_pos isKey]⟩
    · exact ⟨event, there, same, aims, place, taken, seated,
        by rw [SeatsRight.value?_change here, if_neg isKey]; exact found⟩
  waiting := right.waiting
  riders := right.riders

theorem of_getSeatForPassenger (agrees : Agrees v) {guid : Nat} {key : Int8} {seat : VehicleSeat}
    (found : v.getSeatForPassenger guid = some (key, seat)) :
    value? v.seats key = some seat ∧ seat.passenger = guid := by
  refine ⟨OrderedMap.value?_of_mem agrees.seats.distinct (mem_of_find?_eq_some found), ?_⟩
  simpa using find?_some found

theorem removePassenger_ok (agrees : Agrees v) {guid : Nat} (aboard : guid ∈ v.aboard) :
    ∃ key seat, value? v.seats key = some seat ∧ seat.passenger = guid ∧
      v.removePassenger guid = some { v with
        usableSeatNum :=
          if seat.seatInfo.canEnterOrExit then v.usableSeatNum + 1 else v.usableSeatNum
        seats := assign v.seats key { seat with passenger := 0 }
        aboard := v.aboard.erase guid } := by
  obtain ⟨_, key, seat, here, sits⟩ := (agrees.seats.aboard guid).mp aboard
  unfold removePassenger
  rw [if_pos aboard]
  cases found : v.getSeatForPassenger guid with
  | none =>
    have missing := find?_eq_none.mp found (key, seat) (OrderedMap.mem_of_value? here)
    exact absurd (decide_eq_true sits) missing
  | some entry =>
    obtain ⟨there, same⟩ := of_getSeatForPassenger agrees found
    exact ⟨entry.1, entry.2, there, same, rfl⟩

/-- What a removal of passengers and pending events leaves. -/
structure Less (v after : Vehicle) : Prop where
  pending : after.pendingJoinEvents ⊆ v.pendingJoinEvents
  status : after.status = v.status
  seats : ∀ event ∈ after.events, ∃ was ∈ v.events, was.id = event.id ∧ was.seat = event.seat
  free : ∀ key, Free v.seats key → Free after.seats key

theorem Less.refl (v : Vehicle) : Less v v where
  pending := List.Subset.refl _
  status := rfl
  seats event there := ⟨event, there, rfl, rfl⟩
  free _ free := free

theorem Less.trans {v w x : Vehicle} (first : Less v w) (second : Less w x) : Less v x where
  pending := List.Subset.trans second.pending first.pending
  status := second.status.trans first.status
  seats event there := by
    obtain ⟨middle, between, id, seat⟩ := second.seats event there
    obtain ⟨was, before, id', seat'⟩ := first.seats middle between
    exact ⟨was, before, id'.trans id, seat'.trans seat⟩
  free key free := second.free key (first.free key free)

theorem free_emptied {seats : SeatMap} {key : Int8} {seat : VehicleSeat}
    (here : value? seats key = some seat) {other : Int8} (free : key = other ∨ Free seats other) :
    Free (assign seats key { seat with passenger := 0 }) other := by
  by_cases isKey : key = other
  · exact ⟨_, by rw [SeatsRight.value?_change here, if_pos isKey], rfl⟩
  · obtain ⟨again, there, empty⟩ := free.resolve_left isKey
    exact ⟨again, by rw [SeatsRight.value?_change here, if_neg isKey]; exact there, empty⟩

theorem removePassenger_agrees (agrees : Agrees v) (guid : Nat) :
    ∃ after, v.removePassenger guid = some after ∧ Agrees after ∧ Less v after ∧
      ∀ key seat, value? v.seats key = some seat → seat.passenger = guid → guid ≠ 0 →
        Free after.seats key := by
  by_cases aboard : guid ∈ v.aboard
  · obtain ⟨key, seat, here, sits, run⟩ := removePassenger_ok agrees aboard
    have nonzero := ((agrees.seats.aboard guid).mp aboard).1
    refine ⟨_, run, ⟨agrees.seats.leave here sits nonzero, agrees.events.emptied here _ _⟩,
      ⟨List.Subset.refl _, rfl, fun event there => ⟨event, there, rfl, rfl⟩,
        fun other free => free_emptied here (.inr free)⟩, fun other again there same _ => ?_⟩
    have place := agrees.seats.single key other seat again here there (sits ▸ nonzero)
      (sits.trans same.symm)
    exact free_emptied here (.inl place)
  · unfold removePassenger
    rw [if_neg aboard]
    refine ⟨v, rfl, agrees, Less.refl v, fun key seat here sits nonzero => ?_⟩
    exact absurd ((agrees.seats.aboard guid).mpr ⟨nonzero, key, seat, here, sits⟩) aboard

theorem abortPending_agrees (agrees : Agrees v) (kind : VehicleJoinEvent → Bool) :
    Agrees (v.abortPending kind) ∧ Less v (v.abortPending kind) := by
  refine ⟨⟨agrees.seats, agrees.events.abortPending kind⟩, filter_sublist.subset, rfl, ?_,
    fun _ free => free⟩
  refine forall_mem_map.mpr fun event there => ⟨event, there, ?_⟩
  split <;> exact ⟨rfl, rfl⟩

theorem removePendingEventsForPassenger_eq (agrees : Agrees v) (guid : Nat) :
    v.removePendingEventsForPassenger guid =
      some (v.abortPending fun event => event.passenger = guid) :=
  if_pos agrees.events.pendingValid

theorem removePendingEventsForSeat_eq (agrees : Agrees v) (seatId : Int8) :
    v.removePendingEventsForSeat seatId =
      some (v.abortPending fun event => event.seat = some seatId) :=
  if_pos agrees.events.pendingSeated

theorem controlRemoved_agrees (agrees : Agrees v) (guid : Nat) :
    ∃ after, v.controlRemoved guid = some after ∧ Agrees after ∧ Less v after ∧
      ∀ key seat, value? v.seats key = some seat → seat.passenger = guid → guid ≠ 0 →
        Free after.seats key := by
  unfold controlRemoved
  rw [removePendingEventsForPassenger_eq agrees]
  obtain ⟨still, less⟩ := abortPending_agrees agrees fun event => event.passenger = guid
  obtain ⟨after, run, kept, rest, left⟩ := removePassenger_agrees still guid
  exact ⟨after, run, kept, less.trans rest, left⟩

theorem controlRemoved_all (auras : List Nat) (agrees : Agrees v) :
    ∃ after, auras.foldlM controlRemoved v = some after ∧ Agrees after ∧ Less v after := by
  induction auras generalizing v with
  | nil => exact ⟨v, rfl, agrees, Less.refl v⟩
  | cons guid auras ih =>
    obtain ⟨next, first, kept, less, _⟩ := controlRemoved_agrees agrees guid
    obtain ⟨after, rest, done, lesser⟩ := ih kept
    refine ⟨after, ?_, done, less.trans lesser⟩
    rw [foldlM_cons, first]
    exact rest

theorem removeAllPassengers_agrees (agrees : Agrees v) (auras : List Nat) :
    ∃ after, v.removeAllPassengers auras = some after ∧ Agrees after ∧
      after.pendingJoinEvents = [] := by
  unfold removeAllPassengers
  rw [if_pos agrees.events.pendingValid]
  have emptied : Agrees { v with
      events := v.events.map fun event =>
        if event.id ∈ v.pendingJoinEvents then
          { event with toAbort := true, target := v.status ≠ .uninstalling }
        else event
      pendingJoinEvents := [] } := by
    refine ⟨agrees.seats, agrees.events.mark _ (fun event => ?_) (fun event => ?_)
      (fun event _ waits => nomatch waits) (fun event => ?_) (nil_sublist _)
      fun event there running => ?_⟩
    · split <;> rfl
    · split <;> rfl
    · split <;> rfl
    · split at running
      · cases running
      · next idle => exact absurd (agrees.events.waiting event there running) idle
  obtain ⟨after, run, kept, less⟩ := controlRemoved_all auras emptied
  exact ⟨after, run, kept, subset_nil.mp less.pending⟩

theorem uninstall_agrees (agrees : Agrees v) (minion : Bool) (auras : List Nat) :
    v.uninstall minion auras = some v ∨
      ∃ after, v.uninstall minion auras = some after ∧ Agrees after ∧
        after.pendingJoinEvents = [] := by
  unfold uninstall
  split
  · exact .inl rfl
  have renamed : Agrees { v with status := .uninstalling } :=
    ⟨agrees.seats, ⟨agrees.events.ids, agrees.events.fresh, agrees.events.distinct,
      agrees.events.pending, agrees.events.waiting, agrees.events.riders⟩⟩
  exact .inr (removeAllPassengers_agrees renamed auras)

end Vehicle

end OpenWoW.Vehicles
