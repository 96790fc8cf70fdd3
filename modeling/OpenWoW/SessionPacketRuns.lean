import Mathlib.Data.List.Count
import Mathlib.Data.List.TakeWhile
import OpenWoW.SessionPackets

/-! Where the packets of a session are at every point of an update. -/
namespace OpenWoW.SessionPackets

open List

namespace Session

variable {opcodeTable : Nat → OpcodeHandler} {s : Session}

def ids (queue : List WorldPacket) : List Nat := queue.map (·.id)

/-- The packet that the loop has taken off and is handling. -/
def inHand (s : Session) : List Nat :=
  match s.phase with
  | .handle packet => [packet.id]
  | _ => []

/-- In how many places a packet is. -/
def places (s : Session) (id : Nat) : Nat :=
  (ids s.recvQueue).count id + s.inHand.count id + s.deleted.count id

/-- The packets that come before the first delayed one. -/
def ahead (s : Session) : List WorldPacket :=
  s.recvQueue.takeWhile fun packet => s.firstDelayedPacket ≠ some packet.id

/-- What every step keeps, whatever becomes of the packets. -/
structure Kept (s : Session) : Prop where
  once : ∀ id, s.places id ≤ 1
  fresh : ∀ id, s.arrived ≤ id → s.places id = 0 ∧ id ∉ s.handled
  handled : ∀ id ∈ s.handled, id ∉ ids s.recvQueue ∧ id ∉ s.inHand
  handledOnce : s.handled.Nodup
  delayed : ∀ id, s.firstDelayedPacket = some id → id ∈ ids s.recvQueue
  deletes : s.deletePacket = s.firstDelayedPacket.isNone
  takenOnce : s.taken.Nodup
  takenOld : ∀ id ∈ s.taken, id < s.arrived
  taken : ∀ packet ∈ s.ahead, packet.id ∉ s.taken
  peek : s.phase = .peek → s.recvQueue ≠ []
  next : s.phase = .next → ∃ packet rest, s.recvQueue = packet :: rest ∧
    s.firstDelayedPacket ≠ some packet.id

/-- No packet is lost. -/
def Accounted (s : Session) : Prop := ∀ id < s.arrived, s.places id = 1

theorem inHand_of_ne {s : Session} (phase : ∀ packet, s.phase ≠ .handle packet) :
    s.inHand = [] := by
  unfold inHand
  split
  · next packet here => exact absurd here (phase packet)
  · rfl

theorem ahead_subset (s : Session) : s.ahead ⊆ s.recvQueue :=
  (List.takeWhile_prefix _).subset

theorem count_ids_of_places {s : Session} (once : ∀ id, s.places id ≤ 1) (id : Nat) :
    (ids s.recvQueue).count id ≤ 1 := by
  have one := once id
  unfold places at one
  omega

theorem Kept.steady (kept : Kept s) {after : Session} (queue : after.recvQueue = s.recvQueue)
    (hand : after.inHand = s.inHand) (deleted : after.deleted = s.deleted)
    (arrived : after.arrived = s.arrived) (handled : after.handled = s.handled)
    (first : after.firstDelayedPacket = s.firstDelayedPacket)
    (deletes : after.deletePacket = s.deletePacket) (taken : after.taken = s.taken)
    (peek : after.phase = .peek → s.recvQueue ≠ [])
    (next : after.phase = .next → ∃ packet rest, s.recvQueue = packet :: rest ∧
      s.firstDelayedPacket ≠ some packet.id) : Kept after := by
  have places : ∀ id, after.places id = s.places id := by
    intro id
    unfold places
    rw [queue, hand, deleted]
  have same : after.ahead = s.ahead := by
    unfold ahead
    rw [queue, first]
  refine ⟨fun id => places id ▸ kept.once id, fun id high => ?_, fun id there => ?_,
    handled ▸ kept.handledOnce, fun id here => ?_, ?_, taken ▸ kept.takenOnce, fun id there => ?_,
    ?_, ?_, ?_⟩
  · rw [places, handled]
    exact kept.fresh id (arrived ▸ high)
  · rw [queue, hand]
    exact kept.handled id (handled ▸ there)
  · rw [queue]
    exact kept.delayed id (first ▸ here)
  · rw [deletes, first]
    exact kept.deletes
  · rw [arrived]
    exact kept.takenOld id (taken ▸ there)
  · rw [same, taken]
    exact kept.taken
  · rw [queue]
    exact peek
  · rw [queue, first]
    exact next

theorem ahead_append (queue : List WorldPacket) (first : Option Nat) (new : WorldPacket) :
    ((queue ++ [new]).takeWhile fun packet => first ≠ some packet.id) ⊆
      (queue.takeWhile fun packet => first ≠ some packet.id) ++ [new] := by
  rw [takeWhile_append]
  split
  · rename_i whole
    have all : (queue.takeWhile fun packet => first ≠ some packet.id) = queue :=
      (List.takeWhile_prefix _).eq_of_length whole
    rw [all]
    intro packet there
    rcases mem_append.mp there with old | isNew
    · exact mem_append_left _ old
    · exact mem_append_right _ ((List.takeWhile_prefix _).subset isNew)
  · exact subset_append_left _ _

theorem takeWhile_concat {p : WorldPacket → Bool} {queue : List WorldPacket} {new : WorldPacket}
    (stops : (∃ stop ∈ queue, p stop = false) ∨ p new = false) :
    (queue ++ [new]).takeWhile p = queue.takeWhile p := by
  rw [takeWhile_append]
  split
  · rename_i whole
    have all := (List.takeWhile_prefix p).eq_of_length whole
    have last : p new = false := by
      rcases stops with ⟨stop, member, fails⟩ | fails
      · have passes := takeWhile_eq_self_iff.mp all stop member
        rw [fails] at passes
        cases passes
      · exact fails
    rw [takeWhile_cons_of_neg (by simp [last]), append_nil, all]
  · rfl

theorem length_takeWhile_concat (p : WorldPacket → Bool) (queue : List WorldPacket)
    (new : WorldPacket) :
    ((queue ++ [new]).takeWhile p).length ≤ (queue.takeWhile p).length + 1 := by
  rw [takeWhile_append]
  split
  · rename_i whole
    have last := (List.takeWhile_prefix p (l := [new])).length_le
    rw [length_append, whole]
    exact Nat.add_le_add_left last _
  · exact Nat.le_succ _

theorem Kept.queuePacket (opcodeTable : Nat → OpcodeHandler) (kept : Kept s) (opcode : Nat) :
    Kept (s.perform opcodeTable (.queuePacket opcode)) ∧
      (∀ id, (s.perform opcodeTable (.queuePacket opcode)).places id =
        s.places id + if s.arrived = id then 1 else 0) := by
  have places (id : Nat) : (s.perform opcodeTable (.queuePacket opcode)).places id =
      s.places id + if s.arrived = id then 1 else 0 := by
    change (ids (s.recvQueue ++ [⟨s.arrived, opcode⟩])).count id + s.inHand.count id +
      s.deleted.count id = _
    unfold Session.places ids
    rw [map_append, count_append, map_singleton, count_singleton]
    simp only [beq_iff_eq]
    omega
  have new := (kept.fresh s.arrived (Nat.le_refl _)).1
  refine ⟨⟨fun id => ?_, fun id high => ?_, fun id there => ?_, kept.handledOnce, fun id here => ?_,
    kept.deletes, kept.takenOnce, fun id there => Nat.lt_succ_of_lt (kept.takenOld id there),
    fun packet there => ?_, fun phase => ?_, fun phase => ?_⟩, places⟩
  · have one := kept.once id
    rw [places]
    split
    · next same => rw [← same, new]
    · omega
  · have high : s.arrived + 1 ≤ id := high
    rw [places, if_neg (by omega)]
    exact kept.fresh id (by omega)
  · obtain ⟨queue, hand⟩ := kept.handled id there
    refine ⟨fun inside => ?_, hand⟩
    obtain ⟨packet, member, rfl⟩ := mem_map.mp inside
    rcases mem_append.mp member with old | isNew
    · exact queue (mem_map_of_mem old)
    · obtain rfl := mem_singleton.mp isNew
      exact (kept.fresh s.arrived (Nat.le_refl _)).2 there
  · exact map_subset _ (subset_append_left _ _) (kept.delayed id here)
  · rcases mem_append.mp (ahead_append _ _ _ there) with old | isNew
    · exact kept.taken packet old
    · obtain rfl := mem_singleton.mp isNew
      exact fun inside => absurd (kept.takenOld _ inside) (Nat.lt_irrefl _)
  · exact append_ne_nil_of_left_ne_nil (kept.peek phase) _
  · obtain ⟨packet, rest, queue, first⟩ := kept.next phase
    refine ⟨packet, rest ++ [⟨s.arrived, opcode⟩], ?_, first⟩
    change s.recvQueue ++ _ = _
    rw [queue]
    rfl

variable {packet : WorldPacket}

theorem Kept.take (kept : Kept s) {rest : List WorldPacket}
    (phase : s.phase = .next) (queue : s.recvQueue = packet :: rest) :
    let after : Session :=
      { s with recvQueue := rest, taken := packet.id :: s.taken, phase := .handle packet }
    Kept after ∧ ∀ id, after.places id = s.places id := by
  intro after
  obtain ⟨front, others, same, first⟩ := kept.next phase
  obtain ⟨rfl, rfl⟩ := List.cons.inj (queue.symm.trans same)
  have hand : s.inHand = [] := inHand_of_ne fun other here => by
    rw [phase] at here
    cases here
  have places (id : Nat) : after.places id = s.places id := by
    change (ids rest).count id + [packet.id].count id + s.deleted.count id = _
    unfold Session.places
    rw [hand, queue, count_nil, count_singleton, ids, ids, map_cons, count_cons]
    omega
  have front : packet ∈ s.ahead := by
    unfold ahead
    rw [queue, takeWhile_cons_of_pos (by simpa using first)]
    exact mem_cons_self
  have shorter : ∀ other ∈ after.ahead, other ∈ s.ahead ∧ other.id ≠ packet.id := by
    intro other there
    refine ⟨?_, fun equal => ?_⟩
    · unfold ahead
      rw [queue, takeWhile_cons_of_pos (by simpa using first)]
      exact mem_cons_of_mem packet there
    · have twice := count_ids_of_places kept.once packet.id
      have inside : packet.id ∈ ids rest := equal ▸ mem_map_of_mem (ahead_subset after there)
      have one : 1 ≤ (ids rest).count packet.id := one_le_count_iff.mpr inside
      rw [queue, ids, map_cons, count_cons_self] at twice
      unfold ids at one
      omega
  have present : 1 ≤ s.places packet.id := by
    unfold Session.places
    rw [queue, ids, map_cons, count_cons_self]
    omega
  refine ⟨⟨fun id => places id ▸ kept.once id, fun id high => ?_, fun id there => ?_,
    kept.handledOnce, fun id here => ?_, kept.deletes, ?_, fun id there => ?_, fun other there => ?_,
    nofun, nofun⟩, places⟩
  · rw [places]
    exact kept.fresh id high
  · obtain ⟨outside, _⟩ := kept.handled id there
    rw [queue] at outside
    exact ⟨fun inside => outside (mem_cons_of_mem _ inside), fun inside =>
      outside (mem_singleton.mp inside ▸ mem_cons_self)⟩
  · have inside := kept.delayed id here
    rw [queue] at inside
    rcases mem_cons.mp inside with same | later
    · exact absurd (here.trans (congrArg some same)) first
    · exact later
  · exact nodup_cons.mpr ⟨kept.taken packet front, kept.takenOnce⟩
  · rcases mem_cons.mp there with same | old
    · by_contra high
      have gone := (kept.fresh packet.id (same ▸ Nat.not_lt.mp high)).1
      omega
    · exact kept.takenOld id old
  · obtain ⟨was, differs⟩ := shorter other there
    exact fun inside => (mem_cons.mp inside).elim differs (kept.taken other was)

theorem Kept.ahead_requeue (kept : Kept s) (packet : WorldPacket) :
    ((s.requeue packet).processed packet).ahead <+: s.ahead := by
  change ((s.recvQueue ++ [packet]).takeWhile fun front =>
    some (s.firstDelayedPacket.getD packet.id) ≠ some front.id) <+: _
  unfold ahead
  cases first : s.firstDelayedPacket with
  | none =>
    have all : (s.recvQueue.takeWhile fun front => none ≠ some front.id) = s.recvQueue :=
      takeWhile_eq_self_iff.mpr fun _ _ => by simp
    rw [takeWhile_concat (.inr (by simp)), all]
    exact List.takeWhile_prefix _
  | some id =>
    -- the first delayed packet stands before the new end of the queue
    obtain ⟨earlier, member, same⟩ := mem_map.mp (kept.delayed id first)
    rw [takeWhile_concat (.inl ⟨earlier, member, by simpa using same.symm⟩)]
    exact prefix_refl _

theorem Kept.requeue (kept : Kept s) (phase : s.phase = .handle packet) :
    Kept ((s.requeue packet).processed packet) ∧
      ∀ id, ((s.requeue packet).processed packet).places id = s.places id := by
  have hand : s.inHand = [packet.id] := by
    unfold inHand
    rw [phase]
  have places (id : Nat) : ((s.requeue packet).processed packet).places id = s.places id := by
    change (ids (s.recvQueue ++ [packet])).count id + 0 + s.deleted.count id = _
    unfold Session.places ids
    rw [hand, map_append, count_append, map_singleton]
    omega
  refine ⟨⟨fun id => places id ▸ kept.once id, fun id high => ?_, fun id there => ?_,
    kept.handledOnce, fun id here => ?_, rfl, kept.takenOnce, kept.takenOld,
    fun other there => kept.taken other ((kept.ahead_requeue packet).subset there), nofun, nofun⟩,
    places⟩
  · rw [places]
    exact kept.fresh id high
  · obtain ⟨queue, taken⟩ := kept.handled id there
    rw [hand] at taken
    refine ⟨fun inside => ?_, not_mem_nil⟩
    obtain ⟨other, member, rfl⟩ := mem_map.mp inside
    rcases mem_append.mp member with old | isNew
    · exact queue (mem_map_of_mem old)
    · obtain rfl := mem_singleton.mp isNew
      exact taken (mem_singleton_self _)
  · obtain rfl := Option.some.inj here
    change _ ∈ (s.recvQueue ++ [packet]).map (·.id)
    rw [map_append]
    cases first : s.firstDelayedPacket with
    | none => exact mem_append_right _ (mem_singleton_self _)
    | some id => exact mem_append_left _ (kept.delayed id first)

theorem Kept.processed (kept : Kept s) (phase : s.phase = .handle packet) :
    Kept (s.processed packet) ∧ ∀ id, (s.processed packet).places id +
      (if packet.id = id ∧ s.firstDelayedPacket ≠ none then 1 else 0) = s.places id := by
  have hand : s.inHand = [packet.id] := by
    unfold inHand
    rw [phase]
  have places (id : Nat) : (s.processed packet).places id +
      (if packet.id = id ∧ s.firstDelayedPacket ≠ none then 1 else 0) = s.places id := by
    change (ids s.recvQueue).count id + 0 +
      (if s.deletePacket then packet.id :: s.deleted else s.deleted).count id + _ = _
    unfold Session.places
    rw [hand, count_singleton, kept.deletes]
    cases s.firstDelayedPacket with
    | none =>
      simp only [Option.isNone_none, if_true, count_cons, beq_iff_eq, ne_eq, not_true_eq_false,
        and_false, if_false]
      omega
    | some first =>
      simp only [Option.isNone_some, Bool.false_eq_true, if_false, beq_iff_eq, ne_eq, reduceCtorEq,
        not_false_eq_true, and_true]
      omega
  refine ⟨⟨fun id => ?_, fun id high => ?_, fun id there => ?_, kept.handledOnce, kept.delayed,
    kept.deletes, kept.takenOnce, kept.takenOld, kept.taken, nofun, nofun⟩, places⟩
  · have one := kept.once id
    have change := places id
    omega
  · obtain ⟨gone, unhandled⟩ := kept.fresh id high
    have change := places id
    exact ⟨by omega, unhandled⟩
  · exact ⟨(kept.handled id there).1, not_mem_nil⟩

theorem Kept.runHandler (kept : Kept s) (phase : s.phase = .handle packet) (outcome : Flags) :
    Kept ((s.runHandler packet outcome).processed packet) ∧
      ∀ id, ((s.runHandler packet outcome).processed packet).places id +
        (if packet.id = id ∧ s.firstDelayedPacket ≠ none then 1 else 0) = s.places id := by
  have hand : s.inHand = [packet.id] := by
    unfold inHand
    rw [phase]
  obtain ⟨done, places⟩ := kept.processed phase
  have one := kept.once packet.id
  have taken : s.inHand.count packet.id = 1 := by
    rw [hand, count_singleton_self]
  have outside : packet.id ∉ ids s.recvQueue := by
    intro inside
    have queued := one_le_count_iff.mpr inside
    unfold Session.places at one
    omega
  have low : packet.id < s.arrived := by
    by_contra high
    have gone := (kept.fresh packet.id (Nat.not_lt.mp high)).1
    unfold Session.places at gone
    omega
  have unhandled : packet.id ∉ s.handled := fun there =>
    (kept.handled packet.id there).2 (hand ▸ mem_singleton_self _)
  refine ⟨⟨done.once, fun id high => ?_, fun id there => ?_,
    nodup_cons.mpr ⟨unhandled, kept.handledOnce⟩, done.delayed, done.deletes, done.takenOnce,
    done.takenOld, done.taken, nofun, nofun⟩, places⟩
  · obtain ⟨gone, old⟩ := done.fresh id high
    refine ⟨gone, fun inside => ?_⟩
    rcases mem_cons.mp inside with same | older
    · have high : s.arrived ≤ id := high
      omega
    · exact old older
  · rcases mem_cons.mp there with same | older
    · exact ⟨same ▸ outside, not_mem_nil⟩
    · exact done.handled id older

variable (opcodeTable) in
/-- The packet in hand that is not put back although one was put back before it in this update. -/
def late (s : Session) : Option Nat :=
  match s.phase with
  | .handle packet =>
    if s.firstDelayedPacket ≠ none ∧ s.delays opcodeTable packet = false then some packet.id
    else none
  | _ => none

variable (opcodeTable) in
def Careful (s : Session) : Input → Prop
  | .tick _ => s.late opcodeTable = none
  | _ => True

/-- What one step does to the places of the packets. -/
structure Moves (opcodeTable : Nat → OpcodeHandler) (s : Session) (input : Input)
    (after : Session) : Prop where
  more : s.arrived ≤ after.arrived
  old : ∀ id < s.arrived, after.places id ≤ s.places id
  careful : s.Careful opcodeTable input → ∀ id < s.arrived, after.places id = s.places id
  careless : ¬s.Careful opcodeTable input → ∃ id < s.arrived, after.places id = 0
  new : ∀ id, s.arrived ≤ id → id < after.arrived → after.places id = 1

theorem Moves.same {input : Input} {after : Session} (arrived : after.arrived = s.arrived)
    (careful : s.Careful opcodeTable input) (places : ∀ id, after.places id = s.places id) :
    Moves opcodeTable s input after where
  more := Nat.le_of_eq arrived.symm
  old := fun id _ => Nat.le_of_eq (places id)
  careful := fun _ id _ => places id
  careless := fun careless => absurd careful careless
  new := fun _ high low => absurd (arrived ▸ low) (Nat.not_lt.mpr high)

theorem late_of_ne (phase : ∀ packet, s.phase ≠ .handle packet) : s.late opcodeTable = none := by
  unfold late
  split
  · next packet here => exact absurd here (phase packet)
  · rfl

theorem Kept.handle (kept : Kept s) (phase : s.phase = .handle packet) (outcome : Flags) :
    Kept (s.handle opcodeTable packet outcome) ∧
      Moves opcodeTable s (.tick outcome) (s.handle opcodeTable packet outcome) := by
  have late : s.late opcodeTable =
      if s.firstDelayedPacket ≠ none ∧ s.delays opcodeTable packet = false then some packet.id
      else none := by
    unfold Session.late
    rw [phase]
  have inside : s.inHand.count packet.id = 1 := by
    unfold inHand
    rw [phase, count_singleton_self]
  have low : packet.id < s.arrived := by
    by_contra high
    have gone := (kept.fresh packet.id (Nat.not_lt.mp high)).1
    unfold Session.places at gone
    omega
  have one := kept.once packet.id
  rcases handle_cases opcodeTable s packet outcome with
    ⟨delays, becomes⟩ | ⟨done, becomes⟩
  · obtain ⟨keeps, places⟩ := kept.requeue phase
    rw [becomes]
    refine ⟨keeps, .same rfl ?_ places⟩
    change s.late opcodeTable = none
    rw [late, if_neg (by simp [delays])]
  · -- a packet that was in one place is nowhere when it is neither put back nor deleted
    have moves {after : Session} (arrived : after.arrived = s.arrived)
        (places : ∀ id, after.places id +
          (if packet.id = id ∧ s.firstDelayedPacket ≠ none then 1 else 0) = s.places id) :
        Moves opcodeTable s (.tick outcome) after := by
      refine ⟨Nat.le_of_eq arrived.symm, fun id _ => ?_, fun careful id _ => ?_,
        fun careless => ⟨packet.id, low, ?_⟩,
        fun _ high there => absurd (arrived ▸ there) (Nat.not_lt.mpr high)⟩
      · have change := places id
        omega
      · have careful : s.late opcodeTable = none := careful
        have change := places id
        rw [late] at careful
        rw [if_neg fun both => by rw [if_pos ⟨both.2, done⟩] at careful; cases careful] at change
        exact change
      · have careless : s.late opcodeTable ≠ none := careless
        have change := places packet.id
        have delayed : s.firstDelayedPacket ≠ none := by
          intro nothing
          rw [late, if_neg fun both => both.1 nothing] at careless
          exact careless rfl
        rw [if_pos ⟨rfl, delayed⟩] at change
        omega
    rcases becomes with becomes | becomes
    · obtain ⟨keeps, places⟩ := kept.processed phase
      rw [becomes]
      exact ⟨keeps, moves rfl places⟩
    obtain ⟨keeps, places⟩ := kept.runHandler phase outcome
    rw [becomes]
    exact ⟨keeps, moves rfl places⟩

end Session

end OpenWoW.SessionPackets
