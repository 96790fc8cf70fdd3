import OpenWoW.SessionPacketRuns

/-! Whole runs of updates: what becomes of each packet, and that every update ends. -/
namespace OpenWoW.SessionPackets

open List

namespace Session

variable {opcodeTable : Nat → OpcodeHandler} {s : Session}

theorem places_of_steady (s after : Session) (queue : after.recvQueue = s.recvQueue)
    (hand : after.inHand = s.inHand) (deleted : after.deleted = s.deleted) (id : Nat) :
    after.places id = s.places id := by
  unfold places
  rw [queue, hand, deleted]

theorem Kept.update (kept : Kept s) (phase : s.phase = .idle) (filter : PacketFilter) :
    let after : Session :=
      { s with
        phase := .check, filter, firstDelayedPacket := none, deletePacket := true, taken := [] }
    Kept after ∧ ∀ id, after.places id = s.places id := by
  intro after
  have hand : s.inHand = [] := inHand_of_ne fun packet here => by
    rw [phase] at here
    cases here
  have places (id : Nat) : after.places id = s.places id :=
    places_of_steady s after rfl hand.symm rfl id
  refine ⟨⟨fun id => places id ▸ kept.once id, fun id high => ?_, fun id there => ?_,
    kept.handledOnce, nofun, rfl, nodup_nil, nofun, fun packet _ => not_mem_nil, nofun,
    nofun⟩, places⟩
  · rw [places]
    exact kept.fresh id high
  · exact ⟨(kept.handled id there).1, not_mem_nil⟩

theorem Kept.goTo (kept : Kept s) (phase : Phase)
    (before : ∀ packet, s.phase ≠ .handle packet) (after : ∀ packet, phase ≠ .handle packet)
    (peek : phase = .peek → s.recvQueue ≠ [])
    (next : phase = .next → ∃ packet rest, s.recvQueue = packet :: rest ∧
      s.firstDelayedPacket ≠ some packet.id) (outcome : Flags) :
    Kept { s with phase } ∧ Moves opcodeTable s (.tick outcome) { s with phase } := by
  have hand : inHand { s with phase } = s.inHand := by
    rw [inHand_of_ne before, inHand_of_ne after]
  exact ⟨kept.steady rfl hand rfl rfl rfl rfl rfl rfl peek next,
    .same rfl (late_of_ne before) (places_of_steady s _ rfl hand rfl)⟩

theorem Kept.tick (kept : Kept s) (outcome : Flags) :
    Kept (s.tick opcodeTable outcome) ∧
      Moves opcodeTable s (.tick outcome) (s.tick opcodeTable outcome) := by
  unfold Session.tick
  cases phase : s.phase with
  | idle =>
    have other : ∀ packet, s.phase ≠ .handle packet := fun packet => by rw [phase]; nofun
    exact ⟨kept, .same rfl (late_of_ne other) fun _ => rfl⟩
  | check =>
    have other : ∀ packet, s.phase ≠ .handle packet := fun packet => by rw [phase]; nofun
    dsimp only
    split
    · next more => exact kept.goTo .peek other nofun (fun _ => more.2.2) nofun outcome
    · exact kept.goTo .finish other nofun nofun nofun outcome
  | peek =>
    have other : ∀ packet, s.phase ≠ .handle packet := fun packet => by rw [phase]; nofun
    have filled := kept.peek phase
    dsimp only
    split
    · rename_i first
      refine kept.goTo .next other nofun nofun (fun _ => ?_) outcome
      obtain ⟨packet, rest, queue⟩ := exists_cons_of_ne_nil filled
      refine ⟨packet, rest, queue, fun same => first ?_⟩
      rw [queue, same]
      rfl
    · exact kept.goTo .finish other nofun nofun nofun outcome
  | next =>
    have other : ∀ packet, s.phase ≠ .handle packet := fun packet => by rw [phase]; nofun
    dsimp only
    split
    · exact kept.goTo .finish other nofun nofun nofun outcome
    next packet rest queue =>
    split
    · obtain ⟨keeps, places⟩ := kept.take phase queue
      exact ⟨keeps, .same rfl (late_of_ne other) places⟩
    · exact kept.goTo .finish other nofun nofun nofun outcome
  | handle packet => exact kept.handle phase outcome
  | finish =>
    have other : ∀ packet, s.phase ≠ .handle packet := fun packet => by rw [phase]; nofun
    have hand : s.inHand = [] := inHand_of_ne other
    dsimp only
    unfold Session.finish
    split
    · exact kept.goTo .idle other nofun nofun nofun outcome
    · exact ⟨kept.steady rfl hand.symm rfl rfl rfl rfl rfl rfl nofun nofun,
        .same rfl (late_of_ne other) (places_of_steady s _ rfl hand.symm rfl)⟩

theorem Kept.perform (opcodeTable : Nat → OpcodeHandler) (kept : Kept s) (input : Input) :
    Kept (s.perform opcodeTable input) ∧
      Moves opcodeTable s input (s.perform opcodeTable input) := by
  cases input with
  | queuePacket opcode =>
    obtain ⟨keeps, places⟩ := kept.queuePacket opcodeTable opcode
    refine ⟨keeps, Nat.le_succ _, fun id low => ?_, fun _ id low => ?_,
      fun careless => absurd trivial careless, fun id high low => ?_⟩
    · rw [places, if_neg (by omega)]
      exact Nat.le_refl _
    · rw [places, if_neg (by omega)]
      rfl
    · have low : id < s.arrived + 1 := low
      rw [places, if_pos (by omega), (kept.fresh id high).1]
  | closeSocket =>
    exact ⟨kept.steady rfl rfl rfl rfl rfl rfl rfl rfl kept.peek kept.next,
      .same rfl trivial (places_of_steady s _ rfl rfl rfl)⟩
  | change flags =>
    unfold Session.perform
    dsimp only
    split
    · exact ⟨kept.steady rfl rfl rfl rfl rfl rfl rfl rfl kept.peek kept.next,
        .same rfl trivial (places_of_steady s _ rfl rfl rfl)⟩
    · exact ⟨kept, .same rfl trivial fun _ => rfl⟩
  | update filter =>
    unfold Session.perform
    dsimp only
    split
    · rename_i phase
      obtain ⟨keeps, places⟩ := kept.update phase filter
      exact ⟨keeps, .same rfl trivial places⟩
    · exact ⟨kept, .same rfl trivial fun _ => rfl⟩
  | tick outcome => exact kept.tick outcome

theorem kept_new : Kept {} where
  once := fun _ => Nat.zero_le 1
  fresh := fun _ _ => ⟨rfl, not_mem_nil⟩
  handled := nofun
  handledOnce := nodup_nil
  delayed := nofun
  deletes := rfl
  takenOnce := nodup_nil
  takenOld := nofun
  taken := nofun
  peek := nofun
  next := nofun

/-- How many more steps the update takes when nothing more arrives. -/
def weight (s : Session) : Nat :=
  match s.phase with
  | .idle => 0
  | .finish => 1
  | .check => 4 * s.ahead.length + 3
  | .peek => 4 * s.ahead.length + 2
  | .next => 4 * s.ahead.length + 1
  | .handle _ => 4 * s.ahead.length + 4

theorem idle_of_weight (weightless : s.weight = 0) : s.phase = .idle := by
  unfold weight at weightless
  cases phase : s.phase with
  | idle => rfl
  | finish | check | peek | next | handle =>
    rw [phase] at weightless
    dsimp only at weightless
    omega

theorem weight_handle (kept : Kept s) {packet : WorldPacket} (phase : s.phase = .handle packet)
    (outcome : Flags) : (s.handle opcodeTable packet outcome).weight < s.weight := by
  have heavy : s.weight = 4 * s.ahead.length + 4 := by
    unfold weight
    rw [phase]
  rcases handle_cases opcodeTable s packet outcome with
    ⟨_, becomes⟩ | ⟨_, becomes | becomes⟩
  · have shorter := (kept.ahead_requeue packet).length_le
    rw [becomes]
    change 4 * ((s.requeue packet).processed packet).ahead.length + 3 < _
    omega
  · rw [becomes]
    change 4 * s.ahead.length + 3 < _
    omega
  · rw [becomes]
    change 4 * s.ahead.length + 3 < _
    omega

theorem weight_tick (opcodeTable : Nat → OpcodeHandler) (kept : Kept s) (busy : s.phase ≠ .idle)
    (outcome : Flags) : (s.tick opcodeTable outcome).weight < s.weight := by
  unfold Session.tick
  cases phase : s.phase with
  | idle => exact absurd phase busy
  | check =>
    have heavy : s.weight = 4 * s.ahead.length + 3 := by
      unfold weight
      rw [phase]
    dsimp only
    split
    · change 4 * s.ahead.length + 2 < _
      omega
    · change 1 < _
      omega
  | peek =>
    have heavy : s.weight = 4 * s.ahead.length + 2 := by
      unfold weight
      rw [phase]
    dsimp only
    split
    · change 4 * s.ahead.length + 1 < _
      omega
    · change 1 < _
      omega
  | next =>
    obtain ⟨packet, rest, queue, first⟩ := kept.next phase
    have walk : s.ahead =
        packet :: rest.takeWhile fun packet => s.firstDelayedPacket ≠ some packet.id := by
      unfold ahead
      rw [queue, takeWhile_cons_of_pos (by simpa using first)]
    have heavy : s.weight = 4 * s.ahead.length + 1 := by
      unfold weight
      rw [phase]
    rw [walk, length_cons] at heavy
    rw [queue]
    dsimp only
    split
    · change 4 * (rest.takeWhile fun packet => s.firstDelayedPacket ≠ some packet.id).length +
        4 < _
      omega
    · change 1 < _
      omega
  | handle packet => exact weight_handle kept phase outcome
  | finish =>
    have heavy : s.weight = 1 := by
      unfold weight
      rw [phase]
    dsimp only
    unfold Session.finish
    split
    · change 0 < _
      omega
    · change 0 < _
      omega

end Session

namespace Input

def arrives : Input → Bool
  | .queuePacket _ => true
  | _ => false

def ticks : Input → Bool
  | .tick _ => true
  | _ => false

end Input

namespace Session

variable {opcodeTable : Nat → OpcodeHandler} {s : Session}

theorem weight_le (s after : Session) (phase : after.phase = s.phase) (more : Nat)
    (ahead : after.ahead.length ≤ s.ahead.length + more) : after.weight ≤ s.weight + 4 * more := by
  unfold weight
  rw [phase]
  split <;> omega

theorem weight_perform (opcodeTable : Nat → OpcodeHandler) (busy : s.phase ≠ .idle) {input : Input}
    (other : input.ticks = false) :
    (s.perform opcodeTable input).weight ≤ s.weight + if input.arrives then 4 else 0 := by
  cases input with
  | queuePacket opcode =>
    have longer : (s.perform opcodeTable (.queuePacket opcode)).ahead.length ≤
        s.ahead.length + 1 :=
      length_takeWhile_concat _ s.recvQueue ⟨s.arrived, opcode⟩
    exact weight_le s (s.perform opcodeTable (.queuePacket opcode)) rfl 1 longer
  | closeSocket => exact Nat.le_refl _
  | change flags =>
    unfold Session.perform
    dsimp only
    rw [if_neg busy]
    exact Nat.le_refl _
  | update filter =>
    unfold Session.perform
    dsimp only
    rw [if_neg busy]
    exact Nat.le_refl _
  | tick outcome => cases other

/-- The update that is going on returns when no more than finitely many packets arrive. -/
def Terminates (opcodeTable : Nat → OpcodeHandler) (s : Session) : Prop :=
  ∃ bound, ∀ inputs : List Input,
    bound + 4 * inputs.countP Input.arrives ≤ inputs.countP Input.ticks →
      ∃ before, before <+: inputs ∧ (Run.final (step opcodeTable) s before).phase = .idle

theorem Kept.terminates (kept : Kept s) : s.Terminates opcodeTable := by
  refine ⟨s.weight, fun inputs long => ?_⟩
  induction inputs generalizing s with
  | nil =>
    have weightless : s.weight = 0 := by simpa using long
    exact ⟨[], nil_prefix, idle_of_weight weightless⟩
  | cons input inputs ih =>
    by_cases idle : s.phase = .idle
    · exact ⟨[], nil_prefix, idle⟩
    rw [countP_cons, countP_cons] at long
    obtain ⟨keeps, _⟩ := kept.perform opcodeTable input
    obtain ⟨before, initial, ends⟩ := ih keeps (by
      cases ticks : input.ticks with
      | true =>
        cases input with
        | tick outcome =>
          have lighter := weight_tick opcodeTable kept idle outcome
          change (s.tick opcodeTable outcome).weight + _ ≤ _
          simp only [Input.arrives, Input.ticks, Bool.false_eq_true, if_false, if_true] at long
          omega
        | queuePacket | closeSocket | change | update => cases ticks
      | false =>
        have heavier := weight_perform opcodeTable idle ticks
        rw [ticks] at long
        split at heavier
        · rename_i arrives
          rw [if_pos arrives] at long
          simp only [Bool.false_eq_true, if_false] at long
          omega
        next arrives =>
        rw [if_neg arrives] at long
        simp only [Bool.false_eq_true, if_false] at long
        omega)
    exact ⟨input :: before, cons_prefix_cons.mpr ⟨rfl, initial⟩, ends⟩

/-- A packet is neither in the queue nor in hand, and was never deleted. -/
def Lost (s : Session) : Prop := ∃ id < s.arrived, s.places id = 0

theorem Lost.perform (lost : s.Lost) (kept : Kept s) (input : Input) :
    (s.perform opcodeTable input).Lost := by
  obtain ⟨id, low, gone⟩ := lost
  obtain ⟨_, moves⟩ := kept.perform opcodeTable input
  have less := moves.old id low
  exact ⟨id, Nat.lt_of_lt_of_le low moves.more, by omega⟩

theorem Lost.final (lost : s.Lost) (kept : Kept s) (inputs : List Input) :
    (Run.final (step opcodeTable) s inputs).Lost := by
  induction inputs generalizing s with
  | nil => exact lost
  | cons input inputs ih => exact ih (lost.perform kept input) (kept.perform opcodeTable input).1

/-- Between two updates each packet waits or was deleted, once. -/
def Balanced (s : Session) : Prop :=
  ∀ id < s.arrived, (ids s.recvQueue).count id + s.deleted.count id = 1

theorem Accounted.balanced (accounted : s.Accounted) (phase : s.phase = .idle) : s.Balanced := by
  intro id low
  have one := accounted id low
  unfold places at one
  rw [inHand_of_ne fun packet here => by rw [phase] at here; cases here] at one
  exact one

theorem Lost.not_balanced (lost : s.Lost) : ¬s.Balanced := by
  intro balanced
  obtain ⟨id, low, gone⟩ := lost
  have one := balanced id low
  unfold places at gone
  omega

theorem Accounted.perform (accounted : s.Accounted) (kept : Kept s) {input : Input}
    (careful : s.Careful opcodeTable input) : (s.perform opcodeTable input).Accounted := by
  intro id low
  obtain ⟨_, moves⟩ := kept.perform opcodeTable input
  by_cases old : id < s.arrived
  · rw [moves.careful careful id old]
    exact accounted id old
  · exact moves.new id (Nat.not_lt.mp old) low

theorem Kept.putBack (kept : Kept s) {packet : WorldPacket} (phase : s.phase = .handle packet)
    {outcome : Flags} (back : packet.id ∈ ids (s.perform opcodeTable (.tick outcome)).recvQueue) :
    (opcodeTable packet.opcode).status = .loggedIn ∧ s.flags.player = none := by
  have after : s.perform opcodeTable (.tick outcome) = s.handle opcodeTable packet outcome := by
    unfold Session.perform Session.tick
    rw [phase]
  rw [after] at back
  rcases handle_cases opcodeTable s packet outcome with
    ⟨delays, _⟩ | ⟨_, becomes⟩
  · obtain ⟨loggedIn, absent, _⟩ := of_decide_eq_true delays
    exact ⟨loggedIn, absent⟩
  have queue : (s.handle opcodeTable packet outcome).recvQueue = s.recvQueue := by
    rcases becomes with becomes | becomes
    · rw [becomes]
      rfl
    · rw [becomes]
      rfl
  rw [queue] at back
  have one := kept.once packet.id
  have queued := one_le_count_iff.mpr back
  have inside : s.inHand.count packet.id = 1 := by
    unfold inHand
    rw [phase, count_singleton_self]
  unfold places at one
  omega

end Session

/-- What a step leaves. -/
structure Sound (opcodeTable : Nat → OpcodeHandler) (t : Run.Taken Session Input Unit) : Prop where
  balanced : t.after.phase = .idle → t.after.Balanced
  handledOnce : t.after.handled.Nodup
  putBack : ∀ packet outcome, t.before.phase = .handle packet → t.input = .tick outcome →
    packet.id ∈ Session.ids t.after.recvQueue →
      (opcodeTable packet.opcode).status = .loggedIn ∧ t.before.flags.player = none
  takenOnce : t.after.taken.Nodup
  ends : t.after.Terminates opcodeTable

theorem Session.careful_of_sound {opcodeTable : Nat → OpcodeHandler} {s : Session} (kept : s.Kept)
    {inputs : List Input} (ended : (Run.final (step opcodeTable) s inputs).phase = .idle)
    (sound : ∀ t ∈ Run.trace (step opcodeTable) s inputs, Sound opcodeTable t) :
    ∀ t ∈ Run.trace (step opcodeTable) s inputs, t.before.Careful opcodeTable t.input := by
  induction inputs generalizing s with
  | nil =>
    intro t here
    cases here
  | cons input inputs ih =>
    obtain ⟨keeps, moves⟩ := kept.perform opcodeTable input
    have now : s.Careful opcodeTable input := by
      by_contra careless
      obtain ⟨id, low, gone⟩ := moves.careless careless
      have lost : (s.perform opcodeTable input).Lost :=
        ⟨id, Nat.lt_of_lt_of_le low moves.more, gone⟩
      -- what is lost is still lost when the last update has returned
      obtain ⟨last, here, isLast⟩ := Run.final_mem (step opcodeTable) s input inputs
      have balanced := (sound last here).balanced (isLast ▸ ended)
      rw [isLast] at balanced
      exact (lost.final keeps inputs).not_balanced balanced
    intro t here
    rcases mem_cons.mp here with rfl | later
    · exact now
    · exact ih keeps ended (fun t there => sound t (mem_cons_of_mem _ there)) t later

/-- The queue loses nothing while no update that has put a packet back goes on to one that it does
not put back; where one does, the update leaks that packet. -/
theorem packets_kept_iff (opcodeTable : Nat → OpcodeHandler) (inputs : List Input) :
    ((∀ t ∈ Run.trace (step opcodeTable) {} inputs, t.before.Careful opcodeTable t.input) →
      ∀ t ∈ Run.trace (step opcodeTable) {} inputs, Sound opcodeTable t) ∧
    ((Run.final (step opcodeTable) {} inputs).phase = .idle →
      (∀ t ∈ Run.trace (step opcodeTable) {} inputs, Sound opcodeTable t) →
        ∀ t ∈ Run.trace (step opcodeTable) {} inputs, t.before.Careful opcodeTable t.input) := by
  constructor
  · intro careful t here
    obtain ⟨kept, accounted⟩ := Run.invariant (step opcodeTable)
      (fun s input => s.Careful opcodeTable input) (fun s => s.Kept ∧ s.Accounted)
      (fun s input holds careful =>
        ⟨(holds.1.perform opcodeTable input).1, holds.2.perform holds.1 careful⟩)
      {} ⟨Session.kept_new, nofun⟩ careful t here
    obtain ⟨keeps, _⟩ := kept.perform opcodeTable t.input
    have after : t.after = t.before.perform opcodeTable t.input := by
      rw [Run.taken_of_mem _ _ _ t here]
      rfl
    have accountedAfter := accounted.perform kept (careful t here)
    exact ⟨fun phase => after ▸ accountedAfter.balanced (after ▸ phase),
      after ▸ keeps.handledOnce,
      fun packet outcome phase ticked back => kept.putBack phase (by
        rw [after, ticked] at back
        exact back),
      after ▸ keeps.takenOnce, after ▸ keeps.terminates⟩
  · intro ended sound
    exact Session.careful_of_sound Session.kept_new ended sound

/-- Whatever the handlers do, no packet is ever in two places or handled twice. -/
theorem packets_in_one_place (opcodeTable : Nat → OpcodeHandler) (inputs : List Input) :
    let s := Run.final (step opcodeTable) {} inputs
    (∀ id, s.places id ≤ 1) ∧ (∀ id ∈ s.handled, id ∉ Session.ids s.recvQueue) ∧
      s.handled.Nodup ∧ s.taken.Nodup ∧ s.Terminates opcodeTable := by
  have kept := Run.history (step opcodeTable) (fun _ _ => True) (fun _ s => s.Kept)
    (fun _ _ input kept _ => (kept.perform opcodeTable input).1) [] {} inputs Session.kept_new
    (fun _ _ => trivial)
  exact ⟨kept.once, fun id here => (kept.handled id here).1, kept.handledOnce, kept.takenOnce,
    kept.terminates⟩

def someHandlers (opcode : Nat) : OpcodeHandler :=
  if opcode = 0x1150 then ⟨.loggedIn, .threadUnsafe⟩
  else if opcode = cmsgCharEnum then ⟨.authed, .threadUnsafe⟩
  else ⟨.unhandled, .inPlace⟩

/-- A logout request without a player comes before a request for the characters. -/
def mixedUpdate : List Input :=
  .queuePacket 0x1150 :: .queuePacket cmsgCharEnum :: .update .world :: List.replicate 11 (.tick {})

/-- The second packet is handled and never deleted. -/
theorem packet_leaked :
    (Run.final (step someHandlers) {} mixedUpdate).phase = .idle ∧
      (Run.final (step someHandlers) {} mixedUpdate).handled = [1] ∧
      ¬∀ t ∈ Run.trace (step someHandlers) {} mixedUpdate, Sound someHandlers t := by
  refine ⟨by decide, by decide, fun sound => ?_⟩
  obtain ⟨last, here, isLast⟩ := Run.final_mem (step someHandlers) {} (.queuePacket 0x1150)
    (.queuePacket cmsgCharEnum :: .update .world :: List.replicate 11 (.tick {}))
  have balanced := (sound last here).balanced (isLast ▸ by decide) 1 (isLast ▸ by decide)
  rw [isLast] at balanced
  exact absurd balanced (by decide)

end OpenWoW.SessionPackets
