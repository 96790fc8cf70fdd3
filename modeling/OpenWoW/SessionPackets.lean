import Mathlib
import OpenWoW.Lib.Run

/-! The packets that wait in a session, between the network thread and the updates. -/
namespace OpenWoW.SessionPackets

inductive SessionStatus where
  | authed
  | loggedIn
  | transfer
  | loggedInOrRecentlyLogout
  | never
  | unhandled
  deriving DecidableEq, Repr

inductive PacketProcessing where
  | inPlace
  | threadUnsafe
  | threadSafe
  deriving DecidableEq, Repr

structure OpcodeHandler where
  status : SessionStatus
  processingPlace : PacketProcessing
  deriving DecidableEq, Repr

def cmsgCharEnum : Nat := 0x0B1D

/-- A packet, told apart from the others by where it is. -/
structure WorldPacket where
  id : Nat
  opcode : Nat
  deriving DecidableEq, Repr

/-- What handlers and the rest of the server may change. -/
structure Flags where
  /-- Whether the player, if there is one, is in world. -/
  player : Option Bool := none
  inQueue : Bool := false
  playerRecentlyLogout : Bool := false
  playerLogout : Bool := false
  /-- The socket is closed. -/
  closed : Bool := false
  deriving DecidableEq, Repr

inductive PacketFilter where
  | map
  | world
  deriving DecidableEq, Repr

def dropHighBytes (opcode : Nat) : Nat := opcode % 2 ^ 16

variable (opcodeTable : Nat → OpcodeHandler)

def PacketFilter.process (filter : PacketFilter) (flags : Flags) (packet : WorldPacket) : Bool :=
  match filter, (opcodeTable (dropHighBytes packet.opcode)).processingPlace with
  | _, .inPlace => true
  | .map, .threadUnsafe => false
  | .map, .threadSafe => flags.player = some true
  | .world, .threadUnsafe => true
  | .world, .threadSafe => flags.player ≠ some true

/-- Where an update is: it holds the lock of the queue for one of `empty`, `peek` and `next` at a
time. -/
inductive Phase where
  | idle
  | check
  | peek
  | next
  | handle (packet : WorldPacket)
  | finish
  deriving DecidableEq, Repr

structure Session where
  flags : Flags := {}
  /-- The session has a socket, closed or not. -/
  socket : Bool := true
  recvQueue : List WorldPacket := []
  phase : Phase := .idle
  filter : PacketFilter := .world
  firstDelayedPacket : Option Nat := none
  deletePacket : Bool := true
  /-- The packets so far. -/
  arrived : Nat := 0
  deleted : List Nat := []
  /-- The packets whose handlers were called. -/
  handled : List Nat := []
  /-- The packets that this update took off the queue. -/
  taken : List Nat := []

namespace Session

/-- The end of the loop's body. -/
def processed (s : Session) (packet : WorldPacket) : Session :=
  { s with
    deleted := if s.deletePacket then packet.id :: s.deleted else s.deleted
    phase := .check }

/-- A handler that returns or throws leaves flags of its own choice. -/
def runHandler (s : Session) (packet : WorldPacket) (outcome : Flags) : Session :=
  { s with flags := outcome, handled := packet.id :: s.handled }

/-- `QueuePacket` for a packet that came too early. -/
def requeue (s : Session) (packet : WorldPacket) : Session :=
  { s with
    firstDelayedPacket := some (s.firstDelayedPacket.getD packet.id)
    deletePacket := false
    recvQueue := s.recvQueue ++ [packet] }

/-- A packet for a logged in player comes before there is one. -/
def delays (s : Session) (packet : WorldPacket) : Bool :=
  (opcodeTable packet.opcode).status = .loggedIn ∧ s.flags.player = none ∧
    ¬s.flags.playerRecentlyLogout

def handle (s : Session) (packet : WorldPacket) (outcome : Flags) : Session :=
  match (opcodeTable packet.opcode).status with
  | .loggedIn =>
    match s.flags.player with
    | none =>
      if s.flags.playerRecentlyLogout then s.processed packet
      else (s.requeue packet).processed packet
    | some true => (s.runHandler packet outcome).processed packet
    | some false => s.processed packet
  | .loggedInOrRecentlyLogout =>
    if s.flags.player = none ∧ ¬s.flags.playerRecentlyLogout ∧ ¬s.flags.playerLogout then
      s.processed packet
    else (s.runHandler packet outcome).processed packet
  | .transfer =>
    if s.flags.player = some false then (s.runHandler packet outcome).processed packet
    else s.processed packet
  | .authed =>
    if s.flags.inQueue then s.processed packet
    else
      let flags := if packet.opcode = cmsgCharEnum then
          { s.flags with playerRecentlyLogout := false }
        else s.flags
      ({ s with flags }.runHandler packet outcome).processed packet
  | .never => s.processed packet
  | .unhandled => s.processed packet

/-- The part of `Update` behind the loop may log the player out. -/
def finish (s : Session) (outcome : Flags) : Session :=
  match s.filter with
  | .map => { s with phase := .idle }
  | .world =>
    { s with
      flags := outcome
      socket := s.socket && !outcome.closed
      phase := .idle }

/-- An update goes on to its next access of the queue. -/
def tick (s : Session) (outcome : Flags) : Session :=
  match s.phase with
  | .idle => s
  | .check =>
    if s.socket ∧ ¬s.flags.closed ∧ s.recvQueue ≠ [] then { s with phase := .peek }
    else { s with phase := .finish }
  | .peek =>
    if s.recvQueue.head?.map (·.id) ≠ s.firstDelayedPacket then { s with phase := .next }
    else { s with phase := .finish }
  | .next =>
    match s.recvQueue with
    | [] => { s with phase := .finish }
    | packet :: rest =>
      if s.filter.process opcodeTable s.flags packet then
        { s with recvQueue := rest, taken := packet.id :: s.taken, phase := .handle packet }
      else { s with phase := .finish }
  | .handle packet => s.handle opcodeTable packet outcome
  | .finish => s.finish outcome

end Session

inductive Input where
  /-- `QueuePacket` by the network thread, at any time. -/
  | queuePacket (opcode : Nat)
  | closeSocket
  /-- Something else changes the flags between two updates. -/
  | change (flags : Flags)
  | update (filter : PacketFilter)
  | tick (outcome : Flags)

def Session.perform (s : Session) : Input → Session
  | .queuePacket opcode =>
    { s with recvQueue := s.recvQueue ++ [⟨s.arrived, opcode⟩], arrived := s.arrived + 1 }
  | .closeSocket => { s with flags := { s.flags with closed := true } }
  | .change flags => if s.phase = .idle then { s with flags } else s
  | .update filter =>
    if s.phase = .idle then
      { s with
        phase := .check, filter, firstDelayedPacket := none, deletePacket := true, taken := [] }
    else s
  | .tick outcome => s.tick opcodeTable outcome

def step (s : Session) (input : Input) : Session × Unit := (s.perform opcodeTable input, ())

namespace Session

variable {opcodeTable} {s : Session}

theorem handle_cases (opcodeTable : Nat → OpcodeHandler) (s : Session) (packet : WorldPacket)
    (outcome : Flags) :
    (s.delays opcodeTable packet = true ∧
      s.handle opcodeTable packet outcome = (s.requeue packet).processed packet) ∨
    (s.delays opcodeTable packet = false ∧
      (s.handle opcodeTable packet outcome = s.processed packet ∨
        s.handle opcodeTable packet outcome = (s.runHandler packet outcome).processed packet)) := by
  unfold handle delays
  cases status : (opcodeTable packet.opcode).status with
  | loggedIn =>
    cases player : s.flags.player with
    | none =>
      cases recently : s.flags.playerRecentlyLogout with
      | true => exact .inr ⟨by simp, .inl (by simp)⟩
      | false => exact .inl ⟨by simp, by simp⟩
    | some inWorld =>
      cases inWorld with
      | true => exact .inr ⟨by simp, .inr rfl⟩
      | false => exact .inr ⟨by simp, .inl rfl⟩
  | loggedInOrRecentlyLogout =>
    refine .inr ⟨by simp, ?_⟩
    dsimp only
    split
    · exact .inl rfl
    · exact .inr rfl
  | transfer =>
    refine .inr ⟨by simp, ?_⟩
    dsimp only
    split
    · exact .inr rfl
    · exact .inl rfl
  | authed =>
    refine .inr ⟨by simp, ?_⟩
    dsimp only
    split
    · exact .inl rfl
    · exact .inr rfl
  | never => exact .inr ⟨by simp, .inl rfl⟩
  | unhandled => exact .inr ⟨by simp, .inl rfl⟩

end Session

end OpenWoW.SessionPackets
