import OpenWoW.AuthSocket

/-! How the login server takes commands off the bytes that arrive. -/
namespace OpenWoW.AuthSocket

/-- The bytes of a challenge behind its first four, as its header announces them. -/
def remaining (input : Bytes) : Nat := Bits.leValue ((input.drop 2).take 2)

/-- Both challenge handlers take the header off before they know that the body is there. -/
def challengeConsumes (input : Bytes) : Nat :=
  if input.length < 35 then 0
  else if remaining input < 31 ∨ input.length - 4 < remaining input then 4
  else remaining input + 4

/-- `recv` of a structure: nothing is consumed where it is not there as a whole. -/
def recvConsumes (size : Nat) (input : Bytes) : Nat := if input.length < size then 0 else size

/-- How much the handler of the command at the head consumes. -/
def consumes (a : AuthSocket) (input : Bytes) : Nat :=
  match input with
  | [] => 0
  | cmd :: _ =>
    if cmd = authLogonChallenge ∨ cmd = authReconnectChallenge then challengeConsumes input
    else if cmd = authLogonProof then recvConsumes 75 input
    else if cmd = authReconnectProof then recvConsumes 58 input
    else if cmd = realmListCmd ∧ a.authed then recvConsumes 5 input
    else if cmd = xferCancel then 1
    else 0

/-- The handler of the command at the head has its whole packet. -/
def isComplete (a : AuthSocket) (input : Bytes) : Bool :=
  match input with
  | [] => false
  | cmd :: _ =>
    if cmd = authLogonChallenge ∨ cmd = authReconnectChallenge then (recvChallenge input).isSome
    else if cmd = authLogonProof then 75 ≤ input.length
    else if cmd = authReconnectProof then 58 ≤ input.length
    else if cmd = realmListCmd ∧ a.authed then 5 ≤ input.length
    else cmd = xferCancel

section

variable (sha1 : Bytes → Bytes) (collate : Bytes → Bytes)

def logonChallengeReturns (input : Bytes) : Bool :=
  match recvChallenge input with
  | none => false
  | some ch => ch.os.length ≤ 4

def reconnectChallengeReturns (around : Surroundings) : Bool :=
  match recvChallenge around.input with
  | none => false
  | some ch =>
    if (around.db.accountByName collate ch.login).isNone then false else ch.os.length ≤ 4

/-- The reconnect proof cannot be checked. -/
def lacksSession (a : AuthSocket) : Bool :=
  a.login = [] ∨ BigNumber.getNumBytes a.reconnectProof = 0 ∨ BigNumber.getNumBytes a.K = 0

def reconnectProofReturns (a : AuthSocket) (input : Bytes) : Bool :=
  match recvReconnectProof input with
  | none => false
  | some lp =>
    if lacksSession a then false
    else
      let t1 := BigNumber.setBinary lp.R1
      sha1 (a.login ++ BigNumber.digestBytes t1 ++ BigNumber.digestBytes a.reconnectProof ++
        BigNumber.digestBytes a.K) = lp.R2

/-- Whether the loop of `OnRead` goes on after this turn. -/
def returns (a : AuthSocket) (around : Surroundings) : Bool :=
  match around.input with
  | [] => false
  | cmd :: _ =>
    if cmd = authLogonChallenge then logonChallengeReturns around.input
    else if cmd = authLogonProof then (recvLogonProof around.input).isSome
    else if cmd = authReconnectChallenge then reconnectChallengeReturns collate around
    else if cmd = authReconnectProof then reconnectProofReturns sha1 a around.input
    else if cmd = realmListCmd ∧ a.authed then
      5 ≤ around.input.length && (around.db.accountByName collate a.login).isSome
    else cmd = xferCancel

/-- The reading side of a connection. Nothing is delivered once the socket is shut down. -/
structure Reading where
  socket : AuthSocket
  /-- The unread bytes of `input_buffer_`. -/
  input : Bytes
  closed : Bool
  /-- The packets that handlers had as a whole, each with its command. -/
  handled : List Bytes
  events : List Event

namespace Reading

/-- A connection as `OnAccept` finds it. -/
def accepted (remoteAddress : Bytes) : Reading := ⟨AuthSocket.accepted remoteAddress, [], false, [], []⟩

variable (env : Nat → Surroundings)

/-- What the next turn finds. Database answers and random numbers belong to the packet they are for. -/
def around (r : Reading) : Surroundings := { env r.handled.length with input := r.input }

/-- One turn of the loop, with what the handler returned. -/
def turn (r : Reading) : Reading × Bool :=
  let around := r.around env
  let result := onRead sha1 collate r.socket around
  let count := consumes r.socket r.input
  ({ socket := result.1
     input := r.input.drop count
     closed := r.closed || result.2.contains .shutdown
     handled := if isComplete r.socket r.input then r.handled ++ [r.input.take count] else r.handled
     events := r.events ++ result.2 },
    returns sha1 collate r.socket around)

/-- The loop, or `none` where it takes more turns than allowed. -/
def turns : Nat → Reading → Option Reading
  | 0, _ => none
  | fuel + 1, r =>
    match r.turn sha1 collate env with
    | (after, true) => turns fuel after
    | (after, false) => some after

/-- `OnRead`. -/
def readAll (r : Reading) : Reading := (r.turns sha1 collate env (r.input.length + 1)).getD r

/-- `handle_input`, for the bytes that `recv` gave. -/
def handleInput (r : Reading) (chunk : Bytes) : Reading :=
  { r with input := r.input ++ chunk }.readAll sha1 collate env

/-- The chunks of a connection, and the bytes that are not delivered any more. -/
def deliver : Reading → List Bytes → Reading × Bytes
  | r, [] => (r, [])
  | r, chunk :: chunks =>
    if r.closed then (r, chunk ++ chunks.flatten)
    else deliver (r.handleInput sha1 collate env chunk) chunks

end Reading

end

end OpenWoW.AuthSocket
