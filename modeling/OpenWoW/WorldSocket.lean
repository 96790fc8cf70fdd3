import OpenWoW.LoginDatabase
import OpenWoW.Lib.Run

/-! The packet dispatcher of a world connection and its authentication handler. -/
namespace OpenWoW

structure AddonInfo where
  name : Bytes
  enabled : Nat
  crc : Nat
  deriving DecidableEq, Repr

structure WorldSession where
  accountId : UInt32
  security : Nat
  expansion : UInt8
  muteTime : Int
  locale : UInt8
  recruiter : UInt32
  isRecruiter : Bool
  addons : List AddonInfo
  latency : Nat
  deriving DecidableEq, Repr

structure WorldPacket where
  opcode : Nat
  contents : Bytes
  deriving DecidableEq, Repr

/-- A packet as `handle_input_payload` hands it on: filled by the network code, unread. -/
def WorldPacket.buffer (packet : WorldPacket) : ByteBuffer :=
  { ByteBuffer.fresh with storage := packet.contents, wpos := packet.contents.length }

structure WorldSocket where
  seed : Nat
  address : Bytes
  closing : Bool
  session : Option WorldSession
  crypt : Option BigNumber
  /-- Microseconds; zero before the first ping. -/
  lastPingTime : Int
  overSpeedPings : Nat
  deriving DecidableEq, Repr

namespace WorldSocket

def cmsgPing : Nat := 0x08E3
def cmsgAuthSession : Nat := 0x09F1
def cmsgKeepAlive : Nat := 0x0015
def cmsgLogDisconnect : Nat := 0x09A2
def msgVerifyConnectivity : Nat := 0x4F57
def cmsgEnableNagle : Nat := 0x4449
def numOpcodeHandlers : Nat := 0x8000

def authFailed : Nat := 13
def authReject : Nat := 14
def authUnavailable : Nat := 16
def authUnknownAccount : Nat := 21
def authBanned : Nat := 28

/-- What is fixed for the life of the process: the realm, the string comparison of the
database, zlib's `uncompress` with the room it may fill, and the opcodes that have a handler. -/
structure Server where
  realmID : Int
  collate : Bytes → Bytes
  uncompress : Nat → Bytes → Option Bytes
  handled : Nat → Bool

/-- What the server looks like while one packet is handled. -/
structure Surroundings where
  db : LoginDatabase
  worldClosed : Bool
  expansion : Nat
  wardenEnabled : Bool
  playerSecurityLimit : Nat
  maxOverspeedPings : Nat
  time : Int
  timeOfDay : Int
  skipCheckOverspeedPing : Bool
  seeds : BigNumber × BigNumber
  /-- Whether `SendPacket` finds room for the packet it is given. -/
  sent : Bool

inductive Event
  | authResponse (code : Nat)
  | authChallenge (bytes : Bytes)
  | pong (ping : Nat)
  | updMuteTimeLogin (mutetime : Int) (id : UInt32)
  | updLastIp (ip account : Bytes)
  /-- The assignment of a new session to `m_Session`. -/
  | sessionCreated (session : WorldSession)
  | addSession (session : WorldSession)
  | queuePacket (session : WorldSession) (packet : WorldPacket)
  deriving DecidableEq, Repr

/-- What a handler leaves behind; `ok` is false where it returns minus one or throws. -/
structure Reply where
  socket : WorldSocket
  events : List Event
  ok : Bool

def refuse (socket : WorldSocket) (events : List Event) : Reply := ⟨socket, events, false⟩

inductive AuthField
  | skip (size : Nat)
  | digest (index : Nat)
  | clientBuild
  | clientSeed
  deriving DecidableEq, Repr

/-- The fixed part of `CMSG_AUTH_SESSION`, in the order in which it is read. -/
def authFields : List AuthField :=
  [.skip 4, .digest 8, .digest 13, .digest 3, .skip 4, .digest 6, .clientBuild, .digest 2,
    .digest 0, .digest 7, .digest 11, .skip 4, .digest 5, .digest 15, .digest 14, .digest 12,
    .skip 8, .skip 1, .clientSeed, .skip 4, .digest 1, .digest 9, .digest 4, .digest 17,
    .digest 16, .digest 19, .digest 18, .digest 10, .skip 1]

def AuthField.digestIndex : AuthField → Option Nat
  | .digest index => some index
  | _ => none

structure AuthSession where
  digest : Bytes
  clientBuild : Nat
  clientSeed : Nat
  addonsData : Bytes
  account : Bytes
  deriving DecidableEq, Repr

def readAuthField (auth : AuthSession) : AuthField → Reader AuthSession
  | .skip size => do
      ByteBuffer.readSkip size
      return auth
  | .digest index => do
      let byte ← ByteBuffer.readInt 1
      return { auth with digest := auth.digest.set index (UInt8.ofNat byte) }
  | .clientBuild => do
      let clientBuild ← ByteBuffer.readInt 2
      return { auth with clientBuild }
  | .clientSeed => do
      let clientSeed ← ByteBuffer.readInt 4
      return { auth with clientSeed }

def readAuthSession : Reader AuthSession := do
  let auth ← authFields.foldlM readAuthField ⟨List.replicate 20 0, 0, 0, [], []⟩
  let addonSize ← ByteBuffer.readInt 4
  let addonsData ← ByteBuffer.read addonSize
  let _ ← ByteBuffer.readBit
  let accountNameLength ← ByteBuffer.readBits 11
  let account ← ByteBuffer.readString accountNameLength
  return { auth with addonsData, account }

/-- The loop of `ReadAddonsInfo` and the time stamp after it. Running out of bytes at the
start of a turn returns from the whole function, anywhere else it throws. -/
def readAddonsLoop : Nat → List AddonInfo → Reader (List AddonInfo)
  | 0, addons => do
      let _ ← ByteBuffer.readInt 4
      return addons
  | count + 1, addons => fun b =>
    if b.size < b.rpos + 1 then .ok (addons, b)
    else
      (do
        let name ← ByteBuffer.getString
        let enabled ← ByteBuffer.readInt 1
        let crc ← ByteBuffer.readInt 4
        let _ ← ByteBuffer.readInt 4
        readAddonsLoop count (addons ++ [(⟨name, enabled, crc⟩ : AddonInfo)])) b

def readAddonsInfo (server : Server) (data : Bytes) : Except Fault (List AddonInfo) :=
  if data.length < 4 then .ok []
  else
    let size := Bits.leValue (data.take 4)
    if size = 0 ∨ 0xFFFFF < size then .ok []
    else
      match server.uncompress size (data.drop 4) with
      | none => .ok []
      | some out =>
        let storage := out ++ List.replicate (size - out.length) 0
        (do
          let addonsCount ← ByteBuffer.readInt 4
          readAddonsLoop addonsCount []).run' { ByteBuffer.fresh with storage }

/-- The account's session key as `k.SetHexStr` reads it into a fresh number. -/
def sessionKey (row : Account) : BigNumber := BigNumber.setHexStr 0 (cString row.sessionkey)

/-- The text that `HandleAuthSession` hashes. -/
def proofText (auth : AuthSession) (seed : Nat) (row : Account) : Bytes :=
  auth.account ++ Bits.leBytes 4 0 ++ Bits.leBytes 4 auth.clientSeed ++ Bits.leBytes 4 seed ++
    BigNumber.digestBytes (sessionKey row)

def security (server : Server) (db : LoginDatabase) (row : Account) : Nat :=
  match db.gmlevelByRealmid row.id server.realmID with
  | some gmlevel => gmlevel.toNat
  | none => 0

def ipLocked (socket : WorldSocket) (row : Account) : Bool :=
  row.locked = 1 ∧ cString row.lastIp ≠ cString socket.address

def belowLimit (server : Server) (around : Surroundings) (row : Account) : Bool :=
  0 < around.playerSecurityLimit ∧ security server around.db row < around.playerSecurityLimit

def mutetime (around : Surroundings) (row : Account) : Int :=
  if row.mutetime < 0 then around.time + row.mutetime.natAbs else row.mutetime

def muteUpdate (around : Surroundings) (row : Account) : List Event :=
  if row.mutetime < 0 then [.updMuteTimeLogin (mutetime around row) row.id] else []

def osKnown (os : Bytes) : Bool := os = [87, 105, 110] ∨ os = [79, 83, 88]

/-- The checks of `HandleAuthSession` in their order: the account that passes them, or
what was sent and executed before the handler gave up. -/
def checkAccount (server : Server) (around : Surroundings) (socket : WorldSocket)
    (auth : AuthSession) : Except (List Event) Account :=
  if around.worldClosed then .error [.authResponse authReject]
  else
    match around.db.accountByName server.collate auth.account with
    | none => .error [.authResponse authUnknownAccount]
    | some row =>
      if ipLocked socket row then .error [.authResponse authFailed]
      else if around.wardenEnabled ∧ ¬ osKnown row.os then
        .error (muteUpdate around row ++ [.authResponse authReject])
      else if around.db.bans server.collate row.id socket.address then
        .error (muteUpdate around row ++ [.authResponse authBanned])
      else if belowLimit server around row then
        .error (muteUpdate around row ++ [.authResponse authUnavailable])
      else .ok row

def newSession (server : Server) (around : Surroundings) (row : Account) : WorldSession where
  accountId := row.id
  security := security server around.db row
  expansion := if around.expansion < row.expansion.toNat then UInt8.ofNat around.expansion
    else row.expansion
  muteTime := mutetime around row
  locale := if 9 ≤ row.locale.toNat then 0 else row.locale
  recruiter := row.recruiter
  isRecruiter := around.db.accountRecruiter row.id
  addons := []
  latency := 0

/-- `HandleAuthSession` from the point where the account has passed the checks. The hash
over `proofText` is computed here; nothing looks at its result. -/
def createSession (server : Server) (around : Surroundings) (socket : WorldSocket)
    (auth : AuthSession) (row : Account) : Reply :=
  let session := newSession server around row
  let events := muteUpdate around row ++
    [.updLastIp socket.address auth.account, .sessionCreated session]
  let socket := { socket with session := some session, crypt := some (sessionKey row) }
  match readAddonsInfo server auth.addonsData with
  | .error _ => refuse socket events
  | .ok addons =>
    let session := { session with addons }
    ⟨{ socket with session := some session }, events ++ [.addSession session], true⟩

def handleAuthSession (server : Server) (around : Surroundings) (packet : WorldPacket)
    (socket : WorldSocket) : Reply :=
  match readAuthSession.run' packet.buffer with
  | .error _ => refuse socket []
  | .ok auth =>
    match checkAccount server around socket auth with
    | .error events => refuse socket events
    | .ok row => createSession server around socket auth row

/-- The part of `HandlePing` that counts pings that come too fast. -/
def countPing (around : Surroundings) (socket : WorldSocket) : WorldSocket :=
  let socket' := { socket with lastPingTime := around.timeOfDay }
  if socket.lastPingTime = 0 then socket'
  else if around.timeOfDay - socket.lastPingTime < 27000000 then
    { socket' with overSpeedPings := (socket.overSpeedPings + 1) % 2 ^ 32 }
  else { socket' with overSpeedPings := 0 }

/-- Whether this ping gets a player kicked. -/
def pingTooFast (around : Surroundings) (socket : WorldSocket) : Bool :=
  socket.lastPingTime ≠ 0 ∧ around.timeOfDay - socket.lastPingTime < 27000000 ∧
    0 < around.maxOverspeedPings ∧
    around.maxOverspeedPings < (countPing around socket).overSpeedPings ∧
    socket.session.isSome ∧ ¬ around.skipCheckOverspeedPing

def handlePing (around : Surroundings) (packet : WorldPacket) (socket : WorldSocket) : Reply :=
  let read : Reader (Nat × Nat) := do
    let latency ← ByteBuffer.readInt 4
    let ping ← ByteBuffer.readInt 4
    return (latency, ping)
  match read.run' packet.buffer with
  | .error _ => refuse socket []
  | .ok (latency, ping) =>
    let counted := countPing around socket
    if pingTooFast around socket then refuse counted []
    else
      match counted.session with
      | none => refuse counted []
      | some session =>
        ⟨{ counted with session := some { session with latency } }, [.pong ping], around.sent⟩

def handleSendAuthSession (around : Surroundings) (socket : WorldSocket) : Reply :=
  ⟨socket, [.authChallenge (BigNumber.asByteArray 16 around.seeds.1 ++
    BigNumber.asByteArray 16 around.seeds.2 ++ Bits.leBytes 4 socket.seed)], around.sent⟩

/-- "D OF WARCRAFT CONNECTION - CLIENT TO SERVER". -/
def connectionText : Bytes :=
  [68, 32, 79, 70, 32, 87, 65, 82, 67, 82, 65, 70, 84, 32, 67, 79, 78, 78, 69, 67, 84, 73, 79, 78,
    32, 45, 32, 67, 76, 73, 69, 78, 84, 32, 84, 79, 32, 83, 69, 82, 86, 69, 82]

/-- The default branch of the dispatcher. -/
def giveToSession (server : Server) (opcode : Nat) (packet : WorldPacket)
    (socket : WorldSocket) : Reply :=
  match socket.session with
  | none => refuse socket []
  | some session =>
    if numOpcodeHandlers ≤ opcode ∨ ¬ server.handled opcode then ⟨socket, [], true⟩
    else ⟨socket, [.queuePacket session packet], true⟩

def processIncoming (server : Server) (around : Surroundings) (packet : WorldPacket)
    (socket : WorldSocket) : Reply :=
  let opcode := packet.opcode % 0x10000
  if socket.closing then refuse socket []
  else if opcode = cmsgPing then handlePing around packet socket
  else if opcode = cmsgAuthSession then
    if socket.session.isSome then refuse socket []
    else handleAuthSession server around packet socket
  else if opcode = cmsgKeepAlive ∨ opcode = cmsgLogDisconnect then ⟨socket, [], true⟩
  else if opcode = msgVerifyConnectivity then
    match ByteBuffer.getString.run' packet.buffer with
    | .error _ => refuse socket []
    | .ok text =>
      if text ≠ connectionText then refuse socket []
      else handleSendAuthSession around socket
  else if opcode = cmsgEnableNagle then ⟨socket, [], socket.session.isSome⟩
  else giveToSession server opcode packet socket

/-- `handle_close` and `CloseSocket`. -/
def handleClose (socket : WorldSocket) : WorldSocket :=
  { socket with closing := true, session := none }

inductive Input
  | received (packet : WorldPacket) (around : Surroundings)
  /-- The peer went away, or the server closed the connection. -/
  | closed

/-- A handler that does not return zero makes the reactor call `handle_close`. -/
def step (server : Server) (socket : WorldSocket) : Input → WorldSocket × List Event
  | .received packet around =>
    let reply := processIncoming server around packet socket
    (if reply.ok then reply.socket else handleClose reply.socket, reply.events)
  | .closed => (handleClose socket, [])

/-- A socket as its constructor and `open` leave it. -/
def opened (seed : Nat) (address : Bytes) : WorldSocket where
  seed := seed
  address := address
  closing := false
  session := none
  crypt := none
  lastPingTime := 0
  overSpeedPings := 0

end WorldSocket

end OpenWoW
