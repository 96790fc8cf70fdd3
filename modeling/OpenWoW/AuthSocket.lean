import OpenWoW.LoginDatabase
import OpenWoW.Lib.Run

/-! A connection to the authentication server. -/
namespace OpenWoW

structure AuthSocket where
  remoteAddress : Bytes
  s : BigNumber
  v : BigNumber
  b : BigNumber
  B : BigNumber
  K : BigNumber
  reconnectProof : BigNumber
  authed : Bool
  login : Bytes
  localizationName : Bytes
  os : Bytes
  build : Nat
  expversion : Nat
  accountSecurityLevel : Nat
  deriving DecidableEq, Repr

namespace AuthSocket

def N : BigNumber := 0x894B645E89E1535BBDAD5B8B290650530801B18EBFBF5E8FAB3C82872A3E9BB7
def g : BigNumber := 7

/-- The constructor. -/
def accepted (remoteAddress : Bytes) : AuthSocket where
  remoteAddress := remoteAddress
  s := 0
  v := 0
  b := 0
  B := 0
  K := 0
  reconnectProof := 0
  authed := false
  login := []
  localizationName := []
  os := []
  build := 0
  expversion := 0
  accountSecurityLevel := 0

def authLogonChallenge : UInt8 := 0x00
def authLogonProof : UInt8 := 0x01
def authReconnectChallenge : UInt8 := 0x02
def authReconnectProof : UInt8 := 0x03
def realmListCmd : UInt8 := 0x10
def xferAccept : UInt8 := 0x32
def xferResume : UInt8 := 0x33
def xferCancel : UInt8 := 0x34

def wowSuccess : UInt8 := 0x00
def wowFailBanned : UInt8 := 0x03
def wowFailUnknownAccount : UInt8 := 0x04
def wowFailVersionInvalid : UInt8 := 0x09
def wowFailSuspended : UInt8 := 0x0C

structure RealmBuildInfo where
  build : Nat
  majorVersion : Nat
  minorVersion : Nat
  bugfixVersion : Nat
  deriving DecidableEq, Repr

def postBcAcceptedClientBuilds : List RealmBuildInfo :=
  [⟨17399, 5, 4, 0⟩, ⟨17128, 5, 3, 0⟩, ⟨16769, 5, 2, 0⟩, ⟨16357, 5, 1, 0⟩, ⟨16309, 5, 1, 0⟩,
    ⟨16135, 5, 0, 5⟩, ⟨15595, 4, 3, 4⟩, ⟨14545, 4, 2, 2⟩, ⟨13623, 4, 0, 6⟩, ⟨12340, 3, 3, 5⟩,
    ⟨11723, 3, 3, 3⟩, ⟨11403, 3, 3, 2⟩, ⟨11159, 3, 3, 0⟩, ⟨10505, 3, 2, 2⟩, ⟨9947, 3, 1, 3⟩,
    ⟨8606, 2, 4, 3⟩]

def preBcAcceptedClientBuilds : List RealmBuildInfo :=
  [⟨6141, 1, 12, 3⟩, ⟨6005, 1, 12, 2⟩, ⟨5875, 1, 12, 1⟩]

def isPostBCAcceptedClientBuild (build : Nat) : Bool :=
  postBcAcceptedClientBuilds.any fun info => info.build = build

def isPreBCAcceptedClientBuild (build : Nat) : Bool :=
  preBcAcceptedClientBuilds.any fun info => info.build = build

def isAcceptedClientBuild (build : Nat) : Bool :=
  isPostBCAcceptedClientBuild build || isPreBCAcceptedClientBuild build

def getBuildInfo (build : Nat) : Option RealmBuildInfo :=
  (postBcAcceptedClientBuilds ++ preBcAcceptedClientBuilds).find? fun info => info.build = build

def postBcExpFlag : Nat := 2
def preBcExpFlag : Nat := 1
def noValidExpFlag : Nat := 0

def expversionOf (build : Nat) : Nat :=
  if isPostBCAcceptedClientBuild build then postBcExpFlag
  else if isPreBCAcceptedClientBuild build then preBcExpFlag
  else noValidExpFlag

structure Realm where
  name : Bytes
  realmAddress : Bytes
  icon : UInt8
  flag : Nat
  timezone : UInt8
  id : UInt32
  allowedSecurityLevel : Nat
  /-- The four bytes of the float. -/
  populationLevel : Bytes
  gamebuild : Nat
  deriving DecidableEq, Repr

/-- What one turn of the loop finds: the unread input, the database, the random numbers
the handlers will draw, and the configuration. -/
structure Surroundings where
  input : Bytes
  db : LoginDatabase
  randS : BigNumber
  randB : BigNumber
  randUnk3 : BigNumber
  randReconnect : BigNumber
  /-- What lies in memory behind the array that `memcmp` is given. -/
  heap : Bytes
  maxWrongPassCount : Nat
  wrongPassBanTime : Nat
  wrongPassBanType : Bool
  localeNames : List Bytes
  realms : List Realm

inductive Event
  | sent (packet : Bytes)
  | shutdown
  | delExpiredIpBans
  | updExpiredAccountBans
  | updVs (v s login : Bytes)
  | updLogonproof (sessionkey lastIp : Bytes) (locale : Nat) (os login : Bytes)
  | updFailedlogins (login : Bytes)
  | insAccountAutoBanned (id : UInt32) (time : Nat)
  | insIpAutoBanned (ip : Bytes) (time : Nat)
  deriving DecidableEq, Repr

/-- The fields of `sAuthLogonChallenge_C` that the handlers use. The two texts end at the
first NUL, wherever in the packet that is. -/
structure LogonChallenge where
  build : Nat
  os : Bytes
  country : Bytes
  login : Bytes
  deriving DecidableEq, Repr

/-- Reading a challenge packet off the receive buffer; `none` where the handlers return
before they have it. -/
def recvChallenge (input : Bytes) : Option LogonChallenge :=
  if input.length < 35 then none
  else
    let remaining := Bits.leValue ((input.drop 2).take 2)
    if remaining < 31 ∨ input.length - 4 < remaining then none
    else
      let buf := input.take (remaining + 4) ++ [0]
      some {
        build := Bits.leValue ((buf.drop 11).take 2)
        os := cString (buf.drop 17)
        country := (buf.drop 21).take 4
        login := cString (buf.drop 34) }

section

variable (sha1 : Bytes → Bytes) (collate : Bytes → Bytes)

/-- The verifier that `_SetVSFields` computes for a salt and a stored password hash. -/
def verifierOf (salt : BigNumber) (shaPassHash : Bytes) : BigNumber :=
  let digest := BigNumber.digestBytes (BigNumber.setHexStr 0 (cString shaPassHash))
  let padded := if digest.length ≤ 20 then digest ++ List.replicate (20 - digest.length) 0
    else List.replicate 20 0
  let x := BigNumber.setBinary (sha1 (BigNumber.digestBytes salt ++ padded.reverse))
  BigNumber.modExp g x N

/-- The salt and the verifier are in the database already. -/
def hasVS (row : Account) : Bool := row.v.length = 64 ∧ row.s.length = 64

def setVS (around : Surroundings) (row : Account) (a : AuthSocket) : AuthSocket :=
  if hasVS row then
    { a with
      s := BigNumber.setHexStr a.s (cString row.s)
      v := BigNumber.setHexStr a.v (cString row.v) }
  else { a with s := around.randS, v := verifierOf sha1 around.randS row.shaPassHash }

def updVSEvents (around : Surroundings) (row : Account) (login : Bytes) : List Event :=
  if hasVS row then []
  else [.updVs (BigNumber.asHexStr (verifierOf sha1 around.randS row.shaPassHash))
    (BigNumber.asHexStr around.randS) login]

def accountTypes (secLevel : UInt8) : Nat := if secLevel.toNat ≤ 3 then secLevel.toNat else 3

def publicB (v b : BigNumber) : BigNumber := BigNumber.mod (v * 3 + BigNumber.modExp g b N) N

/-- The last branch of `_HandleLogonChallenge`: the account exists, is not locked to
another address and is not banned. -/
def drawChallenge (around : Surroundings) (ch : LogonChallenge) (row : Account)
    (a : AuthSocket) : AuthSocket :=
  let a := setVS sha1 around row a
  { a with
    b := around.randB
    B := publicB a.v around.randB
    accountSecurityLevel := accountTypes (around.db.gmlevel row.id)
    localizationName := ch.country.reverse }

def challengePacket (around : Surroundings) (a : AuthSocket) : Bytes :=
  [authLogonChallenge, 0,
    if isAcceptedClientBuild a.build then wowSuccess else wowFailVersionInvalid] ++
    (BigNumber.asByteArray 32 a.B).take 32 ++ [1] ++ (BigNumber.digestBytes g).take 1 ++ [32] ++
    (BigNumber.asByteArray 32 N).take 32 ++ BigNumber.digestBytes a.s ++
    (BigNumber.asByteArray 16 around.randUnk3).take 16 ++ [0]

def lockedElsewhere (a : AuthSocket) (row : Account) : Bool :=
  row.locked = 1 ∧ cString row.lastIp ≠ cString a.remoteAddress

def failPacket (code : UInt8) : Event := .sent [authLogonChallenge, 0, code]

def handleLogonChallenge (around : Surroundings) (a : AuthSocket) : AuthSocket × List Event :=
  match recvChallenge around.input with
  | none => (a, [])
  | some ch =>
    let a := { a with
      login := ch.login
      build := ch.build
      expversion := expversionOf ch.build
      os := ch.os }
    if 4 < ch.os.length then (a, [])
    else
      let a := { a with os := ch.os.reverse }
      if around.db.selIpBanned collate a.remoteAddress then
        (a, [.delExpiredIpBans, failPacket wowFailBanned])
      else
        match around.db.accountByName collate a.login with
        | none => (a, [.delExpiredIpBans, failPacket wowFailUnknownAccount])
        | some row =>
          if lockedElsewhere a row then (a, [.delExpiredIpBans, failPacket wowFailSuspended])
          else
            match around.db.selAccountBanned row.id with
            | some ban =>
              (a, [.delExpiredIpBans, .updExpiredAccountBans,
                failPacket (if ban.bandate = ban.unbandate then wowFailBanned
                  else wowFailSuspended)])
            | none =>
              let drawn := drawChallenge sha1 around ch row a
              (drawn, [.delExpiredIpBans, .updExpiredAccountBans] ++
                updVSEvents sha1 around row a.login ++ [.sent (challengePacket around drawn)])

structure LogonProof where
  A : Bytes
  M1 : Bytes
  deriving DecidableEq, Repr

def recvLogonProof (input : Bytes) : Option LogonProof :=
  if input.length < 75 then none
  else some ⟨(input.drop 1).take 32, (input.drop 33).take 20⟩

/-- Every second byte, from the first or from the second on. -/
def evens : Bytes → Bytes
  | [] => []
  | [x] => [x]
  | x :: _ :: rest => x :: evens rest

def odds (bytes : Bytes) : Bytes := evens (bytes.drop 1)

def interleave (xs ys : Bytes) : Bytes := (xs.zip ys).flatMap fun pair => [pair.1, pair.2]

/-- The premaster secret of SRP6. -/
def premaster (A : BigNumber) (a : AuthSocket) : BigNumber :=
  let u := BigNumber.setBinary (sha1 (BigNumber.digestBytes A ++ BigNumber.digestBytes a.B))
  BigNumber.modExp (A * BigNumber.modExp a.v u N) a.b N

def sessionKeyOf (A : BigNumber) (a : AuthSocket) : BigNumber :=
  let t := (BigNumber.asByteArray 32 (premaster sha1 A a)).take 32
  BigNumber.setBinary (interleave (sha1 (evens t)) (sha1 (odds t)))

/-- The proof `M` that the client has to send for the key `a.K`. -/
def matchingProof (A : BigNumber) (a : AuthSocket) : BigNumber :=
  let hash := List.zipWith (· ^^^ ·) (sha1 (BigNumber.digestBytes N)) (sha1 (BigNumber.digestBytes g))
  let t3 := BigNumber.setBinary hash
  BigNumber.setBinary (sha1 (BigNumber.digestBytes t3 ++ sha1 a.login ++
    BigNumber.digestBytes a.s ++ BigNumber.digestBytes A ++ BigNumber.digestBytes a.B ++
    BigNumber.digestBytes a.K))

def localeByName (around : Surroundings) (name : Bytes) : Nat :=
  if name ∈ around.localeNames then around.localeNames.idxOf name else 0

def proofPacket (A M : BigNumber) (a : AuthSocket) : Bytes :=
  let M2 := sha1 (BigNumber.digestBytes A ++ BigNumber.digestBytes M ++ BigNumber.digestBytes a.K)
  if a.expversion &&& postBcExpFlag ≠ 0 then
    [authLogonProof, 0] ++ M2 ++ Bits.leBytes 4 0x00800000 ++ Bits.leBytes 4 0 ++ Bits.leBytes 2 0
  else [authLogonProof, 0] ++ M2 ++ Bits.leBytes 4 0

/-- The wrong-password branch: the attempt is counted, and too many of them ban. -/
def wrongPassword (around : Surroundings) (a : AuthSocket) : List Event :=
  if around.maxWrongPassCount = 0 then []
  else
    .updFailedlogins a.login ::
      match around.db.accountByName collate a.login with
      | none => []
      | some row =>
        if row.failedLogins < around.maxWrongPassCount then []
        else if around.wrongPassBanType then [.insAccountAutoBanned row.id around.wrongPassBanTime]
        else [.insIpAutoBanned a.remoteAddress around.wrongPassBanTime]

def handleLogonProof (around : Surroundings) (a : AuthSocket) : AuthSocket × List Event :=
  match recvLogonProof around.input with
  | none => (a, [])
  | some lp =>
    if a.expversion = noValidExpFlag then (a, [.shutdown])
    else
      let A := BigNumber.setBinary lp.A
      if A = 0 then (a, [.shutdown])
      else
        let a := { a with K := sessionKeyOf sha1 A a }
        let M := matchingProof sha1 A a
        if (BigNumber.digestBytes M ++ around.heap).take 20 = lp.M1 then
          ({ a with authed := true },
            [.updLogonproof (BigNumber.asHexStr a.K) a.remoteAddress
              (localeByName around a.localizationName) a.os a.login,
             .sent (proofPacket sha1 A M a)])
        else
          (a, .sent [authLogonProof, wowFailUnknownAccount, 3, 0] :: wrongPassword collate around a)

def handleReconnectChallenge (around : Surroundings) (a : AuthSocket) : AuthSocket × List Event :=
  match recvChallenge around.input with
  | none => (a, [])
  | some ch =>
    let a := { a with login := ch.login }
    match around.db.accountByName collate a.login with
    | none => (a, [.shutdown])
    | some row =>
      let a := { a with
        build := ch.build
        expversion := expversionOf ch.build
        os := ch.os }
      if 4 < ch.os.length then (a, [])
      else
        ({ a with
          os := ch.os.reverse
          accountSecurityLevel := accountTypes (around.db.gmlevel row.id)
          K := BigNumber.setHexStr a.K (cString row.sessionkey)
          reconnectProof := around.randReconnect },
         [.sent ([authReconnectChallenge, 0] ++
           (BigNumber.asByteArray 16 around.randReconnect).take 16 ++ List.replicate 16 0)])

structure ReconnectProof where
  R1 : Bytes
  R2 : Bytes
  deriving DecidableEq, Repr

def recvReconnectProof (input : Bytes) : Option ReconnectProof :=
  if input.length < 58 then none
  else some ⟨(input.drop 1).take 16, (input.drop 17).take 20⟩

def handleReconnectProof (around : Surroundings) (a : AuthSocket) : AuthSocket × List Event :=
  match recvReconnectProof around.input with
  | none => (a, [])
  | some lp =>
    if a.login = [] ∨ BigNumber.getNumBytes a.reconnectProof = 0 ∨
        BigNumber.getNumBytes a.K = 0 then (a, [])
    else
      let t1 := BigNumber.setBinary lp.R1
      if sha1 (a.login ++ BigNumber.digestBytes t1 ++ BigNumber.digestBytes a.reconnectProof ++
          BigNumber.digestBytes a.K) = lp.R2 then
        ({ a with authed := true }, [.sent [authReconnectProof, 0, 0, 0]])
      else (a, [.shutdown])

def decimal (n : Nat) : Bytes := (Nat.toDigits 10 n).map fun digit => UInt8.ofNat digit.toNat

/-- One realm of the list, or nothing where the client cannot use it. -/
def realmEntry (around : Surroundings) (id : UInt32) (a : AuthSocket) (realm : Realm) :
    Option Bytes :=
  let post : Bool := a.expversion &&& postBcExpFlag ≠ 0
  let pre : Bool := a.expversion &&& preBcExpFlag ≠ 0
  let okBuild := post && realm.gamebuild = a.build ||
    pre && !isPreBCAcceptedClientBuild realm.gamebuild
  match okBuild, getBuildInfo realm.gamebuild with
  | false, none => none
  | _, buildInfo =>
    let flag := if okBuild then realm.flag else realm.flag ||| (0x02 ||| 0x04)
    let flag := if buildInfo.isNone then flag &&& (0xFFFFFFFF - 0x04) else flag
    let specify : Bool := flag &&& 0x04 ≠ 0
    let info := buildInfo.getD ⟨0, 0, 0, 0⟩
    let name := if pre && specify then
        realm.name ++ [32, 40] ++ decimal info.majorVersion ++ [46] ++ decimal info.minorVersion ++
          [46] ++ decimal info.bugfixVersion ++ [41]
      else realm.name
    let lock : UInt8 := if a.accountSecurityLevel < realm.allowedSecurityLevel then 1 else 0
    let amountOfCharacters := (around.db.selNumCharsOnRealm realm.id id).getD 0
    some ([realm.icon] ++ (if post then [lock] else []) ++ [UInt8.ofNat flag] ++ name ++ [0] ++
      realm.realmAddress ++ [0] ++ realm.populationLevel ++ [amountOfCharacters, realm.timezone] ++
      (if post then [0x2C] else [0x00]) ++
      if post && specify then
        [UInt8.ofNat info.majorVersion, UInt8.ofNat info.minorVersion,
          UInt8.ofNat info.bugfixVersion] ++ Bits.leBytes 2 info.build
      else [])

def realmListPacket (around : Surroundings) (id : UInt32) (a : AuthSocket) : Bytes :=
  let post : Bool := a.expversion &&& postBcExpFlag ≠ 0
  let entries := around.realms.filterMap (realmEntry around id a)
  let pkt := entries.flatten ++ (if post then [0x10, 0x00] else [0x00, 0x02])
  let sizeBuffer := Bits.leBytes 4 0 ++ Bits.leBytes (if post then 2 else 4) entries.length
  [realmListCmd] ++ Bits.leBytes 2 (pkt.length + sizeBuffer.length) ++ sizeBuffer ++ pkt

def handleRealmList (around : Surroundings) (a : AuthSocket) : AuthSocket × List Event :=
  if around.input.length < 5 then (a, [])
  else
    match around.db.accountByName collate a.login with
    | none => (a, [.shutdown])
    | some row => (a, [.sent (realmListPacket around row.id a)])

/-- One turn of the loop in `OnRead`. No patch is ever open, so the transfer commands do
nothing but, for the cancelling one, shut the connection down. -/
def onRead (a : AuthSocket) (around : Surroundings) : AuthSocket × List Event :=
  match around.input with
  | [] => (a, [])
  | cmd :: _ =>
    if cmd = authLogonChallenge then handleLogonChallenge sha1 collate around a
    else if cmd = authLogonProof then handleLogonProof sha1 collate around a
    else if cmd = authReconnectChallenge then handleReconnectChallenge collate around a
    else if cmd = authReconnectProof then handleReconnectProof sha1 around a
    else if cmd = realmListCmd ∧ a.authed then handleRealmList collate around a
    else if cmd = xferAccept ∨ cmd = xferResume then (a, [])
    else (a, [.shutdown])

end

end AuthSocket

end OpenWoW
