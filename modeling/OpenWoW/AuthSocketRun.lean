import OpenWoW.AuthSocket

/-! Which commands authenticate a connection, over every order in which they can come. -/
namespace OpenWoW.AuthSocket

open List

abbrev Step := Run.Taken AuthSocket Surroundings (List Event)

/-- A packet that starts with these bytes was sent. -/
def sends (header : Bytes) (out : List Event) : Bool :=
  out.any fun event => match event with
    | .sent packet => header.isPrefixOf packet
    | _ => false

def acceptedHeader : Bytes := [authLogonChallenge, 0, wowSuccess]
def oldVersionHeader : Bytes := [authLogonChallenge, 0, wowFailVersionInvalid]
def logonProofHeader : Bytes := [authLogonProof, 0]
def wrongProofHeader : Bytes := [authLogonProof, wowFailUnknownAccount]
def reconnectChallengeHeader : Bytes := [authReconnectChallenge, 0]
def reconnectProofHeader : Bytes := [authReconnectProof, 0]
def realmListHeader : Bytes := [realmListCmd]

/-- A hexadecimal column holds a number. -/
def isNumber (text : Bytes) : Bool :=
  match cString text with
  | [] => false
  | char :: rest => (BigNumber.leadingHex (if char = 45 then rest else char :: rest) none).isSome

section

variable (sha1 : Bytes → Bytes) (collate : Bytes → Bytes)

/-- The salt and the verifier are those of the account: read from its row, or made for it
and written there. -/
def AccountVS (t : Step) (row : Account) (login : Bytes) (v s : BigNumber) : Prop :=
  if hasVS row then
    v = BigNumber.setHexStr 0 (cString row.v) ∧ s = BigNumber.setHexStr 0 (cString row.s)
  else .updVs (BigNumber.asHexStr v) (BigNumber.asHexStr s) login ∈ t.out

/-- The step answers a logon challenge for `login` with `WOW_SUCCESS`, for an account that
exists, is not banned and may come from this address, and draws `b` and `B` for it. -/
def ChallengeSucceeded (t : Step) (login : Bytes) (v s b B : BigNumber) : Prop :=
  ∃ ch row,
    t.input.input.head? = some authLogonChallenge ∧
    recvChallenge t.input.input = some ch ∧
    ch.login = login ∧
    sends acceptedHeader t.out ∧
    t.input.db.selIpBanned collate t.before.remoteAddress = false ∧
    t.input.db.accountByName collate login = some row ∧
    t.input.db.selAccountBanned row.id = none ∧
    lockedElsewhere t.before row = false ∧
    AccountVS t row login v s ∧
    b = t.input.randB ∧
    B = publicB v b

/-- The step reads `K` from the account's row, or writes it there. -/
def KeyStored (t : Step) (login : Bytes) (K : BigNumber) : Prop :=
  (∃ row, t.input.input.head? = some authReconnectChallenge ∧
    t.input.db.accountByName collate login = some row ∧
    isNumber row.sessionkey ∧
    K = BigNumber.setHexStr 0 (cString row.sessionkey)) ∨
  ∃ lastIp locale os, .updLogonproof (BigNumber.asHexStr K) lastIp locale os login ∈ t.out

def NonceDrawn (t : Step) (login : Bytes) (nonce : BigNumber) : Prop :=
  ∃ ch, t.input.input.head? = some authReconnectChallenge ∧
    recvChallenge t.input.input = some ch ∧ ch.login = login ∧ nonce = t.input.randReconnect

def logonProven (t : Step) : Bool :=
  t.out.any fun event => match event with
    | .updLogonproof .. => true
    | _ => false

def reconnectProven (t : Step) : Bool := sends reconnectProofHeader t.out

def LastProven (past : List Step) (login : Bytes) (level : Nat) : Prop :=
  ∃ earlier p later, past = earlier ++ p :: later ∧ (logonProven p ∨ reconnectProven p) ∧
    p.before.login = login ∧ p.before.accountSecurityLevel = level ∧
    ∀ u ∈ later, ¬ (logonProven u ∨ reconnectProven u)

/-- What is asked of a run: authentication by a proof only, every proof about the values
drawn or stored for the login it authenticates, and every realm list for that login. -/
structure OnlyProven (steps : List Step) : Prop where
  authed : ∀ t ∈ steps, t.before.authed = false → t.after.authed → logonProven t ∨ reconnectProven t
  logon : ∀ pre t post, steps = pre ++ t :: post → logonProven t →
    (∃ c ∈ pre, ChallengeSucceeded collate c t.before.login t.before.v t.before.s t.before.b
      t.before.B) ∧
    (∃ lp, recvLogonProof t.input.input = some lp ∧ ¬ N ∣ BigNumber.setBinary lp.A) ∧
    ∃ lastIp locale os,
      .updLogonproof (BigNumber.asHexStr t.after.K) lastIp locale os t.before.login ∈ t.out
  reconnect : ∀ pre t post, steps = pre ++ t :: post → reconnectProven t →
    (∃ c ∈ pre, KeyStored collate c t.before.login t.before.K) ∧
    ∃ c ∈ pre, NonceDrawn c t.before.login t.before.reconnectProof
  realmList : ∀ pre t post, steps = pre ++ t :: post → sends realmListHeader t.out →
    LastProven pre t.before.login t.before.accountSecurityLevel

/-- What an observer notes about a connection: the login of the last challenge that drew
`b` and `B`, if that was answered with success, the logins that the session key and the
reconnect nonce belong to, and the last proof. -/
structure Notes where
  srp : Option Bytes
  key : Option Bytes
  nonce : Option Bytes
  proven : Option (Bytes × Nat)
  deriving DecidableEq, Repr

def Notes.none : Notes := ⟨Option.none, Option.none, Option.none, Option.none⟩

def numbersStored (columns : Account → List Bytes) (t : Step) : Bool :=
  match t.input.db.accountByName collate t.after.login with
  | .none => false
  | some row => (columns row).all isNumber

def vsColumns (row : Account) : List Bytes := if hasVS row then [row.v, row.s] else []

def note (n : Notes) (t : Step) : Notes :=
  if sends acceptedHeader t.out then
    { n with srp := if numbersStored collate vsColumns t then some t.after.login else .none }
  else if sends oldVersionHeader t.out then { n with srp := .none }
  else if sends reconnectChallengeHeader t.out then
    { n with
      key := if numbersStored collate (fun row => [row.sessionkey]) t then some t.after.login
        else .none
      nonce := some t.after.login }
  else if sends logonProofHeader t.out then
    { n with
      key := some t.before.login
      proven := some (t.before.login, t.before.accountSecurityLevel) }
  else if sends wrongProofHeader t.out then { n with key := .none }
  else if sends reconnectProofHeader t.out then
    { n with proven := some (t.before.login, t.before.accountSecurityLevel) }
  else n

/-- A logon proof that reaches the computation comes while `b` and `B` belong to the login
the socket holds, and its `A` is not a multiple of `N`. -/
def logonInOrder (n : Notes) (a : AuthSocket) (input : Bytes) : Bool :=
  match recvLogonProof input with
  | .none => true
  | some lp => a.expversion = noValidExpFlag ∨ BigNumber.setBinary lp.A = 0 ∨
      (n.srp = some a.login ∧ ¬ N ∣ BigNumber.setBinary lp.A)

/-- A reconnect proof that reaches the comparison comes while the key and the nonce belong
to the login the socket holds. -/
def reconnectInOrder (n : Notes) (a : AuthSocket) (input : Bytes) : Bool :=
  (recvReconnectProof input).isNone ∨ a.login = [] ∨ BigNumber.getNumBytes a.reconnectProof = 0 ∨
    BigNumber.getNumBytes a.K = 0 ∨ (n.key = some a.login ∧ n.nonce = some a.login)

/-- A realm list is asked for while login and level are those of the last proof. -/
def realmListInOrder (n : Notes) (a : AuthSocket) (input : Bytes) : Bool :=
  a.authed = false ∨ input.length < 5 ∨ n.proven = some (a.login, a.accountSecurityLevel)

def InOrder (s : AuthSocket × Notes) (around : Surroundings) : Prop :=
  (around.input.head? = some authLogonProof → logonInOrder s.2 s.1 around.input) ∧
    (around.input.head? = some authReconnectProof → reconnectInOrder s.2 s.1 around.input) ∧
    (around.input.head? = some realmListCmd → realmListInOrder s.2 s.1 around.input)

instance (s : AuthSocket × Notes) (around : Surroundings) : Decidable (InOrder s around) := by
  unfold InOrder
  infer_instance

/-- The values that the proofs are about. -/
structure SameSecrets (a after : AuthSocket) : Prop where
  s : after.s = a.s
  v : after.v = a.v
  b : after.b = a.b
  B : after.B = a.B

/-- Everything a turn of the loop can do. -/
inductive Turn (a : AuthSocket) (around : Surroundings) : AuthSocket → List Event → Prop
  /-- Nothing is drawn and nothing is proven; the login may change. -/
  | other (after : AuthSocket) (out : List Event) (same : SameSecrets a after)
      (key : after.K = a.K) (nonce : after.reconnectProof = a.reconnectProof)
      (authed : after.authed = a.authed)
      (silent : ∀ packet, .sent packet ∈ out → ∃ code,
        packet = [authLogonChallenge, 0, code] ∧
          code ∈ [wowFailBanned, wowFailUnknownAccount, wowFailSuspended])
      (unstored : logonProven ⟨a, around, after, out⟩ = false) :
      Turn a around after out
  | challenged (ch : LogonChallenge) (row : Account) (named : AuthSocket)
      (cmd : around.input.head? = some authLogonChallenge)
      (read : recvChallenge around.input = some ch)
      (unbanned : around.db.selIpBanned collate a.remoteAddress = false)
      (found : around.db.accountByName collate ch.login = some row)
      (allowed : around.db.selAccountBanned row.id = none)
      (unlocked : lockedElsewhere a row = false)
      (same : SameSecrets a named) (key : named.K = a.K)
      (nonce : named.reconnectProof = a.reconnectProof) (authed : named.authed = a.authed)
      (login : named.login = ch.login) :
      Turn a around (drawChallenge sha1 around ch row named)
        ([.delExpiredIpBans, .updExpiredAccountBans] ++ updVSEvents sha1 around row ch.login ++
          [.sent (challengePacket around (drawChallenge sha1 around ch row named))])
  | proofAccepted (lp : LogonProof) (M : BigNumber) (keyed : AuthSocket)
      (cmd : around.input.head? = some authLogonProof)
      (read : recvLogonProof around.input = some lp)
      (valid : a.expversion ≠ noValidExpFlag) (nonzero : BigNumber.setBinary lp.A ≠ 0)
      (set : keyed = { a with K := sessionKeyOf sha1 (BigNumber.setBinary lp.A) a }) :
      Turn a around { keyed with authed := true }
        [.updLogonproof (BigNumber.asHexStr keyed.K) a.remoteAddress
          (localeByName around a.localizationName) a.os a.login,
         .sent (proofPacket sha1 (BigNumber.setBinary lp.A) M keyed)]
  | proofRefused (K : BigNumber) :
      Turn a around { a with K := K }
        (.sent [authLogonProof, wowFailUnknownAccount, 3, 0] ::
          wrongPassword collate around { a with K := K })
  | reconnectChallenged (ch : LogonChallenge) (row : Account) (named : AuthSocket)
      (cmd : around.input.head? = some authReconnectChallenge)
      (read : recvChallenge around.input = some ch)
      (found : around.db.accountByName collate ch.login = some row)
      (same : SameSecrets a named) (authed : named.authed = a.authed)
      (login : named.login = ch.login) (key : named.K = BigNumber.setHexStr a.K (cString row.sessionkey))
      (nonce : named.reconnectProof = around.randReconnect) :
      Turn a around named [.sent ([authReconnectChallenge, 0] ++
        (BigNumber.asByteArray 16 around.randReconnect).take 16 ++ List.replicate 16 0)]
  | reconnectAccepted (lp : ReconnectProof)
      (cmd : around.input.head? = some authReconnectProof)
      (read : recvReconnectProof around.input = some lp)
      (ready : ¬ (a.login = [] ∨ BigNumber.getNumBytes a.reconnectProof = 0 ∨
        BigNumber.getNumBytes a.K = 0)) :
      Turn a around { a with authed := true } [.sent [authReconnectProof, 0, 0, 0]]
  | realmsListed (id : UInt32)
      (cmd : around.input.head? = some realmListCmd) (long : ¬ around.input.length < 5)
      (authed : a.authed) :
      Turn a around a [.sent (realmListPacket around id a)]

theorem Turn.quiet (a after : AuthSocket) (around : Surroundings) (out : List Event)
    (same : SameSecrets a after) (key : after.K = a.K)
    (nonce : after.reconnectProof = a.reconnectProof) (authed : after.authed = a.authed)
    (only : out = [] ∨ out = [.shutdown]) : Turn sha1 collate a around after out := by
  refine .other after out same key nonce authed ?_ ?_
  · intro packet here
    rcases only with rfl | rfl <;> simp at here
  · rcases only with rfl | rfl <;> rfl

theorem Turn.failed (a after : AuthSocket) (around : Surroundings) (executed : List Event)
    (code : UInt8) (same : SameSecrets a after) (key : after.K = a.K)
    (nonce : after.reconnectProof = a.reconnectProof) (authed : after.authed = a.authed)
    (only : executed = [.delExpiredIpBans] ∨ executed = [.delExpiredIpBans, .updExpiredAccountBans])
    (known : code ∈ [wowFailBanned, wowFailUnknownAccount, wowFailSuspended]) :
    Turn sha1 collate a around after (executed ++ [failPacket code]) := by
  refine .other after _ same key nonce authed ?_ ?_
  · intro packet here
    refine ⟨code, ?_, known⟩
    rcases only with rfl | rfl <;> simpa [failPacket] using here
  · rcases only with rfl | rfl <;> rfl

variable {around : Surroundings}

theorem handleLogonChallenge_turn (a : AuthSocket)
    (cmd : around.input.head? = some authLogonChallenge) :
    Turn sha1 collate a around (handleLogonChallenge sha1 collate around a).1
      (handleLogonChallenge sha1 collate around a).2 := by
  unfold handleLogonChallenge
  split
  · exact .quiet sha1 collate a a around [] ⟨rfl, rfl, rfl, rfl⟩ rfl rfl rfl (.inl rfl)
  next ch read =>
  dsimp only
  split
  · exact .quiet sha1 collate a _ around [] ⟨rfl, rfl, rfl, rfl⟩ rfl rfl rfl (.inl rfl)
  split
  · exact .failed sha1 collate a _ around [.delExpiredIpBans] _ ⟨rfl, rfl, rfl, rfl⟩ rfl rfl rfl
      (.inl rfl) (by simp)
  next unbanned =>
  split
  · exact .failed sha1 collate a _ around [.delExpiredIpBans] _ ⟨rfl, rfl, rfl, rfl⟩ rfl rfl rfl
      (.inl rfl) (by simp)
  next row found =>
  split
  · exact .failed sha1 collate a _ around [.delExpiredIpBans] _ ⟨rfl, rfl, rfl, rfl⟩ rfl rfl rfl
      (.inl rfl) (by simp)
  next unlocked =>
  split
  · refine .failed sha1 collate a _ around [.delExpiredIpBans, .updExpiredAccountBans] _
      ⟨rfl, rfl, rfl, rfl⟩ rfl rfl rfl (.inr rfl) ?_
    split <;> simp
  next allowed =>
  exact .challenged ch row _ cmd read (by simpa using unbanned) found allowed
    (by simpa [lockedElsewhere] using unlocked) ⟨rfl, rfl, rfl, rfl⟩ rfl rfl rfl rfl

theorem handleLogonProof_turn (a : AuthSocket) (cmd : around.input.head? = some authLogonProof) :
    Turn sha1 collate a around (handleLogonProof sha1 collate around a).1
      (handleLogonProof sha1 collate around a).2 := by
  unfold handleLogonProof
  split
  · exact .quiet sha1 collate a a around [] ⟨rfl, rfl, rfl, rfl⟩ rfl rfl rfl (.inl rfl)
  next lp read =>
  split
  · exact .quiet sha1 collate a a around _ ⟨rfl, rfl, rfl, rfl⟩ rfl rfl rfl (.inr rfl)
  next valid =>
  dsimp only
  split
  · exact .quiet sha1 collate a a around _ ⟨rfl, rfl, rfl, rfl⟩ rfl rfl rfl (.inr rfl)
  next nonzero =>
  split
  · exact .proofAccepted lp _ _ cmd read valid nonzero rfl
  · exact .proofRefused _

theorem handleReconnectChallenge_turn (a : AuthSocket)
    (cmd : around.input.head? = some authReconnectChallenge) :
    Turn sha1 collate a around (handleReconnectChallenge collate around a).1
      (handleReconnectChallenge collate around a).2 := by
  unfold handleReconnectChallenge
  split
  · exact .quiet sha1 collate a a around [] ⟨rfl, rfl, rfl, rfl⟩ rfl rfl rfl (.inl rfl)
  next ch read =>
  dsimp only
  split
  · exact .quiet sha1 collate a _ around _ ⟨rfl, rfl, rfl, rfl⟩ rfl rfl rfl (.inr rfl)
  next row found =>
  split
  · exact .quiet sha1 collate a _ around [] ⟨rfl, rfl, rfl, rfl⟩ rfl rfl rfl (.inl rfl)
  · exact .reconnectChallenged ch row _ cmd read found ⟨rfl, rfl, rfl, rfl⟩ rfl rfl rfl rfl

theorem handleReconnectProof_turn (a : AuthSocket)
    (cmd : around.input.head? = some authReconnectProof) :
    Turn sha1 collate a around (handleReconnectProof sha1 around a).1
      (handleReconnectProof sha1 around a).2 := by
  unfold handleReconnectProof
  split
  · exact .quiet sha1 collate a a around [] ⟨rfl, rfl, rfl, rfl⟩ rfl rfl rfl (.inl rfl)
  next lp read =>
  split
  · exact .quiet sha1 collate a a around [] ⟨rfl, rfl, rfl, rfl⟩ rfl rfl rfl (.inl rfl)
  next ready =>
  dsimp only
  split
  · exact .reconnectAccepted lp cmd read ready
  · exact .quiet sha1 collate a a around _ ⟨rfl, rfl, rfl, rfl⟩ rfl rfl rfl (.inr rfl)

variable {a : AuthSocket}

theorem handleRealmList_turn (cmd : around.input.head? = some realmListCmd) (authed : a.authed) :
    Turn sha1 collate a around (handleRealmList collate around a).1
      (handleRealmList collate around a).2 := by
  unfold handleRealmList
  split
  · exact .quiet sha1 collate a a around [] ⟨rfl, rfl, rfl, rfl⟩ rfl rfl rfl (.inl rfl)
  next long =>
  split
  · exact .quiet sha1 collate a a around _ ⟨rfl, rfl, rfl, rfl⟩ rfl rfl rfl (.inr rfl)
  · exact .realmsListed _ cmd long authed

theorem onRead_turn (a : AuthSocket) (around : Surroundings) :
    Turn sha1 collate a around (onRead sha1 collate a around).1
      (onRead sha1 collate a around).2 := by
  unfold onRead
  split
  · exact .quiet sha1 collate a a around [] ⟨rfl, rfl, rfl, rfl⟩ rfl rfl rfl (.inl rfl)
  next cmd rest input =>
  have head : around.input.head? = some cmd := by rw [input]; rfl
  split
  · next is => exact handleLogonChallenge_turn sha1 collate a (is ▸ head)
  split
  · next is => exact handleLogonProof_turn sha1 collate a (is ▸ head)
  split
  · next is => exact handleReconnectChallenge_turn sha1 collate a (is ▸ head)
  split
  · next is => exact handleReconnectProof_turn sha1 collate a (is ▸ head)
  split
  · next is => exact handleRealmList_turn sha1 collate (is.1 ▸ head) is.2
  split
  · exact .quiet sha1 collate a a around [] ⟨rfl, rfl, rfl, rfl⟩ rfl rfl rfl (.inl rfl)
  · exact .quiet sha1 collate a a around _ ⟨rfl, rfl, rfl, rfl⟩ rfl rfl rfl (.inr rfl)

theorem setHexStr_number (old : BigNumber) {text : Bytes} (number : isNumber text) :
    BigNumber.setHexStr old (cString text) = BigNumber.setHexStr 0 (cString text) := by
  unfold isNumber at number
  unfold BigNumber.setHexStr
  split at number
  · cases number
  next char rest shape =>
  rw [shape]
  by_cases minus : char = 45
  · obtain ⟨n, value⟩ := Option.isSome_iff_exists.mp number
    simp only [minus, if_true] at value ⊢
    rw [value]
    rfl
  obtain ⟨n, value⟩ := Option.isSome_iff_exists.mp number
  simp only [if_neg minus] at value ⊢
  rw [value]
  rfl

variable {out : List Event}

theorem sends_eq_false {header : Bytes}
    (never : ∀ packet, .sent packet ∈ out → header.isPrefixOf packet = false) :
    sends header out = false := by
  unfold sends
  rw [any_eq_false]
  intro event here
  cases event with
  | sent packet => simp [never packet here]
  | _ => simp

variable (remoteAddress header : Bytes)

theorem sends_append (xs ys : List Event) :
    sends header (xs ++ ys) = (sends header xs || sends header ys) := by
  simp [sends]

theorem sends_updVS (around : Surroundings) (row : Account) (login : Bytes) :
    sends header ([.delExpiredIpBans, .updExpiredAccountBans] ++
      updVSEvents sha1 around row login) = false := by
  unfold updVSEvents
  split <;> rfl

theorem sends_wrongPassword (around : Surroundings) (a : AuthSocket) :
    sends header (wrongPassword collate around a) = false := by
  apply sends_eq_false
  intro packet here
  unfold wrongPassword at here
  repeat' split at here
  all_goals simp at here

theorem logonProven_wrongPassword (around : Surroundings) (a before after : AuthSocket) :
    logonProven ⟨before, around, after, wrongPassword collate around a⟩ = false := by
  unfold logonProven wrongPassword
  dsimp only
  split
  · rfl
  split
  · rfl
  split
  · rfl
  · split <;> rfl

theorem challengePacket_header (around : Surroundings) (a : AuthSocket) :
    ∃ body, challengePacket around a = authLogonChallenge :: 0 ::
      (if isAcceptedClientBuild a.build then wowSuccess else wowFailVersionInvalid) :: body :=
  ⟨_, rfl⟩

theorem proofPacket_header (A M : BigNumber) (a : AuthSocket) :
    ∃ body, proofPacket sha1 A M a = authLogonProof :: 0 :: body := by
  unfold proofPacket
  dsimp only
  split <;> exact ⟨_, rfl⟩

theorem sends_challenged (around : Surroundings) (row : Account) (login : Bytes)
    (packet : Bytes) :
    sends header ([.delExpiredIpBans, .updExpiredAccountBans] ++
      updVSEvents sha1 around row login ++ [.sent packet]) = header.isPrefixOf packet := by
  rw [sends_append, sends_updVS]
  simp [sends]

theorem sends_refused (around : Surroundings) (a : AuthSocket) (packet : Bytes) :
    sends header (.sent packet :: wrongPassword collate around a) = header.isPrefixOf packet := by
  rw [← singleton_append, sends_append, sends_wrongPassword]
  simp [sends]

theorem sends_silent {header : Bytes}
    (silent : ∀ packet, .sent packet ∈ out → ∃ code, packet = [authLogonChallenge, 0, code] ∧
      code ∈ [wowFailBanned, wowFailUnknownAccount, wowFailSuspended])
    (known : header ∈ [acceptedHeader, oldVersionHeader, logonProofHeader, wrongProofHeader,
      reconnectChallengeHeader, reconnectProofHeader, realmListHeader]) :
    sends header out = false := by
  apply sends_eq_false
  intro packet here
  obtain ⟨code, rfl, listed⟩ := silent packet here
  clear here silent
  simp only [mem_cons, not_mem_nil, or_false] at known listed
  rcases known with rfl | rfl | rfl | rfl | rfl | rfl | rfl
  all_goals rcases listed with rfl | rfl | rfl <;> decide

variable {t : Step}

theorem note_silent (n : Notes)
    (silent : ∀ packet, .sent packet ∈ t.out → ∃ code, packet = [authLogonChallenge, 0, code] ∧
      code ∈ [wowFailBanned, wowFailUnknownAccount, wowFailSuspended]) : note collate n t = n := by
  simp [note, sends_silent silent]

/-- The notes are right about the steps taken and the values the socket holds. -/
structure Noted (past : List Step) (s : AuthSocket × Notes) : Prop where
  srp : ∀ login, s.2.srp = some login →
    ∃ c ∈ past, ChallengeSucceeded collate c login s.1.v s.1.s s.1.b s.1.B
  key : ∀ login, s.2.key = some login → ∃ c ∈ past, KeyStored collate c login s.1.K
  nonce : ∀ login, s.2.nonce = some login → ∃ c ∈ past, NonceDrawn c login s.1.reconnectProof
  proven : ∀ login level, s.2.proven = some (login, level) → LastProven past login level

variable {past : List Step}

theorem exists_mem_append {p : Step → Prop} (t : Step)
    (there : ∃ c ∈ past, p c) : ∃ c ∈ past ++ [t], p c := by
  obtain ⟨c, here, holds⟩ := there
  exact ⟨c, mem_append_left _ here, holds⟩

theorem LastProven.later {login : Bytes} {level : Nat}
    (last : LastProven past login level) (silent : ¬ (logonProven t ∨ reconnectProven t)) :
    LastProven (past ++ [t]) login level := by
  obtain ⟨earlier, p, later, split, proof, named, leveled, none⟩ := last
  refine ⟨earlier, p, later ++ [t], by simp [split], proof, named, leveled, ?_⟩
  intro u here
  rcases mem_append.mp here with old | new
  · exact none u old
  · rw [mem_singleton.mp new]
    exact silent

theorem LastProven.now (past : List Step) (proof : logonProven t ∨ reconnectProven t) :
    LastProven (past ++ [t]) t.before.login t.before.accountSecurityLevel :=
  ⟨past, t, [], rfl, proof, rfl, rfl, by simp⟩

variable {after : AuthSocket} {n : Notes}

theorem Noted.srp_later (t : Step) (inv : Noted collate past (a, n)) (same : SameSecrets a after)
    (login : Bytes) (here : n.srp = some login) :
    ∃ c ∈ past ++ [t], ChallengeSucceeded collate c login after.v after.s after.b after.B := by
  rw [same.v, same.s, same.b, same.B]
  exact exists_mem_append t (inv.srp login here)

theorem Noted.key_later (t : Step)
    (inv : Noted collate past (a, n)) (same : after.K = a.K) (login : Bytes)
    (here : n.key = some login) : ∃ c ∈ past ++ [t], KeyStored collate c login after.K := by
  rw [same]
  exact exists_mem_append t (inv.key login here)

theorem Noted.nonce_later (t : Step) (inv : Noted collate past (a, n))
    (same : after.reconnectProof = a.reconnectProof) (login : Bytes) (here : n.nonce = some login) :
    ∃ c ∈ past ++ [t], NonceDrawn c login after.reconnectProof := by
  rw [same]
  exact exists_mem_append t (inv.nonce login here)

theorem Noted.proven_later
    (inv : Noted collate past (a, n)) (silent : ¬ (logonProven t ∨ reconnectProven t))
    (login : Bytes) (level : Nat) (here : n.proven = some (login, level)) :
    LastProven (past ++ [t]) login level :=
  .later (inv.proven login level here) silent

theorem noted_other (inv : Noted collate past (a, n)) (same : SameSecrets a after)
    (key : after.K = a.K) (nonce : after.reconnectProof = a.reconnectProof)
    (silent : ∀ packet, .sent packet ∈ out → ∃ code, packet = [authLogonChallenge, 0, code] ∧
      code ∈ [wowFailBanned, wowFailUnknownAccount, wowFailSuspended])
    (unstored : logonProven ⟨a, around, after, out⟩ = false) :
    Noted collate (past ++ [⟨a, around, after, out⟩])
      (after, note collate n ⟨a, around, after, out⟩) := by
  have unproven : ¬ (logonProven ⟨a, around, after, out⟩ ∨
      reconnectProven ⟨a, around, after, out⟩) := by
    rw [reconnectProven, sends_silent silent (by simp), unstored]
    simp
  rw [note_silent collate n silent]
  exact ⟨inv.srp_later collate _ same, inv.key_later collate _ key,
    inv.nonce_later collate _ nonce, inv.proven_later collate unproven⟩

theorem noted_challenged {named : AuthSocket} (inv : Noted collate past (a, n))
    {ch : LogonChallenge} {row : Account}
    (cmd : around.input.head? = some authLogonChallenge)
    (read : recvChallenge around.input = some ch)
    (unbanned : around.db.selIpBanned collate a.remoteAddress = false)
    (found : around.db.accountByName collate ch.login = some row)
    (allowed : around.db.selAccountBanned row.id = none)
    (unlocked : lockedElsewhere a row = false) (key : named.K = a.K)
    (nonce : named.reconnectProof = a.reconnectProof) (login : named.login = ch.login)
    (taken : t = ⟨a, around, drawChallenge sha1 around ch row named,
      [.delExpiredIpBans, .updExpiredAccountBans] ++ updVSEvents sha1 around row ch.login ++
        [.sent (challengePacket around (drawChallenge sha1 around ch row named))]⟩) :
    Noted collate (past ++ [t]) (t.after, note collate n t) := by
  have only : ∀ header, sends header t.out = header.isPrefixOf
      (challengePacket around (drawChallenge sha1 around ch row named)) := by
    intro header
    rw [taken]
    exact sends_challenged sha1 header around row ch.login _
  have after : t.after = drawChallenge sha1 around ch row named := by rw [taken]
  have sameKey : t.after.K = a.K := by
    rw [after, ← key]
    simp only [drawChallenge, setVS]
    split <;> rfl
  have sameNonce : t.after.reconnectProof = a.reconnectProof := by
    rw [after, ← nonce]
    simp only [drawChallenge, setVS]
    split <;> rfl
  have sameLogin : t.after.login = ch.login := by
    rw [after, ← login]
    simp only [drawChallenge, setVS]
    split <;> rfl
  have silent : ¬ (logonProven t ∨ reconnectProven t) := by
    rw [reconnectProven, only, taken]
    simp only [logonProven, updVSEvents]
    split <;> simp [challengePacket, reconnectProofHeader, authReconnectProof, authLogonChallenge]
  have rest : (note collate n t).key = n.key ∧ (note collate n t).nonce = n.nonce ∧
      (note collate n t).proven = n.proven ∧
      ∀ name, (note collate n t).srp = some name → name = ch.login ∧
        sends acceptedHeader t.out ∧ numbersStored collate vsColumns t := by
    obtain ⟨body, header⟩ :=
      challengePacket_header around (drawChallenge sha1 around ch row named)
    rw [header] at only
    by_cases build : isAcceptedClientBuild (drawChallenge sha1 around ch row named).build
    · rw [if_pos build] at only
      have accepted : sends acceptedHeader t.out := by rw [only]; rfl
      refine ⟨by simp [note, accepted], by simp [note, accepted], by simp [note, accepted], ?_⟩
      intro name noted
      simp only [note, accepted, if_true] at noted
      split at noted
      · rename_i numbers
        refine ⟨?_, accepted, numbers⟩
        rw [← sameLogin]
        exact (Option.some.inj noted).symm
      · cases noted
    · rw [if_neg build] at only
      have accepted : sends acceptedHeader t.out = false := by rw [only]; rfl
      have old : sends oldVersionHeader t.out = true := by rw [only]; rfl
      simp [note, accepted, old]
  refine ⟨?_, ?_, ?_, ?_⟩
  · intro name noted
    obtain ⟨rfl, accepted, numbers⟩ := rest.2.2.2 name noted
    refine ⟨t, by simp, ch, row, by rw [taken]; exact cmd, by rw [taken]; exact read, rfl,
      accepted, by rw [taken]; exact unbanned, by rw [taken]; exact found,
      by rw [taken]; exact allowed, by rw [taken]; exact unlocked, ?_, ?_, ?_⟩
    · -- the row's columns hold numbers, so nothing of the old values survives
      simp only [numbersStored, sameLogin] at numbers
      have db : t.input.db = around.db := by rw [taken]
      rw [db, found] at numbers
      simp only [AccountVS, after, drawChallenge, setVS]
      split
      · rename_i stored
        simp only [vsColumns, if_pos stored, all_cons, all_nil, Bool.and_true,
          Bool.and_eq_true] at numbers
        exact ⟨setHexStr_number _ numbers.1, setHexStr_number _ numbers.2⟩
      · next made => simp [taken, updVSEvents, made]
    · rw [after, taken]
      rfl
    · rw [after]
      rfl
  · rw [rest.1]
    exact inv.key_later collate t sameKey
  · rw [rest.2.1]
    exact inv.nonce_later collate t sameNonce
  · rw [rest.2.2.1]
    exact inv.proven_later collate silent

theorem noted_proofAccepted (inv : Noted collate past (a, n)) {A M K : BigNumber}
    {locale : Nat}
    (taken : t = ⟨a, around, { a with K := K, authed := true },
      [.updLogonproof (BigNumber.asHexStr K) a.remoteAddress locale a.os a.login,
        .sent (proofPacket sha1 A M { a with K := K })]⟩) :
    Noted collate (past ++ [t]) (t.after, note collate n t) := by
  obtain ⟨body, header⟩ := proofPacket_header sha1 A M { a with K := K }
  have only : ∀ head, sends head t.out = head.isPrefixOf (authLogonProof :: 0 :: body) := by
    intro head
    simp [taken, sends, header]
  have noted : note collate n t = { n with
      key := some a.login
      proven := some (a.login, a.accountSecurityLevel) } := by
    simp only [note, only]
    rw [taken]
    rfl
  have proof : logonProven t := by simp [taken, logonProven]
  have now := LastProven.now past (.inl proof)
  rw [noted]
  refine ⟨?_, ?_, ?_, ?_⟩
  · exact inv.srp_later collate t (by rw [taken]; exact ⟨rfl, rfl, rfl, rfl⟩)
  · intro login here
    cases here
    exact ⟨t, by simp, .inr ⟨a.remoteAddress, locale, a.os, by simp [taken]⟩⟩
  · exact inv.nonce_later collate t (by rw [taken])
  · intro login level here
    cases here
    rw [taken] at now ⊢
    exact now

theorem noted_proofRefused (inv : Noted collate past (a, n)) {K : BigNumber}
    (taken : t = ⟨a, around, { a with K := K },
      .sent [authLogonProof, wowFailUnknownAccount, 3, 0] ::
        wrongPassword collate around { a with K := K }⟩) :
    Noted collate (past ++ [t]) (t.after, note collate n t) := by
  have only : ∀ head, sends head t.out =
      head.isPrefixOf [authLogonProof, wowFailUnknownAccount, 3, 0] := by
    intro head
    rw [taken]
    exact sends_refused collate head around _ _
  have noted : note collate n t = { n with key := none } := by
    simp only [note, only]
    rfl
  have unproven : ¬ (logonProven t ∨ reconnectProven t) := by
    have stored := logonProven_wrongPassword collate around { a with K := K } a { a with K := K }
    simp only [logonProven] at stored
    rw [reconnectProven, only, taken]
    simp [logonProven, stored, reconnectProofHeader, authReconnectProof, authLogonProof]
  rw [noted]
  exact ⟨inv.srp_later collate t (by rw [taken]; exact ⟨rfl, rfl, rfl, rfl⟩),
    by simp, inv.nonce_later collate t (by rw [taken]),
    inv.proven_later collate unproven⟩

theorem noted_reconnectChallenged {named : AuthSocket} (inv : Noted collate past (a, n))
    {ch : LogonChallenge} {row : Account}
    (cmd : around.input.head? = some authReconnectChallenge)
    (read : recvChallenge around.input = some ch)
    (found : around.db.accountByName collate ch.login = some row) (same : SameSecrets a named)
    (login : named.login = ch.login)
    (key : named.K = BigNumber.setHexStr a.K (cString row.sessionkey))
    (nonce : named.reconnectProof = around.randReconnect)
    (taken : t = ⟨a, around, named, [.sent ([authReconnectChallenge, 0] ++
      (BigNumber.asByteArray 16 around.randReconnect).take 16 ++ List.replicate 16 0)]⟩) :
    Noted collate (past ++ [t]) (t.after, note collate n t) := by
  have only : ∀ header, sends header t.out = header.isPrefixOf ([authReconnectChallenge, 0] ++
      (BigNumber.asByteArray 16 around.randReconnect).take 16 ++ List.replicate 16 0) := by
    intro header
    simp [taken, sends]
  have noted : note collate n t = { n with
      key := if numbersStored collate (fun row => [row.sessionkey]) t then some named.login
        else none
      nonce := some named.login } := by
    simp only [note, only]
    rw [taken]
    rfl
  have silent : ¬ (logonProven t ∨ reconnectProven t) := by
    rw [reconnectProven, only, taken]
    simp [logonProven, reconnectProofHeader, authReconnectProof, authReconnectChallenge]
  rw [noted]
  refine ⟨?_, ?_, ?_, inv.proven_later collate silent⟩
  · exact inv.srp_later collate t (by rw [taken]; exact same)
  · intro name here
    dsimp only at here
    split at here
    · rename_i number
      cases here
      simp only [numbersStored, taken, login, found, all_cons, all_nil, Bool.and_true] at number
      refine ⟨t, by simp, .inl ⟨row, by rw [taken]; exact cmd, by rw [taken, login]; exact found,
        number, ?_⟩⟩
      rw [taken]
      exact key.trans (setHexStr_number _ number)
    · cases here
  · intro name here
    cases here
    exact ⟨t, by simp, ch, by rw [taken]; exact cmd, by rw [taken]; exact read, login.symm,
      by rw [taken]; exact nonce⟩

theorem noted_reconnectAccepted (inv : Noted collate past (a, n))
    (taken : t = ⟨a, around, { a with authed := true }, [.sent [authReconnectProof, 0, 0, 0]]⟩) :
    Noted collate (past ++ [t]) (t.after, note collate n t) := by
  have only : ∀ head, sends head t.out = head.isPrefixOf [authReconnectProof, 0, 0, 0] := by
    intro head
    simp [taken, sends]
  have noted : note collate n t =
      { n with proven := some (a.login, a.accountSecurityLevel) } := by
    simp only [note, only]
    rw [taken]
    rfl
  have proof : reconnectProven t := by rw [reconnectProven, only]; rfl
  have now := LastProven.now past (.inr proof)
  rw [noted]
  refine ⟨?_, ?_, ?_, ?_⟩
  · exact inv.srp_later collate t (by rw [taken]; exact ⟨rfl, rfl, rfl, rfl⟩)
  · exact inv.key_later collate t (by rw [taken])
  · exact inv.nonce_later collate t (by rw [taken])
  · intro login level here
    cases here
    rw [taken] at now ⊢
    exact now

theorem noted_realmsListed (inv : Noted collate past (a, n)) {id : UInt32}
    (taken : t = ⟨a, around, a, [.sent (realmListPacket around id a)]⟩) :
    Noted collate (past ++ [t]) (t.after, note collate n t) := by
  have only : ∀ head, sends head t.out = head.isPrefixOf (realmListPacket around id a) := by
    intro head
    simp [taken, sends]
  have noted : note collate n t = n := by
    simp only [note, only]
    rfl
  have unproven : ¬ (logonProven t ∨ reconnectProven t) := by
    rw [reconnectProven, only, taken]
    simp [logonProven, reconnectProofHeader, authReconnectProof, realmListPacket, realmListCmd]
  rw [noted]
  exact ⟨inv.srp_later collate t (by rw [taken]; exact ⟨rfl, rfl, rfl, rfl⟩),
    inv.key_later collate t (by rw [taken]),
    inv.nonce_later collate t (by rw [taken]),
    inv.proven_later collate unproven⟩

theorem noted_turn (inv : Noted collate past (a, n)) (turn : Turn sha1 collate a around after out) :
    Noted collate (past ++ [⟨a, around, after, out⟩])
      (after, note collate n ⟨a, around, after, out⟩) := by
  cases turn with
  | other _ _ same key nonce authed silent unstored =>
    exact noted_other collate inv same key nonce silent unstored
  | challenged ch row named cmd read unbanned found allowed unlocked same key nonce authed login =>
    exact noted_challenged sha1 collate inv cmd read unbanned
      found allowed unlocked key nonce login rfl
  | proofAccepted lp M keyed cmd read valid nonzero set =>
    subst set
    exact noted_proofAccepted sha1 collate inv rfl
  | proofRefused K => exact noted_proofRefused collate inv rfl
  | reconnectChallenged ch row _ cmd read found same authed login key nonce =>
    exact noted_reconnectChallenged collate inv cmd read found same login key nonce rfl
  | reconnectAccepted lp cmd read ready =>
    exact noted_reconnectAccepted collate inv rfl
  | realmsListed id cmd long authed =>
    exact noted_realmsListed collate inv rfl

theorem noted_keep {s : AuthSocket × Notes} (around : Surroundings) (inv : Noted collate past s) :
    Noted collate (past ++ [Run.take (onRead sha1 collate) s.1 around])
      (Run.observe (onRead sha1 collate) (note collate) s around).1 :=
  noted_turn sha1 collate inv (onRead_turn sha1 collate s.1 around)

theorem noted_start :
    Noted collate [] (accepted remoteAddress, Notes.none) :=
  ⟨by simp [Notes.none], by simp [Notes.none], by simp [Notes.none], by simp [Notes.none]⟩

section
variable (turn : Turn sha1 collate a around after out)
include turn

theorem turn_authed (before : a.authed = false)
    (now : after.authed) :
    logonProven ⟨a, around, after, out⟩ ∨ reconnectProven ⟨a, around, after, out⟩ := by
  cases turn with
  | other _ _ same key nonce authed silent unstored =>
    rw [authed, before] at now
    cases now
  | challenged ch row named cmd read unbanned found allowed unlocked same key nonce authed login =>
    have kept : (drawChallenge sha1 around ch row named).authed = named.authed := by
      simp only [drawChallenge, setVS]
      split <;> rfl
    rw [kept, authed, before] at now
    cases now
  | proofAccepted lp M keyed cmd read valid nonzero set => exact .inl rfl
  | proofRefused K =>
    rw [before] at now
    cases now
  | reconnectChallenged ch row _ cmd read found same authed login key nonce =>
    rw [authed, before] at now
    cases now
  | reconnectAccepted lp cmd read ready => exact .inr rfl
  | realmsListed id cmd long authed =>
    rw [before] at authed
    cases authed

theorem turn_logonProven
    (proven : logonProven ⟨a, around, after, out⟩) :
    around.input.head? = some authLogonProof ∧ a.expversion ≠ noValidExpFlag ∧
      (∃ lp, recvLogonProof around.input = some lp ∧ BigNumber.setBinary lp.A ≠ 0) ∧
      ∃ lastIp locale os,
        .updLogonproof (BigNumber.asHexStr after.K) lastIp locale os a.login ∈ out := by
  cases turn with
  | other _ _ same key nonce authed silent unstored =>
    rw [unstored] at proven
    cases proven
  | challenged ch row named cmd read unbanned found allowed unlocked same key nonce authed login =>
    simp only [logonProven, updVSEvents] at proven
    split at proven <;> simp at proven
  | proofAccepted lp M keyed cmd read valid nonzero set =>
    exact ⟨cmd, valid, ⟨lp, read, nonzero⟩, _, _, _, mem_cons_self⟩
  | proofRefused K =>
    have stored := logonProven_wrongPassword collate around { a with K := K } a { a with K := K }
    simp only [logonProven] at stored
    simp [logonProven, stored] at proven
  | reconnectChallenged ch row _ cmd read found same authed login key nonce => cases proven
  | reconnectAccepted lp cmd read ready => cases proven
  | realmsListed id cmd long authed => cases proven

theorem turn_reconnectProven (proven : sends reconnectProofHeader out) :
    around.input.head? = some authReconnectProof ∧ (recvReconnectProof around.input).isSome ∧
      ¬ (a.login = [] ∨ BigNumber.getNumBytes a.reconnectProof = 0 ∨
        BigNumber.getNumBytes a.K = 0) := by
  cases turn with
  | other _ _ same key nonce authed silent unstored =>
    rw [sends_silent silent (by simp)] at proven
    cases proven
  | challenged ch row named cmd read unbanned found allowed unlocked same key nonce authed login =>
    rw [sends_challenged] at proven
    cases proven
  | proofAccepted lp M keyed cmd read valid nonzero set =>
    obtain ⟨body, header⟩ := proofPacket_header sha1 (BigNumber.setBinary lp.A) M keyed
    rw [header] at proven
    cases proven
  | proofRefused K =>
    rw [sends_refused] at proven
    cases proven
  | reconnectChallenged ch row _ cmd read found same authed login key nonce => cases proven
  | reconnectAccepted lp cmd read ready => exact ⟨cmd, by rw [read]; rfl, ready⟩
  | realmsListed id cmd long authed => cases proven

theorem turn_realmList (listed : sends realmListHeader out) :
    around.input.head? = some realmListCmd ∧ ¬ around.input.length < 5 ∧ a.authed := by
  cases turn with
  | other _ _ same key nonce authed silent unstored =>
    rw [sends_silent silent (by simp)] at listed
    cases listed
  | challenged ch row named cmd read unbanned found allowed unlocked same key nonce authed login =>
    rw [sends_challenged] at listed
    cases listed
  | proofAccepted lp M keyed cmd read valid nonzero set =>
    obtain ⟨body, header⟩ := proofPacket_header sha1 (BigNumber.setBinary lp.A) M keyed
    rw [header] at listed
    cases listed
  | proofRefused K =>
    rw [sends_refused] at listed
    cases listed
  | reconnectChallenged ch row _ cmd read found same authed login key nonce => cases listed
  | reconnectAccepted lp cmd read ready => cases listed
  | realmsListed id cmd long authed => exact ⟨cmd, long, authed⟩

end

/-- In every run whose proofs and realm list requests come in order, only proven accounts
are authenticated. -/
theorem onlyProven_of_inOrder (inputs : List Surroundings)
    (ordered : ∀ t ∈ Run.trace (Run.observe (onRead sha1 collate) (note collate))
      (accepted remoteAddress, Notes.none) inputs, InOrder t.before t.input) :
    OnlyProven collate (Run.trace (onRead sha1 collate) (accepted remoteAddress) inputs) := by
  have at' : ∀ pre t post,
      Run.trace (onRead sha1 collate) (accepted remoteAddress) inputs = pre ++ t :: post →
      (∃ n, Noted collate pre (t.before, n) ∧ InOrder (t.before, n) t.input) ∧
        Turn sha1 collate t.before t.input t.after t.out := by
    intro pre t post split
    refine ⟨?_, ?_⟩
    · exact Run.observed_at (onRead sha1 collate) (note collate) InOrder (Noted collate)
        (fun past s around inv _ => noted_keep sha1 collate around inv) []
        (accepted remoteAddress, Notes.none) (noted_start collate remoteAddress) ordered
        pre split
    · rw [Run.taken_of_mem (onRead sha1 collate) (accepted remoteAddress) inputs t
        (by simp [split])]
      exact onRead_turn sha1 collate _ _
  refine ⟨?_, ?_, ?_, ?_⟩
  · intro t here before now
    obtain ⟨pre, post, split⟩ := append_of_mem here
    exact turn_authed sha1 collate (at' pre t post split).2 before now
  · intro pre t post split proven
    obtain ⟨⟨n, noted, order⟩, turn⟩ := at' pre t post split
    obtain ⟨cmd, valid, ⟨lp, read, nonzero⟩, stored⟩ :=
      turn_logonProven sha1 collate turn proven
    have logon := order.1 cmd
    simp only [logonInOrder, read, decide_eq_true_eq] at logon
    rcases logon with invalid | zero | ⟨srp, safe⟩
    · exact absurd invalid valid
    · exact absurd zero nonzero
    · exact ⟨noted.srp _ srp, ⟨lp, read, safe⟩, stored⟩
  · intro pre t post split proven
    obtain ⟨⟨n, noted, order⟩, turn⟩ := at' pre t post split
    obtain ⟨cmd, read, ready⟩ := turn_reconnectProven sha1 collate turn proven
    have reconnect := order.2.1 cmd
    simp only [reconnectInOrder, decide_eq_true_eq] at reconnect
    rcases reconnect with missing | empty | unset | unset | ⟨key, nonce⟩
    · simp [Option.isNone_iff_eq_none.mp missing] at read
    · exact absurd (.inl empty) ready
    · exact absurd (.inr (.inl unset)) ready
    · exact absurd (.inr (.inr unset)) ready
    · exact ⟨noted.key _ key, noted.nonce _ nonce⟩
  · intro pre t post split listed
    obtain ⟨⟨n, noted, order⟩, turn⟩ := at' pre t post split
    obtain ⟨cmd, long, authed⟩ := turn_realmList sha1 collate turn listed
    have list := order.2.2 cmd
    simp only [realmListInOrder, decide_eq_true_eq] at list
    rcases list with unauthed | short | proven
    · rw [authed] at unauthed
      cases unauthed
    · exact absurd short long
    · exact noted.proven _ _ proven

end

/-- A challenge of either kind for the account "A" from a 5.4.0 client on Windows. -/
def challengeInput (cmd : UInt8) : Bytes :=
  [cmd, 0, 31, 0] ++ List.replicate 7 0 ++ [0xF7, 0x43] ++ List.replicate 4 0 ++
    [110, 105, 87, 0] ++ List.replicate 13 0 ++ [65]

/-- A logon proof with `A = 1` and every byte of `M1` one. -/
def proofInput : Bytes :=
  [authLogonProof, 1] ++ List.replicate 31 0 ++ List.replicate 20 1 ++ List.replicate 22 0

def storedAccount : Account where
  id := 1
  username := [65]
  shaPassHash := [65, 66]
  sessionkey := [49]
  lastIp := []
  locked := 0
  expansion := 4
  mutetime := 0
  locale := 0
  recruiter := 0
  os := []
  v := []
  s := []
  failedLogins := 0

def plainSurroundings (input : Bytes) : Surroundings where
  input := input
  db := ⟨[storedAccount], [], [], [], []⟩
  randS := 2 ^ 255 + 1
  randB := 2 ^ 151 + 1
  randUnk3 := 2 ^ 127 + 1
  randReconnect := 2 ^ 127 + 1
  heap := []
  maxWrongPassCount := 0
  wrongPassBanTime := 600
  wrongPassBanType := false
  localeNames := []
  realms := []

/-- A run in order that authenticates: challenge, proof, realm list. -/
theorem challenge_proof_realmList_onlyProven :
    (∃ t ∈ Run.trace (onRead (fun _ => List.replicate 20 1) id) (accepted [49])
      ([challengeInput authLogonChallenge, proofInput, [realmListCmd, 0, 0, 0, 0]].map
        plainSurroundings), logonProven t) ∧
    OnlyProven id (Run.trace (onRead (fun _ => List.replicate 20 1) id) (accepted [49])
      ([challengeInput authLogonChallenge, proofInput, [realmListCmd, 0, 0, 0, 0]].map
        plainSurroundings)) :=
  ⟨by decide +kernel, onlyProven_of_inOrder (fun _ => List.replicate 20 1) id [49] _
    (by decide +kernel)⟩

/-- After a reconnect challenge alone, a logon proof is checked against zero secrets, so
that anyone can compute the answer that authenticates the account. -/
theorem reconnectChallenge_logonProof_not_onlyProven :
    ¬ OnlyProven id (Run.trace (onRead (fun _ => List.replicate 20 1) id) (accepted [49])
      ([challengeInput authReconnectChallenge, proofInput].map plainSurroundings)) := by
  intro holds
  have proven : logonProven (Run.take (onRead (fun _ => List.replicate 20 1) id)
      (onRead (fun _ => List.replicate 20 1) id (accepted [49])
        (plainSurroundings (challengeInput authReconnectChallenge))).1
      (plainSurroundings proofInput)) := by decide +kernel
  obtain ⟨⟨c, here, ch, row, cmd, _⟩, _⟩ := holds.logon [_] _ [] rfl proven
  rw [mem_singleton.mp here] at cmd
  exact absurd cmd (by decide)

end OpenWoW.AuthSocket
