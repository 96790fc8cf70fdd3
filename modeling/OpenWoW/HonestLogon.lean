import OpenWoW.AuthSocketRun
import OpenWoW.BigNumberBytes
import OpenWoW.Lib.Srp6

/-! An honest client logs on. -/
namespace OpenWoW.AuthSocket

open List

/-- What a client reads in the answer to its challenge. -/
structure Parameters where
  B : BigNumber
  g : BigNumber
  N : BigNumber
  s : BigNumber

def Parameters.read (packet : Bytes) : Parameters where
  B := BigNumber.setBinary ((packet.drop 3).take 32)
  g := BigNumber.setBinary ((packet.drop 36).take 1)
  N := BigNumber.setBinary ((packet.drop 38).take 32)
  s := BigNumber.setBinary ((packet.drop 70).take 32)

def fixedBytes (width : Nat) (n : BigNumber) : Bytes := Bits.leBytes width n.natAbs

structure Client where
  login : Bytes
  passHash : Bytes
  secret : Nat

namespace Client

variable (sha1 : Bytes → Bytes) (c : Client) (p : Parameters)

def x : Nat := Bits.leValue (sha1 (fixedBytes 32 p.s ++ c.passHash))

def publicA : BigNumber := BigNumber.modExp p.g c.secret p.N

def u : Nat := Bits.leValue (sha1 (fixedBytes 32 (c.publicA p) ++ fixedBytes 32 p.B))

def premaster : BigNumber :=
  BigNumber.modExp (p.B - 3 * BigNumber.modExp p.g (c.x sha1 p) p.N)
    (c.secret + c.u sha1 p * c.x sha1 p : Nat) p.N

def sessionKey : Bytes :=
  let t := fixedBytes 32 (c.premaster sha1 p)
  interleave (sha1 (evens t)) (sha1 (odds t))

def mask : Bytes := List.zipWith (· ^^^ ·) (sha1 (fixedBytes 32 p.N)) (sha1 (fixedBytes 1 p.g))

def proofText : Bytes :=
  mask sha1 p ++ sha1 c.login ++ fixedBytes 32 p.s ++ fixedBytes 32 (c.publicA p) ++
    fixedBytes 32 p.B ++ c.sessionKey sha1 p

def M1 : Bytes := sha1 (c.proofText sha1 p)

/-- The client's answer; `rest` has the checksum of its files and two flags. -/
def answer (rest : Bytes) : Bytes :=
  [authLogonProof] ++ fixedBytes 32 (c.publicA p) ++ c.M1 sha1 p ++ rest

/-- The numbers of the protocol, for a salt and a secret of the server. -/
def exchange (salt b : Nat) : Parameters where
  B := (BigNumber.modExp g (Bits.leValue (sha1 (fixedBytes 32 salt ++ c.passHash))) N * 3 +
    BigNumber.modExp g b N) % N
  g := g
  N := N
  s := salt

end Client

/-- No number of the exchange has a zero as its most significant byte. -/
structure NoLeadingZeros (sha1 : Bytes → Bytes) (c : Client) (p : Parameters) : Prop where
  salt : BigNumber.Full 32 p.s.natAbs
  A : BigNumber.Full 32 (c.publicA p).natAbs
  B : BigNumber.Full 32 p.B.natAbs
  S : BigNumber.Full 32 (c.premaster sha1 p).natAbs
  K : BigNumber.Full 40 (Bits.leValue (c.sessionKey sha1 p))
  mask : BigNumber.Full 20 (Bits.leValue (Client.mask sha1 p))
  M : BigNumber.Full 20 (Bits.leValue (c.M1 sha1 p))

section

variable (sha1 : Bytes → Bytes) (collate : Bytes → Bytes)

structure Honest (around : Surroundings) (a : AuthSocket) (c : Client) (ch : LogonChallenge)
    (row : Account) (salt b : Nat) : Prop where
  digests : ∀ text, (sha1 text).length = 20
  read : recvChallenge around.input = some ch
  os : ch.os.length ≤ 4
  build : isAcceptedClientBuild ch.build = true
  login : c.login = ch.login
  unbanned : around.db.selIpBanned collate a.remoteAddress = false
  found : around.db.accountByName collate ch.login = some row
  unlocked : lockedElsewhere a row = false
  allowed : around.db.selAccountBanned row.id = none
  hashLength : c.passHash.length = 20
  /-- The column has the hash in hexadecimal, most significant byte first. -/
  hash : BigNumber.setHexStr 0 (cString row.shaPassHash) = Bits.leValue c.passHash.reverse
  saltSmall : salt < 256 ^ 32
  isSalt : (setVS sha1 around row a).s = salt
  verifier : (setVS sha1 around row a).v = verifierOf sha1 salt row.shaPassHash
  isSecret : around.randB = b

/-- The answer to the packet that is sent is accepted whatever else the server finds then, lies in
memory behind `M` or follows in the input; both have the same key, and so has who reads it back. -/
def Succeeds (around : Surroundings) (a : AuthSocket) (c : Client) : Prop :=
  let challenged := handleLogonChallenge sha1 collate around a
  ∃ packet, .sent packet ∈ challenged.2 ∧
    ∀ (later : Surroundings) (rest : Bytes), 22 ≤ rest.length →
      later.input = c.answer sha1 (.read packet) rest →
      let proved := handleLogonProof sha1 collate later challenged.1
      proved.1.authed = true ∧
        proved.1.K = BigNumber.setBinary (c.sessionKey sha1 (.read packet)) ∧
        ∃ key lastIp locale os login, .updLogonproof key lastIp locale os login ∈ proved.2 ∧
          ∀ old, BigNumber.setHexStr old (cString key) = proved.1.K

/-- The text that `matchingProof` hashes. -/
def matchingText (A : BigNumber) (a : AuthSocket) : Bytes :=
  BigNumber.digestBytes (BigNumber.setBinary (List.zipWith (· ^^^ ·)
    (sha1 (BigNumber.digestBytes N)) (sha1 (BigNumber.digestBytes g)))) ++ sha1 a.login ++
    BigNumber.digestBytes a.s ++ BigNumber.digestBytes A ++ BigNumber.digestBytes a.B ++
    BigNumber.digestBytes a.K

def premasterBytes (A : BigNumber) (a : AuthSocket) : Bytes :=
  (BigNumber.asByteArray 32 (premaster sha1 A a)).take 32

/-- The texts that the two ends hash for the keys and for the proofs. -/
def hashedTexts (a : AuthSocket) (c : Client) (p : Parameters) : List Bytes :=
  let A := c.publicA p
  let t := premasterBytes sha1 A a
  let own := fixedBytes 32 (c.premaster sha1 p)
  [evens t, evens own, odds t, odds own,
    matchingText sha1 A { a with K := sessionKeyOf sha1 A a }, c.proofText sha1 p]

/-- SHA-1 tells the texts of the two ends apart. -/
def Distinguishes (around : Surroundings) (a : AuthSocket) (c : Client) : Prop :=
  let challenged := handleLogonChallenge sha1 collate around a
  ∀ packet, .sent packet ∈ challenged.2 →
    ∀ text ∈ hashedTexts sha1 challenged.1 c (.read packet),
      ∀ other ∈ hashedTexts sha1 challenged.1 c (.read packet), sha1 text = sha1 other → text = other

end

variable (width : Nat) (n : BigNumber) (byte : UInt8) (rest : Bytes) (base : BigNumber)
  (exponent : Nat)

theorem evens_cons : evens (byte :: rest) = byte :: odds rest := by
  cases rest with
  | nil => rfl
  | cons next rest => rfl

theorem odds_cons : odds (byte :: rest) = evens rest := rfl

theorem evens_odds_injective {xs ys : Bytes} (length : xs.length = ys.length)
    (even : evens xs = evens ys) (odd : odds xs = odds ys) : xs = ys := by
  induction xs generalizing ys with
  | nil => exact (length_eq_zero_iff.mp length.symm).symm
  | cons x xs ih =>
    cases ys with
    | nil => cases length
    | cons y ys =>
      rw [evens_cons, evens_cons, List.cons.injEq] at even
      rw [odds_cons, odds_cons] at odd
      rw [even.1, ih (Nat.succ.inj length) odd even.2]

theorem interleave_cons (x y : UInt8) (xs ys : Bytes) :
    interleave (x :: xs) (y :: ys) = x :: y :: interleave xs ys := rfl

theorem evens_interleave {xs ys : Bytes} (length : xs.length = ys.length) :
    evens (interleave xs ys) = xs ∧ odds (interleave xs ys) = ys := by
  induction xs generalizing ys with
  | nil =>
    rw [length_eq_zero_iff.mp length.symm]
    exact ⟨rfl, rfl⟩
  | cons x xs ih =>
    cases ys with
    | nil => cases length
    | cons y ys =>
      obtain ⟨even, odd⟩ := ih (Nat.succ.inj length)
      rw [interleave_cons, evens_cons, odds_cons, odds_cons, evens_cons, even, odd]
      exact ⟨rfl, rfl⟩

theorem interleave_length {xs ys : Bytes} {n : Nat} (first : xs.length = n) (second : ys.length = n) :
    (interleave xs ys).length = 2 * n := by
  have sum : ∀ pairs : List (UInt8 × UInt8),
      (pairs.flatMap fun pair => [pair.1, pair.2]).length = 2 * pairs.length := by
    intro pairs
    induction pairs with
    | nil => rfl
    | cons pair pairs ih =>
      rw [flatMap_cons, length_append, ih, length_cons]
      simp only [length_cons, length_nil]
      omega
  rw [interleave, sum, length_zip, first, second, Nat.min_self]

theorem skip {front rest : Bytes} {skipped : Nat} (front_ : front.length = skipped) (more : Nat) :
    (front ++ rest).drop (skipped + more) = rest.drop more := by
  rw [← front_, drop_append, drop_eq_nil_of_le (Nat.le_add_right _ _), nil_append,
    Nat.add_sub_cancel_left]

theorem fixedBytes_natCast (n : Nat) : fixedBytes width n = Bits.leBytes width n := rfl

@[simp] theorem fixedBytes_length :
    (fixedBytes width n).length = width := Bits.leBytes_length _ _

theorem setBinary_fixedBytes {width n : Nat} (fits : n < 256 ^ width) :
    BigNumber.setBinary (fixedBytes width n) = n := by
  rw [fixedBytes_natCast, BigNumber.setBinary, Bits.leValue_leBytes, Nat.mod_eq_of_lt fits]

theorem digestBytes_fixed {width : Nat} {n : BigNumber} (positive : 0 < width)
    (number : ∃ m : Nat, n = m ∧ m < 256 ^ width) (full : BigNumber.Full width n.natAbs) :
    BigNumber.digestBytes n = fixedBytes width n := by
  obtain ⟨m, rfl, small⟩ := number
  exact BigNumber.digestBytes_full positive small full

theorem digestBytes_setBinary {bytes : Bytes} (some_ : 0 < bytes.length)
    (full : BigNumber.Full bytes.length (Bits.leValue bytes)) :
    BigNumber.digestBytes (BigNumber.setBinary bytes) = bytes := by
  rw [BigNumber.setBinary, BigNumber.digestBytes_full some_ (Bits.leValue_lt bytes) full,
    Bits.leBytes_leValue]

theorem N_eq : N = (N.natAbs : Nat) := by decide

theorem N_small : N.natAbs < 256 ^ 32 := by decide

theorem modExp_N :
    BigNumber.modExp base exponent N = base ^ exponent % N := by
  have power := BigNumber.modExp_eq base exponent N.natAbs (by decide)
  rwa [← N_eq] at power

theorem modExp_modEq :
    BigNumber.modExp base exponent N ≡ base ^ exponent [ZMOD N] := by
  rw [modExp_N]
  exact Int.mod_modEq _ _

theorem modExp_congr {base base' : BigNumber} {exponent exponent' : Nat}
    (same : base ^ exponent ≡ base' ^ exponent' [ZMOD N]) :
    BigNumber.modExp base exponent N = BigNumber.modExp base' exponent' N := by
  rw [modExp_N, modExp_N]
  exact same

theorem remainder_N : ∃ r : Nat, n % N = r ∧ r < 256 ^ 32 := by
  have lower : 0 ≤ n % N := Int.emod_nonneg _ (by decide)
  have upper : n % N < N := Int.emod_lt_of_pos _ (by decide)
  rw [N_eq] at upper
  exact ⟨(n % N).toNat, (Int.toNat_of_nonneg lower).symm,
    Nat.lt_trans ((Int.toNat_lt lower).mpr upper) N_small⟩

theorem publicB_eq (x b : Nat) :
    publicB (BigNumber.modExp g x N) b =
      (BigNumber.modExp g x N * 3 + BigNumber.modExp g b N) % N := by
  obtain ⟨v, isV, _⟩ := remainder_N (g ^ x)
  obtain ⟨power, isPower, _⟩ := remainder_N (g ^ b)
  rw [publicB, modExp_N, modExp_N, isV, isPower, BigNumber.mod]
  exact Int.tmod_eq_emod_of_nonneg (by omega)

section

variable {sha1 : Bytes → Bytes} {c : Client} {salt b : Nat} {a : AuthSocket}

theorem power_ne_zero {n : Nat} : ¬ g ^ n ≡ 0 [ZMOD N] := by
  have coprime : IsCoprime g N := Int.isCoprime_iff_gcd_eq_one.mpr (by decide +kernel)
  have proper : ¬IsUnit N := by
    rw [Int.isUnit_iff]
    decide
  exact Srp6.power_ne_zero coprime proper

theorem exchange_spec : ∃ B : Nat, (c.exchange sha1 salt b).B = B ∧ B < 256 ^ 32 := remainder_N _

theorem exchange_server : (c.exchange sha1 salt b).B ≡
    BigNumber.modExp g (c.x sha1 (c.exchange sha1 salt b)) N * 3 + g ^ b [ZMOD N] :=
  (Int.mod_modEq _ _).trans ((modExp_modEq g b).add_left _)

theorem exchange_unmasked (n : Nat) :
    ((c.exchange sha1 salt b).B -
        3 * BigNumber.modExp g (c.x sha1 (c.exchange sha1 salt b)) N) ^ n ≡
      ((c.exchange sha1 salt b).B - 3 * g ^ c.x sha1 (c.exchange sha1 salt b)) ^ n [ZMOD N] :=
  (((modExp_modEq g _).mul_left 3).sub_left _).pow n

theorem premaster_agree (isV : a.v = BigNumber.modExp g (c.x sha1 (c.exchange sha1 salt b)) N)
    (isB : a.b = b)
    (isU : BigNumber.setBinary (sha1 (BigNumber.digestBytes (c.publicA (c.exchange sha1 salt b)) ++
      BigNumber.digestBytes a.B)) = (c.u sha1 (c.exchange sha1 salt b) : Nat)) :
    premaster sha1 (c.publicA (c.exchange sha1 salt b)) a =
      c.premaster sha1 (c.exchange sha1 salt b) := by
  unfold premaster
  simp only [isU, isV, isB]
  apply modExp_congr
  have masked := modExp_modEq (BigNumber.modExp g (c.x sha1 (c.exchange sha1 salt b)) N)
    (c.u sha1 (c.exchange sha1 salt b))
  have agree := Srp6.premaster_eq (u := c.u sha1 (c.exchange sha1 salt b))
    (modExp_modEq g (c.x sha1 (c.exchange sha1 salt b))) (modExp_modEq g c.secret) exchange_server
  exact ((masked.mul_left _).pow b).trans (agree.symm.trans (exchange_unmasked _).symm)

theorem premaster_ne_zero : c.premaster sha1 (c.exchange sha1 salt b) ≠ 0 := by
  have power : c.premaster sha1 (c.exchange sha1 salt b) ≡ g ^ (b * (c.secret +
      c.u sha1 (c.exchange sha1 salt b) * c.x sha1 (c.exchange sha1 salt b))) [ZMOD N] :=
    ((modExp_modEq _ _).trans (exchange_unmasked _)).trans
      (Srp6.client_premaster (modExp_modEq g _) exchange_server)
  intro zero
  rw [zero] at power
  exact power_ne_zero power.symm

end

/-- What the challenge leaves in the connection. -/
structure Drawn (sha1 : Bytes → Bytes) (a : AuthSocket) (c : Client) (row : Account)
    (salt b : Nat) : Prop where
  isSalt : a.s = salt
  verifier : a.v = verifierOf sha1 salt row.shaPassHash
  isSecret : a.b = b
  isPublic : a.B = publicB a.v b
  login : a.login = c.login
  valid : a.expversion ≠ noValidExpFlag

section

variable {sha1 : Bytes → Bytes} {collate : Bytes → Bytes} {around : Surroundings}
  {a : AuthSocket} {c : Client} {ch : LogonChallenge} {row : Account} {salt b : Nat}

theorem expversionOf_valid {build : Nat} (accepted : isAcceptedClientBuild build = true) :
    expversionOf build ≠ noValidExpFlag := by
  unfold expversionOf
  split
  · decide
  next post =>
    have pre : isPreBCAcceptedClientBuild build = true :=
      (Bool.or_eq_true _ _ ▸ accepted).resolve_left post
    rw [if_pos pre]
    decide

/-- The connection once the challenge has been read. -/
def named (a : AuthSocket) (ch : LogonChallenge) : AuthSocket :=
  { a with
    login := ch.login
    build := ch.build
    expversion := expversionOf ch.build
    os := ch.os.reverse }

section
variable (honest : Honest sha1 collate around a c ch row salt b)
include honest

theorem Honest.challenged :
    handleLogonChallenge sha1 collate around a =
      (drawChallenge sha1 around ch row (named a ch),
        [.delExpiredIpBans, .updExpiredAccountBans] ++ updVSEvents sha1 around row ch.login ++
          [.sent (challengePacket around (drawChallenge sha1 around ch row (named a ch)))]) := by
  have long : ¬4 < ch.os.length := Nat.not_lt.mpr honest.os
  have unlocked : lockedElsewhere (named a ch) row = false := honest.unlocked
  unfold named at unlocked
  unfold handleLogonChallenge
  simp only [honest.read, if_neg long, honest.unbanned, honest.found, unlocked, honest.allowed,
    Bool.false_eq_true, if_false]
  rfl

theorem Honest.drawn :
    Drawn sha1 (drawChallenge sha1 around ch row (named a ch)) c row salt b := by
  have stored : (setVS sha1 around row (named a ch)).s = (setVS sha1 around row a).s := by
    unfold setVS
    split <;> rfl
  have verifier : (setVS sha1 around row (named a ch)).v = (setVS sha1 around row a).v := by
    unfold setVS
    split <;> rfl
  have login : (setVS sha1 around row (named a ch)).login = ch.login := by
    unfold setVS
    split <;> rfl
  have expversion : (setVS sha1 around row (named a ch)).expversion = expversionOf ch.build := by
    unfold setVS
    split <;> rfl
  refine ⟨stored.trans honest.isSalt, verifier.trans honest.verifier, honest.isSecret, ?_,
    login.trans honest.login.symm, ?_⟩
  · show publicB _ around.randB = publicB _ _
    rw [honest.isSecret]
    rfl
  · show (setVS sha1 around row (named a ch)).expversion ≠ _
    rw [expversion]
    exact expversionOf_valid honest.build

theorem Honest.sends (packet : Bytes) :
    .sent packet ∈ (handleLogonChallenge sha1 collate around a).2 ↔
      packet = challengePacket around (drawChallenge sha1 around ch row (named a ch)) := by
  rw [honest.challenged]
  unfold updVSEvents
  split <;> simp

end

theorem read_challenge {B : Nat} (isB : a.B = B) (small : B < 256 ^ 32) :
    ∃ more, Parameters.read (challengePacket around a) =
      ⟨BigNumber.setBinary (BigNumber.asByteArray 32 B), g, N,
        BigNumber.setBinary ((BigNumber.digestBytes a.s ++ more).take 32)⟩ := by
  have width : (BigNumber.asByteArray 32 B).length = 32 := BigNumber.asByteArray_length small
  have whole : (BigNumber.asByteArray 32 a.B).take 32 = BigNumber.asByteArray 32 B := by
    rw [isB, take_of_length_le (Nat.le_of_eq width)]
  have generator : (BigNumber.digestBytes g).take 1 = [7] := by decide
  have modulus : ((BigNumber.asByteArray 32 N).take 32).length = 32 := by decide
  have isN : BigNumber.setBinary ((BigNumber.asByteArray 32 N).take 32) = N := by decide
  refine ⟨(BigNumber.asByteArray 16 around.randUnk3).take 16 ++ [0], ?_⟩
  unfold Parameters.read challengePacket
  simp only [whole, generator, append_assoc]
  generalize BigNumber.asByteArray 32 B = B' at width ⊢
  generalize (BigNumber.asByteArray 32 N).take 32 = N' at modulus isN ⊢
  congr 1
  · exact congrArg BigNumber.setBinary (take_left' width)
  · exact congrArg (fun rest => BigNumber.setBinary (rest.take 1)) (skip width 1)
  · refine (congrArg (fun rest => BigNumber.setBinary (rest.take 32)) (skip width 3)).trans ?_
    exact (congrArg BigNumber.setBinary (take_left' modulus)).trans isN
  · refine (congrArg (fun rest => BigNumber.setBinary (rest.take 32)) (skip width (3 + 32))).trans ?_
    exact congrArg (fun rest => BigNumber.setBinary (rest.take 32)) (skip modulus 0)

section
variable (honest : Honest sha1 collate around a c ch row salt b)
include honest

theorem Honest.verifier_eq
    (full : BigNumber.Full 32 salt) : verifierOf sha1 salt row.shaPassHash =
      BigNumber.modExp g (c.x sha1 (c.exchange sha1 salt b)) N := by
  have length : c.passHash.reverse.length = 20 := by rw [length_reverse, honest.hashLength]
  have fits : Bits.leValue c.passHash.reverse < 256 ^ 20 := length ▸ Bits.leValue_lt _
  have padded := BigNumber.digestBytes_padded fits
  rw [← length, Bits.leBytes_leValue, length] at padded
  unfold verifierOf
  simp only [honest.hash, if_pos (BigNumber.digestBytes_le fits), padded, reverse_reverse,
    BigNumber.digestBytes_full (by decide) honest.saltSmall full]
  rfl

theorem Honest.public_exchange
    (full : BigNumber.Full 32 salt) :
    (drawChallenge sha1 around ch row (named a ch)).B = (c.exchange sha1 salt b).B := by
  rw [honest.drawn.isPublic, honest.drawn.verifier, honest.verifier_eq full, publicB_eq]
  rfl

theorem Honest.read_exchange
    (fullSalt : BigNumber.Full 32 salt)
    (fullB : BigNumber.Full 32 (c.exchange sha1 salt b).B.natAbs) :
    Parameters.read (challengePacket around (drawChallenge sha1 around ch row (named a ch))) =
      c.exchange sha1 salt b := by
  obtain ⟨B, isB, small⟩ := @exchange_spec sha1 c salt b
  obtain ⟨more, reads⟩ :=
    @read_challenge around _ B ((honest.public_exchange fullSalt).trans isB) small
  refine reads.trans ?_
  rw [isB, Int.natAbs_natCast] at fullB
  rw [honest.drawn.isSalt, BigNumber.digestBytes_full (by decide) honest.saltSmall fullSalt,
    take_left' (Bits.leBytes_length _ _), BigNumber.asByteArray_full (by decide) small fullB,
    ← fixedBytes_natCast, ← fixedBytes_natCast, setBinary_fixedBytes small,
    setBinary_fixedBytes honest.saltSmall, ← isB]
  rfl

end

section

variable {p : Parameters}

theorem publicA_spec (isG : p.g = g) (isN : p.N = N) :
    ∃ A : Nat, c.publicA p = A ∧ A < 256 ^ 32 := by
  rw [Client.publicA, isG, isN, modExp_N]
  exact remainder_N _

theorem premaster_spec (isN : p.N = N) : ∃ S : Nat, c.premaster sha1 p = S ∧ S < 256 ^ 32 := by
  rw [Client.premaster, isN, modExp_N]
  exact remainder_N _

theorem mask_length (digests : ∀ text, (sha1 text).length = 20) :
    (Client.mask sha1 p).length = 20 := by
  rw [Client.mask, length_zipWith, digests, digests, Nat.min_self]

theorem sessionKey_length (digests : ∀ text, (sha1 text).length = 20) :
    (c.sessionKey sha1 p).length = 40 := interleave_length (digests _) (digests _)

theorem publicA_ne_zero (isG : p.g = g) (isN : p.N = N) : c.publicA p ≠ 0 := by
  have power := modExp_modEq g c.secret
  rw [Client.publicA, isG, isN]
  intro zero
  rw [zero] at power
  exact power_ne_zero power.symm

theorem mask_eq (isG : p.g = g) (isN : p.N = N) :
    List.zipWith (· ^^^ ·) (sha1 (BigNumber.digestBytes N)) (sha1 (BigNumber.digestBytes g)) =
      Client.mask sha1 p := by
  have modulus : BigNumber.digestBytes N = fixedBytes 32 N := by decide
  have generator : BigNumber.digestBytes g = fixedBytes 1 g := by decide
  rw [Client.mask, isG, isN, modulus, generator]

end

theorem recv_answer {p : Parameters} {rest : Bytes} (digests : ∀ text, (sha1 text).length = 20)
    (long : 22 ≤ rest.length) : recvLogonProof (c.answer sha1 p rest) =
      some ⟨fixedBytes 32 (c.publicA p), c.M1 sha1 p⟩ := by
  have width : (fixedBytes 32 (c.publicA p)).length = 32 := fixedBytes_length _ _
  have digest : (c.M1 sha1 p).length = 20 := digests _
  have enough : ¬(c.answer sha1 p rest).length < 75 := by
    simp only [Client.answer, length_append, width, digest, length_singleton]
    omega
  rw [recvLogonProof, if_neg enough]
  simp only [Client.answer, append_assoc]
  have first : (([authLogonProof] ++ (fixedBytes 32 (c.publicA p) ++
      (c.M1 sha1 p ++ rest))).drop 1).take 32 = fixedBytes 32 (c.publicA p) := take_left' width
  have second : (([authLogonProof] ++ (fixedBytes 32 (c.publicA p) ++
      (c.M1 sha1 p ++ rest))).drop 33).take 20 = c.M1 sha1 p :=
    (congrArg (List.take 20) (skip width 0)).trans (take_left' digest)
  rw [first, second]

theorem matchingText_eq (full : NoLeadingZeros sha1 c (c.exchange sha1 salt b))
    (digests : ∀ text, (sha1 text).length = 20) (small : salt < 256 ^ 32) (isS : a.s = salt)
    (isB : a.B = (c.exchange sha1 salt b).B) (isLogin : a.login = c.login)
    (isK : a.K = BigNumber.setBinary (c.sessionKey sha1 (c.exchange sha1 salt b))) :
    matchingText sha1 (c.publicA (c.exchange sha1 salt b)) a =
      c.proofText sha1 (c.exchange sha1 salt b) := by
  have mask := @mask_length sha1 (c.exchange sha1 salt b) digests
  have key := @sessionKey_length sha1 c (c.exchange sha1 salt b) digests
  have fullMask := full.mask
  have fullKey := full.K
  rw [← mask] at fullMask
  rw [← key] at fullKey
  rw [matchingText, @mask_eq sha1 (c.exchange sha1 salt b) rfl rfl,
    digestBytes_setBinary (by omega) fullMask, isLogin, isS,
    digestBytes_fixed (by decide) ⟨salt, rfl, small⟩ full.salt,
    digestBytes_fixed (by decide) (publicA_spec rfl rfl) full.A, isB,
    digestBytes_fixed (by decide) exchange_spec full.B, isK,
    digestBytes_setBinary (by omega) fullKey]
  rfl

theorem scrambler_eq (isB : a.B = (c.exchange sha1 salt b).B)
    (fullA : BigNumber.Full 32 (c.publicA (c.exchange sha1 salt b)).natAbs)
    (fullB : BigNumber.Full 32 (c.exchange sha1 salt b).B.natAbs) :
    BigNumber.setBinary (sha1 (BigNumber.digestBytes (c.publicA (c.exchange sha1 salt b)) ++
      BigNumber.digestBytes a.B)) = (c.u sha1 (c.exchange sha1 salt b) : Nat) := by
  rw [digestBytes_fixed (by decide) (publicA_spec rfl rfl) fullA, isB,
    digestBytes_fixed (by decide) exchange_spec fullB]
  rfl

theorem sessionKey_eq (full : NoLeadingZeros sha1 c (c.exchange sha1 salt b))
    (isV : a.v = BigNumber.modExp g (c.x sha1 (c.exchange sha1 salt b)) N)
    (isB : a.B = (c.exchange sha1 salt b).B) (isSecret : a.b = b) :
    sessionKeyOf sha1 (c.publicA (c.exchange sha1 salt b)) a =
      BigNumber.setBinary (c.sessionKey sha1 (c.exchange sha1 salt b)) := by
  have isU := scrambler_eq isB full.A full.B
  obtain ⟨S, isS, small⟩ := @premaster_spec sha1 c (c.exchange sha1 salt b) rfl
  have fullS := full.S
  rw [isS, Int.natAbs_natCast] at fullS
  rw [sessionKeyOf, premaster_agree isV isSecret isU, Client.sessionKey, isS,
    BigNumber.asByteArray_full (by decide) small fullS, fixedBytes_natCast,
    take_of_length_le (Nat.le_of_eq (Bits.leBytes_length _ _))]

/-- The connection with the key of the answer. -/
def keyed (sha1 : Bytes → Bytes) (a : AuthSocket) (A : BigNumber) : AuthSocket :=
  { a with K := sessionKeyOf sha1 A a }

theorem handleLogonProof_answer {later : Surroundings} {lp : LogonProof}
    (read : recvLogonProof later.input = some lp) (valid : a.expversion ≠ noValidExpFlag)
    (nonzero : BigNumber.setBinary lp.A ≠ 0) :
    handleLogonProof sha1 collate later a =
      let A := BigNumber.setBinary lp.A
      let M := BigNumber.setBinary (sha1 (matchingText sha1 A (keyed sha1 a A)))
      if (BigNumber.digestBytes M ++ later.heap).take 20 = lp.M1 then
        ({ keyed sha1 a A with authed := true },
          [.updLogonproof (BigNumber.asHexStr (sessionKeyOf sha1 A a)) a.remoteAddress
            (localeByName later a.localizationName) a.os a.login,
           .sent (proofPacket sha1 A M (keyed sha1 a A))])
      else (keyed sha1 a A, .sent [authLogonProof, wowFailUnknownAccount, 3, 0] ::
        wrongPassword collate later (keyed sha1 a A)) := by
  unfold handleLogonProof
  simp only [read, if_neg valid, if_neg nonzero]
  rfl

theorem setBinary_publicA {p : Parameters} (isG : p.g = g) (isN : p.N = N) :
    BigNumber.setBinary (fixedBytes 32 (c.publicA p)) = c.publicA p := by
  obtain ⟨A, isA, small⟩ := @publicA_spec c p isG isN
  rw [isA, setBinary_fixedBytes small]

theorem Honest.succeeds (honest : Honest sha1 collate around a c ch row salt b)
    (full : NoLeadingZeros sha1 c (c.exchange sha1 salt b)) : Succeeds sha1 collate around a c := by
  have drawn := honest.drawn
  have isB := honest.public_exchange full.salt
  have reads := honest.read_exchange full.salt full.B
  have isV := drawn.verifier.trans (honest.verifier_eq full.salt)
  have state := congrArg Prod.fst honest.challenged
  refine ⟨_, (honest.sends _).mpr rfl, ?_⟩
  intro later rest long isInput
  dsimp only at state
  rw [state]
  rw [reads] at isInput ⊢
  generalize drawChallenge sha1 around ch row (named a ch) = socket at drawn isB isV
  have key := sessionKey_eq full isV isB drawn.isSecret
  have read : recvLogonProof later.input = _ := isInput ▸ recv_answer honest.digests long
  have isA := @setBinary_publicA c (c.exchange sha1 salt b) rfl rfl
  have nonzero : BigNumber.setBinary (fixedBytes 32 (c.publicA (c.exchange sha1 salt b))) ≠ 0 :=
    isA.trans_ne (publicA_ne_zero rfl rfl)
  have text := @matchingText_eq sha1 (keyed sha1 socket (c.publicA (c.exchange sha1 salt b))) c salt b
    full honest.digests honest.saltSmall drawn.isSalt isB drawn.login key
  have digest : (sha1 (c.proofText sha1 (c.exchange sha1 salt b))).length = 20 := honest.digests _
  have fullM := full.M
  rw [← digest] at fullM
  have shown := digestBytes_setBinary (by omega) fullM
  rw [handleLogonProof_answer read drawn.valid nonzero]
  simp only [isA, text, shown]
  have compared : (sha1 (c.proofText sha1 (c.exchange sha1 salt b)) ++ later.heap).take 20 =
      c.M1 sha1 (c.exchange sha1 salt b) := take_left' digest
  rw [if_pos compared]
  refine ⟨rfl, key, _, _, _, _, _, mem_cons_self, fun old => ?_⟩
  rw [key]
  exact (BigNumber.setHexStr_asHexStr old _).trans key.symm

theorem take_of_anyHeap {text other : Bytes} {count : Nat} (small : text.length ≤ count)
    (same : ∀ heap, (text ++ heap).take count = other) : text.length = count ∧ text = other := by
  have whole : text.length = count := by
    by_contra short
    have zeros := same (List.replicate count 0)
    have ones := same (List.replicate count 1)
    rw [← ones, take_append, take_append, append_cancel_left_eq, take_replicate,
      take_replicate, Nat.min_eq_left (Nat.sub_le _ _)] at zeros
    have some_ : count - text.length ≠ 0 := by omega
    obtain ⟨n, isSucc⟩ := Nat.exists_eq_succ_of_ne_zero some_
    rw [isSucc, replicate_succ, replicate_succ] at zeros
    exact absurd (List.cons.inj zeros).1 (by decide)
  have nothing := same []
  rw [append_nil, take_of_length_le small] at nothing
  exact ⟨whole, nothing⟩

theorem proofText_length {p : Parameters} (digests : ∀ text, (sha1 text).length = 20) :
    (c.proofText sha1 p).length = 176 := by
  have mask := @mask_length sha1 p digests
  have key := @sessionKey_length sha1 c p digests
  simp only [Client.proofText, length_append, fixedBytes_length, mask, key, digests]

theorem matchingText_widths {p : Parameters} (digests : ∀ text, (sha1 text).length = 20)
    (isG : p.g = g) (isN : p.N = N) (isS : ∃ n : Nat, a.s = n ∧ n < 256 ^ 32)
    (isB : ∃ n : Nat, a.B = n ∧ n < 256 ^ 32)
    (isK : a.K = BigNumber.setBinary (c.sessionKey sha1 p))
    (same : matchingText sha1 (c.publicA p) a = c.proofText sha1 p) :
    BigNumber.Full 20 (Bits.leValue (Client.mask sha1 p)) ∧ BigNumber.Full 32 a.s.natAbs ∧
      BigNumber.Full 32 (c.publicA p).natAbs ∧ BigNumber.Full 32 a.B.natAbs ∧
      BigNumber.Full 40 (Bits.leValue (c.sessionKey sha1 p)) := by
  have length := congrArg List.length same
  obtain ⟨A, isA, smallA⟩ := @publicA_spec c p isG isN
  obtain ⟨s, isS, smallS⟩ := isS
  obtain ⟨B, isB, smallB⟩ := isB
  have smallM := Bits.leValue_lt (Client.mask sha1 p)
  have smallK := Bits.leValue_lt (c.sessionKey sha1 p)
  rw [mask_length digests] at smallM
  rw [sessionKey_length digests] at smallK
  simp only [matchingText, length_append, digests, proofText_length digests, mask_eq isG isN, isA,
    isS, isB, isK] at length
  have mask := BigNumber.digestBytes_le smallM
  have salt := BigNumber.digestBytes_le smallS
  have client := BigNumber.digestBytes_le smallA
  have server := BigNumber.digestBytes_le smallB
  have key := BigNumber.digestBytes_le smallK
  unfold BigNumber.setBinary at length
  simp only [isA, isS, isB, Int.natAbs_natCast]
  exact ⟨BigNumber.full_of_length (by decide) smallM (by omega),
    BigNumber.full_of_length (by decide) smallS (by omega),
    BigNumber.full_of_length (by decide) smallA (by omega),
    BigNumber.full_of_length (by decide) smallB (by omega),
    BigNumber.full_of_length (by decide) smallK (by omega)⟩

theorem updLogonproof_not_mem {later : Surroundings} {key lastIp os login : Bytes} {locale : Nat} :
    .updLogonproof key lastIp locale os login ∉
      .sent [authLogonProof, wowFailUnknownAccount, 3, 0] :: wrongPassword collate later a := by
  unfold wrongPassword
  split
  · simp
  split
  · simp
  · split_ifs <;> simp

theorem Drawn.number (drawn : Drawn sha1 a c row salt b) : ∃ B : Nat, a.B = B ∧ B < 256 ^ 32 := by
  rw [drawn.isPublic, drawn.verifier]
  show ∃ B : Nat, publicB (BigNumber.modExp g (Bits.leValue _ : Nat) N) b = B ∧ _
  rw [publicB_eq]
  exact remainder_N _

/-- What the server and the client share when the proof is accepted whatever lies behind `M`. -/
theorem accepted_shares {p : Parameters} (digests : ∀ text, (sha1 text).length = 20)
    (isG : p.g = g) (isN : p.N = N) (valid : a.expversion ≠ noValidExpFlag)
    (accepts : ∀ (later : Surroundings) (rest : Bytes), 22 ≤ rest.length →
      later.input = c.answer sha1 p rest →
      (handleLogonProof sha1 collate later a).1.K = BigNumber.setBinary (c.sessionKey sha1 p) ∧
        ∃ key lastIp locale os login, .updLogonproof key lastIp locale os login ∈
          (handleLogonProof sha1 collate later a).2) (around : Surroundings) :
    sessionKeyOf sha1 (c.publicA p) a = BigNumber.setBinary (c.sessionKey sha1 p) ∧
      sha1 (matchingText sha1 (c.publicA p) (keyed sha1 a (c.publicA p))) =
        sha1 (c.proofText sha1 p) ∧
      BigNumber.Full 20 (Bits.leValue (c.M1 sha1 p)) := by
  have isA := @setBinary_publicA c p isG isN
  have nonzero : BigNumber.setBinary (fixedBytes 32 (c.publicA p)) ≠ 0 :=
    isA.trans_ne (publicA_ne_zero isG isN)
  have compared : ∀ heap, (BigNumber.digestBytes (BigNumber.setBinary (sha1 (matchingText sha1
      (c.publicA p) (keyed sha1 a (c.publicA p))))) ++ heap).take 20 = c.M1 sha1 p ∧
      sessionKeyOf sha1 (c.publicA p) a = BigNumber.setBinary (c.sessionKey sha1 p) := by
    intro heap
    have long : 22 ≤ (List.replicate 22 (0 : UInt8)).length := by simp
    obtain ⟨later, isInput, rfl⟩ : ∃ later : Surroundings,
        later.input = c.answer sha1 p (List.replicate 22 0) ∧ later.heap = heap :=
      ⟨{ around with input := c.answer sha1 p (List.replicate 22 0), heap := heap }, rfl, rfl⟩
    obtain ⟨key, _, _, _, _, _, stored⟩ := accepts later _ long isInput
    have read : recvLogonProof later.input = _ := isInput ▸ recv_answer digests long
    rw [handleLogonProof_answer read valid nonzero] at key stored
    simp only [isA] at key stored
    split at stored
    · rename_i same
      rw [if_pos same] at key
      exact ⟨same, key⟩
    · exact absurd stored updLogonproof_not_mem
  have digest := digests (matchingText sha1 (c.publicA p) (keyed sha1 a (c.publicA p)))
  generalize sha1 (matchingText sha1 (c.publicA p) (keyed sha1 a (c.publicA p))) = M
    at compared digest ⊢
  have fits := Bits.leValue_lt M
  rw [digest] at fits
  obtain ⟨whole, same⟩ := take_of_anyHeap (BigNumber.digestBytes_le fits) fun heap => (compared heap).1
  have full := BigNumber.full_of_length (by decide) fits whole
  have fullM : BigNumber.Full M.length (Bits.leValue M) := by
    rw [digest]
    exact full
  have shown : M = c.M1 sha1 p := (digestBytes_setBinary (by omega) fullM).symm.trans same
  exact ⟨(compared []).2, shown, shown ▸ full⟩

theorem halves_of_key {A : BigNumber} {p : Parameters} (digests : ∀ text, (sha1 text).length = 20)
    (key : sessionKeyOf sha1 A a = BigNumber.setBinary (c.sessionKey sha1 p)) :
    sha1 (evens (premasterBytes sha1 A a)) = sha1 (evens (fixedBytes 32 (c.premaster sha1 p))) ∧
      sha1 (odds (premasterBytes sha1 A a)) = sha1 (odds (fixedBytes 32 (c.premaster sha1 p))) := by
  have values : Bits.leValue _ = Bits.leValue _ := Int.ofNat.inj key
  have lists := Bits.leValue_injective ((interleave_length (digests _) (digests _)).trans
    (sessionKey_length digests).symm) values
  have server := evens_interleave ((digests (evens (premasterBytes sha1 A a))).trans
    (digests (odds (premasterBytes sha1 A a))).symm)
  have client := evens_interleave ((digests (evens (fixedBytes 32 (c.premaster sha1 p)))).trans
    (digests (odds (fixedBytes 32 (c.premaster sha1 p)))).symm)
  exact ⟨server.1.symm.trans ((congrArg evens lists).trans client.1),
    server.2.symm.trans ((congrArg odds lists).trans client.2)⟩

/-- A logon that succeeds, where SHA-1 tells the texts apart, has no number that loses its width. -/
theorem Honest.full (honest : Honest sha1 collate around a c ch row salt b)
    (distinguishes : Distinguishes sha1 collate around a c)
    (succeeds : Succeeds sha1 collate around a c) :
    NoLeadingZeros sha1 c (c.exchange sha1 salt b) := by
  have digests := honest.digests
  have drawn := honest.drawn
  have state := congrArg Prod.fst honest.challenged
  dsimp only at state
  obtain ⟨packet, sent, accepts⟩ := succeeds
  have apart := distinguishes packet sent
  obtain rfl := (honest.sends packet).mp sent
  rw [state] at accepts apart
  obtain ⟨B, isB, smallB⟩ := drawn.number
  obtain ⟨more, reads⟩ := @read_challenge around _ B isB smallB
  have isG := congrArg Parameters.g reads
  have isN := congrArg Parameters.N reads
  obtain ⟨key, same, fullM⟩ := accepted_shares digests isG isN drawn.valid
    (fun later rest long isInput => (accepts later rest long isInput).2.imp id fun
      ⟨key, lastIp, locale, os, login, stored, _⟩ => ⟨key, lastIp, locale, os, login, stored⟩) around
  have text := apart _ (by simp [hashedTexts, keyed]) _ (by simp [hashedTexts]) same
  obtain ⟨fullMask, fullSalt, fullA, fullB, fullK⟩ := @matchingText_widths sha1
    (keyed sha1 (drawChallenge sha1 around ch row (named a ch)) _) c _ digests isG isN
    ⟨salt, drawn.isSalt, honest.saltSmall⟩ drawn.number key text
  have fullSalt : BigNumber.Full 32 salt := by
    rw [← Int.natAbs_natCast salt, ← drawn.isSalt]
    exact fullSalt
  have isPublic := honest.public_exchange fullSalt
  have fullB : BigNumber.Full 32 (c.exchange sha1 salt b).B.natAbs := isPublic ▸ fullB
  have exchange := honest.read_exchange fullSalt fullB
  rw [exchange] at apart key fullA fullK fullMask fullM
  have isV := drawn.verifier.trans (honest.verifier_eq fullSalt)
  have agree := premaster_agree isV drawn.isSecret (scrambler_eq isPublic fullA fullB)
  have fullS : BigNumber.Full 32 (c.premaster sha1 (c.exchange sha1 salt b)).natAbs := by
    obtain ⟨even, odd⟩ := halves_of_key digests key
    have evens_ := apart _ (by simp [hashedTexts]) _ (by simp [hashedTexts]) even
    have odds_ := apart _ (by simp [hashedTexts]) _ (by simp [hashedTexts]) odd
    obtain ⟨S, isS, small⟩ := @premaster_spec sha1 c (c.exchange sha1 salt b) rfl
    have nonzero := @premaster_ne_zero sha1 c salt b
    rw [premasterBytes, agree, isS,
      take_of_length_le (Nat.le_of_eq (BigNumber.asByteArray_length small))] at evens_ odds_
    rw [isS] at nonzero ⊢
    have same := evens_odds_injective ((BigNumber.asByteArray_length small).trans
      (fixedBytes_length 32 S).symm) evens_ odds_
    exact BigNumber.full_of_asByteArray (by decide) small (Int.natCast_ne_zero.mp nonzero) same
  exact ⟨fullSalt, fullA, fullB, fullS, fullK, fullMask, fullM⟩

/-- An honest logon succeeds where no number loses its width, and where SHA-1 tells the texts of the
two ends apart it does nowhere else. -/
theorem logon_succeeds_iff (honest : Honest sha1 collate around a c ch row salt b) :
    (NoLeadingZeros sha1 c (c.exchange sha1 salt b) → Succeeds sha1 collate around a c) ∧
      (Distinguishes sha1 collate around a c →
        (Succeeds sha1 collate around a c ↔ NoLeadingZeros sha1 c (c.exchange sha1 salt b))) :=
  ⟨honest.succeeds, fun distinguishes => ⟨honest.full distinguishes, honest.succeeds⟩⟩

end

def lastBytes (text : Bytes) : Bytes := (text.reverse ++ List.replicate 20 1).take 20

theorem lastBytes_length (text : Bytes) : (lastBytes text).length = 20 := by
  rw [lastBytes, length_take, length_append, length_replicate]
  omega

def clientA : Client := ⟨[65], List.replicate 19 0 ++ [0xAB], 2 ^ 151 + 5⟩

/-- The server draws `b`. -/
def drawing (b : Nat) : Surroundings :=
  { plainSurroundings (challengeInput authLogonChallenge) with randB := b }

def challengeA : LogonChallenge where
  build := 17399
  os := [110, 105, 87]
  country := [0, 0, 0, 0]
  login := [65]

theorem drawing_honest (b : Nat) : Honest lastBytes id (drawing b) (accepted [49]) clientA challengeA
    storedAccount (2 ^ 255 + 1) b where
  digests := lastBytes_length
  read := by
    show recvChallenge (challengeInput authLogonChallenge) = some challengeA
    decide +kernel
  os := by decide
  build := by decide
  login := rfl
  unbanned := by
    show (plainSurroundings []).db.selIpBanned id [49] = false
    decide +kernel
  found := by
    show (plainSurroundings []).db.accountByName id [65] = some storedAccount
    decide +kernel
  unlocked := by decide +kernel
  allowed := by
    show (plainSurroundings []).db.selAccountBanned 1 = none
    decide +kernel
  hashLength := by decide
  hash := by decide +kernel
  saltSmall := by decide +kernel
  isSalt := rfl
  verifier := rfl
  isSecret := rfl

theorem clientA_full :
    NoLeadingZeros lastBytes clientA (clientA.exchange lastBytes (2 ^ 255 + 1) (2 ^ 151 + 1)) where
  salt := by decide +kernel
  A := by decide +kernel
  B := by decide +kernel
  S := by decide +kernel
  K := by decide +kernel
  mask := by decide +kernel
  M := by decide +kernel

theorem clientA_distinguishes :
    Distinguishes lastBytes id (drawing (2 ^ 151 + 1)) (accepted [49]) clientA := by
  intro packet sent
  obtain rfl := ((drawing_honest (2 ^ 151 + 1)).sends packet).mp sent
  decide +kernel

theorem logon_succeeds_iff_clientA :
    Honest lastBytes id (drawing (2 ^ 151 + 1)) (accepted [49]) clientA challengeA storedAccount
      (2 ^ 255 + 1) (2 ^ 151 + 1) ∧
      Distinguishes lastBytes id (drawing (2 ^ 151 + 1)) (accepted [49]) clientA ∧
      Succeeds lastBytes id (drawing (2 ^ 151 + 1)) (accepted [49]) clientA := by
  have both := logon_succeeds_iff (drawing_honest (2 ^ 151 + 1))
  exact ⟨drawing_honest _, clientA_distinguishes, (both.2 clientA_distinguishes).mpr clientA_full⟩

/-- The most significant byte of `B` is zero: the client reads another number. -/
theorem logon_fails : ¬ ∀ (sha1 : Bytes → Bytes) (collate : Bytes → Bytes) (around : Surroundings)
    (a : AuthSocket) (c : Client) (ch : LogonChallenge) (row : Account) (salt b : Nat),
    Honest sha1 collate around a c ch row salt b → Succeeds sha1 collate around a c := by
  intro claim
  have honest := drawing_honest (2 ^ 151 + 239)
  obtain ⟨packet, sent, accepts⟩ := claim _ _ _ _ _ _ _ _ _ honest
  obtain rfl := (honest.sends packet).mp sent
  have authed := (accepts (plainSurroundings _) (List.replicate 22 0) (by decide) rfl).1
  exact absurd authed (by decide +kernel)

end OpenWoW.AuthSocket
