import OpenWoW.AuthSocketInput

/-! The login commands do not depend on how their bytes are cut, with two exceptions. -/
namespace OpenWoW.AuthSocket

open List

/-- A command that no handler of the table is for. -/
def isUnknown (a : AuthSocket) (input : Bytes) : Bool :=
  match input with
  | [] => false
  | cmd :: _ =>
    !(cmd = authLogonChallenge || cmd = authLogonProof || cmd = authReconnectChallenge ||
      cmd = authReconnectProof || cmd = realmListCmd && a.authed || cmd = xferAccept ||
      cmd = xferResume || cmd = xferCancel)

def isChallenge (input : Bytes) : Bool :=
  match input with
  | [] => false
  | cmd :: _ => cmd = authLogonChallenge || cmd = authReconnectChallenge

theorem recvChallenge_isSome (input : Bytes) :
    (recvChallenge input).isSome ↔
      35 ≤ input.length ∧ 31 ≤ remaining input ∧ remaining input + 4 ≤ input.length := by
  unfold recvChallenge remaining
  split
  · rename_i short
    exact iff_of_false Bool.false_ne_true (fun whole => absurd whole.1 (not_le.mpr short))
  rename_i long
  simp only
  split
  · rename_i short
    refine iff_of_false Bool.false_ne_true (fun whole => ?_)
    omega
  · refine iff_of_true rfl ?_
    omega

theorem challengeConsumes_of {input : Bytes} (whole : (recvChallenge input).isSome) :
    challengeConsumes input = remaining input + 4 := by
  obtain ⟨long, least, there⟩ := (recvChallenge_isSome input).mp whole
  unfold challengeConsumes
  rw [if_neg (by omega), if_neg (by omega)]

theorem recvConsumes_of {size : Nat} {input : Bytes} (whole : size ≤ input.length) :
    recvConsumes size input = size := if_neg (not_lt.mpr whole)

theorem remaining_append {input : Bytes} (long : 4 ≤ input.length) (more : Bytes) :
    remaining (input ++ more) = remaining input := by
  unfold remaining
  rw [drop_append_of_le_length (by omega), take_append_of_le_length]
  rw [length_drop]
  omega

theorem recvChallenge_append {input : Bytes} (whole : (recvChallenge input).isSome) (more : Bytes) :
    recvChallenge (input ++ more) = recvChallenge input := by
  obtain ⟨long, least, there⟩ := (recvChallenge_isSome input).mp whole
  have same := remaining_append (by omega : 4 ≤ input.length) more
  unfold remaining at same least there
  have length : (input ++ more).length = input.length + more.length := length_append
  unfold recvChallenge
  rw [if_neg (by omega : ¬ (input ++ more).length < 35), if_neg (by omega : ¬ input.length < 35)]
  simp only [same]
  rw [if_neg (by omega : ¬ (_ ∨ (input ++ more).length - 4 < _)),
    if_neg (by omega : ¬ (_ ∨ input.length - 4 < _)), take_append_of_le_length there]

theorem recvLogonProof_append {input : Bytes} (whole : 75 ≤ input.length) (more : Bytes) :
    recvLogonProof (input ++ more) = recvLogonProof input := by
  have length : (input ++ more).length = input.length + more.length := length_append
  unfold recvLogonProof
  rw [if_neg (by omega : ¬ (input ++ more).length < 75), if_neg (by omega : ¬ input.length < 75),
    drop_append_of_le_length (by omega), drop_append_of_le_length (by omega),
    take_append_of_le_length (by rw [length_drop]; omega),
    take_append_of_le_length (by rw [length_drop]; omega)]

theorem recvReconnectProof_append {input : Bytes} (whole : 58 ≤ input.length) (more : Bytes) :
    recvReconnectProof (input ++ more) = recvReconnectProof input := by
  have length : (input ++ more).length = input.length + more.length := length_append
  unfold recvReconnectProof
  rw [if_neg (by omega : ¬ (input ++ more).length < 58), if_neg (by omega : ¬ input.length < 58),
    drop_append_of_le_length (by omega), drop_append_of_le_length (by omega),
    take_append_of_le_length (by rw [length_drop]; omega),
    take_append_of_le_length (by rw [length_drop]; omega)]

/-- An input whose first packet is there as a whole, by its command. -/
inductive Whole (a : AuthSocket) : Bytes → Prop
  | logonChallenge (rest : Bytes) (whole : (recvChallenge (authLogonChallenge :: rest)).isSome) :
      Whole a (authLogonChallenge :: rest)
  | reconnectChallenge (rest : Bytes) (whole : (recvChallenge (authReconnectChallenge :: rest)).isSome) :
      Whole a (authReconnectChallenge :: rest)
  | logonProof (rest : Bytes) (whole : 75 ≤ (authLogonProof :: rest).length) :
      Whole a (authLogonProof :: rest)
  | reconnectProof (rest : Bytes) (whole : 58 ≤ (authReconnectProof :: rest).length) :
      Whole a (authReconnectProof :: rest)
  | realmList (rest : Bytes) (authed : a.authed = true) (whole : 5 ≤ (realmListCmd :: rest).length) :
      Whole a (realmListCmd :: rest)
  | xferCancel (rest : Bytes) : Whole a (AuthSocket.xferCancel :: rest)

variable {a : AuthSocket} {input : Bytes}

theorem whole_of_complete (complete : isComplete a input = true) : Whole a input := by
  unfold isComplete at complete
  cases input with
  | nil => cases complete
  | cons cmd rest =>
    simp only at complete
    split at complete
    · rename_i challenge
      rcases challenge with rfl | rfl
      · exact .logonChallenge rest complete
      · exact .reconnectChallenge rest complete
    split at complete
    · rename_i logonProof
      subst logonProof
      exact .logonProof rest (of_decide_eq_true complete)
    split at complete
    · rename_i reconnectProof
      subst reconnectProof
      exact .reconnectProof rest (of_decide_eq_true complete)
    split at complete
    · rename_i realmList
      obtain ⟨rfl, authed⟩ := realmList
      exact .realmList rest authed (of_decide_eq_true complete)
    · obtain rfl := of_decide_eq_true complete
      exact .xferCancel rest

theorem Whole.consumes (whole : Whole a input) :
    0 < consumes a input ∧ consumes a input ≤ input.length := by
  cases whole with
  | logonChallenge rest whole | reconnectChallenge rest whole =>
    have count := challengeConsumes_of whole
    obtain ⟨-, -, there⟩ := (recvChallenge_isSome _).mp whole
    change 0 < challengeConsumes _ ∧ challengeConsumes _ ≤ _
    omega
  | logonProof rest whole | reconnectProof rest whole =>
    have count := recvConsumes_of whole
    change 0 < recvConsumes _ _ ∧ recvConsumes _ _ ≤ _
    omega
  | realmList rest authed whole =>
    have count := recvConsumes_of whole
    have taken : AuthSocket.consumes a (realmListCmd :: rest) = recvConsumes 5 (realmListCmd :: rest) :=
      if_pos ⟨rfl, authed⟩
    omega
  | xferCancel rest =>
    exact ⟨Nat.one_pos, Nat.succ_le_succ (Nat.zero_le _)⟩

theorem Whole.append (whole : Whole a input) (more : Bytes) :
    isComplete a (input ++ more) = true ∧
      AuthSocket.consumes a (input ++ more) = AuthSocket.consumes a input := by
  have length : (input ++ more).length = input.length + more.length := length_append
  cases whole with
  | logonChallenge rest whole | reconnectChallenge rest whole =>
    have same := recvChallenge_append whole more
    have whole' := (congrArg Option.isSome same).trans whole
    have kept := remaining_append (le_trans (by omega) ((recvChallenge_isSome _).mp whole).1) more
    refine ⟨whole', ?_⟩
    change challengeConsumes _ = challengeConsumes _
    rw [challengeConsumes_of whole, challengeConsumes_of whole', kept]
  | logonProof rest whole | reconnectProof rest whole =>
    have whole' := le_trans whole (Nat.le.intro length.symm)
    refine ⟨decide_eq_true whole', ?_⟩
    exact (recvConsumes_of whole').trans (recvConsumes_of whole).symm
  | realmList rest authed whole =>
    have whole' := le_trans whole (Nat.le.intro length.symm)
    refine ⟨(if_pos ⟨rfl, authed⟩).trans (decide_eq_true whole'), ?_⟩
    refine (if_pos ⟨rfl, authed⟩).trans ((recvConsumes_of whole').trans ?_)
    exact (recvConsumes_of whole).symm.trans (if_pos ⟨rfl, authed⟩).symm
  | xferCancel rest => exact ⟨rfl, rfl⟩

section

variable (sha1 : Bytes → Bytes) (collate : Bytes → Bytes)

/-- A handler that has its whole packet does not look behind it. -/
theorem Whole.onRead (whole : Whole a input) (more : Bytes) (around : Surroundings) :
    onRead sha1 collate a { around with input := input ++ more } =
        onRead sha1 collate a { around with input := input } ∧
      returns sha1 collate a { around with input := input ++ more } =
        returns sha1 collate a { around with input := input } := by
  cases whole with
  | logonChallenge rest whole =>
    have same := recvChallenge_append whole more
    constructor
    · change handleLogonChallenge _ _ _ _ = handleLogonChallenge _ _ _ _
      unfold handleLogonChallenge
      simp only [same]
      rfl
    · change logonChallengeReturns _ = logonChallengeReturns _
      unfold logonChallengeReturns
      rw [same]
  | reconnectChallenge rest whole =>
    have same := recvChallenge_append whole more
    constructor
    · change handleReconnectChallenge _ _ _ = handleReconnectChallenge _ _ _
      unfold handleReconnectChallenge
      simp only [same]
    · change reconnectChallengeReturns _ _ = reconnectChallengeReturns _ _
      unfold reconnectChallengeReturns
      simp only [same]
  | logonProof rest whole =>
    have same := recvLogonProof_append whole more
    constructor
    · change handleLogonProof _ _ _ _ = handleLogonProof _ _ _ _
      unfold handleLogonProof
      simp only [same]
      rfl
    · exact congrArg Option.isSome same
  | reconnectProof rest whole =>
    have same := recvReconnectProof_append whole more
    constructor
    · change handleReconnectProof _ _ _ = handleReconnectProof _ _ _
      unfold handleReconnectProof
      simp only [same]
    · change reconnectProofReturns _ _ _ = reconnectProofReturns _ _ _
      unfold reconnectProofReturns
      rw [same]
  | realmList rest authed whole =>
    have length : (realmListCmd :: rest ++ more).length =
        (realmListCmd :: rest).length + more.length := length_append
    have whole' := le_trans whole (Nat.le.intro length.symm)
    constructor
    · refine (if_pos ⟨rfl, authed⟩).trans (Eq.trans ?_ (if_pos ⟨rfl, authed⟩).symm)
      unfold handleRealmList
      simp only [if_neg (not_lt.mpr whole), if_neg (not_lt.mpr whole')]
      rfl
    · refine (if_pos ⟨rfl, authed⟩).trans (Eq.trans ?_ (if_pos ⟨rfl, authed⟩).symm)
      rw [decide_eq_true whole, decide_eq_true whole']
  | xferCancel rest => exact ⟨rfl, rfl⟩

/-- The handler of the packet at the head returns false without a shutdown, or true after one. -/
def pauses (around : Surroundings) (a : AuthSocket) : Bool :=
  match around.input with
  | [] => false
  | cmd :: _ =>
    if cmd = authLogonChallenge then
      (recvChallenge around.input).any fun ch => 4 < ch.os.length
    else if cmd = authReconnectChallenge then
      (recvChallenge around.input).any fun ch =>
        4 < ch.os.length && (around.db.accountByName collate ch.login).isSome
    else if cmd = authLogonProof then
      (recvLogonProof around.input).any fun lp =>
        a.expversion = noValidExpFlag || BigNumber.setBinary lp.A = 0
    else if cmd = authReconnectProof then
      (recvReconnectProof around.input).isSome && lacksSession a
    else cmd = xferCancel

theorem handleLogonChallenge_stays (around : Surroundings) :
    (handleLogonChallenge sha1 collate around a).2.contains .shutdown = false := by
  unfold handleLogonChallenge
  split
  · rfl
  simp only
  split
  · rfl
  split
  · rfl
  split
  · rfl
  split
  · rfl
  split
  · rfl
  · unfold updVSEvents
    split <;> rfl

variable {around : Surroundings}

theorem handleReconnectChallenge_shutdown {ch : LogonChallenge}
    (whole : recvChallenge around.input = some ch) :
    (handleReconnectChallenge collate around a).2.contains .shutdown =
      (around.db.accountByName collate ch.login).isNone := by
  unfold handleReconnectChallenge
  rw [whole]
  simp only
  cases around.db.accountByName collate ch.login with
  | none => rfl
  | some row =>
    simp only
    split <;> rfl

theorem wrongPassword_stays (around : Surroundings) :
    (wrongPassword collate around a).contains .shutdown = false := by
  unfold wrongPassword
  split
  · rfl
  split
  · rfl
  split
  · rfl
  · split <;> rfl

theorem handleLogonProof_shutdown {lp : LogonProof}
    (whole : recvLogonProof around.input = some lp) :
    (handleLogonProof sha1 collate around a).2.contains .shutdown =
      (a.expversion = noValidExpFlag || BigNumber.setBinary lp.A = 0) := by
  unfold handleLogonProof
  rw [whole]
  simp only
  by_cases old : a.expversion = noValidExpFlag
  · rw [if_pos old, decide_eq_true old]
    rfl
  rw [if_neg old, decide_eq_false old]
  by_cases zero : BigNumber.setBinary lp.A = 0
  · rw [if_pos zero, decide_eq_true zero]
    rfl
  rw [if_neg zero, decide_eq_false zero]
  split
  · rfl
  · exact wrongPassword_stays collate around

theorem handleReconnectProof_shutdown {lp : ReconnectProof}
    (whole : recvReconnectProof around.input = some lp) (session : lacksSession a = false) :
    (handleReconnectProof sha1 around a).2.contains .shutdown =
      !reconnectProofReturns sha1 a around.input := by
  unfold handleReconnectProof reconnectProofReturns
  rw [whole]
  simp only
  rw [if_neg (of_decide_eq_false session), session]
  simp only [Bool.false_eq_true, ↓reduceIte]
  split
  · rename_i same
    rw [decide_eq_true same]
    rfl
  rename_i other
  rw [decide_eq_false other]
  rfl

theorem handleRealmList_shutdown (whole : 5 ≤ around.input.length) :
    (handleRealmList collate around a).2.contains .shutdown =
      (around.db.accountByName collate a.login).isNone := by
  unfold handleRealmList
  rw [if_neg (not_lt.mpr whole)]
  cases around.db.accountByName collate a.login <;> rfl

/-- A whole packet stops the loop and the connection, or neither, or it pauses. -/
theorem Whole.pauses_of (whole : Whole a input)
    (steady : pauses collate { around with input := input } a = false) :
    returns sha1 collate a { around with input := input } =
      !(AuthSocket.onRead sha1 collate a { around with input := input }).2.contains .shutdown := by
  cases whole with
  | logonChallenge rest whole =>
    obtain ⟨ch, whole⟩ := Option.isSome_iff_exists.mp whole
    have short : ¬ 4 < ch.os.length := by
      change (recvChallenge (authLogonChallenge :: rest)).any _ = false at steady
      rw [whole] at steady
      exact of_decide_eq_false steady
    refine Eq.trans (b := true) ?_ (congrArg (!·) (handleLogonChallenge_stays ..)).symm
    change logonChallengeReturns _ = true
    unfold logonChallengeReturns
    rw [whole]
    exact decide_eq_true (not_lt.mp short)
  | reconnectChallenge rest whole =>
    obtain ⟨ch, whole⟩ := Option.isSome_iff_exists.mp whole
    have pause : (4 < ch.os.length && (around.db.accountByName collate ch.login).isSome) = false := by
      change (recvChallenge (authReconnectChallenge :: rest)).any _ = false at steady
      rw [whole] at steady
      exact steady
    refine Eq.trans ?_ (congrArg (!·) (handleReconnectChallenge_shutdown collate whole)).symm
    change reconnectChallengeReturns _ _ = _
    unfold reconnectChallengeReturns
    rw [whole]
    simp only
    cases account : around.db.accountByName collate ch.login with
    | none => rfl
    | some row =>
      rw [account, Option.isSome_some, Bool.and_true] at pause
      exact decide_eq_true (not_lt.mp (of_decide_eq_false pause))
  | logonProof rest whole =>
    obtain ⟨lp, whole⟩ : ∃ lp, recvLogonProof (authLogonProof :: rest) = some lp :=
      ⟨_, if_neg (not_lt.mpr whole)⟩
    have pause : (a.expversion = noValidExpFlag || BigNumber.setBinary lp.A = 0 : Bool) = false := by
      change (recvLogonProof (authLogonProof :: rest)).any _ = false at steady
      rw [whole] at steady
      exact steady
    refine Eq.trans (b := true) (congrArg Option.isSome whole) ?_
    refine (congrArg (!·) ((handleLogonProof_shutdown sha1 collate whole).trans pause)).symm
  | reconnectProof rest whole =>
    obtain ⟨lp, whole⟩ : ∃ lp, recvReconnectProof (authReconnectProof :: rest) = some lp :=
      ⟨_, if_neg (not_lt.mpr whole)⟩
    have session : lacksSession a = false := by
      change ((recvReconnectProof (authReconnectProof :: rest)).isSome && _) = false at steady
      rw [whole] at steady
      exact steady
    refine Eq.trans ?_ (congrArg (!·) (handleReconnectProof_shutdown sha1 whole session)).symm
    exact (Bool.not_not _).symm
  | realmList rest authed whole =>
    have read : AuthSocket.onRead sha1 collate a { around with input := realmListCmd :: rest } =
        handleRealmList collate { around with input := realmListCmd :: rest } a :=
      if_pos ⟨rfl, authed⟩
    rw [read, handleRealmList_shutdown collate whole]
    refine (if_pos ⟨rfl, authed⟩).trans ?_
    rw [decide_eq_true whole, Bool.true_and, Option.not_isNone]
  | xferCancel rest => cases steady

theorem recvChallenge_none {input : Bytes} (incomplete : (recvChallenge input).isSome = false) :
    recvChallenge input = none :=
      Option.isNone_iff_eq_none.mp (by rw [← Option.not_isSome, incomplete]; rfl)

theorem challengeConsumes_none {input : Bytes} (incomplete : (recvChallenge input).isSome = false) :
    challengeConsumes input = if 35 ≤ input.length then 4 else 0 := by
  have short : ¬ (35 ≤ input.length ∧ 31 ≤ remaining input ∧ remaining input + 4 ≤ input.length) :=
    fun whole => absurd ((recvChallenge_isSome input).mpr whole)
      (by rw [incomplete]; exact Bool.false_ne_true)
  unfold challengeConsumes
  split
  · rename_i few
    rw [if_neg (not_le.mpr few)]
  · rename_i enough
    rw [if_pos (not_lt.mp enough), if_pos (by omega)]

/-- Without its whole packet a handler returns false and does nothing, and only the challenges consume
something. -/
theorem incomplete_turn (incomplete : isComplete a input = false) (around : Surroundings) :
    AuthSocket.onRead sha1 collate a { around with input := input } =
        (a, if isUnknown a input then [.shutdown] else []) ∧
      returns sha1 collate a { around with input := input } = false ∧
      consumes a input = if isChallenge input ∧ 35 ≤ input.length then 4 else 0 := by
  cases input with
  | nil => exact ⟨rfl, rfl, rfl⟩
  | cons cmd rest =>
    unfold isComplete at incomplete
    simp only at incomplete
    split at incomplete
    · rename_i challenge
      have none := recvChallenge_none incomplete
      have count := challengeConsumes_none incomplete
      rcases challenge with rfl | rfl
      · refine ⟨?_, ?_, ?_⟩
        · change handleLogonChallenge _ _ _ _ = _
          unfold handleLogonChallenge
          simp only [none]
          rfl
        · change logonChallengeReturns _ = _
          unfold logonChallengeReturns
          rw [none]
        · change challengeConsumes _ = _
          rw [count]
          exact if_congr (and_iff_right rfl).symm rfl rfl
      · refine ⟨?_, ?_, ?_⟩
        · change handleReconnectChallenge _ _ _ = _
          unfold handleReconnectChallenge
          simp only [none]
          rfl
        · change reconnectChallengeReturns _ _ = _
          unfold reconnectChallengeReturns
          simp only [none]
        · change challengeConsumes _ = _
          rw [count]
          exact if_congr (and_iff_right rfl).symm rfl rfl
    · rename_i challenge
      have quiet : isChallenge (cmd :: rest) = false := by
        unfold isChallenge
        simpa using challenge
      rw [quiet]
      split at incomplete
      · rename_i logonProof
        subst logonProof
        have short := not_le.mp (of_decide_eq_false incomplete)
        have none : recvLogonProof (authLogonProof :: rest) = .none := if_pos short
        refine ⟨?_, congrArg Option.isSome none, if_pos short⟩
        change handleLogonProof _ _ _ _ = _
        unfold handleLogonProof
        simp only [none]
        rfl
      · split at incomplete
        · rename_i reconnectProof
          subst reconnectProof
          have short := not_le.mp (of_decide_eq_false incomplete)
          have none : recvReconnectProof (authReconnectProof :: rest) = .none := if_pos short
          refine ⟨?_, ?_, if_pos short⟩
          · change handleReconnectProof _ _ _ = _
            unfold handleReconnectProof
            simp only [none]
            rfl
          · change reconnectProofReturns _ _ _ = _
            unfold reconnectProofReturns
            rw [none]
        · split at incomplete
          · rename_i realmList
            obtain ⟨rfl, authed⟩ := realmList
            have short := not_le.mp (of_decide_eq_false incomplete)
            have known : isUnknown a (realmListCmd :: rest) = false := by
              unfold isUnknown
              simp [authed]
            rw [known]
            refine ⟨?_, ?_, ?_⟩
            · exact (if_pos ⟨rfl, authed⟩).trans (if_pos short)
            · refine (if_pos ⟨rfl, authed⟩).trans ?_
              rw [decide_eq_false (not_le.mpr short), Bool.false_and]
            · exact (if_pos ⟨rfl, authed⟩).trans (if_pos short)
          · rename_i logonProof reconnectProof realmList
            have cancel := of_decide_eq_false incomplete
            rw [not_or] at challenge
            have unknown : isUnknown a (cmd :: rest) =
                !decide (cmd = xferAccept ∨ cmd = xferResume) := by
              have realm : (decide (cmd = realmListCmd) && a.authed) = false := by
                cases authed : a.authed with
                | false => exact Bool.and_false _
                | true =>
                  rw [Bool.and_true]
                  exact decide_eq_false fun same => realmList ⟨same, authed⟩
              unfold isUnknown
              simp only [challenge, logonProof, reconnectProof, cancel, realm, decide_false,
                Bool.false_or, Bool.or_false, Bool.decide_or]
            rw [unknown]
            refine ⟨?_, ?_, ?_⟩
            · unfold AuthSocket.onRead
              simp only [if_neg challenge.1, if_neg logonProof, if_neg challenge.2,
                if_neg reconnectProof, if_neg realmList]
              by_cases stuck : cmd = xferAccept ∨ cmd = xferResume
              · rw [if_pos stuck, decide_eq_true stuck]
                rfl
              · rw [if_neg stuck, decide_eq_false stuck]
                rfl
            · unfold returns
              simp only [if_neg challenge.1, if_neg logonProof, if_neg challenge.2,
                if_neg reconnectProof, if_neg realmList]
              exact incomplete
            · unfold consumes
              simp only [if_neg (not_or.mpr challenge), if_neg logonProof, if_neg reconnectProof,
                if_neg realmList, if_neg cancel]
              rfl

namespace Reading

variable (env : Nat → Surroundings) {r : Reading}

def followed (r : Reading) (more : Bytes) : Reading := { r with input := r.input ++ more }

@[simp] theorem followed_nil (r : Reading) : r.followed [] = r := by
  unfold followed
  rw [append_nil]

theorem followed_followed (r : Reading) (more others : Bytes) :
    (r.followed more).followed others = r.followed (more ++ others) := by
  unfold followed
  rw [append_assoc]

/-- The command at the head has its whole packet. -/
def complete (r : Reading) : Bool := isComplete r.socket r.input

def unknown (r : Reading) : Bool := isUnknown r.socket r.input

/-- A challenge at the head that is not there as a whole, although its fixed part is. -/
def cutChallenge (r : Reading) : Prop :=
  r.complete = false ∧ isChallenge r.input ∧ 35 ≤ r.input.length

/-- No challenge is cut behind its fixed part, and nothing stands behind a packet that pauses. -/
structure Careful (r : Reading) : Prop where
  whole : ¬ r.cutChallenge
  last : r.complete = true → pauses collate (r.around env) r.socket = true →
    r.input.drop (consumes r.socket r.input) = []

instance decidableCutChallenge (r : Reading) : Decidable r.cutChallenge :=
  inferInstanceAs (Decidable (_ ∧ _ ∧ _))

instance decidableCareful (r : Reading) : Decidable (r.Careful collate env) :=
  decidable_of_iff (¬ r.cutChallenge ∧ (r.complete = true →
      pauses collate (r.around env) r.socket = true →
        r.input.drop (consumes r.socket r.input) = []))
    ⟨fun both => ⟨both.1, both.2⟩, fun careful => ⟨careful.whole, careful.last⟩⟩

theorem turn_followed (complete : r.complete = true) (more : Bytes) :
    (r.followed more).turn sha1 collate env =
      ((r.turn sha1 collate env).1.followed more, (r.turn sha1 collate env).2) := by
  have whole := whole_of_complete complete
  obtain ⟨kept, count⟩ := whole.append more
  obtain ⟨read, returned⟩ := whole.onRead sha1 collate more (env r.handled.length)
  have within := whole.consumes.2
  have complete' : isComplete r.socket r.input = true := complete
  unfold turn followed around
  simp only [read, returned, count, kept, complete', ↓reduceIte,
    drop_append_of_le_length within, take_append_of_le_length within]

theorem turn_waits (incomplete : r.complete = false) (whole : ¬ r.cutChallenge) :
    r.turn sha1 collate env =
      ({ r with
          closed := r.closed || r.unknown
          events := r.events ++ if r.unknown then [.shutdown] else [] }, false) := by
  obtain ⟨read, returned, count⟩ := incomplete_turn sha1 collate incomplete (env r.handled.length)
  have none : ¬ (isChallenge r.input ∧ 35 ≤ r.input.length) := fun cut => whole ⟨incomplete, cut⟩
  have incomplete' : isComplete r.socket r.input = false := incomplete
  unfold turn around
  rw [count, if_neg none]
  simp only [read, returned, incomplete', drop_zero, Bool.false_eq_true, ↓reduceIte]
  unfold unknown
  cases isUnknown r.socket r.input <;> rfl

theorem turn_shrinks (complete : r.complete = true) :
    (r.turn sha1 collate env).1.input.length < r.input.length := by
  obtain ⟨some, within⟩ := (whole_of_complete complete).consumes
  change (r.input.drop (consumes r.socket r.input)).length < _
  rw [length_drop]
  omega

theorem complete_of_returns (goes : (r.turn sha1 collate env).2 = true) : r.complete = true := by
  cases complete : r.complete with
  | true => rfl
  | false =>
    have stops := (incomplete_turn sha1 collate complete (env r.handled.length)).2.1
    exact absurd (goes.symm.trans stops) Bool.false_ne_true.symm

theorem turns_isSome {fuel : Nat} (enough : r.input.length < fuel) :
    (r.turns sha1 collate env fuel).isSome := by
  induction fuel generalizing r with
  | zero => exact absurd enough (Nat.not_lt_zero _)
  | succ fuel ih =>
    unfold turns
    cases turned : r.turn sha1 collate env with
    | mk after goes =>
      cases goes with
      | false => rfl
      | true =>
        have less := turn_shrinks sha1 collate env
          (complete_of_returns sha1 collate env (congrArg Prod.snd turned))
        rw [turned] at less
        exact ih (lt_of_lt_of_le less (Nat.le_of_lt_succ enough))

/-- The connection after a command that no handler is for. -/
def refuse (r : Reading) : Reading :=
  if r.unknown then { r with closed := true, events := r.events ++ [.shutdown] } else r

/-- Packet after packet, whatever the handlers return, until the socket is shut down or the next packet is
not there. -/
def drain : Nat → Reading → Reading
  | 0, r => r
  | fuel + 1, r =>
    if r.closed then r
    else if r.complete then drain fuel (r.turn sha1 collate env).1
    else r.refuse

def drained (r : Reading) : Reading := drain sha1 collate env (r.input.length + 1) r

theorem drain_fuel {fuel other : Nat} (enough : r.input.length < fuel)
    (enough' : r.input.length < other) :
    drain sha1 collate env fuel r = drain sha1 collate env other r := by
  induction fuel generalizing r other with
  | zero => exact absurd enough (Nat.not_lt_zero _)
  | succ fuel ih =>
    cases other with
    | zero => exact absurd enough' (Nat.not_lt_zero _)
    | succ other =>
      unfold drain
      split
      · rfl
      split
      · rename_i complete
        have less := turn_shrinks sha1 collate env complete
        exact ih (by omega) (by omega)
      · rfl

theorem drained_closed (closed : r.closed = true) : r.drained sha1 collate env = r := if_pos closed

theorem drained_complete (alive : r.closed = false) (complete : r.complete = true) :
    r.drained sha1 collate env = (r.turn sha1 collate env).1.drained sha1 collate env := by
  have less := turn_shrinks sha1 collate env complete
  refine (if_neg (by rw [alive]; exact Bool.false_ne_true)).trans ((if_pos complete).trans ?_)
  exact drain_fuel sha1 collate env less (Nat.lt_succ_self _)

theorem drained_waits (alive : r.closed = false) (incomplete : r.complete = false) :
    r.drained sha1 collate env = r.refuse :=
  (if_neg (by rw [alive]; exact Bool.false_ne_true)).trans
    (if_neg (by rw [incomplete]; exact Bool.false_ne_true))

theorem unknown_followed (unknown : r.unknown = true) (more : Bytes) :
    (r.followed more).unknown = true ∧ (r.followed more).complete = false := by
  unfold Reading.unknown Reading.complete followed at *
  cases input : r.input with
  | nil =>
    rw [input] at unknown
    cases unknown
  | cons cmd rest =>
    rw [input] at unknown
    refine ⟨unknown, ?_⟩
    simp only [isUnknown, Bool.not_eq_true', Bool.or_eq_false_iff, decide_eq_false_iff_not,
      Bool.and_eq_false_iff] at unknown
    obtain ⟨⟨⟨⟨⟨⟨⟨logon, proof⟩, reconnect⟩, reconnectProof⟩, realm⟩, -⟩, -⟩, cancel⟩ := unknown
    have noRealm : ¬ (cmd = realmListCmd ∧ r.socket.authed = true) := by
      rintro ⟨same, authed⟩
      rcases realm with other | no
      · exact other same
      · exact Bool.false_ne_true (no.symm.trans authed)
    simp only [isComplete, cons_append, logon, proof, reconnect, reconnectProof, cancel,
      if_neg noRealm, or_self, ↓reduceIte, decide_false]

theorem drained_turn (alive : r.closed = false) (whole : ¬ r.cutChallenge) (more : Bytes) :
    ((r.turn sha1 collate env).1.followed more).drained sha1 collate env =
      (r.followed more).drained sha1 collate env := by
  cases complete : r.complete with
  | true =>
    have complete' : (r.followed more).complete = true :=
      ((whole_of_complete complete).append more).1
    have turned := congrArg Prod.fst (turn_followed sha1 collate env complete more)
    rw [drained_complete sha1 collate env (r := r.followed more) alive complete', turned]
  | false =>
    rw [turn_waits sha1 collate env complete whole]
    cases unknown : r.unknown with
    | false =>
      simp only [Bool.or_false, Bool.false_eq_true, ↓reduceIte, append_nil]
    | true =>
      obtain ⟨unknown', incomplete⟩ := unknown_followed unknown more
      rw [drained_waits sha1 collate env (r := r.followed more) alive incomplete]
      simp only [Bool.or_true, ↓reduceIte]
      refine (drained_closed sha1 collate env rfl).trans ?_
      unfold refuse
      rw [if_pos unknown']
      rfl

/-- Nothing more can be done with the input of the connection. -/
def Settled (r : Reading) : Prop := r.closed = true ∨ r.complete = false ∧ r.unknown = false

theorem drained_settled (settled : r.Settled) : r.drained sha1 collate env = r := by
  cases closed : r.closed with
  | true => exact drained_closed sha1 collate env closed
  | false =>
    rcases settled with closed' | ⟨incomplete, known⟩
    · exact absurd (closed.symm.trans closed') Bool.false_ne_true
    · rw [drained_waits sha1 collate env closed incomplete]
      exact if_neg (by rw [known]; exact Bool.false_ne_true)

theorem quiet_of_empty (empty : r.input = []) : r.complete = false ∧ r.unknown = false := by
  unfold complete unknown
  rw [empty]
  exact ⟨rfl, rfl⟩

/-- The connections that the turns of one `OnRead` start from. -/
def visited : Nat → Reading → List Reading
  | 0, _ => []
  | fuel + 1, r =>
    r :: match r.turn sha1 collate env with
      | (after, true) => visited fuel after
      | (_, false) => []

theorem turns_empty {fuel : Nat} {after : Reading} (empty : r.input = [])
    (ended : r.turns sha1 collate env fuel = some after) : after = r := by
  cases fuel with
  | zero => cases ended
  | succ fuel =>
    obtain ⟨incomplete, known⟩ := quiet_of_empty empty
    have whole : ¬ r.cutChallenge := by
      rintro ⟨-, challenge, -⟩
      rw [empty] at challenge
      cases challenge
    unfold turns at ended
    rw [turn_waits sha1 collate env incomplete whole, known] at ended
    simp only [Bool.or_false, Bool.false_eq_true, ↓reduceIte, append_nil, Option.some.injEq]
      at ended
    exact ended.symm

theorem turn_steady (alive : r.closed = false) (complete : r.complete = true)
    (steady : pauses collate (r.around env) r.socket = false) :
    (r.turn sha1 collate env).2 = !(r.turn sha1 collate env).1.closed := by
  have goes := (whole_of_complete complete).pauses_of sha1 collate steady
  have closed : (r.turn sha1 collate env).1.closed =
      (r.closed || (AuthSocket.onRead sha1 collate r.socket (r.around env)).2.contains .shutdown) := rfl
  rw [closed, alive, Bool.false_or]
  exact goes

/-- `OnRead` does what the whole stream asks for, and leaves nothing undone. -/
theorem turns_drained {fuel : Nat} {after : Reading} (alive : r.closed = false)
    (careful : ∀ met ∈ r.visited sha1 collate env fuel, met.Careful collate env)
    (ended : r.turns sha1 collate env fuel = some after) :
    after.Settled ∧ ∀ more, (after.followed more).drained sha1 collate env =
      (r.followed more).drained sha1 collate env := by
  induction fuel generalizing r with
  | zero => cases ended
  | succ fuel ih =>
    have now : r.Careful collate env := careful r mem_cons_self
    have kept := drained_turn sha1 collate env alive now.whole
    have waits := turn_waits sha1 collate env (r := r)
    have steady := turn_steady sha1 collate env alive
    have emptied : (r.turn sha1 collate env).1.input = r.input.drop (consumes r.socket r.input) := rfl
    unfold turns at ended
    have later : ∀ met ∈ (match r.turn sha1 collate env with
        | (after, true) => after.visited sha1 collate env fuel
        | (_, false) => []), met.Careful collate env :=
      fun met there => careful met (mem_cons_of_mem r there)
    have goes := complete_of_returns sha1 collate env (r := r)
    generalize r.turn sha1 collate env = turned at *
    obtain ⟨next, goes?⟩ := turned
    have last (complete : r.complete = true) (pause : pauses collate (r.around env) r.socket = true) :
        next.input = [] := emptied.trans (now.last complete pause)
    cases goes? with
    | false =>
      cases ended
      refine ⟨?_, kept⟩
      cases complete : r.complete with
      | false =>
        have same := congrArg Prod.fst (waits complete now.whole)
        simp only at same
        cases unknown : r.unknown with
        | true =>
          refine .inl ?_
          rw [same, unknown]
          exact Bool.or_true _
        | false =>
          refine .inr ?_
          rw [same]
          exact ⟨complete, unknown⟩
      | true =>
        cases pause : pauses collate (r.around env) r.socket with
        | true => exact .inr (quiet_of_empty (last complete pause))
        | false => exact .inl ((Bool.not_eq_eq_eq_not ..).mp (steady complete pause).symm)
    | true =>
      have complete := goes rfl
      cases pause : pauses collate (r.around env) r.socket with
      | true =>
        have empty := last complete pause
        obtain rfl := turns_empty sha1 collate env empty ended
        exact ⟨.inr (quiet_of_empty empty), kept⟩
      | false =>
        have alive' : next.closed = false := (Bool.not_eq_eq_eq_not ..).mp (steady complete pause).symm
        obtain ⟨settled, all⟩ := ih alive' later ended
        exact ⟨settled, fun more => (all more).trans (kept more)⟩

/-- The connections that the turns start from while the chunks arrive. -/
def met : Reading → List Bytes → List Reading
  | _, [] => []
  | r, chunk :: chunks =>
    if r.closed then []
    else (r.followed chunk).visited sha1 collate env ((r.followed chunk).input.length + 1) ++
      met (r.handleInput sha1 collate env chunk) chunks

def outcome (r : Reading) (chunks : List Bytes) : Reading :=
  (r.deliver sha1 collate env chunks).1.followed (r.deliver sha1 collate env chunks).2

theorem outcome_drained (settled : r.Settled) {chunks : List Bytes}
    (careful : ∀ here ∈ r.met sha1 collate env chunks, here.Careful collate env) :
    r.outcome sha1 collate env chunks = (r.followed chunks.flatten).drained sha1 collate env := by
  induction chunks generalizing r with
  | nil =>
    unfold outcome deliver
    rw [flatten_nil, followed_nil]
    exact (drained_settled sha1 collate env settled).symm
  | cons chunk chunks ih =>
    unfold outcome deliver
    rw [flatten_cons]
    unfold met at careful
    cases alive : r.closed with
    | true =>
      rw [if_pos rfl]
      exact (drained_closed sha1 collate env (r := r.followed _) alive).symm
    | false =>
      rw [alive, if_neg Bool.false_ne_true] at careful
      rw [if_neg Bool.false_ne_true]
      obtain ⟨after, ended⟩ := Option.isSome_iff_exists.mp
        (turns_isSome sha1 collate env (r := r.followed chunk) (Nat.lt_succ_self _))
      have read : r.handleInput sha1 collate env chunk = after := by
        exact (congrArg (Option.getD · _) ended)
      obtain ⟨settled', kept⟩ := turns_drained sha1 collate env (r := r.followed chunk) alive
        (fun here there => careful here (mem_append_left _ there)) ended
      rw [read] at careful ⊢
      have rest := ih settled' (fun here there => careful here (mem_append_right _ there))
      refine rest.trans ((kept _).trans ?_)
      rw [followed_followed]

theorem incomplete_reads (incomplete : r.complete = false) :
    (r.turn sha1 collate env).2 = false ∧
      ((r.turn sha1 collate env).1.input = r.input ↔ ¬ r.cutChallenge) := by
  obtain ⟨-, stops, count⟩ := incomplete_turn sha1 collate incomplete (env r.handled.length)
  have rest : (r.turn sha1 collate env).1.input = r.input.drop (consumes r.socket r.input) := rfl
  refine ⟨stops, ?_⟩
  rw [rest, count]
  split
  · rename_i cut
    refine iff_of_false (fun same => ?_) (fun whole => whole ⟨incomplete, cut⟩)
    have length := congrArg List.length same
    rw [length_drop] at length
    omega
  · rename_i whole
    exact iff_of_true (drop_zero ..) (fun cut => whole cut.2)

/-- Bytes that arrive cut in two ways run the same handlers to completion on the same packets and leave the
same bytes unread, if neither way cuts a challenge behind its fixed part or has bytes behind a packet that
pauses; a handler without its whole packet has consumed nothing exactly when it is no challenge with its
fixed part there; and the loop ends. -/
theorem deliver_cuts :
    (∀ (remoteAddress : Bytes) (chunks others : List Bytes), chunks.flatten = others.flatten →
      (∀ here ∈ (accepted remoteAddress).met sha1 collate env chunks, here.Careful collate env) →
      (∀ here ∈ (accepted remoteAddress).met sha1 collate env others, here.Careful collate env) →
        (accepted remoteAddress).outcome sha1 collate env chunks =
          (accepted remoteAddress).outcome sha1 collate env others) ∧
      (∀ r : Reading, r.complete = false → (r.turn sha1 collate env).2 = false ∧
        ((r.turn sha1 collate env).1.input = r.input ↔ ¬ r.cutChallenge)) ∧
      ∀ r : Reading, (r.turns sha1 collate env (r.input.length + 1)).isSome := by
  refine ⟨?_, ?_, fun r => turns_isSome sha1 collate env (Nat.lt_succ_self _)⟩
  · intro remoteAddress chunks others same careful careful'
    have settled : (accepted remoteAddress).Settled := .inr ⟨rfl, rfl⟩
    rw [outcome_drained sha1 collate env settled careful,
      outcome_drained sha1 collate env settled careful', same]
  · exact fun r incomplete => incomplete_reads sha1 collate env incomplete

end Reading

end

/-- An empty database, and no luck. -/
def bareSurroundings : Surroundings :=
  { input := [], db := ⟨[], [], [], [], []⟩, randS := 0, randB := 0, randUnk3 := 0, randReconnect := 0
    heap := [], maxWrongPassCount := 0, wrongPassBanTime := 0, wrongPassBanType := false
    localeNames := [], realms := [] }

def challengeHead : Bytes :=
  [0x00, 8, 32, 0, 0x57, 0x6F, 0x57, 0, 5, 4, 0, 0xF7, 0x43, 0x36, 0x38, 0x78, 0, 0x6E, 0x69, 0x57, 0,
    0x53, 0x55, 0x6E, 0x65, 0, 0, 0, 0, 127, 0, 0, 1, 2, 0x41]

namespace Reading

theorem deliver_cuts_fails : ¬ ∀ (sha1 collate : Bytes → Bytes) (env : Nat → Surroundings)
    (remoteAddress : Bytes) (chunks others : List Bytes), chunks.flatten = others.flatten →
      (∀ chunk ∈ chunks ++ others, chunk ≠ []) → chunks.flatten.length ≤ 4096 →
        (accepted remoteAddress).outcome sha1 collate env chunks =
          (accepted remoteAddress).outcome sha1 collate env others := by
  intro all
  have same := all (fun _ => []) id (fun _ => bareSurroundings) [] [challengeHead ++ [0x42]]
    [challengeHead, [0x42]] (by decide) (by decide) (by decide)
  have handled := congrArg (·.handled.length) same
  exact absurd handled (by decide)

/-- A challenge that is cut inside its fixed part. -/
theorem deliver_cuts_early :
    let env : Nat → Surroundings := fun _ => bareSurroundings
    (accepted []).outcome (fun _ => []) id env [challengeHead.take 20, challengeHead.drop 20 ++ [0x42]] =
      (accepted []).outcome (fun _ => []) id env [challengeHead ++ [0x42]] := by
  intro env
  exact (deliver_cuts (fun _ => []) id env).1 [] _ _ (by decide) (by decide) (by decide)

end Reading

end OpenWoW.AuthSocket
