import OpenWoW.WorldSocket

/-! When a world connection gets a session, and which packets reach it. -/
namespace OpenWoW.WorldSocket

open List

def Event.isCreated : Event → Bool
  | .sessionCreated _ => true
  | _ => false

def Event.isQueued : Event → Bool
  | .queuePacket _ _ => true
  | _ => false

abbrev Step := Run.Taken WorldSocket Input (List Event)

/-- An authentication packet that can be read and whose account passes every check that
`HandleAuthSession` makes. -/
structure Admitted (server : Server) (socket : WorldSocket) (packet : WorldPacket)
    (around : Surroundings) (auth : AuthSession) (row : Account) : Prop where
  opcode : packet.opcode % 0x10000 = cmsgAuthSession
  parsed : readAuthSession.run' packet.buffer = .ok auth
  checked : checkAccount server around socket auth = .ok row

/-- The step handles an authentication packet that proves knowledge of the stored session
key, for an account that may enter. -/
def Proven (sha1 : Bytes → Bytes) (server : Server) (t : Step) : Prop :=
  ∃ packet around auth row,
    t.input = .received packet around ∧
    packet.opcode % 0x10000 = cmsgAuthSession ∧
    readAuthSession.run' packet.buffer = .ok auth ∧
    around.db.accountByName server.collate auth.account = some row ∧
    auth.digest = sha1 (proofText auth t.before.seed row) ∧
    ¬ around.db.bans server.collate row.id t.before.address ∧
    ¬ ipLocked t.before row ∧
    ¬ belowLimit server around row

/-- What is asked of a run: one session at most, created only on a proof of the key, and no
packet handed to a session before that. -/
structure SessionNeedsKey (sha1 : Bytes → Bytes) (server : Server) (steps : List Step) : Prop where
  digestOnce : (authFields.filterMap AuthField.digestIndex).Perm (List.range 20)
  once : (steps.flatMap (·.out)).countP Event.isCreated ≤ 1
  assigned : ∀ t ∈ steps, t.before.session.isSome = false → t.after.session.isSome →
    t.out.any Event.isCreated
  proven : ∀ t ∈ steps, t.out.any Event.isCreated → Proven sha1 server t
  handed : ∀ pre t post, steps = pre ++ t :: post → t.out.any Event.isQueued →
    ∃ u ∈ pre, u.out.any Event.isCreated ∧ Proven sha1 server u

/-- An authentication packet that arrives on an open socket without a session, and that
the handler's own checks let through, carries the digest for the stored key. -/
def Keyed (sha1 : Bytes → Bytes) (server : Server) (socket : WorldSocket) (input : Input) : Prop :=
  ∀ packet around auth row, input = .received packet around → socket.closing = false →
    socket.session.isSome = false → Admitted server socket packet around auth row →
    auth.digest = sha1 (proofText auth socket.seed row)

/-- A reply that creates no session, and uses one only where there is one. -/
structure Quiet (socket : WorldSocket) (reply : Reply) : Prop where
  created : reply.events.countP Event.isCreated = 0
  queued : reply.events.any Event.isQueued → socket.session.isSome
  session : reply.socket.session.isSome = socket.session.isSome
  closing : reply.socket.closing = socket.closing

theorem quiet_refuse (socket : WorldSocket) : Quiet socket (refuse socket []) :=
  ⟨rfl, by simp [refuse], rfl, rfl⟩

theorem countPing_session (around : Surroundings) (socket : WorldSocket) :
    (countPing around socket).session = socket.session := by
  unfold countPing
  split
  · rfl
  · split <;> rfl

theorem countPing_closing (around : Surroundings) (socket : WorldSocket) :
    (countPing around socket).closing = socket.closing := by
  unfold countPing
  split
  · rfl
  · split <;> rfl

theorem handlePing_quiet (around : Surroundings) (packet : WorldPacket) (socket : WorldSocket) :
    Quiet socket (handlePing around packet socket) := by
  have same := countPing_session around socket
  have still := countPing_closing around socket
  unfold handlePing
  dsimp only
  split
  · exact quiet_refuse socket
  split
  · exact ⟨rfl, by simp [refuse], by simp [refuse, same], still⟩
  split
  · exact ⟨rfl, by simp [refuse], by simp [refuse, same], still⟩
  next here =>
  have some : socket.session.isSome := by simp [← same, here]
  exact ⟨rfl, fun _ => some, some.symm, still⟩

theorem giveToSession_quiet (server : Server) (opcode : Nat) (packet : WorldPacket)
    (socket : WorldSocket) : Quiet socket (giveToSession server opcode packet socket) := by
  unfold giveToSession
  split
  · exact quiet_refuse socket
  next here =>
  have some : socket.session.isSome := by simp [here]
  split <;> exact ⟨rfl, fun _ => some, rfl, rfl⟩

theorem muteUpdate_events (around : Surroundings) (row : Account) :
    (muteUpdate around row).countP Event.isCreated = 0 ∧
      (muteUpdate around row).any Event.isQueued = false := by
  unfold muteUpdate
  split <;> exact ⟨rfl, rfl⟩

variable {server : Server} {around : Surroundings} {socket : WorldSocket}

theorem checkAccount_error {auth : AuthSession} {events : List Event}
    (refused : checkAccount server around socket auth = .error events) :
    events.countP Event.isCreated = 0 ∧ events.any Event.isQueued = false := by
  unfold checkAccount at refused
  split at refused
  · cases refused
    exact ⟨rfl, rfl⟩
  split at refused
  · cases refused
    exact ⟨rfl, rfl⟩
  next row _ =>
  have mute := muteUpdate_events around row
  repeat' split at refused
  all_goals cases refused
  · exact ⟨rfl, rfl⟩
  all_goals
    simp only [countP_append, any_append, mute.1, mute.2]
    exact ⟨rfl, rfl⟩

theorem checkAccount_ok {auth : AuthSession} {row : Account}
    (passed : checkAccount server around socket auth = .ok row) :
    around.db.accountByName server.collate auth.account = some row ∧
      ¬ around.db.bans server.collate row.id socket.address ∧ ¬ ipLocked socket row ∧
      ¬ belowLimit server around row := by
  unfold checkAccount at passed
  split at passed
  · cases passed
  split at passed
  · cases passed
  next found =>
  repeat' split at passed
  all_goals cases passed
  next unlocked _ unbanned allowed => exact ⟨found, unbanned, unlocked, allowed⟩

theorem createSession_spec (server : Server) (around : Surroundings) (socket : WorldSocket)
    (auth : AuthSession) (row : Account) :
    (createSession server around socket auth row).events.countP Event.isCreated = 1 ∧
      (createSession server around socket auth row).events.any Event.isQueued = false ∧
      (createSession server around socket auth row).socket.session.isSome := by
  have mute := muteUpdate_events around row
  unfold createSession
  split
  · simp only [refuse, countP_append, any_append, mute.1, mute.2]
    exact ⟨rfl, rfl, rfl⟩
  · simp only [countP_append, any_append, mute.1, mute.2]
    exact ⟨rfl, rfl, rfl⟩

/-- Everything a packet can do to a socket: create the session of an admitted account, or
act quietly. -/
theorem processIncoming_cases (server : Server) (around : Surroundings) (packet : WorldPacket)
    (socket : WorldSocket) :
    (∃ auth row, socket.closing = false ∧ socket.session.isSome = false ∧
      Admitted server socket packet around auth row ∧
      processIncoming server around packet socket = createSession server around socket auth row) ∨
    Quiet socket (processIncoming server around packet socket) := by
  unfold processIncoming
  dsimp only
  split
  · exact .inr (quiet_refuse socket)
  next opened =>
  split
  · exact .inr (handlePing_quiet around packet socket)
  split
  · rename_i authOpcode
    split
    · exact .inr (quiet_refuse socket)
    next absent =>
    unfold handleAuthSession
    split
    · exact .inr (quiet_refuse socket)
    next auth parsed =>
    split
    · rename_i events refused
      have silent := checkAccount_error refused
      refine .inr ⟨silent.1, ?_, rfl, rfl⟩
      intro queued
      simp only [refuse, silent.2] at queued
      cases queued
    · rename_i row passed
      exact .inl ⟨auth, row, by simpa using opened, by simpa using absent,
        ⟨authOpcode, parsed, passed⟩, rfl⟩
  split
  · exact .inr ⟨rfl, by simp, rfl, rfl⟩
  split
  · split
    · exact .inr (quiet_refuse socket)
    · split
      · exact .inr (quiet_refuse socket)
      · exact .inr ⟨rfl, by simp [handleSendAuthSession, Event.isQueued], rfl, rfl⟩
  split
  · exact .inr ⟨rfl, by simp, rfl, rfl⟩
  · exact .inr (giveToSession_quiet server _ packet socket)

theorem processIncoming_admitted {packet : WorldPacket} {auth : AuthSession} {row : Account}
    (opened : socket.closing = false)
    (absent : socket.session.isSome = false)
    (admitted : Admitted server socket packet around auth row) :
    processIncoming server around packet socket = createSession server around socket auth row := by
  have notPing : ¬ cmsgAuthSession = cmsgPing := by decide
  simp only [processIncoming, handleAuthSession, opened, absent, admitted.opcode, notPing,
    admitted.parsed, admitted.checked]
  rfl

structure Creates (server : Server) (t : Step) : Prop where
  admitted : ∃ packet around auth row, t.input = .received packet around ∧
    t.before.closing = false ∧ Admitted server t.before packet around auth row
  absent : t.before.session.isSome = false
  created : t.out.countP Event.isCreated = 1
  queued : t.out.any Event.isQueued = false
  kept : t.after.session.isSome ∨ t.after.closing

/-- A step that creates none. -/
structure Keeps (t : Step) : Prop where
  created : t.out.countP Event.isCreated = 0
  queued : t.out.any Event.isQueued → t.before.session.isSome
  session : t.after.session.isSome → t.before.session.isSome
  used : t.before.session.isSome ∨ t.before.closing → t.after.session.isSome ∨ t.after.closing

theorem step_cases (server : Server) (socket : WorldSocket) (input : Input) :
    Creates server (Run.take (step server) socket input) ∨
      Keeps (Run.take (step server) socket input) := by
  cases input with
  | closed => exact .inr ⟨rfl, by simp [Run.take, step], by simp [Run.take, step, handleClose],
      fun _ => .inr rfl⟩
  | received packet around =>
    rcases processIncoming_cases server around packet socket with
      ⟨auth, row, opened, absent, admitted, reply⟩ | quiet
    · have spec := createSession_spec server around socket auth row
      refine .inl ⟨⟨packet, around, auth, row, rfl, opened, admitted⟩, absent, ?_, ?_, ?_⟩
      · simpa only [Run.take, step, reply] using spec.1
      · simpa only [Run.take, step, reply] using spec.2.1
      · simp only [Run.take, step, reply]
        split
        · exact .inl spec.2.2
        · exact .inr rfl
    · refine .inr ⟨quiet.created, quiet.queued, ?_, ?_⟩
      · simp only [Run.take, step]
        split
        · rw [quiet.session]
          exact fun there => there
        · simp [handleClose]
      · simp only [Run.take, step]
        split
        · rw [quiet.session, quiet.closing]
          exact fun there => there
        · exact fun _ => .inr rfl

variable (sha1 : Bytes → Bytes)

theorem proven_of_keyed {t : Step}
    (creates : Creates server t) (keyed : Keyed sha1 server t.before t.input) :
    Proven sha1 server t := by
  obtain ⟨packet, around, auth, row, input, opened, admitted⟩ := creates.admitted
  obtain ⟨found, unbanned, unlocked, allowed⟩ :=
    checkAccount_ok admitted.checked
  have digest := keyed packet around auth row input opened creates.absent admitted
  exact ⟨packet, around, auth, row, input, admitted.opcode, admitted.parsed, found, digest,
    unbanned, unlocked, allowed⟩

/-- The invariant of a run of keyed steps: at most one session was created, creating it used
up the socket, and a session that is there was created by a proof. -/
structure Authenticated (sha1 : Bytes → Bytes) (server : Server) (past : List Step)
    (socket : WorldSocket) : Prop where
  once : (past.flatMap (·.out)).countP Event.isCreated ≤ 1
  used : (past.flatMap (·.out)).countP Event.isCreated = 1 → socket.session.isSome ∨ socket.closing
  session : socket.session.isSome → ∃ u ∈ past, u.out.any Event.isCreated ∧ Proven sha1 server u

theorem authenticated_keep (past : List Step)
    (socket : WorldSocket) (input : Input) (inv : Authenticated sha1 server past socket)
    (keyed : Keyed sha1 server socket input) :
    Authenticated sha1 server (past ++ [Run.take (step server) socket input])
      (step server socket input).1 := by
  have count : ((past ++ [Run.take (step server) socket input]).flatMap (·.out)).countP
      Event.isCreated = (past.flatMap (·.out)).countP Event.isCreated +
        (Run.take (step server) socket input).out.countP Event.isCreated := by
    simp
  rcases step_cases server socket input with creates | keeps
  · -- the socket had neither a session nor been closed, so nothing was created before
    have proven := proven_of_keyed sha1 creates keyed
    obtain ⟨_, _, _, _, _, opened, _⟩ := creates.admitted
    have none : ¬ (past.flatMap (·.out)).countP Event.isCreated = 1 := by
      intro one
      rcases inv.used one with there | closed
      · exact absurd there (by simpa using creates.absent)
      · exact absurd closed (by simpa using opened)
    have fresh : (past.flatMap (·.out)).countP Event.isCreated = 0 := by
      have := inv.once
      omega
    rw [creates.created, fresh] at count
    refine ⟨by omega, fun _ => creates.kept, fun _ => ⟨_, by simp, ?_, proven⟩⟩
    rw [any_eq_true, ← countP_pos_iff, creates.created]
    exact Nat.one_pos
  · rw [keeps.created] at count
    refine ⟨by have := inv.once; omega, fun one => keeps.used (inv.used (by omega)), ?_⟩
    intro there
    obtain ⟨u, here, proof⟩ := inv.session (keeps.session there)
    exact ⟨u, by simp [here], proof⟩

theorem authenticated_opened (server : Server) (seed : Nat)
    (address : Bytes) : Authenticated sha1 server [] (opened seed address) :=
  ⟨by simp, by simp, by simp [opened]⟩

/-- A session is created exactly by proofs of the session key in the runs in which no
admitted authentication packet carries a wrong digest, and in no others. -/
theorem sessionNeedsKey_iff_keyed (server : Server) (seed : Nat)
    (address : Bytes) (inputs : List Input) :
    SessionNeedsKey sha1 server (Run.trace (step server) (opened seed address) inputs) ↔
      ∀ t ∈ Run.trace (step server) (opened seed address) inputs,
        Keyed sha1 server t.before t.input := by
  constructor
  · intro holds t here packet around auth row input open' absent admitted
    have taken := Run.taken_of_mem (step server) _ inputs t here
    have reply := processIncoming_admitted open' absent admitted
    have spec := createSession_spec server around t.before auth row
    have created : t.out.any Event.isCreated := by
      rw [taken, input, any_eq_true, ← countP_pos_iff]
      simp only [Run.take, step, reply, spec.1]
      exact Nat.one_pos
    obtain ⟨packet', around', auth', row', input', _, parsed', found', digest', _⟩ :=
      holds.proven t here created
    rw [input] at input'
    cases input'
    rw [admitted.parsed] at parsed'
    cases parsed'
    rw [(checkAccount_ok admitted.checked).1] at found'
    cases found'
    exact digest'
  · intro keyed
    have run := Run.history (step server) (Keyed sha1 server) (Authenticated sha1 server)
      (authenticated_keep sha1) [] _ inputs (authenticated_opened sha1 server seed address)
      keyed
    refine ⟨by decide, by simpa using run.once, ?_, ?_, ?_⟩
    · intro t here before after
      rw [Run.taken_of_mem (step server) _ inputs t here] at before after ⊢
      rcases step_cases server t.before t.input with creates | keeps
      · rw [any_eq_true, ← countP_pos_iff, creates.created]
        exact Nat.one_pos
      have there := keeps.session after
      rw [before] at there
      cases there
    · intro t here created
      have now := keyed t here
      rw [Run.taken_of_mem (step server) _ inputs t here] at created now ⊢
      rcases step_cases server t.before t.input with creates | keeps
      · exact proven_of_keyed sha1 creates now
      · rw [any_eq_true, ← countP_pos_iff, keeps.created] at created
        omega
    · intro pre t post split queued
      have before := Run.history_at (step server) (Keyed sha1 server) (Authenticated sha1 server)
        (authenticated_keep sha1) [] _ (authenticated_opened sha1 server seed address)
        keyed pre split
      have here : t ∈ Run.trace (step server) (opened seed address) inputs := by simp [split]
      rw [Run.taken_of_mem (step server) _ inputs t here] at queued
      rcases step_cases server t.before t.input with creates | keeps
      · rw [creates.queued] at queued
        cases queued
      · simpa using before.session (keeps.queued queued)

def zeroDigestPacket : WorldPacket :=
  ⟨cmsgAuthSession, List.replicate 56 0 ++ [0x00, 0x10, 65]⟩

def accountA : Account where
  id := 1
  username := [65]
  shaPassHash := []
  sessionkey := [49]
  lastIp := []
  locked := 0
  expansion := 4
  mutetime := 0
  locale := 0
  recruiter := 0
  os := [87, 105, 110]
  v := []
  s := []
  failedLogins := 0

def quietSurroundings : Surroundings where
  db := ⟨[accountA], [], [], [], []⟩
  worldClosed := false
  expansion := 4
  wardenEnabled := false
  playerSecurityLimit := 0
  maxOverspeedPings := 2
  time := 0
  timeOfDay := 0
  skipCheckOverspeedPing := false
  seeds := (0, 0)
  sent := true

def plainServer : Server := ⟨1, id, fun _ _ => none, fun _ => true⟩

/-- With a hash that is never zero, the all-zero digest still opens the account. -/
theorem zero_digest_creates_session :
    ¬ SessionNeedsKey (fun _ => List.replicate 20 1) plainServer
      (Run.trace (step plainServer) (opened 7 [49]) [.received zeroDigestPacket quietSurroundings]) := by
  intro holds
  have parsed : readAuthSession.run' zeroDigestPacket.buffer =
      .ok ⟨List.replicate 20 0, 0, 0, [], [65]⟩ := by decide +kernel
  have created : (Run.take (step plainServer) (opened 7 [49])
      (.received zeroDigestPacket quietSurroundings)).out.any Event.isCreated := by
    decide +kernel
  obtain ⟨packet, around, auth, row, input, _, parsed', _, digest, _⟩ :=
    holds.proven _ (by simp [Run.trace]) created
  cases input
  rw [parsed] at parsed'
  cases parsed'
  have different : ¬ List.replicate 20 (0 : UInt8) = List.replicate 20 1 := by decide
  exact different digest

end OpenWoW.WorldSocket
