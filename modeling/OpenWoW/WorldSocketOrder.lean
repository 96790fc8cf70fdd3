import OpenWoW.WorldSocketOutput

/-! The bytes of the packets reach the socket in order, as long as no block is dropped. -/
namespace OpenWoW.WorldSocket

open List

namespace Sending

variable {κ : Type} (cipher : StreamCipher κ UInt8)

/-- The bytes that the socket took, followed by those that wait. -/
def pending (s : Sending κ) : Bytes := s.wire ++ s.outBuffer ++ s.queue.flatMap (·.bytes)

def acceptedFrame (t : Run.Taken (Sending κ) (Call κ) CallResult) : Bytes :=
  match t.input, t.out with
  | .sendPacket packet, .done => t.before.frame cipher packet
  | _, _ => []

@[simp] theorem acceptedFrame_handleOutput (s : Sending κ) (buffer block : SendResult)
    (reactor : Bool) :
    acceptedFrame cipher (Run.take (step cipher) s (.handleOutput buffer block reactor)) = [] := rfl

/-- A step adds its frame to what was pending, and nothing else changes. -/
def Conserves (t : Run.Taken (Sending κ) (Call κ) CallResult) : Prop :=
  t.after.pending = t.before.pending ++ acceptedFrame cipher t

/-- Where `send` would block on the block at the head of the queue, the other blocks leave room for it. -/
def Requeues (s : Sending κ) : Call κ → Prop
  | .handleOutput buffer block _ =>
    (s.outBuffer = [] ∨ ∃ n, buffer = .sent n ∧ s.outBuffer.length ≤ n) → block = .wouldBlock →
      ∀ mblk queue, s.queue = mblk :: queue → { s with queue := queue }.isFull = false
  | _ => True

def BlocksFilled (s : Sending κ) : Prop := ∀ mblk ∈ s.queue, mblk.bytes ≠ []

variable {s : Sending κ}

variable (packet : WorldPacket) (reactor : Bool)

@[simp] theorem cancelWakeupOutput_pending :
    (s.cancelWakeupOutput reactor).1.pending = s.pending := by
  unfold cancelWakeupOutput
  split <;> rfl

@[simp] theorem cancelWakeupOutput_queue :
    (s.cancelWakeupOutput reactor).1.queue = s.queue := by
  unfold cancelWakeupOutput
  split <;> rfl

@[simp] theorem scheduleWakeupOutput_pending :
    (s.scheduleWakeupOutput reactor).1.pending = s.pending := by
  unfold scheduleWakeupOutput
  split <;> rfl

@[simp] theorem scheduleWakeupOutput_queue :
    (s.scheduleWakeupOutput reactor).1.queue = s.queue := by
  unfold scheduleWakeupOutput
  split <;> rfl

theorem scheduleWakeupOutput_done (s : Sending κ) : (s.scheduleWakeupOutput true).2 = .done := by
  unfold scheduleWakeupOutput
  split <;> rfl

theorem encryptedHeader_ne_nil : (s.encryptedHeader cipher packet).1 ≠ [] := by
  unfold encryptedHeader
  split
  · unfold ServerPktHeader.bytes
    exact append_ne_nil_of_right_ne_nil _ (cons_ne_nil _ _)
  intro none
  have length := congrArg List.length none
  rw [StreamCipher.encrypt_length] at length
  cases length

theorem sendPacket_conserves :
    (s.sendPacket cipher packet).2 = .failed ∨
      (s.sendPacket cipher packet).2 = .done ∧
        (s.sendPacket cipher packet).1.pending = s.pending ++ s.frame cipher packet := by
  unfold sendPacket
  split
  · exact .inl rfl
  simp only
  split
  · rename_i direct
    refine .inr ⟨rfl, ?_⟩
    simp only [pending, frame, direct.2, flatMap_nil, append_nil, append_assoc]
  split
  · exact .inl rfl
  · refine .inr ⟨rfl, ?_⟩
    simp only [pending, frame, flatMap_append, flatMap_singleton, append_assoc]

section
variable (filled : BlocksFilled s)
include filled

theorem sendPacket_filled (packet : WorldPacket) :
    BlocksFilled (s.sendPacket cipher packet).1 := by
  unfold sendPacket
  split
  · exact filled
  simp only
  split
  · exact filled
  split
  · exact filled
  intro mblk there
  rcases mem_append.mp there with old | new
  · exact filled mblk old
  · rw [mem_singleton.mp new]
    exact append_ne_nil_of_left_ne_nil (encryptedHeader_ne_nil cipher packet) _

/-- What `handle_output_queue` does to the pending bytes when it does not fail: it loses the head block
exactly when that block has to wait and finds no room. -/
theorem handleOutputQueue_pending (empty : s.outBuffer = [])
    (sent : SendResult) (reactor : Bool) (good : (s.handleOutputQueue sent reactor).2 ≠ .failed) :
    (s.handleOutputQueue sent reactor).1.pending = s.pending ↔
      (sent = .wouldBlock → ∀ mblk queue, s.queue = mblk :: queue →
        { s with queue := queue }.isFull = false) := by
  unfold handleOutputQueue at good ⊢
  cases waiting : s.queue with
  | nil =>
    simp only [cancelWakeupOutput_pending, true_iff]
    intro _ mblk queue there
    cases there
  | cons mblk queue =>
    rw [waiting] at good
    have before : s.pending = s.wire ++ mblk.bytes ++ queue.flatMap (·.bytes) := by
      unfold pending
      rw [waiting, empty, append_nil, flatMap_cons, append_assoc]
    cases sent with
    | failed => exact absurd rfl good
    | wouldBlock =>
      have room_iff : (SendResult.wouldBlock = .wouldBlock → ∀ first rest,
          mblk :: queue = first :: rest → { s with queue := rest }.isFull = false) ↔
            { s with queue := queue }.isFull = false := by
        constructor
        · exact fun room => room rfl mblk queue rfl
        · rintro room - first rest ⟨⟩
          exact room
      rw [room_iff, before]
      simp only [scheduleWakeupOutput_pending]
      cases full : { s with queue := queue }.isFull with
      | true =>
        simp only [↓reduceIte, pending, empty, append_nil, reduceCtorEq, iff_false]
        intro lost
        have length := congrArg List.length lost
        simp only [length_append] at length
        have some := length_pos_iff.mpr (filled mblk (waiting ▸ mem_cons_self))
        omega
      | false =>
        simp only [Bool.false_eq_true, ↓reduceIte, pending, empty, append_nil,
          flatMap_cons, append_assoc]
    | sent n =>
      simp only [reduceCtorEq, false_implies, iff_true]
      simp only at good
      by_cases zero : n = 0
      · rw [if_pos zero] at good
        exact absurd rfl good
      rw [if_neg zero] at good ⊢
      by_cases part : n < mblk.bytes.length
      · rw [if_pos part] at good ⊢
        by_cases full : { s with
            queue := queue, wire := s.wire ++ mblk.bytes.take n }.isFull = true
        · rw [if_pos full] at good
          exact absurd rfl good
        rw [if_neg full, scheduleWakeupOutput_pending, before]
        simp only [pending, empty, append_nil, flatMap_cons]
        rw [append_assoc s.wire, append_assoc s.wire,
          ← append_assoc (mblk.bytes.take n), take_append_drop]
      · rw [if_neg part] at good ⊢
        have all : mblk.bytes.take n = mblk.bytes := take_of_length_le (not_lt.mp part)
        rw [all, before]
        split
        · rw [cancelWakeupOutput_pending]
          simp only [pending, empty, append_nil]
        · simp only [pending, empty, append_nil]

theorem scheduleWakeupOutput_filled (reactor : Bool) :
    BlocksFilled (s.scheduleWakeupOutput reactor).1 := by
  unfold BlocksFilled
  rw [scheduleWakeupOutput_queue]
  exact filled

theorem cancelWakeupOutput_filled (reactor : Bool) :
    BlocksFilled (s.cancelWakeupOutput reactor).1 := by
  unfold BlocksFilled
  rw [cancelWakeupOutput_queue]
  exact filled

theorem handleOutputQueue_filled (sent : SendResult) (reactor : Bool) :
    BlocksFilled (s.handleOutputQueue sent reactor).1 := by
  unfold handleOutputQueue
  cases waiting : s.queue with
  | nil => exact cancelWakeupOutput_filled filled reactor
  | cons mblk queue =>
    have rest : ∀ other ∈ queue, other.bytes ≠ [] := fun other there =>
      filled other (waiting ▸ mem_cons_of_mem _ there)
    cases sent with
    | failed => exact rest
    | wouldBlock =>
      apply scheduleWakeupOutput_filled
      split
      · exact rest
      · intro other there
        exact filled other (waiting ▸ there)
    | sent n =>
      simp only
      split
      · exact rest
      split
      · rename_i part
        split
        · exact rest
        apply scheduleWakeupOutput_filled
        intro other there
        rcases mem_cons.mp there with rfl | later
        · exact ne_nil_of_length_pos (by rw [length_drop]; omega)
        · exact rest other later
      · split
        · exact cancelWakeupOutput_filled
            (s := { s with queue := queue, wire := s.wire ++ mblk.bytes.take n }) rest reactor
        · exact rest

theorem handleOutput_filled (buffer block : SendResult) (reactor : Bool) :
    BlocksFilled (s.handleOutput buffer block reactor).1 := by
  unfold handleOutput
  split
  · exact filled
  split
  · exact handleOutputQueue_filled filled block reactor
  cases buffer with
  | failed => exact filled
  | wouldBlock => exact scheduleWakeupOutput_filled filled reactor
  | sent n =>
    simp only
    split
    · exact filled
    split
    · exact scheduleWakeupOutput_filled (s := { s with
        wire := s.wire ++ s.outBuffer.take n, outBuffer := s.outBuffer.drop n }) filled reactor
    · exact handleOutputQueue_filled (s := { s with
        wire := s.wire ++ s.outBuffer.take n, outBuffer := [] }) filled block reactor

theorem handleOutput_pending {buffer block : SendResult} {reactor : Bool}
    (good : (s.handleOutput buffer block reactor).2 ≠ .failed) :
    (s.handleOutput buffer block reactor).1.pending = s.pending ↔
      Requeues s (.handleOutput buffer block reactor) := by
  unfold handleOutput at good ⊢
  by_cases closed : s.closing = true
  · rw [if_pos closed] at good
    exact absurd rfl good
  rw [if_neg closed] at good ⊢
  by_cases empty : s.outBuffer.length = 0
  · have none := eq_nil_of_length_eq_zero empty
    rw [if_pos empty] at good ⊢
    rw [handleOutputQueue_pending filled none block reactor good]
    exact ⟨fun room _ => room, fun room => room (.inl none)⟩
  rw [if_neg empty] at good ⊢
  have some : s.outBuffer ≠ [] := fun none => empty (congrArg List.length none)
  cases buffer with
  | failed => exact absurd rfl good
  | wouldBlock =>
    simp only [scheduleWakeupOutput_pending, true_iff]
    rintro (none | ⟨n, sent, -⟩)
    · exact absurd none some
    · cases sent
  | sent n =>
    simp only at good ⊢
    by_cases zero : n = 0
    · rw [if_pos zero] at good
      exact absurd rfl good
    rw [if_neg zero] at good ⊢
    by_cases part : n < s.outBuffer.length
    · rw [if_pos part, scheduleWakeupOutput_pending]
      refine iff_of_true ?_ ?_
      · simp only [pending]
        rw [append_assoc s.wire, take_append_drop]
      · rintro (none | ⟨m, sent, all⟩)
        · exact absurd none some
        · cases sent
          exact absurd all (not_le.mpr part)
    · rw [if_neg part] at good ⊢
      have all : s.outBuffer.take n = s.outBuffer := take_of_length_le (not_lt.mp part)
      rw [all] at good ⊢
      have queue := handleOutputQueue_pending (s := { s with
        wire := s.wire ++ s.outBuffer, outBuffer := [] }) filled rfl block reactor good
      have same : ({ s with wire := s.wire ++ s.outBuffer, outBuffer := [] } :
          Sending κ).pending = s.pending := by
        simp only [pending, append_nil]
      rw [same] at queue
      refine queue.trans ⟨fun room _ => room, fun room => room (.inr ⟨n, rfl, not_lt.mp part⟩)⟩

theorem step_filled (call : Call κ) :
    BlocksFilled (s.step cipher call).1 := by
  cases call with
  | sendPacket packet => exact sendPacket_filled cipher filled packet
  | handleOutput buffer block reactor => exact handleOutput_filled filled buffer block reactor
  | initCrypt key => exact filled

theorem step_conserves_iff {call : Call κ}
    (good : (s.step cipher call).2 ≠ .failed) :
    Conserves cipher (Run.take (step cipher) s call) ↔ Requeues s call := by
  cases call with
  | sendPacket packet =>
    refine iff_of_true ?_ trivial
    rcases sendPacket_conserves cipher (s := s) packet with failed | ⟨done, kept⟩
    · exact absurd failed good
    unfold Conserves acceptedFrame
    have out : (Run.take (step cipher) s (.sendPacket packet)).out = .done := done
    rw [out]
    exact kept
  | handleOutput buffer block reactor =>
    rw [← handleOutput_pending filled good]
    unfold Conserves
    rw [acceptedFrame_handleOutput, append_nil]
    rfl
  | initCrypt key =>
    refine iff_of_true ?_ trivial
    exact (append_nil _).symm

end

theorem conserved_iff (s : Sending κ) (calls : List (Call κ)) :
    (∀ front back, calls = front ++ back →
      (Run.final (step cipher) s front).pending =
        s.pending ++ (Run.trace (step cipher) s front).flatMap (acceptedFrame cipher)) ↔
      ∀ t ∈ Run.trace (step cipher) s calls, Conserves cipher t := by
  induction calls generalizing s with
  | nil =>
    refine iff_of_true ?_ (fun _ there => absurd there not_mem_nil)
    intro front back eq
    obtain ⟨rfl, -⟩ := append_eq_nil_iff.mp eq.symm
    exact (append_nil _).symm
  | cons call calls ih =>
    simp only [Run.trace, forall_mem_cons]
    rw [← ih]
    constructor
    · intro all
      have first := all [call] calls rfl
      simp only [Run.final, Run.trace, flatMap_cons, flatMap_nil, append_nil] at first
      refine ⟨first, fun front back eq => ?_⟩
      have whole := all (call :: front) back (by rw [eq, cons_append])
      simp only [Run.final, Run.trace, flatMap_cons] at whole
      rw [whole, first, append_assoc]
    · rintro ⟨first, rest⟩ front back eq
      cases front with
      | nil => exact (append_nil _).symm
      | cons other front =>
        simp only [cons_append, List.cons.injEq] at eq
        obtain ⟨rfl, eq⟩ := eq
        have first' : (s.step cipher call).1.pending =
            s.pending ++ acceptedFrame cipher (Run.take (step cipher) s call) := first
        simp only [Run.final, Run.trace, flatMap_cons]
        rw [rest front back eq, first', append_assoc]

/-- While no call fails, the bytes that the socket took and those that wait are the frames of the accepted
packets in order, at every point of a run, exactly when no block that has to wait finds its queue full. -/
theorem pending_frames_iff (outBufferSize : Nat) (calls : List (Call κ))
    (fine : ∀ t ∈ Run.trace (step cipher) (opened outBufferSize) calls, t.out ≠ .failed) :
    (∀ front back, calls = front ++ back →
      (Run.final (step cipher) (opened outBufferSize) front).pending =
        (Run.trace (step cipher) (opened outBufferSize) front).flatMap (acceptedFrame cipher)) ↔
      ∀ t ∈ Run.trace (step cipher) (opened outBufferSize) calls, Requeues t.before t.input := by
  have steps := Run.good_iff (step cipher)
    (fun s call => (s.step cipher call).2 ≠ .failed → Requeues s call)
    BlocksFilled (fun t => t.out ≠ .failed → Conserves cipher t)
    (fun s call filled => forall_congr' fun good => step_conserves_iff cipher filled good)
    (fun s call filled _ => step_filled cipher filled call) (opened outBufferSize) calls
    (fun mblk there => absurd there not_mem_nil)
  have all := conserved_iff cipher (opened outBufferSize) calls
  have nothing : (opened outBufferSize : Sending κ).pending = [] := rfl
  simp only [nothing, nil_append] at all
  rw [all]
  constructor
  · intro conserves t there
    have good := fine t there
    have taken := Run.taken_of_mem (step cipher) _ calls t there
    refine steps.mp (fun t there _ => conserves t there) t there ?_
    rw [taken] at good
    exact good
  · intro requeues t there
    exact steps.mpr (fun t there _ => requeues t there) t there (fine t there)

/-- Packets that fit neither the buffer nor a full queue wait in the queue, all in order. -/
theorem sent_wait (n : Nat) (s : Sending κ) (alive : s.closing = false)
    (empty : s.outBuffer = [])
    (long : s.outBufferSize < packet.contents.length + (pktHeader packet).getHeaderLength)
    (room : (s.queue.map (·.size)).sum + n * (packet.contents.length +
      (pktHeader packet).getHeaderLength) <
        highWaterMark + (packet.contents.length + (pktHeader packet).getHeaderLength)) :
    let calls := List.replicate n (Call.sendPacket packet)
    let after := Run.final (step cipher) s calls
    after.closing = false ∧ after.outBuffer = [] ∧ after.outBufferSize = s.outBufferSize ∧
      after.outActive = s.outActive ∧
      after.queue.map (·.size) = s.queue.map (·.size) ++
        List.replicate n (packet.contents.length + (pktHeader packet).getHeaderLength) ∧
      ∀ t ∈ Run.trace (step cipher) s calls, t.out = .done := by
  induction n generalizing s with
  | zero =>
    refine ⟨alive, empty, rfl, rfl, (append_nil _).symm, ?_⟩
    exact fun _ there => absurd there not_mem_nil
  | succ n ih =>
    generalize size : packet.contents.length + (pktHeader packet).getHeaderLength = length at *
    have free : s.isFull = false := by
      rw [Nat.add_one_mul] at room
      exact decide_eq_false (by omega)
    have sent : s.sendPacket cipher packet = ({ s with
        crypt := (s.encryptedHeader cipher packet).2,
        queue := s.queue ++ [⟨length, s.frame cipher packet⟩] }, .done) := by
      unfold sendPacket
      rw [if_neg (by rw [alive]; exact Bool.false_ne_true), size]
      rw [if_neg (by rw [empty]; rintro ⟨fits, -⟩; exact absurd long (not_lt.mpr fits)), if_neg]
      · rfl
      · exact fun full => absurd (full.symm.trans free) Bool.false_ne_true.symm
    have first : s.step cipher (.sendPacket packet) = _ := sent
    obtain ⟨alive', empty', size', active', queue', done'⟩ :=
      ih { s with
        crypt := (s.encryptedHeader cipher packet).2,
        queue := s.queue ++ [⟨length, s.frame cipher packet⟩] } alive empty long (by
          simp only [map_append, map_cons, map_nil, sum_append, sum_singleton]
          rw [Nat.add_one_mul] at room
          omega)
    simp only [replicate_succ, Run.final, Run.trace, forall_mem_cons, Run.take_out]
    rw [first]
    refine ⟨alive', empty', size', active', ?_, rfl, done'⟩
    rw [queue', map_append, append_assoc]
    rfl

theorem handleOutput_loses {mblk : MessageBlock} {rest : List MessageBlock} (alive : s.closing = false)
    (filled : BlocksFilled s) (empty : s.outBuffer = []) (waiting : s.queue = mblk :: rest)
    (full : { s with queue := rest }.isFull = true) :
    (s.handleOutput .wouldBlock .wouldBlock true).2 = .done ∧
      (s.handleOutput .wouldBlock .wouldBlock true).1.pending ≠ s.pending := by
  have good : (s.handleOutput .wouldBlock .wouldBlock true).2 = .done := by
    unfold handleOutput handleOutputQueue
    rw [alive, empty, waiting]
    exact scheduleWakeupOutput_done _
  refine ⟨good, fun kept => ?_⟩
  have requeues := (handleOutput_pending filled
    (by rw [good]; exact CallResult.noConfusion)).mp kept
  have room := requeues (.inl empty) rfl mblk rest waiting
  exact absurd (room.symm.trans full) Bool.false_ne_true

theorem final_filled (filled : BlocksFilled s) (calls : List (Call κ)) :
    BlocksFilled (Run.final (step cipher) s calls) := by
  induction calls generalizing s with
  | nil => exact filled
  | cons call calls ih => exact ih (step_filled cipher filled call)

def filler (length : Nat) : WorldPacket := ⟨1, List.replicate length 0⟩

theorem filler_length {length : Nat} (large : (0x7FFF : UInt32) < UInt32.ofNat (length + 2)) :
    (filler length).contents.length + (pktHeader (filler length)).getHeaderLength = length + 5 := by
  have count : (filler length).contents.length = length := length_replicate
  unfold pktHeader ServerPktHeader.getHeaderLength ServerPktHeader.isLargePacket
  rw [count, decide_eq_true large]
  rfl

/-- A packet just too long for the buffer, and sixteen that take half a megabyte each. -/
def stuckSends : List (Call Unit) :=
  List.replicate 1 (.sendPacket (filler 65536)) ++ List.replicate 16 (.sendPacket (filler 524283))

theorem stuckSends_wait (cipher : StreamCipher Unit UInt8) :
    let s := Run.final (step cipher) (opened 65536) stuckSends
    s.closing = false ∧ s.outBuffer = [] ∧
      s.queue.map (·.size) = 65541 :: List.replicate 16 524288 ∧
      ∀ t ∈ Run.trace (step cipher) (opened 65536) stuckSends, t.out = .done := by
  obtain ⟨alive, empty, size, -, queue, done⟩ :=
    sent_wait cipher (filler 65536) 1 (opened 65536) rfl rfl
      (by rw [filler_length (by decide)]; exact by decide)
      (by rw [filler_length (by decide)]; exact by decide)
  rw [filler_length (by decide)] at queue
  obtain ⟨alive', empty', -, -, queue', done'⟩ :=
    sent_wait cipher (filler 524283) 16 _ alive empty
      (by rw [filler_length (by decide), size]; exact by decide)
      (by rw [filler_length (by decide), queue]; exact by decide)
  rw [filler_length (by decide), queue] at queue'
  unfold stuckSends
  rw [Run.final_append, Run.trace_append]
  refine ⟨alive', empty', queue', fun t there => ?_⟩
  exact (mem_append.mp there).elim (done t) (done' t)

theorem run_loses {outBufferSize : Nat} {calls : List (Call κ)} {mblk : MessageBlock}
    {rest : List MessageBlock} (ended : Run.final (step cipher) (opened outBufferSize) calls = s)
    (taken : ∀ t ∈ Run.trace (step cipher) (opened outBufferSize) calls, t.out = .done)
    (alive : s.closing = false) (empty : s.outBuffer = []) (waiting : s.queue = mblk :: rest)
    (full : { s with queue := rest }.isFull = true) :
    ∃ calls : List (Call κ),
      (∀ t ∈ Run.trace (step cipher) (opened outBufferSize) calls, t.out ≠ .failed) ∧
      ¬ ∀ front back, calls = front ++ back →
        (Run.final (step cipher) (opened outBufferSize) front).pending =
          (Run.trace (step cipher) (opened outBufferSize) front).flatMap (acceptedFrame cipher) := by
  have filled : BlocksFilled s := by
    rw [← ended]
    exact final_filled cipher (fun mblk there => absurd there not_mem_nil) calls
  obtain ⟨good, lost⟩ := handleOutput_loses alive filled empty waiting full
  let blocked : Call κ := .handleOutput .wouldBlock .wouldBlock true
  have after : Run.trace (step cipher) (opened outBufferSize) (calls ++ [blocked]) =
      Run.trace (step cipher) (opened outBufferSize) calls ++ [Run.take (step cipher) s blocked] := by
    rw [Run.trace_append, ended]
    rfl
  refine ⟨calls ++ [blocked], ?_, fun always => ?_⟩
  · rw [after]
    intro t there
    rcases mem_append.mp there with early | last
    · rw [taken t early]
      exact CallResult.noConfusion
    rw [mem_singleton.mp last, Run.take_out]
    change (s.handleOutput .wouldBlock .wouldBlock true).2 ≠ .failed
    rw [good]
    exact CallResult.noConfusion
  · have before := always calls [blocked] rfl
    have whole := always (calls ++ [blocked]) [] (append_nil _).symm
    rw [after, Run.final_append, ended, flatMap_append, ← before, ended, flatMap_singleton,
      acceptedFrame_handleOutput, append_nil] at whole
    exact lost whole

theorem pending_frames_fails : ¬ ∀ (κ : Type) (cipher : StreamCipher κ UInt8) (outBufferSize : Nat)
    (calls : List (Call κ)),
    (∀ t ∈ Run.trace (step cipher) (opened outBufferSize) calls, t.out ≠ .failed) →
      ∀ front back, calls = front ++ back →
        (Run.final (step cipher) (opened outBufferSize) front).pending =
          (Run.trace (step cipher) (opened outBufferSize) front).flatMap (acceptedFrame cipher) := by
  intro all
  let cipher : StreamCipher Unit UInt8 := ⟨fun _ => Equiv.refl UInt8, id⟩
  obtain ⟨alive, empty, queue, taken⟩ := stuckSends_wait cipher
  -- eight megabytes wait behind the head of the queue
  obtain ⟨mblk, rest, waiting, -, behind⟩ := map_eq_cons_iff.mp queue
  obtain ⟨calls, fine, lost⟩ := run_loses cipher rfl taken alive empty waiting (by
    unfold isFull
    rw [behind]
    decide)
  exact lost (all Unit cipher 65536 calls fine)

/-- A run in which a block that has to wait is taken back and sent later. -/
theorem pending_frames_iff_requeued :
    let cipher : StreamCipher Unit UInt8 := ⟨fun _ => Equiv.refl UInt8, id⟩
    let packet : WorldPacket := ⟨1, [7]⟩
    let calls : List (Call Unit) := [.sendPacket packet, .sendPacket packet,
      .handleOutput .wouldBlock .wouldBlock true, .handleOutput (.sent 2) (.sent 1) true]
    ∀ front back, calls = front ++ back →
      (Run.final (step cipher) (opened 4) front).pending =
        (Run.trace (step cipher) (opened 4) front).flatMap (acceptedFrame cipher) := by
  intro cipher packet calls
  refine (pending_frames_iff cipher 4 calls ?_).mpr ?_
  · decide
  · intro t there
    simp only [calls, Run.trace, mem_cons, not_mem_nil, or_false] at there
    rcases there with rfl | rfl | rfl | rfl
    · trivial
    · trivial
    · rintro - - mblk queue waiting
      obtain ⟨-, rfl⟩ := List.cons.inj waiting
      rfl
    · rintro - block
      cases block

end Sending

end OpenWoW.WorldSocket
