import OpenWoW.ByteBufferCalls

/-! Buffers that are used again after `clear`, and bits that are put into a packet afterwards. -/
namespace OpenWoW.ByteBuffer

open List

/-- The writer calls with bytes and numbers of any kind. -/
inductive Write
  | writeBit (bit : Bool)
  | writeBits (value bits : Nat)
  /-- The overload for a pointer and a length, which throws if there is nothing to append. -/
  | append (src : Bytes) (some : src ≠ [])
  | appendInt (type : IntType) (value : Nat)
  | flushBits

def Write.run : Write → ByteBuffer → Except Fault ByteBuffer
  | .writeBit bit => ByteBuffer.writeBit bit
  | .writeBits value bits => ByteBuffer.writeBits value bits
  | .append src _ => ByteBuffer.append src
  | .appendInt type value => ByteBuffer.appendInt type.bytes value
  | .flushBits => ByteBuffer.flushBits

def writes (calls : List Write) (b : ByteBuffer) : Except Fault ByteBuffer :=
  calls.foldlM (fun b call => call.run b) b

def stored (result : Except Fault ByteBuffer) : Except Fault Bytes := result.map (·.storage)

def clear (b : ByteBuffer) : ByteBuffer := { b with storage := [], rpos := 0, wpos := 0 }

theorem clear_fresh_iff (b : ByteBuffer) :
    (∀ calls, stored (writes calls b.clear) = stored (writes calls fresh)) ↔
      b.bitpos = 8 ∧ b.curbitval = 0 := by
  constructor
  · intro alike
    have flushed := alike [.flushBits]
    by_cases closed : b.bitpos = 8
    · have written := alike [.writeBit false, .flushBits]
      have position : b.clear = ⟨[], 0, 0, 8, b.curbitval⟩ := by
        rw [← closed]
        rfl
      have half : ∀ value, writes [.writeBit false, .flushBits] ⟨[], 0, 0, 8, value⟩ =
          .ok ⟨[value], 0, 1, 8, 0⟩ := by
        intro value
        have bit : writeBit false ⟨[], 0, 0, 8, value⟩ = .ok ⟨[], 0, 0, 7, value⟩ := by
          simp [writeBit, pure, Except.pure]
        rw [writes, foldlM_cons, Write.run, bit]
        rfl
      rw [position, half, fresh, half] at written
      exact ⟨closed, head_eq_of_cons_eq (Except.ok.inj written)⟩
    · have half : writes [.flushBits] b.clear = .ok ⟨[b.curbitval], 0, 1, 8, 0⟩ := by
        have pending : ¬ b.clear.bitpos = 8 := closed
        rw [writes, foldlM_cons, Write.run, flushBits, if_neg pending]
        rfl
      rw [half] at flushed
      cases flushed
  · rintro ⟨closed, empty⟩ calls
    have same : b.clear = fresh := by
      rw [clear, closed, empty]
      rfl
    rw [same]

theorem bit_left_over : writes [.writeBit true] fresh = .ok ⟨[], 0, 0, 7, 128⟩ ∧
    stored (writes [.flushBits] (clear ⟨[], 0, 0, 7, 128⟩)) ≠ stored (writes [.flushBits] fresh) := by
  decide

/-- Returns the position of the last written bit. -/
def bitwpos (b : ByteBuffer) : Nat := b.wpos * 8 + 8 - b.bitpos

/-- The loop of `PutBits`, with the number of bits that are left of `value`. -/
def putBitsLoop (value : Nat) : Nat → Nat → Bytes → Bytes
  | 0, _, storage => storage
  | i + 1, pos, storage => putBitsLoop value i (pos + 1)
      (storage.modify (pos / 8) (Bits.setMsb · (pos % 8) (value.testBit i)))

def putBits (pos value bitCount : Nat) (b : ByteBuffer) : Except Fault ByteBuffer :=
  if bitCount = 0 then .error (.sourceException ((pos + bitCount) / 8) b.size 0)
  else if b.size * 8 < pos + bitCount then
    .error (.positionException false ((pos + bitCount) / 8) b.size ((bitCount - 1) / 8 + 1))
  else .ok { b with storage := putBitsLoop value bitCount pos b.storage }

/-- The packet with `value` written at its place. -/
def direct (front back : List Write) (n value : Nat) : Except Fault ByteBuffer :=
  writes (front ++ .writeBits value n :: back) fresh >>= flushBits

/-- The packet with a placeholder, into which `value` is put when all is written. -/
def patched (front back : List Write) (n placeholder value : Nat) : Except Fault ByteBuffer := do
  let b ← writes front fresh
  let done ← writes (.writeBits placeholder n :: back) b >>= flushBits
  putBits b.bitwpos value n done

/-- A call in terms of what it copies: bits, bytes in front of the pending bits, or bytes behind
them. -/
inductive Piece
  | bits (bits : List Bool)
  | raw (src : Bytes) (some : src ≠ [])
  | flushed (src : Bytes)

def Write.piece : Write → Piece
  | .writeBit bit => .bits [bit]
  | .writeBits value bits => .bits (Bits.ofNat bits value)
  | .append src long => .raw src long
  | .appendInt type value => .flushed (Bits.leBytes type.bytes value)
  | .flushBits => .flushed []

/-- Bytes are copied in front of so many pending bits. -/
def overtakes : Nat → List Piece → Bool
  | 0, _ | _, [] | _, .flushed _ :: _ => false
  | pending, .bits more :: pieces =>
    pending + more.length < 8 && overtakes (pending + more.length) pieces
  | _, .raw .. :: _ => true

def Piece.write : Piece → List Bool → List Bytes × List Bool
  | .bits more, pending => pushBits pending more
  | .raw src _, pending => ([src], pending)
  | .flushed src, pending => (flushChunks pending ++ textChunks src, [])

/-- The copies that the pieces and the final `FlushBits` make. -/
def copies : List Bool → List Piece → List Bytes
  | pending, [] => flushChunks pending
  | pending, piece :: pieces => (piece.write pending).1 ++ copies (piece.write pending).2 pieces

section
variable {storage : Bytes} {pending : List Bool} {before old after : List Bool}

theorem Write.run_filled (call : Write) (storage : Bytes) (short : pending.length < 8) :
    call.run (filled storage pending) = (filled · (call.piece.write pending).2) <$>
      appendAll (call.piece.write pending).1 storage := by
  cases call with
  | writeBit bit => exact writeBit_filled bit storage pending short
  | writeBits value bits => exact writeBits_filled value bits storage pending short
  | append src long => exact append_filled src storage pending (by simpa using long)
  | appendInt type value =>
    have wide : type.bytes ≠ 0 := by cases type <;> decide
    have some : (Bits.leBytes type.bytes value).length ≠ 0 := by simpa using wide
    rw [piece, Piece.write, textChunks, if_neg some]
    exact appendInt_filled value storage short wide
  | flushBits =>
    simp only [piece, Piece.write, textChunks, length_nil, if_true, append_nil]
    exact flushBits_filled storage short

theorem Piece.write_short (piece : Piece) (short : pending.length < 8) :
    (piece.write pending).2.length < 8 := by
  cases piece with
  | bits bits => exact pushBits_short pending bits short
  | raw => exact short
  | flushed => exact Nat.zero_lt_succ 7

theorem writes_filled (calls : List Write) (storage : Bytes) (short : pending.length < 8) :
    writes calls (filled storage pending) >>= flushBits = (filled · []) <$>
      appendAll (copies pending (calls.map Write.piece)) storage := by
  induction calls generalizing storage pending with
  | nil => exact flushBits_filled storage short
  | cons call calls ih =>
    rw [writes, foldlM_cons, call.run_filled storage short, map_cons, copies, appendAll_append,
      bind_map_left, bind_assoc, map_bind]
    congr 1
    funext stored
    exact ih stored (call.piece.write_short short)

theorem copies_sizes (pieces : List Piece) {pending other : List Bool} (short : pending.length < 8)
    (same : other.length = pending.length) :
    (copies other pieces).map List.length = (copies pending pieces).map List.length := by
  induction pieces generalizing pending other with
  | nil => rw [copies, copies, flushChunks_sizes, flushChunks_sizes, same]
  | cons piece pieces ih =>
    have sizes : (piece.write other).1.map List.length = (piece.write pending).1.map List.length ∧
        (piece.write other).2.length = (piece.write pending).2.length := by
      cases piece with
      | bits bits =>
        have one := pushBits_sizes pending bits short
        have two := pushBits_sizes other bits (by omega)
        rw [same] at two
        exact ⟨two.1.trans one.1.symm, two.2.trans one.2.symm⟩
      | raw => exact ⟨rfl, same⟩
      | flushed src => simp [Piece.write, flushChunks_sizes, same]
    rw [copies, copies, map_append, map_append, sizes.1,
      ih (piece.write_short short) sizes.2]

theorem pushBits_content (bits : List Bool) (short : pending.length < 8) :
    Bits.ofBytes (pushBits pending bits).1.flatten ++ (pushBits pending bits).2 =
      pending ++ bits := by
  induction bits generalizing pending with
  | nil => simp [pushBits, Bits.ofBytes]
  | cons bit bits ih =>
    unfold pushBits
    split
    · rename_i last
      have full : (pending ++ [bit]).length = 8 := by simp [last]
      dsimp only
      rw [flatten_cons, Bits.ofBytes_append, Bits.ofBytes_pack (by omega), full, append_assoc,
        append_assoc]
      have rest := @ih [] (Nat.zero_lt_succ 7)
      simpa using rest
    · have more : (pending ++ [bit]).length < 8 := by
        rw [length_append, length_singleton]
        omega
      simpa using ih more

theorem pushBits_few {bits : List Bool} (few : pending.length + bits.length < 8) :
    pushBits pending bits = ([], pending ++ bits) := by
  induction bits generalizing pending with
  | nil => rw [append_nil, pushBits]
  | cons bit bits ih =>
    rw [length_cons] at few
    rw [pushBits, if_neg (by omega), ih (by simp; omega), append_assoc]
    rfl

theorem flushChunks_content (short : pending.length < 8) :
    Bits.ofBytes (flushChunks pending).flatten =
      pending ++ replicate ((8 - pending.length) % 8) false := by
  unfold flushChunks
  split
  · rename_i none
    rw [eq_nil_of_length_eq_zero none]
    rfl
  · have left : (8 - pending.length) % 8 = 8 - pending.length := by omega
    rw [left]
    simpa using @Bits.ofBytes_pack pending (by omega)

/-- The bits that come out of the writer. -/
def output (pending : List Bool) (pieces : List Piece) : List Bool :=
  Bits.ofBytes (copies pending pieces).flatten

theorem output_cons (piece : Piece) (pieces : List Piece) :
    output pending (piece :: pieces) = Bits.ofBytes (piece.write pending).1.flatten ++
      output (piece.write pending).2 pieces := by
  rw [output, copies, flatten_append, Bits.ofBytes_append]
  rfl

/-- The pending bits come first and say nothing about the rest, or bytes overtake each of them. -/
theorem output_cases (pieces : List Piece) {r : Nat} (short : r < 8) :
    (overtakes r pieces = false ∧ ∃ rest, ∀ pending : List Bool, pending.length = r →
      output pending pieces = pending ++ rest) ∨
    (overtakes r pieces = true ∧ ∀ j < r, ∃ i, j < i ∧ ∀ pending : List Bool,
      pending.length = r → (output pending pieces)[i]? = pending[j]?) := by
  induction pieces generalizing r with
  | nil =>
    refine .inl ⟨by cases r <;> rfl, replicate ((8 - r) % 8) false, fun pending here => ?_⟩
    rw [← here, ← flushChunks_content (by omega)]
    rfl
  | cons piece pieces ih =>
    cases r with
    | zero =>
      refine .inl ⟨rfl, output [] (piece :: pieces), fun pending here => ?_⟩
      rw [eq_nil_of_length_eq_zero here]
      rfl
    | succ r =>
      cases piece with
      | flushed src =>
        refine .inl ⟨rfl, replicate ((8 - (r + 1)) % 8) false ++
          (Bits.ofBytes (textChunks src).flatten ++ output [] pieces), fun pending here => ?_⟩
        rw [output_cons, Piece.write, flatten_append, Bits.ofBytes_append,
          flushChunks_content (by omega), here]
        simp
      | raw src some =>
        refine .inr ⟨rfl, fun j inside => ?_⟩
        have later : ∃ i, j ≤ i ∧ ∀ pending : List Bool, pending.length = r + 1 →
            (output pending pieces)[i]? = pending[j]? := by
          rcases ih short with ⟨-, rest, alike⟩ | ⟨-, places⟩
          · refine ⟨j, Nat.le_refl j, fun pending here => ?_⟩
            rw [alike pending here, getElem?_append_left (by omega)]
          · obtain ⟨i, behind, there⟩ := places j inside
            exact ⟨i, behind.le, there⟩
        obtain ⟨i, behind, there⟩ := later
        have long := length_pos_iff.mpr some
        refine ⟨8 * src.length + i, by omega, fun pending here => ?_⟩
        rw [output_cons, getElem?_append_right (by simp [Piece.write]), ← there pending here]
        simp [Piece.write]
      | bits bits =>
        by_cases few : r + 1 + bits.length < 8
        · have grown : ∀ pending : List Bool, pending.length = r + 1 →
              output pending (.bits bits :: pieces) = output (pending ++ bits) pieces := by
            intro pending here
            rw [output_cons, Piece.write, pushBits_few (by omega)]
            rfl
          rw [overtakes, decide_eq_true few, Bool.true_and]
          swap
          · nofun
          rcases ih few with ⟨never, rest, alike⟩ | ⟨late, places⟩
          · refine .inl ⟨never, bits ++ rest, fun pending here => ?_⟩
            rw [grown pending here, alike _ (by rw [length_append, here]), append_assoc]
          · refine .inr ⟨late, fun j inside => ?_⟩
            obtain ⟨i, behind, there⟩ := places j (by omega)
            refine ⟨i, behind, fun pending here => ?_⟩
            rw [grown pending here, there _ (by rw [length_append, here]),
              getElem?_append_left (by omega)]
        · -- what is pending afterwards is the end of these bits
          have full : (r + 1 + bits.length) % 8 ≤ bits.length := by omega
          have split := take_append_drop (bits.length - (r + 1 + bits.length) % 8) bits
          refine .inl ⟨by rw [overtakes, decide_eq_false few, Bool.false_and]; nofun, bits.take
            (bits.length - (r + 1 + bits.length) % 8) ++
            output (bits.drop (bits.length - (r + 1 + bits.length) % 8)) pieces, fun pending here => ?_⟩
          have content := @pushBits_content pending bits (by omega)
          rw [← split, ← append_assoc, split] at content
          have left := (pushBits_sizes pending bits (by omega)).2
          obtain ⟨written, rest⟩ := append_inj' content (by rw [left, here, length_drop]; omega)
          rw [output_cons, Piece.write, written, rest, append_assoc]

theorem putBitsLoop_bits (value : Nat) (here : Bits.ofBytes storage = before ++ old ++ after) :
    Bits.ofBytes (putBitsLoop value old.length before.length storage) =
      before ++ Bits.ofNat old.length value ++ after := by
  induction old generalizing before storage with
  | nil => simpa [putBitsLoop, Bits.ofNat] using here
  | cons bit old ih =>
    have inside : before.length < 8 * storage.length := by
      rw [← Bits.ofBytes_length, here]
      simp
    have changed := Bits.ofBytes_modify storage inside (value.testBit old.length)
    have one : Bits.ofBytes (storage.modify (before.length / 8)
        (Bits.setMsb · (before.length % 8) (value.testBit old.length))) =
        (before ++ [value.testBit old.length]) ++ old ++ after := by
      rw [changed, here]
      simp
    have rest := ih one
    rw [length_append, length_singleton] at rest
    rw [length_cons, putBitsLoop, rest, Bits.ofNat]
    simp

theorem putBits_filled (value : Nat) (here : Bits.ofBytes storage = before ++ old ++ after)
    (some : old ≠ []) : ∃ storage',
      stored (putBits before.length value old.length (filled storage [])) = .ok storage' ∧
      Bits.ofBytes storage' = before ++ Bits.ofNat old.length value ++ after := by
  have sizes := congrArg List.length here
  simp only [Bits.ofBytes_length, length_append] at sizes
  have room : ¬ (filled storage []).size * 8 < before.length + old.length := by
    change ¬ storage.length * 8 < _
    omega
  refine ⟨_, ?_, putBitsLoop_bits value here⟩
  rw [putBits, if_neg (by simpa using some), if_neg room]
  rfl

end

variable {front back : List Write} {n : Nat} {b : ByteBuffer}

theorem writes_kept {calls : List Write} {storage : Bytes} {pending : List Bool}
    (short : pending.length < 8) (done : writes calls (filled storage pending) = .ok b) :
    ∃ storage' pending', b = filled storage' pending' ∧ pending'.length < 8 := by
  induction calls generalizing storage pending with
  | nil => exact ⟨storage, pending, (Except.ok.inj done).symm, short⟩
  | cons call calls ih =>
    rw [writes, foldlM_cons, call.run_filled storage short] at done
    cases copied : appendAll (call.piece.write pending).1 storage with
    | error fault =>
      rw [copied] at done
      cases done
    | ok result =>
      rw [copied] at done
      exact ih (call.piece.write_short short) done

theorem ofNat_last (k value : Nat) : (Bits.ofNat (k + 1) value)[k]? = some (value.testBit 0) := by
  induction k with
  | zero => rfl
  | succ k ih => rw [Bits.ofNat, getElem?_cons_succ, ih]

theorem placeholder_cases {pending : List Bool} (short : pending.length < 8) (n : Nat)
    (pieces : List Piece) :
    (overtakes ((pending.length + n) % 8) pieces = false ∧ ∃ rest, ∀ value,
      output pending (.bits (Bits.ofNat n value) :: pieces) =
        pending ++ Bits.ofNat n value ++ rest) ∨
    (overtakes ((pending.length + n) % 8) pieces = true ∧ ∀ k, n = k + 1 → ∃ i,
      pending.length + n ≤ i ∧ ∀ value,
        (output pending (.bits (Bits.ofNat n value) :: pieces))[i]? = some (value.testBit 0)) := by
  have content := fun value => pushBits_content (Bits.ofNat n value) short
  have sizes := fun value => (pushBits_sizes pending (Bits.ofNat n value) short).2
  simp only [Bits.ofNat_length] at sizes
  rcases output_cases pieces (Nat.mod_lt (pending.length + n) (by decide)) with
    ⟨never, rest, alike⟩ | ⟨late, places⟩
  · refine .inl ⟨never, rest, fun value => ?_⟩
    rw [output_cons, Piece.write, alike _ (sizes value), ← append_assoc, content value]
  · refine .inr ⟨late, fun k is => ?_⟩
    subst is
    have pending_ : (pending.length + (k + 1)) % 8 ≠ 0 := by
      intro none
      rw [none] at late
      cases pieces <;> cases late
    obtain ⟨i, behind, there⟩ := places ((pending.length + (k + 1)) % 8 - 1) (by omega)
    have lengths := fun value => congrArg List.length (content value)
    simp only [length_append, sizes, Bits.ofNat_length] at lengths
    have front := lengths 0
    refine ⟨(Bits.ofBytes (pushBits pending (Bits.ofNat (k + 1) 0)).1.flatten).length + i, by omega,
      fun value => ?_⟩
    have same := lengths value
    have last : (_ ++ _ : List Bool)[pending.length + k]? = _ :=
      congrArg (·[pending.length + k]?) (content value)
    rw [getElem?_append_right (by omega), getElem?_append_right (by omega), Nat.add_sub_cancel_left,
      ofNat_last] at last
    have index : pending.length + k -
        (Bits.ofBytes (pushBits pending (Bits.ofNat (k + 1) value)).1.flatten).length =
          (pending.length + (k + 1)) % 8 - 1 := by omega
    rw [index, ← there _ (sizes value)] at last
    rw [output_cons, Piece.write, getElem?_append_right (by omega), ← last]
    congr 1
    omega

/-- Patching a placeholder of any value is the same as writing the value, exactly if no bytes are
appended through a pointer while a bit of the placeholder is pending. -/
theorem patched_iff (positive : 0 < n) (start : writes front fresh = .ok b) {known : Nat}
    {done : ByteBuffer} (written : direct front back n known = .ok done) :
    (∀ placeholder value, stored (patched front back n placeholder value) =
        stored (direct front back n value)) ↔
      overtakes ((b.bitwpos + n) % 8) (back.map Write.piece) = false := by
  obtain ⟨storage, pending, rfl, short⟩ :=
    @writes_kept _ _ [] [] (Nat.zero_lt_succ 7) start
  have place : (filled storage pending).bitwpos = (Bits.ofBytes storage ++ pending).length := by
    simp [bitwpos, filled]
    omega
  have turn : ((filled storage pending).bitwpos + n) % 8 = (pending.length + n) % 8 := by
    rw [place, length_append, Bits.ofBytes_length]
    omega
  let pieces := back.map Write.piece
  let packet value := storage ++ (copies pending (.bits (Bits.ofNat n value) :: pieces)).flatten
  have runs : ∀ value, writes (.writeBits value n :: back) (filled storage pending) >>= flushBits =
      (filled · []) <$> appendAll (copies pending (.bits (Bits.ofNat n value) :: pieces)) storage :=
    fun value => writes_filled (.writeBits value n :: back) storage short
  have run : ∀ value, direct front back n value =
      writes (.writeBits value n :: back) (filled storage pending) >>= flushBits := by
    intro value
    rw [direct, writes, foldlM_append]
    change (writes front fresh >>= _) >>= _ = _
    rw [start]
    rfl
  have whole : ∀ value, direct front back n value = .ok (filled (packet value) []) := by
    rw [run, runs] at written
    intro value
    have sizes : (copies pending (.bits (Bits.ofNat n value) :: pieces)).map List.length =
        (copies pending (.bits (Bits.ofNat n known) :: pieces)).map List.length := by
      have one := pushBits_sizes pending (Bits.ofNat n known) short
      have two := pushBits_sizes pending (Bits.ofNat n value) short
      rw [Bits.ofNat_length] at one two
      rw [copies, copies, map_append, map_append]
      exact congrArg₂ _ (two.1.trans one.1.symm)
        (copies_sizes pieces (pushBits_short _ _ short) (two.2.trans one.2.symm))
    have copied : appendAll (copies pending (.bits (Bits.ofNat n value) :: pieces)) storage =
        .ok (packet value) := by
      rw [appendAll_ok_iff, sizes]
      refine ⟨?_, rfl⟩
      cases first : appendAll (copies pending (.bits (Bits.ofNat n known) :: pieces)) storage with
      | ok => exact ((appendAll_ok_iff _ _ _).mp first).1
      | error =>
        rw [first] at written
        cases written
    rw [run, runs, copied]
    rfl
  have bits : ∀ value, Bits.ofBytes (packet value) = Bits.ofBytes storage ++
      output pending (.bits (Bits.ofNat n value) :: pieces) := fun value => Bits.ofBytes_append ..
  have put : ∀ placeholder value, patched front back n placeholder value =
      putBits (Bits.ofBytes storage ++ pending).length value n (filled (packet placeholder) []) := by
    intro placeholder value
    have done := (run placeholder).symm.trans (whole placeholder)
    rw [patched, start, ← place]
    change (writes (.writeBits placeholder n :: back) (filled storage pending) >>= flushBits) >>= _ = _
    rw [done]
    rfl
  have some : ∀ value, Bits.ofNat n value ≠ [] := fun value none => by
    have length := Bits.ofNat_length n value
    rw [none] at length
    exact Nat.ne_of_lt positive length
  rw [turn]
  rcases placeholder_cases short n pieces with ⟨never, rest, alike⟩ | ⟨late, places⟩
  · refine iff_of_true (fun placeholder value => ?_) never
    have old := bits placeholder
    have new := bits value
    rw [alike, ← append_assoc, ← append_assoc] at old new
    obtain ⟨storage', patch, same⟩ := putBits_filled value old (some placeholder)
    rw [Bits.ofNat_length] at patch same
    rw [put, patch, whole, Bits.ofBytes_injective (same.trans new.symm)]
    rfl
  · refine iff_of_false (fun patches => ?_) (by rw [late]; exact Bool.noConfusion)
    -- the last bit of the placeholder is not among those that are patched
    obtain ⟨k, rfl⟩ := Nat.exists_eq_succ_of_ne_zero (Nat.ne_of_gt positive)
    obtain ⟨i, far, last⟩ := places k rfl
    have bit : ∀ value, (Bits.ofBytes (packet value))[8 * storage.length + i]? =
        .some (value.testBit 0) := by
      intro value
      rw [bits, getElem?_append_right (by simp), ← last value]
      simp
    have within := (List.getElem?_eq_some_iff.mp (bit 0)).1
    generalize place_ : Bits.ofBytes storage ++ pending = before at put
    have far_ : before.length + (k + 1) ≤ 8 * storage.length + i := by
      rw [← place_, length_append, Bits.ofBytes_length]
      omega
    have front : ((Bits.ofBytes (packet 0)).take before.length).length = before.length :=
      length_take_of_le (by omega)
    have middle : (((Bits.ofBytes (packet 0)).drop before.length).take (k + 1)).length = k + 1 :=
      length_take_of_le (by rw [length_drop]; omega)
    have split : Bits.ofBytes (packet 0) = (Bits.ofBytes (packet 0)).take before.length ++
        ((Bits.ofBytes (packet 0)).drop before.length).take (k + 1) ++
          (Bits.ofBytes (packet 0)).drop (before.length + (k + 1)) := by
      rw [append_assoc, ← drop_drop, take_append_drop, take_append_drop]
    obtain ⟨storage', patch, same⟩ := putBits_filled 1 split
      (ne_nil_of_length_pos (by rw [middle]; exact positive))
    rw [front, middle] at patch
    rw [middle] at same
    have alike := patches 0 1
    rw [put, patch, whole] at alike
    obtain rfl : storage' = packet 1 := Except.ok.inj alike
    have one := bit 1
    rw [same, getElem?_append_right (by rw [length_append, front, Bits.ofNat_length]; exact far_),
      getElem?_drop, length_append, front, Bits.ofNat_length, Nat.add_sub_of_le far_, bit 0] at one
    cases one

theorem patched_text : stored (patched [.writeBit true]
      [.writeBits 3 5, .append [7] (by decide)] 4 0 9) =
    stored (direct [.writeBit true] [.writeBits 3 5, .append [7] (by decide)] 4 9) :=
  (@patched_iff [.writeBit true] [.writeBits 3 5, .append [7] (by decide)] 4 ⟨[], 0, 0, 7, 128⟩
    (by decide) (by decide) 0 ⟨[128, 7, 192], 0, 3, 8, 0⟩ (by decide)).mpr (by decide) 0 9

theorem patched_overtaken : stored (patched [] [.append [0] (by decide)] 4 0 9) = .ok [144, 0] ∧
    stored (direct [] [.append [0] (by decide)] 4 9) = .ok [0, 144] := by
  decide

end OpenWoW.ByteBuffer
