import OpenWoW.ByteBuffer

/-! Sequences of writer calls, their mirrored reads, and what the writer stores. -/
namespace OpenWoW.ByteBuffer

open List

/-- The integer overloads of `operator<<` and `operator>>`. -/
inductive IntType
  | uint8 | uint16 | uint32 | uint64 | int8 | int16 | int32 | int64
  deriving DecidableEq, Repr

def IntType.bytes : IntType → Nat
  | uint8 | int8 => 1
  | uint16 | int16 => 2
  | uint32 | int32 => 4
  | uint64 | int64 => 8

/-- A string without a NUL character. -/
abbrev Text := { text : Bytes // (0 : UInt8) ∉ text }

/-- One writer call with its argument. A signed argument is its two's complement
image, so both overloads of a width carry the same bits. -/
inductive Call
  | writeBit (bit : Bool)
  | writeBits (bits : Nat) (range : 1 ≤ bits ∧ bits ≤ 32) (value : Nat)
  | putInt (type : IntType) (value : BitVec (8 * type.bytes))
  | flushBits
  | putString (text : Text)
  | writeString (text : Text)

/-- What the mirrored reader call returns. -/
inductive Value
  | bit (value : Bool)
  | bits (value : Nat)
  | int (type : IntType) (value : BitVec (8 * type.bytes))
  | none
  | text (value : Bytes)
  deriving DecidableEq

/-- A call without its argument: what a mirrored reader knows in advance. -/
inductive Shape
  | writeBit
  | writeBits (bits : Nat) (range : 1 ≤ bits ∧ bits ≤ 32)
  | putInt (type : IntType)
  | flushBits
  | putString (length : Nat)
  | writeString (length : Nat)
  deriving DecidableEq

def Call.shape : Call → Shape
  | .writeBit _ => .writeBit
  | .writeBits bits range _ => .writeBits bits range
  | .putInt type _ => .putInt type
  | .flushBits => .flushBits
  | .putString text => .putString text.1.length
  | .writeString text => .writeString text.1.length

def Call.write : Call → ByteBuffer → Except Fault ByteBuffer
  | .writeBit bit => ByteBuffer.writeBit bit
  | .writeBits bits _ value => ByteBuffer.writeBits value bits
  | .putInt type value => appendInt type.bytes value.toNat
  | .flushBits => ByteBuffer.flushBits
  | .putString text => ByteBuffer.putString text.1
  | .writeString text => ByteBuffer.writeString text.1

/-- The value that the call wrote, as its mirrored read must return it. -/
def Call.value : Call → Value
  | .writeBit bit => .bit bit
  | .writeBits bits _ value => .bits (value % 2 ^ bits)
  | .putInt type value => .int type value
  | .flushBits => .none
  | .putString text => .text text.1
  | .writeString text => .text text.1

/-- The mirrored reader call. Nothing mirrors `FlushBits`. -/
def Shape.read : Shape → Reader Value
  | .writeBit => do return .bit (← readBit)
  | .writeBits bits _ => do return .bits (← readBits bits)
  | .putInt type => do return .int type (BitVec.ofNat _ (← readInt type.bytes))
  | .flushBits => return .none
  | .putString _ => do return .text (← getString)
  | .writeString length => do return .text (← readString length)

def writeAll : List Call → ByteBuffer → Except Fault ByteBuffer
  | [], b => .ok b
  | call :: calls, b => do
      let b ← call.write b
      writeAll calls b

def readAll : List Shape → Reader (List Value)
  | [] => pure []
  | shape :: shapes => do
      let value ← shape.read
      let values ← readAll shapes
      return value :: values

/-- Writing the calls and a final `FlushBits` to a fresh buffer succeeds, and the
mirrored reads of its storage from position 0 return exactly the written values
and stop at its end. -/
def RoundTrips (calls : List Call) : Prop :=
  ∃ written, (writeAll calls fresh >>= ByteBuffer.flushBits) = .ok written ∧
    ∃ done, readAll (calls.map Call.shape) { fresh with storage := written.storage } =
        .ok (calls.map Call.value, done) ∧
      done.rpos = done.size

/-- No bit follows a partly filled byte that was already flushed, and no
characters are written while bits are pending. `pending` counts the bits of the
byte being filled; `stale` says that the reader still stands inside a byte that
the writer has closed. -/
def Aligned : Nat → Bool → List Shape → Prop
  | _, _, [] => True
  | pending, stale, .writeBit :: shapes =>
    stale = false ∧ Aligned ((pending + 1) % 8) false shapes
  | pending, stale, .writeBits bits _ :: shapes =>
    stale = false ∧ Aligned ((pending + bits) % 8) false shapes
  | pending, stale, .putInt _ :: shapes => Aligned 0 (stale || pending != 0) shapes
  | pending, stale, .flushBits :: shapes => Aligned 0 (stale || pending != 0) shapes
  | pending, stale, .putString length :: shapes =>
    (length = 0 ∨ pending = 0) ∧ Aligned 0 (stale || pending != 0) shapes
  | pending, stale, .writeString length :: shapes =>
    (length = 0 ∨ pending = 0) ∧ Aligned pending stale shapes

instance decidableAligned :
    ∀ (pending : Nat) (stale : Bool) (shapes : List Shape), Decidable (Aligned pending stale shapes)
  | _, _, [] => isTrue trivial
  | pending, _, .writeBit :: shapes =>
    @instDecidableAnd _ _ _ (decidableAligned ((pending + 1) % 8) false shapes)
  | pending, _, .writeBits bits _ :: shapes =>
    @instDecidableAnd _ _ _ (decidableAligned ((pending + bits) % 8) false shapes)
  | pending, stale, .putInt _ :: shapes => decidableAligned 0 (stale || pending != 0) shapes
  | pending, stale, .flushBits :: shapes => decidableAligned 0 (stale || pending != 0) shapes
  | pending, stale, .putString _ :: shapes =>
    @instDecidableAnd _ _ _ (decidableAligned 0 (stale || pending != 0) shapes)
  | pending, stale, .writeString _ :: shapes =>
    @instDecidableAnd _ _ _ (decidableAligned pending stale shapes)

/-- The length of the copy, if any, that closes a byte with `pending` bits. -/
def flushSizes (pending : Nat) : List Nat := if pending = 0 then [] else [1]

def textSizes (length : Nat) : List Nat := if length = 0 then [] else [length]

/-- The lengths of the copies into the storage that the calls and the final
`FlushBits` make, in order. -/
def appendSizes : Nat → List Shape → List Nat
  | pending, [] => flushSizes pending
  | pending, .writeBit :: shapes =>
    List.replicate ((pending + 1) / 8) 1 ++ appendSizes ((pending + 1) % 8) shapes
  | pending, .writeBits bits _ :: shapes =>
    List.replicate ((pending + bits) / 8) 1 ++ appendSizes ((pending + bits) % 8) shapes
  | pending, .putInt type :: shapes =>
    flushSizes pending ++ type.bytes :: appendSizes 0 shapes
  | pending, .flushBits :: shapes => flushSizes pending ++ appendSizes 0 shapes
  | pending, .putString length :: shapes =>
    textSizes length ++ (flushSizes pending ++ 1 :: appendSizes 0 shapes)
  | pending, .writeString length :: shapes =>
    textSizes length ++ appendSizes pending shapes

/-- Every copy starts below the size that `append` asserts. -/
def Fits : Nat → List Nat → Prop
  | _, [] => True
  | stored, size :: sizes => stored < maxSize ∧ Fits (stored + size) sizes

instance decidableFits : ∀ (stored : Nat) (sizes : List Nat), Decidable (Fits stored sizes)
  | _, [] => isTrue trivial
  | stored, size :: sizes => @instDecidableAnd _ _ _ (decidableFits (stored + size) sizes)

/-- The writer between two calls: everything copied so far, and the bits pending. -/
def filled (storage : Bytes) (pending : List Bool) : ByteBuffer :=
  ⟨storage, 0, storage.length, 8 - pending.length, Bits.pack pending⟩

/-- The copies that writing `bits` makes, and the bits still pending after it. -/
def pushBits : List Bool → List Bool → List Bytes × List Bool
  | pending, [] => ([], pending)
  | pending, bit :: bits =>
    if pending.length = 7 then
      let next := pushBits [] bits
      ([Bits.pack (pending ++ [bit])] :: next.1, next.2)
    else pushBits (pending ++ [bit]) bits

def flushChunks (pending : List Bool) : List Bytes :=
  if pending.length = 0 then [] else [[Bits.pack pending]]

def textChunks (text : Bytes) : List Bytes := if text.length = 0 then [] else [text]

/-- The copies that the calls and the final `FlushBits` make. -/
def chunks : List Bool → List Call → List Bytes
  | pending, [] => flushChunks pending
  | pending, .writeBit bit :: calls =>
    (pushBits pending [bit]).1 ++ chunks (pushBits pending [bit]).2 calls
  | pending, .writeBits bits _ value :: calls =>
    (pushBits pending (Bits.ofNat bits value)).1 ++
      chunks (pushBits pending (Bits.ofNat bits value)).2 calls
  | pending, .putInt type value :: calls =>
    flushChunks pending ++ Bits.leBytes type.bytes value.toNat :: chunks [] calls
  | pending, .flushBits :: calls => flushChunks pending ++ chunks [] calls
  | pending, .putString text :: calls =>
    textChunks text.1 ++ (flushChunks pending ++ [0] :: chunks [] calls)
  | pending, .writeString text :: calls => textChunks text.1 ++ chunks pending calls

/-- Append the copies one after the other, each under the assertion. -/
def appendAll : List Bytes → Bytes → Except Fault Bytes
  | [], storage => .ok storage
  | chunk :: chunks, storage =>
    if storage.length < maxSize then appendAll chunks (storage ++ chunk) else .error .assertion

theorem appendAll_append (front back : List Bytes) (storage : Bytes) :
    appendAll (front ++ back) storage = appendAll front storage >>= appendAll back := by
  induction front generalizing storage with
  | nil => rfl
  | cons chunk front ih =>
    simp only [cons_append, appendAll]
    split
    · exact ih _
    · rfl

theorem appendAll_ok_iff (parts : List Bytes) (storage result : Bytes) :
    appendAll parts storage = .ok result ↔
      Fits storage.length (parts.map List.length) ∧ result = storage ++ parts.flatten := by
  induction parts generalizing storage with
  | nil => simp [appendAll, Fits, eq_comm]
  | cons chunk parts ih =>
    by_cases room : storage.length < maxSize
    · simp [appendAll, Fits, room, ih]
    · simp [appendAll, Fits, room]

variable (src : Bytes) (value : Nat) (text : Bytes) (calls : List Call) (storage : Bytes)

theorem overwrite_end (src : Bytes) :
    overwrite storage storage.length src = storage ++ src := by
  have grow : storage.length + src.length - storage.length = src.length := by omega
  simp [overwrite, grow]

theorem append_filled (pending : List Bool) (some : src.length ≠ 0) :
    append src (filled storage pending) = (filled · pending) <$> appendAll [src] storage := by
  by_cases room : storage.length < maxSize
  · simp [append, filled, size, appendAll, some, room, overwrite_end]
  · simp [append, filled, size, appendAll, some, room]

variable {pending : List Bool}

theorem flushBits_filled (short : pending.length < 8) :
    flushBits (filled storage pending) =
      (filled · []) <$> appendAll (flushChunks pending) storage := by
  by_cases none : pending.length = 0
  · have empty : pending = [] := eq_nil_of_length_eq_zero none
    subst empty
    simp [flushBits, filled, flushChunks, appendAll, pure, Except.pure]
  have some : 8 - pending.length ≠ 8 := by omega
  have copied := append_filled [Bits.pack pending] storage pending (by simp)
  simp only [flushBits, flushChunks, none, ↓reduceIte]
  rw [if_neg (show ¬(filled storage pending).bitpos = 8 from some),
    show (filled storage pending).curbitval = Bits.pack pending from rfl, copied]
  cases appendAll [[Bits.pack pending]] storage <;> rfl

theorem writeBit_filled (bit : Bool) (storage : Bytes) (pending : List Bool)
    (short : pending.length < 8) :
    writeBit bit (filled storage pending) =
      (filled · (pushBits pending [bit]).2) <$> appendAll (pushBits pending [bit]).1 storage := by
  have position : (8 - pending.length + (2 ^ 64 - 1)) % 2 ^ 64 = 7 - pending.length := by omega
  have step : writeBit bit (filled storage pending) =
      if 7 - pending.length = 0 then do
        let b ← append [Bits.pack (pending ++ [bit])]
          ⟨storage, 0, storage.length, 8, Bits.pack (pending ++ [bit])⟩
        return { b with curbitval := 0 }
      else return ⟨storage, 0, storage.length, 7 - pending.length, Bits.pack (pending ++ [bit])⟩ := by
    rw [Bits.pack_append_singleton, ← position]
    rfl
  rw [step]
  by_cases last : pending.length = 7
  · by_cases room : storage.length < maxSize
    · simp [last, pushBits, append, size, appendAll, room, overwrite_end, filled, Bind.bind,
        Except.bind, pure, Except.pure]
    · simp [last, pushBits, append, size, appendAll, room, Bind.bind, Except.bind]
  have positive : ¬ 7 - pending.length = 0 := by omega
  have fewer : 8 - (pending.length + 1) = 7 - pending.length := by omega
  simp [positive, pushBits, last, appendAll, filled, fewer, pure, Except.pure]

theorem pushBits_short (pending bits : List Bool) (short : pending.length < 8) :
    (pushBits pending bits).2.length < 8 := by
  induction bits generalizing pending with
  | nil => exact short
  | cons bit bits ih =>
    unfold pushBits
    split
    · exact ih [] (by simp)
    · exact ih (pending ++ [bit]) (by simp; omega)

theorem pushBits_cons (pending bits : List Bool) (bit : Bool) :
    pushBits pending (bit :: bits) =
      ((pushBits pending [bit]).1 ++ (pushBits (pushBits pending [bit]).2 bits).1,
        (pushBits (pushBits pending [bit]).2 bits).2) := by
  by_cases last : pending.length = 7 <;> simp [pushBits, last]

theorem writeBits_filled (bits : Nat) (storage : Bytes) (pending : List Bool)
    (short : pending.length < 8) :
    writeBits value bits (filled storage pending) =
      (filled · (pushBits pending (Bits.ofNat bits value)).2) <$>
        appendAll (pushBits pending (Bits.ofNat bits value)).1 storage := by
  induction bits generalizing storage pending with
  | zero => rfl
  | succ bits ih =>
    have rest := pushBits_short pending [value.testBit bits] short
    rw [writeBits, writeBit_filled _ _ _ short, Bits.ofNat,
      pushBits_cons pending (Bits.ofNat bits value), appendAll_append, bind_map_left, map_bind]
    congr 1
    funext stored
    exact ih stored _ rest

theorem appendInt_filled {width : Nat}
    (short : pending.length < 8) (wide : width ≠ 0) :
    appendInt width value (filled storage pending) =
      (filled · []) <$> appendAll (flushChunks pending ++ [Bits.leBytes width value]) storage := by
  rw [appendInt, flushBits_filled _ short, appendAll_append, bind_map_left, map_bind]
  congr 1
  funext stored
  exact append_filled _ stored [] (by simpa using wide)

theorem writeString_filled (pending : List Bool) :
    writeString text (filled storage pending) =
      (filled · pending) <$> appendAll (textChunks text) storage := by
  by_cases empty : text.length = 0
  · simp [writeString, textChunks, empty, appendAll]
  · simpa [writeString, textChunks, empty] using append_filled text storage pending empty

theorem putString_filled (short : pending.length < 8) :
    putString text (filled storage pending) =
      (filled · []) <$> appendAll (textChunks text ++ (flushChunks pending ++ [[0]])) storage := by
  have split : putString text (filled storage pending) =
      writeString text (filled storage pending) >>= appendInt 1 0 := by
    unfold putString writeString
    split <;> rfl
  rw [split, writeString_filled, appendAll_append, bind_map_left, map_bind]
  congr 1
  funext stored
  exact appendInt_filled 0 stored short (by decide)

theorem writeAll_filled (pending : List Bool)
    (short : pending.length < 8) :
    (writeAll calls (filled storage pending) >>= flushBits) =
      (filled · []) <$> appendAll (chunks pending calls) storage := by
  induction calls generalizing storage pending with
  | nil => exact flushBits_filled storage short
  | cons call calls ih =>
    have shift : ∀ (front : List Bytes) (left : List Bool), left.length < 8 →
        call.write (filled storage pending) = (filled · left) <$> appendAll front storage →
        (writeAll (call :: calls) (filled storage pending) >>= flushBits) =
          (filled · []) <$> appendAll (front ++ chunks left calls) storage := by
      intro front left fewer written
      rw [writeAll, written, appendAll_append, bind_map_left, bind_assoc, map_bind]
      congr 1
      funext stored
      exact ih stored left fewer
    cases call with
    | writeBit bit =>
      exact shift _ _ (pushBits_short _ _ short) (writeBit_filled bit storage pending short)
    | writeBits bits range value =>
      exact shift _ _ (pushBits_short _ _ short) (writeBits_filled value bits storage pending short)
    | putInt type value =>
      have wide : type.bytes ≠ 0 := by cases type <;> decide
      simpa [chunks] using shift _ [] (by simp)
        (appendInt_filled value.toNat storage short wide)
    | flushBits => exact shift _ [] (by simp) (flushBits_filled storage short)
    | putString text =>
      simpa [chunks] using shift _ [] (by simp) (putString_filled text.1 storage short)
    | writeString text =>
      exact shift _ pending short (writeString_filled text.1 storage pending)

theorem pushBits_sizes (pending bits : List Bool) (short : pending.length < 8) :
    (pushBits pending bits).1.map List.length =
        List.replicate ((pending.length + bits.length) / 8) 1 ∧
      (pushBits pending bits).2.length = (pending.length + bits.length) % 8 := by
  induction bits generalizing pending with
  | nil =>
    have none : pending.length / 8 = 0 := Nat.div_eq_of_lt short
    simp [pushBits, none, Nat.mod_eq_of_lt short]
  | cons bit bits ih =>
    unfold pushBits
    split
    · rename_i last
      obtain ⟨copies, left⟩ := ih [] (by simp)
      have count : (pending.length + (bits.length + 1)) / 8 = bits.length / 8 + 1 := by omega
      have rest : (pending.length + (bits.length + 1)) % 8 = bits.length % 8 := by omega
      simp only [length_nil, Nat.zero_add] at copies left
      simp only [map_cons, copies, left, length_cons, length_nil, count, rest,
        replicate_succ, and_self]
    · obtain ⟨copies, left⟩ := ih (pending ++ [bit]) (by simp; omega)
      have total : (pending ++ [bit]).length + bits.length =
          pending.length + (bit :: bits).length := by simp; omega
      rw [total] at copies left
      exact ⟨copies, left⟩

theorem flushChunks_sizes (pending : List Bool) :
    (flushChunks pending).map List.length = flushSizes pending.length := by
  unfold flushChunks flushSizes
  split <;> rfl

theorem textChunks_sizes :
    (textChunks text).map List.length = textSizes text.length := by
  unfold textChunks textSizes
  split <;> rfl

theorem chunks_sizes (pending : List Bool) (short : pending.length < 8) :
    (chunks pending calls).map List.length = appendSizes pending.length (calls.map Call.shape) := by
  induction calls generalizing pending with
  | nil => exact flushChunks_sizes pending
  | cons call calls ih =>
    have none := ih [] (by simp)
    cases call with
    | writeBit bit =>
      obtain ⟨copies, left⟩ := pushBits_sizes pending [bit] short
      simp only [chunks, map_append, copies, ih _ (pushBits_short _ _ short), left,
        map_cons, Call.shape, appendSizes, length_singleton]
    | writeBits bits range value =>
      obtain ⟨copies, left⟩ := pushBits_sizes pending (Bits.ofNat bits value) short
      simp only [chunks, map_append, copies, ih _ (pushBits_short _ _ short), left,
        map_cons, Call.shape, appendSizes, Bits.ofNat_length]
    | putInt type value =>
      simp [chunks, none, flushChunks_sizes, Call.shape, appendSizes]
    | flushBits => simp [chunks, none, flushChunks_sizes, Call.shape, appendSizes]
    | putString text =>
      simp [chunks, none, flushChunks_sizes, textChunks_sizes, Call.shape, appendSizes]
    | writeString text =>
      simp [chunks, ih pending short, textChunks_sizes, Call.shape, appendSizes]

theorem written_iff (written : ByteBuffer) :
    (writeAll calls fresh >>= flushBits) = .ok written ↔
      Fits 0 (appendSizes 0 (calls.map Call.shape)) ∧
        written = filled (chunks [] calls).flatten [] := by
  have run : (writeAll calls fresh >>= flushBits) =
      (filled · []) <$> appendAll (chunks [] calls) [] :=
    writeAll_filled calls [] [] (by simp)
  have sizes := chunks_sizes calls [] (by simp)
  rw [run, ← show (([] : List Bool).length) = 0 from rfl, ← sizes]
  cases done : appendAll (chunks [] calls) [] with
  | error fault =>
    have stuck : ¬ Fits 0 ((chunks [] calls).map List.length) := by
      intro fits
      have fine := (appendAll_ok_iff (chunks [] calls) [] _).mpr ⟨fits, rfl⟩
      rw [done] at fine
      cases fine
    simp [stuck]
  | ok storage =>
    obtain ⟨fits, same⟩ := (appendAll_ok_iff (chunks [] calls) [] storage).mp done
    have fits : Fits 0 ((chunks [] calls).map List.length) := fits
    simp [fits, same, eq_comm]

end OpenWoW.ByteBuffer
