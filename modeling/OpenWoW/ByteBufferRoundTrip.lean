import OpenWoW.ByteBufferCalls
import Mathlib

/-! When the mirrored reader follows the writer. -/
namespace OpenWoW.ByteBuffer

open List

/-- The bytes still to be read. -/
def Remaining (b : ByteBuffer) (rest : Bytes) : Prop :=
  ∃ front, b.storage = front ++ rest ∧ b.rpos = front.length

variable {b : ByteBuffer}

theorem Remaining.end (done : Remaining b []) : b.rpos = b.size := by
  obtain ⟨front, stored, position⟩ := done
  simp [size, stored, position]

theorem bind_ok {α β : Type} {first : Reader α} {next : α → Reader β} {after : ByteBuffer}
    {value : α} (ran : first b = .ok (value, after)) : (first >>= next) b = next value after := by
  change (first b >>= fun result => next result.1 result.2) = _
  rw [ran]
  rfl

variable {done : ByteBuffer}

theorem of_bind_ok {α β : Type} {first : Reader α} {next : α → Reader β}
    {result : β} (ran : (first >>= next) b = .ok (result, done)) :
    ∃ value after, first b = .ok (value, after) ∧ next value after = .ok (result, done) := by
  change (first b >>= fun pair => next pair.1 pair.2) = _ at ran
  cases head : first b with
  | error fault => rw [head] at ran; cases ran
  | ok pair => rw [head] at ran; exact ⟨pair.1, pair.2, rfl, ran⟩

variable {rest : Bytes}

theorem read_remaining {b : ByteBuffer} {len : Nat} {bytes : Bytes}
    (left : Remaining b (bytes ++ rest)) (length : bytes.length = len) :
    read len b = .ok (bytes, { b with rpos := b.rpos + len }) ∧
      Remaining { b with rpos := b.rpos + len } rest := by
  subst length
  obtain ⟨front, stored, position⟩ := left
  refine ⟨?_, front ++ bytes, by simp [stored], by simp [position]⟩
  have room : ¬ b.size < b.rpos + bytes.length := by
    simp only [size, stored, position, length_append]
    omega
  unfold read
  rw [if_neg room]
  simp [stored, position]

theorem readInt_remaining (b : ByteBuffer) (width : Nat) (bytes rest : Bytes)
    (left : Remaining b (bytes ++ rest)) (length : bytes.length = width) :
    readInt width b = .ok (Bits.leValue bytes, { b with rpos := b.rpos + width }) ∧
      Remaining { b with rpos := b.rpos + width } rest := by
  obtain ⟨taken, after⟩ := read_remaining left length
  refine ⟨?_, after⟩
  rw [readInt, bind_ok taken]
  rfl

/-- The reader at the place where the writer has `pending` bits in its open byte.
With bits pending the reader holds that byte, complete; a stale reader holds a
closed byte of which only padding is left. -/
def InStep (b : ByteBuffer) (pending : Nat) (stale : Bool) (rest : Bytes) : Prop :=
  if pending = 0 then
    Remaining b rest ∧
      if stale then b.bitpos < 7 ∧ ∀ i, b.bitpos < i → i < 8 → Bits.msb b.curbitval i = false
      else 7 ≤ b.bitpos
  else b.bitpos + 1 = pending ∧ ∃ tail, rest = b.curbitval :: tail ∧ Remaining b tail

theorem InStep.aligned (here : InStep b 0 false rest) : Remaining b rest ∧ 7 ≤ b.bitpos := here

variable {stale : Bool}

theorem InStep.open {pending : Nat} (here : InStep b pending stale rest) (some : pending ≠ 0) :
    b.bitpos + 1 = pending ∧ ∃ tail, rest = b.curbitval :: tail ∧ Remaining b tail := by
  simpa [InStep, some] using here

theorem readBit_inStep {b : ByteBuffer} {pending : Nat} {byte : UInt8} {tail : Bytes}
    (small : pending < 8) (here : InStep b pending false (byte :: tail)) :
    ∃ after, readBit b = .ok (Bits.msb byte pending, after) ∧ after.curbitval = byte ∧
      if pending = 7 then InStep after 0 false tail
      else InStep after (pending + 1) false (byte :: tail) := by
  by_cases none : pending = 0
  · subst none
    obtain ⟨left, high⟩ := here.aligned
    obtain ⟨value, rest⟩ := readInt_remaining b 1 [byte] tail left rfl
    refine ⟨{ b with rpos := b.rpos + 1, bitpos := 0, curbitval := byte }, ?_, rfl, ?_⟩
    · rw [readBit, if_pos (by omega), value]
      simp [Bits.leValue, Bind.bind, Except.bind, pure, Except.pure]
    · obtain ⟨front, stored, position⟩ := rest
      exact ⟨rfl, tail, rfl, front, stored, position⟩
  · obtain ⟨position, kept, same, rest⟩ := here.open none
    obtain ⟨rfl, rfl⟩ := List.cons.inj same
    obtain ⟨front, stored, place⟩ := rest
    refine ⟨{ b with bitpos := pending }, ?_, rfl, ?_⟩
    · rw [readBit, if_neg (by omega), position]
      rfl
    · split
      · rename_i last
        exact ⟨⟨front, stored, place⟩, Nat.le_of_eq last.symm⟩
      · exact ⟨rfl, tail, rfl, front, stored, place⟩

theorem readBit_stale {b : ByteBuffer} (here : InStep b 0 true rest) :
    ∃ after, readBit b = .ok (false, after) := by
  obtain ⟨-, low, padding⟩ := here
  refine ⟨{ b with bitpos := b.bitpos + 1 }, ?_⟩
  have zero := padding (b.bitpos + 1) (by omega) (by omega)
  rw [readBit, if_neg (by omega), zero]
  rfl

/-- The bytes copied from here on when `bits` and then `calls` are written. -/
def upcoming (pending bits : List Bool) (calls : List Call) : Bytes :=
  ((pushBits pending bits).1 ++ chunks (pushBits pending bits).2 calls).flatten

variable {pending : List Bool}

variable (bits : List Bool) (bit : Bool) (shapes : List Shape)

theorem upcoming_last (calls : List Call)
    (last : pending.length = 7) :
    upcoming pending (bit :: bits) calls =
      Bits.pack (pending ++ [bit]) :: upcoming [] bits calls := by
  simp [upcoming, pushBits, last]

theorem upcoming_more (calls : List Call)
    (more : pending.length ≠ 7) :
    upcoming pending (bit :: bits) calls = upcoming (pending ++ [bit]) bits calls := by
  simp [upcoming, pushBits, more]

/-- The first byte of `rest` starts with the bits `pending`. -/
def Opens (pending : List Bool) (rest : Bytes) : Prop :=
  ∃ byte tail, rest = byte :: tail ∧
    ∀ i, i < pending.length → Bits.msb byte i = pending[i]?.getD false

theorem opens_pack (pending more : List Bool) (tail : Bytes)
    (short : (pending ++ more).length ≤ 8) :
    Opens pending (Bits.pack (pending ++ more) :: tail) := by
  refine ⟨_, tail, rfl, ?_⟩
  intro i inside
  simp only [length_append] at short
  rw [Bits.msb_pack (pending ++ more) (by simpa using short) i (by omega),
    getElem?_append_left inside]

variable {calls : List Call}

theorem opens_upcoming {bits : List Bool} (pending : List Bool)
    (some : pending.length ≠ 0) (short : pending.length < 8)
    (after : ∀ left : List Bool, left.length ≠ 0 →
      left.length = (pending.length + bits.length) % 8 → Opens left (chunks left calls).flatten) :
    Opens pending (upcoming pending bits calls) := by
  induction bits generalizing pending with
  | nil => exact after pending some (by simp [Nat.mod_eq_of_lt short])
  | cons bit bits ih =>
    by_cases last : pending.length = 7
    · rw [upcoming_last _ _ _ last]
      exact opens_pack pending [bit] _ (by simp [last])
    rw [upcoming_more _ _ _ last]
    obtain ⟨byte, tail, same, front⟩ := ih (pending ++ [bit]) (by simp) (by simp; omega) (by
      intro left nonempty length
      apply after left nonempty
      rw [length, length_append, length_singleton, length_cons]
      congr 1
      omega)
    refine ⟨byte, tail, same, ?_⟩
    intro i inside
    rw [front i (by simp; omega), getElem?_append_left inside]

theorem opens_flush (rest : List Bytes) (some : pending.length ≠ 0)
    (short : pending.length < 8) : Opens pending (flushChunks pending ++ rest).flatten := by
  have packed := opens_pack pending [] rest.flatten (by simp; omega)
  simpa [flushChunks, some] using packed

variable {text : Bytes}

theorem textChunks_of_empty (empty : text.length = 0) : textChunks text = [] := by
  simp [textChunks, empty]

theorem opens_chunks (pending : List Bool) (some : pending.length ≠ 0) (short : pending.length < 8)
    (aligned : Aligned pending.length false (calls.map Call.shape)) :
    Opens pending (chunks pending calls).flatten := by
  induction calls generalizing pending with
  | nil => simpa [chunks] using opens_flush [] some short
  | cons call calls ih =>
    cases call with
    | writeBit bit =>
      apply opens_upcoming pending some short
      intro left nonempty length
      apply ih left nonempty (by omega)
      rw [length]
      exact aligned.2
    | writeBits bits range value =>
      apply opens_upcoming pending some short
      intro left nonempty length
      apply ih left nonempty (by omega)
      rw [length, Bits.ofNat_length]
      exact aligned.2
    | putInt type value => exact opens_flush _ some short
    | flushBits => exact opens_flush _ some short
    | putString text =>
      have empty := aligned.1.resolve_right some
      rw [chunks, textChunks_of_empty empty]
      exact opens_flush _ some short
    | writeString text =>
      have empty := aligned.1.resolve_right some
      rw [chunks, textChunks_of_empty empty]
      exact ih pending some short aligned.2

/-- The bits that `ReadBits` takes, in order. -/
def readBitList : Nat → Reader (List Bool)
  | 0 => pure []
  | n + 1 => do
      let bit ← readBit
      let bits ← readBitList n
      return bit :: bits

theorem readBitList_length {n : Nat} (b after : ByteBuffer) (bits : List Bool)
    (ran : readBitList n b = .ok (bits, after)) : bits.length = n := by
  induction n generalizing b bits with
  | zero => cases ran; rfl
  | succ n ih =>
    obtain ⟨bit, next, -, rest⟩ := of_bind_ok ran
    obtain ⟨others, last, tail, done⟩ := of_bind_ok rest
    cases done
    simp [ih _ _ tail]

theorem or_low_bit {value i : Nat} (clear : value % 2 ^ (i + 1) = 0) :
    value ||| 1 <<< i = value + 2 ^ i := by
  obtain ⟨high, rfl⟩ := Nat.dvd_of_mod_eq_zero clear
  have small : 2 ^ i < 2 ^ (i + 1) := Nat.pow_lt_pow_right (by decide) (by omega)
  rw [Nat.one_shiftLeft, Nat.two_pow_add_eq_or_of_lt small]

theorem readBitsLoop_eq {n : Nat} (value : Nat) (b : ByteBuffer) (clear : value % 2 ^ n = 0)
    (room : value + 2 ^ n ≤ 2 ^ 32) :
    readBitsLoop n value b =
      (fun pair : List Bool × ByteBuffer => (value + Bits.toNat pair.1, pair.2)) <$>
        readBitList n b := by
  induction n generalizing value b with
  | zero => rfl
  | succ n ih =>
    have half : 2 ^ (n + 1) = 2 ^ n + 2 ^ n := by rw [Nat.pow_succ]; omega
    have clearTail : value % 2 ^ n = 0 := by
      apply Nat.mod_eq_zero_of_dvd
      exact Nat.dvd_trans (Nat.pow_dvd_pow 2 (Nat.le_succ n)) (Nat.dvd_of_mod_eq_zero clear)
    change (readBit b >>= fun pair => readBitsLoop n
        (if pair.1 then (value ||| 1 <<< n) % 2 ^ 32 else value) pair.2) =
      _ <$> (readBit b >>= fun pair => readBitList n pair.2 >>= fun rest =>
        Except.ok (pair.1 :: rest.1, rest.2))
    cases taken : readBit b with
    | error fault => rfl
    | ok pair =>
      obtain ⟨bit, after⟩ := pair
      change readBitsLoop n (if bit then (value ||| 1 <<< n) % 2 ^ 32 else value) after =
        _ <$> (readBitList n after >>= fun rest => Except.ok (bit :: rest.1, rest.2))
      have next : (if bit then (value ||| 1 <<< n) % 2 ^ 32 else value) =
          value + if bit then 2 ^ n else 0 := by
        have positive := Nat.two_pow_pos n
        split
        · rw [or_low_bit clear]
          exact Nat.mod_eq_of_lt (by omega)
        · rfl
      rw [next, ih _ after]
      · cases rest : readBitList n after with
        | error fault => rfl
        | ok others =>
          have count := readBitList_length after others.2 others.1 rest
          simp [Bits.toNat, count, Bind.bind, Except.bind, Nat.add_assoc]
      · split <;> simp [clearTail]
      · split <;> omega

/-- Written bits come back, and the reader stays in step over them. -/
theorem readBitList_inStep {bits : List Bool} (pending : List Bool) (b : ByteBuffer)
    (short : pending.length < 8)
    (after : ∀ left : List Bool, left.length ≠ 0 →
      left.length = (pending.length + bits.length) % 8 → Opens left (chunks left calls).flatten)
    (here : InStep b pending.length false (upcoming pending bits calls)) :
    ∃ done, readBitList bits.length b = .ok (bits, done) ∧
      InStep done (pushBits pending bits).2.length false
        (chunks (pushBits pending bits).2 calls).flatten := by
  induction bits generalizing pending b with
  | nil => exact ⟨b, rfl, here⟩
  | cons bit bits ih =>
    have opens : Opens (pending ++ [bit]) (upcoming pending (bit :: bits) calls) := by
      by_cases last : pending.length = 7
      · rw [upcoming_last _ _ _ last]
        simpa using opens_pack (pending ++ [bit]) [] (upcoming [] bits calls) (by simp [last])
      rw [upcoming_more _ _ _ last]
      apply opens_upcoming (pending ++ [bit]) (by simp) (by simp; omega)
      intro left nonempty length
      apply after left nonempty
      rw [length, length_append, length_singleton, length_cons]
      congr 1
      omega
    obtain ⟨byte, tail, same, front⟩ := opens
    rw [same] at here
    obtain ⟨next, taken, -, stepped⟩ := readBit_inStep short here
    have value : Bits.msb byte pending.length = bit := by
      simpa using front pending.length (by simp)
    rw [value] at taken
    have rest : ∃ done, readBitList bits.length next = .ok (bits, done) ∧
        InStep done (pushBits pending (bit :: bits)).2.length false
          (chunks (pushBits pending (bit :: bits)).2 calls).flatten := by
      by_cases last : pending.length = 7
      · rw [upcoming_last _ _ _ last] at same
        obtain ⟨-, rfl⟩ := List.cons.inj same
        simp only [last, ↓reduceIte] at stepped
        simp only [pushBits, last, ↓reduceIte]
        apply ih [] next (by simp) _ stepped
        intro left nonempty length
        apply after left nonempty
        rw [length, length_cons, length_nil]
        omega
      · rw [upcoming_more _ _ _ last] at same
        simp only [last, ↓reduceIte, ← same] at stepped
        simp only [pushBits, last, ↓reduceIte]
        apply ih (pending ++ [bit]) next (by simp; omega) _ (by simpa using stepped)
        intro left nonempty length
        apply after left nonempty
        rw [length, length_append, length_singleton, length_cons]
        congr 1
        omega
    obtain ⟨done, others, final⟩ := rest
    refine ⟨done, ?_, final⟩
    rw [length_cons, readBitList, bind_ok taken, bind_ok others]
    rfl

theorem InStep.flushed {rest : List Bytes}
    (short : pending.length < 8) (closed : stale = true → pending.length = 0)
    (here : InStep b pending.length stale (flushChunks pending ++ rest).flatten) :
    InStep b 0 (stale || pending.length != 0) rest.flatten := by
  by_cases none : pending.length = 0
  · simpa [flushChunks, none] using here
  have fresh : stale = false := by
    cases stale
    · rfl
    · exact absurd (closed rfl) none
  obtain ⟨position, tail, same, left⟩ := here.open none
  simp only [flushChunks, none, ↓reduceIte, cons_append, nil_append,
    flatten_cons, List.cons.injEq] at same
  obtain ⟨packed, rfl⟩ := same
  have mark : (stale || pending.length != 0) = true := by simp [none]
  rw [mark]
  refine ⟨left, by omega, ?_⟩
  intro i low high
  rw [← packed, Bits.msb_pack pending (by omega) i high,
    getElem?_eq_none (by omega)]
  rfl

theorem InStep.advance {after : Bytes} {len : Nat}
    (here : InStep b 0 stale rest) (left : Remaining { b with rpos := b.rpos + len } after) :
    InStep { b with rpos := b.rpos + len } 0 stale after := ⟨left, here.2⟩

theorem readInt_inStep {b : ByteBuffer} {width value : Nat}
    (here : InStep b 0 stale (Bits.leBytes width value ++ rest)) :
    ∃ done, readInt width b = .ok (value % 256 ^ width, done) ∧ InStep done 0 stale rest := by
  obtain ⟨taken, left⟩ := readInt_remaining b width (Bits.leBytes width value) rest here.1
    (Bits.leBytes_length width value)
  rw [Bits.leValue_leBytes] at taken
  exact ⟨_, taken, here.advance left⟩

theorem takeWhile_nonzero (clean : (0 : UInt8) ∉ text) :
    text.takeWhile (fun char => decide (char ≠ 0)) = text := by
  rw [takeWhile_eq_self_iff]
  intro char member
  have nonzero : char ≠ 0 := by
    rintro rfl
    exact clean member
  simpa using nonzero

theorem readString_inStep {b : ByteBuffer}
    (clean : (0 : UInt8) ∉ text) (here : InStep b 0 stale (text ++ rest)) :
    ∃ done, readString text.length b = .ok (text, done) ∧ InStep done 0 stale rest := by
  by_cases empty : text.length = 0
  · have none : text = [] := eq_nil_of_length_eq_zero empty
    subst none
    exact ⟨b, rfl, here⟩
  obtain ⟨taken, left⟩ := read_remaining here.1 rfl
  refine ⟨_, ?_, here.advance left⟩
  rw [readString, if_neg empty, bind_ok taken, takeWhile_nonzero clean]
  rfl

theorem getStringLoop_remaining (text rest : Bytes) (clean : (0 : UInt8) ∉ text) (turns : Nat)
    (read : Bytes) (b : ByteBuffer) (enough : text.length < turns)
    (left : Remaining b (text ++ 0 :: rest)) :
    getStringLoop turns read b =
        .ok (read ++ text, { b with rpos := b.rpos + (text.length + 1) }) ∧
      Remaining { b with rpos := b.rpos + (text.length + 1) } rest := by
  induction text generalizing turns read b with
  | nil =>
    obtain ⟨turns, rfl⟩ : ∃ n, turns = n + 1 := ⟨turns - 1, by omega⟩
    obtain ⟨taken, after⟩ := readInt_remaining b 1 [0] rest left rfl
    obtain ⟨front, stored, position⟩ := left
    have more : b.rpos < b.size := by simp [size, stored, position]
    refine ⟨?_, after⟩
    simp only [getStringLoop, more, ↓reduceIte]
    rw [bind_ok taken]
    simp [Bits.leValue, pure, StateT.pure, Except.pure]
  | cons char text ih =>
    obtain ⟨turns, rfl⟩ : ∃ n, turns = n + 1 := ⟨turns - 1, by simp at enough; omega⟩
    have nonzero : char.toNat ≠ 0 := by
      intro zero
      apply clean
      have null : char = 0 := UInt8.toNat_inj.mp zero
      simp [null]
    obtain ⟨taken, after⟩ := readInt_remaining b 1 [char] (text ++ 0 :: rest) left rfl
    obtain ⟨rest', final⟩ := ih (by simp_all) turns (read ++ [char]) { b with rpos := b.rpos + 1 }
      (by simpa using enough) after
    obtain ⟨front, stored, position⟩ := left
    have more : b.rpos < b.size := by simp [size, stored, position]
    have total : b.rpos + 1 + (text.length + 1) = b.rpos + ((char :: text).length + 1) := by
      simp only [length_cons]
      omega
    simp only [total] at rest' final
    refine ⟨?_, final⟩
    simp only [getStringLoop, more, ↓reduceIte]
    rw [bind_ok taken]
    simp only [Bits.leValue, Nat.mul_zero, Nat.add_zero, nonzero, ↓reduceIte, UInt8.ofNat_toNat]
    rw [rest', append_assoc, singleton_append]

theorem getString_inStep {b : ByteBuffer}
    (clean : (0 : UInt8) ∉ text) (here : InStep b 0 stale (text ++ 0 :: rest)) :
    ∃ done, getString b = .ok (text, done) ∧ InStep done 0 stale rest := by
  have enough : text.length < b.size - b.rpos := by
    obtain ⟨front, stored, position⟩ := here.1
    simp only [size, stored, position, length_append, length_cons]
    omega
  obtain ⟨taken, left⟩ := getStringLoop_remaining text rest clean _ [] b enough here.1
  exact ⟨_, taken, here.advance left⟩

theorem textChunks_flatten (text : Bytes) (rest : List Bytes) :
    (textChunks text ++ rest).flatten = text ++ rest.flatten := by
  by_cases empty : text.length = 0
  · simp [textChunks, eq_nil_of_length_eq_zero empty]
  · simp [textChunks, empty]

/-- Aligned calls are read back, whatever they wrote. -/
theorem readAll_aligned (pending : List Bool) (stale : Bool) (b : ByteBuffer)
    (short : pending.length < 8) (closed : stale = true → pending.length = 0)
    (aligned : Aligned pending.length stale (calls.map Call.shape))
    (here : InStep b pending.length stale (chunks pending calls).flatten) :
    ∃ done, readAll (calls.map Call.shape) b = .ok (calls.map Call.value, done) ∧
      done.rpos = done.size := by
  induction calls generalizing pending stale b with
  | nil =>
    have closing : InStep b pending.length stale (flushChunks pending ++ []).flatten := by
      simpa [chunks] using here
    exact ⟨b, rfl, (closing.flushed short closed).1.end⟩
  | cons call calls ih =>
    have shift : ∀ (left : List Bool) (mark : Bool) (after : ByteBuffer), left.length < 8 →
        (mark = true → left.length = 0) → Aligned left.length mark (calls.map Call.shape) →
        call.shape.read b = .ok (call.value, after) →
        InStep after left.length mark (chunks left calls).flatten →
        ∃ done, readAll ((call :: calls).map Call.shape) b =
            .ok ((call :: calls).map Call.value, done) ∧ done.rpos = done.size := by
      intro left mark after fewer shut even taken next
      obtain ⟨done, rest, final⟩ := ih left mark after fewer shut even next
      refine ⟨done, ?_, final⟩
      rw [map_cons, readAll, bind_ok taken, bind_ok rest]
      rfl
    cases call with
    | writeBit bit =>
      obtain ⟨rfl, even⟩ := aligned
      obtain ⟨-, count⟩ := pushBits_sizes pending [bit] short
      rw [← show (pushBits pending [bit]).2.length = (pending.length + 1) % 8 from count] at even
      obtain ⟨after, taken, next⟩ := readBitList_inStep pending b short (by
        intro left some length
        rw [← count] at length
        exact opens_chunks left some (by omega) (length ▸ even)) here
      obtain ⟨first, middle, single, rest⟩ := of_bind_ok taken
      cases rest
      apply shift _ false after (pushBits_short _ _ short) (by simp) even _ next
      rw [Call.shape, Shape.read, bind_ok single]
      rfl
    | writeBits bits range value =>
      obtain ⟨rfl, even⟩ := aligned
      obtain ⟨-, count⟩ := pushBits_sizes pending (Bits.ofNat bits value) short
      have same := count
      rw [Bits.ofNat_length] at same
      rw [← same] at even
      obtain ⟨after, taken, next⟩ := readBitList_inStep pending b
        short (by
          intro left some length
          rw [← count] at length
          exact opens_chunks left some (by omega) (length ▸ even)) here
      apply shift _ false after (pushBits_short _ _ short) (by simp) even _ next
      have top : 2 ^ bits ≤ 2 ^ 32 := Nat.pow_le_pow_right (by decide) range.2
      have collected : readBits bits b = .ok (value % 2 ^ bits, after) := by
        rw [readBits, readBitsLoop_eq 0 b (Nat.zero_mod _) (by omega)]
        rw [Bits.ofNat_length] at taken
        rw [taken]
        simp [Bits.toNat_ofNat]
      rw [Call.shape, Shape.read, bind_ok collected]
      rfl
    | putInt type value =>
      have open_ := here.flushed short closed
      rw [flatten_cons] at open_
      obtain ⟨after, taken, next⟩ := readInt_inStep open_
      apply shift [] _ after (by simp) (by simp) aligned _ next
      have fits : value.toNat % 256 ^ type.bytes = value.toNat := by
        apply Nat.mod_eq_of_lt
        have bound := value.isLt
        rwa [Nat.pow_mul] at bound
      rw [fits] at taken
      rw [Call.shape, Shape.read, bind_ok taken, BitVec.ofNat_toNat, BitVec.setWidth_eq]
      rfl
    | flushBits =>
      exact shift [] _ b (by simp) (by simp) aligned rfl (here.flushed short closed)
    | putString text =>
      obtain ⟨clear, even⟩ := aligned
      rw [chunks, textChunks_flatten] at here
      have closing : InStep b 0 (stale || pending.length != 0)
          (text.1 ++ 0 :: (chunks [] calls).flatten) := by
        rcases clear with empty | none
        · rw [eq_nil_of_length_eq_zero empty] at here ⊢
          simpa using here.flushed short closed
        have empty : pending = [] := eq_nil_of_length_eq_zero none
        subst empty
        simpa [flushChunks] using here
      obtain ⟨after, taken, next⟩ := getString_inStep text.2 closing
      apply shift [] _ after (by simp) (by simp) even _ next
      rw [Call.shape, Shape.read, bind_ok taken]
      rfl
    | writeString text =>
      obtain ⟨clear, even⟩ := aligned
      rw [chunks, textChunks_flatten] at here
      rcases clear with empty | none
      · have nothing : text.1 = [] := eq_nil_of_length_eq_zero empty
        rw [nothing] at here
        apply shift pending stale b short closed even _ here
        simp [Call.shape, Shape.read, Call.value, nothing, readString, pure, StateT.pure,
          Except.pure, Bind.bind, StateT.bind, Except.bind]
      · rw [none] at here even
        obtain ⟨after, taken, next⟩ := readString_inStep text.2 here
        apply shift pending stale after short closed (none ▸ even) _ (none ▸ next)
        rw [Call.shape, Shape.read, bind_ok taken]
        rfl

/-- The argument that shows a misaligned shape: bits all set, and characters whose
top bit is clear. -/
def Shape.probe : Shape → Call
  | .writeBit => .writeBit true
  | .writeBits bits range => .writeBits bits range (2 ^ bits - 1)
  | .putInt type => .putInt type 0
  | .flushBits => .flushBits
  | .putString length => .putString ⟨List.replicate length 97, by simp [List.mem_replicate]⟩
  | .writeString length => .writeString ⟨List.replicate length 97, by simp [List.mem_replicate]⟩

@[simp] theorem Shape.probe_shape (shape : Shape) : shape.probe.shape = shape := by
  cases shape <;> simp [Shape.probe, Call.shape]

theorem probe_shapes : (shapes.map Shape.probe).map Call.shape = shapes := by
  simp [Function.comp_def]

theorem ofNat_full (bits : Nat) : Bits.ofNat bits (2 ^ bits - 1) = List.replicate bits true := by
  have full : ∀ width, width ≤ bits →
      Bits.ofNat width (2 ^ bits - 1) = List.replicate width true := by
    intro width
    induction width with
    | zero => intro _; rfl
    | succ width ih =>
      intro within
      have set : (2 ^ bits - 1).testBit width = true := by
        rw [Nat.testBit_two_pow_sub_one]
        exact decide_eq_true (by omega)
      rw [Bits.ofNat, ih (by omega), set, replicate_succ]
  exact full bits (Nat.le_refl _)

theorem toNat_full {bits : List Bool} (full : Bits.toNat bits = 2 ^ bits.length - 1) :
    bits = List.replicate bits.length true := by
  induction bits with
  | nil => rfl
  | cons bit bits ih =>
    have below := Bits.toNat_lt bits
    have positive := Nat.two_pow_pos bits.length
    simp only [Bits.toNat, length_cons, Nat.pow_succ] at full
    cases bit with
    | false => simp only [Bool.false_eq_true, ↓reduceIte] at full; omega
    | true =>
      simp only [↓reduceIte] at full
      rw [length_cons, replicate_succ, ← ih (by omega)]

/-- The bits read from the open byte were all set. -/
def Marked (b : ByteBuffer) (pending : Nat) : Prop :=
  ∀ i, i < pending → Bits.msb b.curbitval i = true

/-- Where set bits are read back, the reader is in step and has seen set bits only. -/
theorem readBitList_probe {bits : Nat} (pending : List Bool)
    (b : ByteBuffer) (short : pending.length < 8)
    (here : InStep b pending.length false (upcoming pending (List.replicate bits true) calls))
    (marked : Marked b pending.length)
    (ran : readBitList bits b = .ok (List.replicate bits true, done)) :
    InStep done (pushBits pending (List.replicate bits true)).2.length false
        (chunks (pushBits pending (List.replicate bits true)).2 calls).flatten ∧
      Marked done (pushBits pending (List.replicate bits true)).2.length := by
  induction bits generalizing pending b with
  | zero => cases ran; exact ⟨here, marked⟩
  | succ bits ih =>
    rw [replicate_succ] at ran here ⊢
    obtain ⟨bit, next, taken, rest⟩ := of_bind_ok ran
    obtain ⟨others, last, tail, final⟩ := of_bind_ok rest
    cases final
    have some : upcoming pending (true :: List.replicate bits true) calls ≠ [] := by
      intro none
      rw [none] at here
      by_cases empty : pending.length = 0
      · rw [empty] at here
        obtain ⟨left, high⟩ := here.aligned
        have full : b.size < b.rpos + 1 := by rw [left.end]; omega
        have stuck : readBit b = .error (.positionException false b.rpos 1 b.size) := by
          have failed : readInt 1 b = .error (.positionException false b.rpos 1 b.size) := by
            change (read 1 b >>= _) = _
            simp only [read, full, ↓reduceIte]
            rfl
          rw [readBit, if_pos (by omega), failed]
          rfl
        rw [stuck] at taken
        cases taken
      · obtain ⟨-, tail, same, -⟩ := here.open empty
        cases same
    obtain ⟨byte, after, same⟩ := exists_cons_of_ne_nil some
    rw [same] at here
    obtain ⟨next', taken', kept, stepped⟩ :=
      readBit_inStep short here
    rw [taken'] at taken
    obtain ⟨seen, rfl⟩ : Bits.msb byte pending.length = true ∧ next' = next := by
      simpa using taken
    have marks : Marked next' (pending.length + 1) := by
      intro i inside
      rw [kept]
      by_cases top : i = pending.length
      · rw [top]; exact seen
      have old : pending.length ≠ 0 := by omega
      obtain ⟨-, tail', equal, -⟩ := here.open old
      rw [(List.cons.inj equal).1]
      exact marked i (by omega)
    by_cases last : pending.length = 7
    · rw [upcoming_last _ _ _ last] at same
      obtain ⟨-, rfl⟩ := List.cons.inj same
      simp only [last, ↓reduceIte] at stepped
      simp only [pushBits, last, ↓reduceIte]
      exact ih [] next' (by simp) stepped (by intro i inside; simp at inside) tail
    · rw [upcoming_more _ _ _ last] at same
      simp only [last, ↓reduceIte, ← same] at stepped
      simp only [pushBits, last, ↓reduceIte]
      exact ih (pending ++ [true]) next' (by simp; omega) (by simpa using stepped)
        (by simpa using marks) tail

theorem probe_text {length : Nat} {b : ByteBuffer}
    (here : InStep b pending.length stale (List.replicate length 97 ++ rest))
    (marked : Marked b pending.length) : length = 0 ∨ pending.length = 0 := by
  by_contra mixed
  obtain ⟨some, open_⟩ := not_or.mp mixed
  obtain ⟨length, rfl⟩ : ∃ n, length = n + 1 := ⟨length - 1, by omega⟩
  obtain ⟨-, tail, same, -⟩ := here.open open_
  rw [replicate_succ, cons_append, List.cons.injEq] at same
  have first := marked 0 (by omega)
  rw [← same.1] at first
  exact absurd first (by decide)

theorem readBits_probe {bits : Nat} (range : 1 ≤ bits ∧ bits ≤ 32) {b after : ByteBuffer}
    (ran : readBits bits b = .ok ((2 ^ bits - 1) % 2 ^ bits, after)) :
    readBitList bits b = .ok (List.replicate bits true, after) := by
  have top : 2 ^ bits ≤ 2 ^ 32 := Nat.pow_le_pow_right (by decide) range.2
  have positive := Nat.two_pow_pos bits
  rw [readBits, readBitsLoop_eq 0 b (Nat.zero_mod _) (by omega)] at ran
  cases list : readBitList bits b with
  | error fault => rw [list] at ran; cases ran
  | ok pair =>
    obtain ⟨taken, next⟩ := pair
    rw [list] at ran
    have length := readBitList_length b next taken list
    obtain ⟨full, rfl⟩ : Bits.toNat taken = (2 ^ bits - 1) % 2 ^ bits ∧ next = after := by
      simpa using ran
    rw [Nat.mod_eq_of_lt (by omega), ← length] at full
    rw [toNat_full full, length]

theorem readBitList_stale {bits : Nat} (positive : 1 ≤ bits) {b : ByteBuffer}
    (here : InStep b 0 true rest)
    (ran : readBitList bits b = .ok (List.replicate bits true, done)) : False := by
  obtain ⟨bits, rfl⟩ : ∃ n, bits = n + 1 := ⟨bits - 1, by omega⟩
  obtain ⟨bit, next, taken, tail⟩ := of_bind_ok ran
  obtain ⟨others, last, -, final⟩ := of_bind_ok tail
  obtain ⟨after, padding⟩ := readBit_stale here
  rw [padding] at taken
  cases taken
  simp [pure, StateT.pure, Except.pure, replicate_succ] at final

/-- Where the probe of a shape is read back, the shape is aligned. -/
theorem aligned_of_probe {shapes : List Shape} (pending : List Bool) (stale : Bool) (b : ByteBuffer)
    (short : pending.length < 8) (closed : stale = true → pending.length = 0)
    (here : InStep b pending.length stale (chunks pending (shapes.map Shape.probe)).flatten)
    (marked : Marked b pending.length)
    (ran : readAll shapes b = .ok ((shapes.map Shape.probe).map Call.value, done)) :
    Aligned pending.length stale shapes := by
  induction shapes generalizing pending stale b with
  | nil => trivial
  | cons shape shapes ih =>
    obtain ⟨value, after, taken, rest⟩ := of_bind_ok ran
    obtain ⟨values, last, tail, final⟩ := of_bind_ok rest
    obtain ⟨rfl, rfl, rfl⟩ : value = shape.probe.value ∧
        values = (shapes.map Shape.probe).map Call.value ∧ last = done := by
      simpa [pure, StateT.pure, Except.pure, and_assoc] using final
    have unmarked : ∀ next : ByteBuffer, Marked next ([] : List Bool).length := by
      intro next i inside
      cases inside
    -- a run of set bits, whether from one bit or from several
    have bitRun : ∀ bits, 1 ≤ bits →
        InStep b pending.length stale
          (upcoming pending (List.replicate bits true) (shapes.map Shape.probe)) →
        readBitList bits b = .ok (List.replicate bits true, after) →
        stale = false ∧ Aligned ((pending.length + bits) % 8) false shapes := by
      intro bits positive start list
      cases stale with
      | true =>
        rw [closed rfl] at start
        exact (readBitList_stale positive start list).elim
      | false =>
        obtain ⟨next, marks⟩ := readBitList_probe pending b short start marked list
        have count := (pushBits_sizes pending (List.replicate bits true) short).2
        rw [length_replicate] at count
        rw [← count]
        exact ⟨rfl, ih _ false after (pushBits_short _ _ short) (by simp) next marks tail⟩
    cases shape with
    | writeBit =>
      apply bitRun 1 (by decide) here
      obtain ⟨bit, next, single, wrapped⟩ := of_bind_ok taken
      cases wrapped
      rw [readBitList, bind_ok single]
      rfl
    | writeBits bits range =>
      have start := here
      simp only [map_cons, Shape.probe, chunks, ofNat_full] at start
      apply bitRun bits range.1 start
      obtain ⟨number, next, list, wrapped⟩ := of_bind_ok taken
      cases wrapped
      exact readBits_probe range list
    | putInt type =>
      have open_ := here.flushed short closed
      rw [flatten_cons] at open_
      obtain ⟨next, read, stepped⟩ := readInt_inStep open_
      obtain ⟨number, moved, same, wrapped⟩ := of_bind_ok taken
      rw [read] at same
      cases same
      cases wrapped
      exact ih [] _ after (by simp) (by simp) stepped (unmarked after) tail
    | flushBits =>
      cases taken
      exact ih [] _ b (by simp) (by simp) (here.flushed short closed) (unmarked b) tail
    | putString length =>
      have start := here
      simp only [map_cons, Shape.probe, chunks, textChunks_flatten] at start
      have clear := probe_text start marked
      refine ⟨clear, ?_⟩
      have closing : InStep b 0 (stale || pending.length != 0)
          (List.replicate length 97 ++ 0 :: (chunks [] (shapes.map Shape.probe)).flatten) := by
        rcases clear with empty | none
        · subst empty
          simpa using InStep.flushed short closed start
        have empty : pending = [] := eq_nil_of_length_eq_zero none
        subst empty
        simpa [flushChunks] using start
      obtain ⟨next, read, stepped⟩ :=
        getString_inStep (by simp [mem_replicate]) closing
      obtain ⟨text, moved, same, wrapped⟩ := of_bind_ok taken
      rw [read] at same
      cases same
      cases wrapped
      exact ih [] _ after (by simp) (by simp) stepped (unmarked after) tail
    | writeString length =>
      have start := here
      simp only [map_cons, Shape.probe, chunks, textChunks_flatten] at start
      have clear := probe_text start marked
      refine ⟨clear, ?_⟩
      obtain ⟨text, moved, same, wrapped⟩ := of_bind_ok taken
      cases wrapped
      rcases clear with empty | none
      · subst empty
        cases same
        exact ih pending stale b short closed start marked tail
      have empty : pending = [] := eq_nil_of_length_eq_zero none
      subst empty
      obtain ⟨next, read, stepped⟩ :=
        readString_inStep (by simp [mem_replicate]) start
      rw [length_replicate] at read
      rw [read] at same
      cases same
      exact ih [] _ after short closed stepped (unmarked after) tail

theorem fresh_inStep (storage : Bytes) : InStep { fresh with storage := storage } 0 false storage :=
  ⟨⟨[], rfl, rfl⟩, show 7 ≤ 8 by omega⟩

theorem roundTrips_of_aligned (aligned : Aligned 0 false (calls.map Call.shape))
    (fits : Fits 0 (appendSizes 0 (calls.map Call.shape))) : RoundTrips calls := by
  refine ⟨_, (written_iff calls _).mpr ⟨fits, rfl⟩, ?_⟩
  exact readAll_aligned [] false _ (by simp) (by simp) aligned (fresh_inStep _)

/-- Mirrored reads undo writes for every argument exactly on the aligned shapes
that stay below the size assertion. -/
theorem roundTrips_iff_aligned :
    (∀ calls : List Call, calls.map Call.shape = shapes → RoundTrips calls) ↔
      Aligned 0 false shapes ∧ Fits 0 (appendSizes 0 shapes) := by
  constructor
  · intro all
    obtain ⟨written, stored, done, read, -⟩ :=
      all (shapes.map Shape.probe) (probe_shapes shapes)
    obtain ⟨fits, rfl⟩ := (written_iff _ written).mp stored
    rw [probe_shapes] at fits read
    refine ⟨?_, fits⟩
    exact aligned_of_probe [] false _ (by simp) (by simp) (fresh_inStep _)
      (by intro i inside; cases inside) read
  · rintro ⟨aligned, fits⟩ calls rfl
    exact roundTrips_of_aligned aligned fits

/-- A bit, a byte and a bit: the second bit is read from the padding of the first
byte, and the last byte of the storage is never read. -/
theorem bit_byte_bit_not_roundTrips :
    ¬ RoundTrips [.writeBit true, .putInt .uint8 5, .writeBit true] := by
  rintro ⟨written, stored, done, read, -⟩
  have bytes : written = filled [128, 5, 128] [] := ((written_iff _ _).mp stored).2
  subst bytes
  have actual : readAll [.writeBit, .putInt .uint8, .writeBit]
      { fresh with storage := [128, 5, 128] } =
        .ok ([.bit true, .int .uint8 5, .bit false], ⟨[128, 5, 128], 2, 0, 1, 128⟩) := by
    decide
  rw [show readAll (List.map Call.shape [.writeBit true, .putInt .uint8 5, .writeBit true])
    { fresh with storage := (filled [128, 5, 128] []).storage } = _ from actual] at read
  simp [Call.value] at read

def Reads (calls : List Call) (b done : ByteBuffer) : Prop :=
  readAll (calls.map Call.shape) b = .ok (calls.map Call.value, done)

/-- Before the bytes of the calls and of any more calls, the reader returns `a` and stops before the
bytes of the other calls. -/
def Follows {α : Type} (reader : Reader α) (calls : List Call) (a : α) : Prop :=
  ∀ more b done, Reads (calls ++ more) b done →
    ∃ after, reader b = .ok (a, after) ∧ Reads more after done

theorem Follows.pure {α : Type} (a : α) : Follows (Pure.pure a) [] a :=
  fun _ b _ reads => ⟨b, rfl, reads⟩

theorem Follows.bind {α β : Type} {first : Reader α} {next : α → Reader β} {front back : List Call}
    {a : α} {result : β} (before : Follows first front a) (after : Follows (next a) back result) :
    Follows (first >>= next) (front ++ back) result := by
  intro more b done reads
  rw [append_assoc] at reads
  obtain ⟨middle, read, reads⟩ := before _ b done reads
  obtain ⟨last, read', reads⟩ := after more middle done reads
  exact ⟨last, (bind_ok read).trans read', reads⟩

theorem Follows.map {α β : Type} {reader : Reader α} {a : α}
    (follows : Follows reader calls a) (f : α → β) :
    Follows (do return f (← reader)) calls (f a) := by
  have both : Follows (reader >>= fun a => Pure.pure (f a)) (calls ++ []) (f a) :=
    follows.bind (Follows.pure (f a))
  rwa [append_nil] at both

theorem Follows.ite {α : Type} {reader : Reader α} {a other : α} {p q : Bool}
    (same : p = q) (follows : q = true → Follows reader calls a) :
    Follows (if p then reader else Pure.pure other) (if q then calls else [])
      (if q then a else other) := by
  subst same
  cases p with
  | false => exact Follows.pure other
  | true => exact follows rfl

theorem follows_one {α : Type} {reader : Reader α} {call : Call} {a : α}
    (reads : ∀ b after, call.shape.read b = .ok (call.value, after) → reader b = .ok (a, after)) :
    Follows reader [call] a := by
  intro more b done all
  obtain ⟨value, after, read, rest⟩ := of_bind_ok all
  obtain ⟨values, last, read', returned⟩ := of_bind_ok rest
  cases returned
  exact ⟨after, reads b after read, read'⟩

theorem follows_readBit : Follows readBit [.writeBit bit] bit := by
  apply follows_one
  intro b after read
  obtain ⟨value, middle, read, returned⟩ := of_bind_ok read
  cases returned
  exact read

theorem follows_readBits {bits value : Nat} (range : 1 ≤ bits ∧ bits ≤ 32) (short : value < 2 ^ bits) :
    Follows (readBits bits) [.writeBits bits range value] value := by
  apply follows_one
  intro b after read
  obtain ⟨found, middle, read, returned⟩ := of_bind_ok read
  rw [Call.value, Nat.mod_eq_of_lt short] at returned
  cases returned
  exact read

theorem follows_readInt {α : Type} (type : IntType) (value : BitVec (8 * type.bytes))
    (f : BitVec (8 * type.bytes) → α) :
    Follows (do return f (BitVec.ofNat (8 * type.bytes) (← readInt type.bytes)))
      [.putInt type value] (f value) := by
  apply follows_one
  intro b after read
  obtain ⟨found, middle, read, returned⟩ := of_bind_ok read
  have eq : BitVec.ofNat (8 * type.bytes) found = value ∧ middle = after := by
    cases returned
    exact ⟨rfl, rfl⟩
  rw [bind_ok read, eq.1, eq.2]
  rfl

theorem RoundTrips.follow {α : Type} (trips : RoundTrips calls)
    {reader : Reader α} {a : α} (follows : Follows reader calls a) :
    ∃ written, (writeAll calls fresh >>= ByteBuffer.flushBits) = .ok written ∧
      ∃ done, reader { fresh with storage := written.storage } = .ok (a, done) ∧
        done.rpos = done.size := by
  obtain ⟨written, stored, done, read, whole⟩ := trips
  refine ⟨written, stored, ?_⟩
  obtain ⟨after, returned, rest⟩ := follows [] _ done (by rw [append_nil]; exact read)
  cases rest
  exact ⟨_, returned, whole⟩

end OpenWoW.ByteBuffer
