import OpenWoW.MovementRoundTrip
import Mathlib.Data.List.Nodup

/-! The packed and the scattered form of guids. -/
namespace OpenWoW.ByteBuffer

open List

/-- The loop of `appendPackGUID`: the mark and the bytes, from byte `i` on. -/
def packLoop (guid i mark : Nat) (bytes : Bytes) : Nat × Bytes :=
  if guid = 0 then (mark, bytes)
  else if guid % 256 = 0 then packLoop (guid / 256) (i + 1) mark bytes
  else packLoop (guid / 256) (i + 1) (mark ||| 1 <<< i) (bytes ++ [UInt8.ofNat guid])
termination_by guid

def appendPackGUID (guid : UInt64) : ByteBuffer → Except Fault ByteBuffer :=
  let (mark, bytes) := packLoop guid.toNat 0 0 []
  append (UInt8.ofNat mark :: bytes)

/-- The loop of `readPackGUID` with the number of turns that are left. Its own check of the position
throws what `read` would. -/
def readPackLoop (guidmark : Nat) : Nat → Nat → Nat → Reader Nat
  | 0, _, guid => pure guid
  | n + 1, i, guid =>
    if guidmark.testBit i then do
      let bit ← readInt 1
      readPackLoop guidmark n (i + 1) (guid ||| bit <<< (8 * i))
    else readPackLoop guidmark n (i + 1) guid

def readPackGUID : Reader UInt64 := do
  let guidmark ← readInt 1
  return UInt64.ofNat (← readPackLoop guidmark 8 0 0)

/-- What the loop writes from byte `i` on, the reader turns into the rest of the guid. -/
theorem readPackLoop_packLoop {n i guid mark : Nat} (bytes : Bytes) (fits : guid < 256 ^ n)
    (clear : ∀ j, i ≤ j → mark.testBit j = false) :
    ∃ more, (packLoop guid i mark bytes).2 = bytes ++ more ∧
      (∀ j < i, (packLoop guid i mark bytes).1.testBit j = mark.testBit j) ∧
      ∀ (guidmark : Nat), (∀ j < i + n, guidmark.testBit j =
        (packLoop guid i mark bytes).1.testBit j) → ∀ value rest b, value < 256 ^ i →
          Remaining b (more ++ rest) → ∃ done, Remaining done rest ∧
            readPackLoop guidmark n i value b = .ok (value + guid * 256 ^ i, done) := by
  induction n generalizing i guid mark bytes with
  | zero =>
    have none : guid = 0 := by simpa using fits
    rw [packLoop, if_pos none]
    refine ⟨[], (append_nil bytes).symm, fun _ _ => rfl, ?_⟩
    intro guidmark _ value rest b _ left
    refine ⟨b, left, ?_⟩
    rw [none, Nat.zero_mul]
    rfl
  | succ n ih =>
    have tail : guid / 256 < 256 ^ n := Nat.div_lt_of_lt_mul (by rwa [Nat.pow_succ'] at fits)
    have digit := Nat.div_add_mod guid 256
    have sum : guid * 256 ^ i = guid % 256 * 256 ^ i + guid / 256 * 256 ^ (i + 1) := by
      conv_lhs => rw [← digit]
      ring
    have wide : 256 ^ i = 2 ^ (8 * i) := (Nat.pow_mul 2 8 i).symm
    have larger : 256 ^ i ≤ 256 ^ (i + 1) := Nat.pow_le_pow_right (by decide) (Nat.le_succ i)
    by_cases none : guid % 256 = 0
    · have step : packLoop guid i mark bytes = packLoop (guid / 256) (i + 1) mark bytes := by
        by_cases zero : guid = 0
        · rw [zero, packLoop, if_pos rfl, Nat.zero_div, packLoop, if_pos rfl]
        · rw [packLoop, if_neg zero, if_pos none]
      obtain ⟨more, same, low, reads⟩ := @ih (i + 1) (guid / 256) mark bytes tail fun j beyond =>
        clear j (by omega)
      rw [step]
      refine ⟨more, same, fun j early => low j (by omega), fun guidmark marked value rest b small left =>
        ?_⟩
      obtain ⟨done, here, read⟩ := reads guidmark (fun j early => marked j (by omega)) value rest b
        (by omega) left
      refine ⟨done, here, ?_⟩
      rw [readPackLoop, marked i (by omega), low i (by omega), clear i (Nat.le_refl i), if_neg nofun,
        read, sum, none, Nat.zero_mul, Nat.zero_add]
    · have bit : ∀ j, (mark ||| 1 <<< i).testBit j = (mark.testBit j || decide (i = j)) := fun j => by
        rw [Nat.testBit_or, Nat.one_shiftLeft, Nat.testBit_two_pow]
      obtain ⟨more, same, low, reads⟩ := @ih (i + 1) (guid / 256) (mark ||| 1 <<< i)
        (bytes ++ [UInt8.ofNat guid]) tail fun j beyond => by
          rw [bit, clear j (by omega), decide_eq_false (by omega)]
          rfl
      have zero : guid ≠ 0 := by
        rintro rfl
        exact none rfl
      rw [packLoop, if_neg zero, if_neg none]
      refine ⟨UInt8.ofNat guid :: more, by rw [same, append_assoc]; rfl, fun j early => ?_,
        fun guidmark marked value rest b small left => ?_⟩
      · rw [low j (by omega), bit, decide_eq_false (by omega), Bool.or_false]
      · obtain ⟨taken, after⟩ := readInt_remaining b 1 [UInt8.ofNat guid] (more ++ rest) left rfl
        have value_ : Bits.leValue [UInt8.ofNat guid] = guid % 256 := by simp [Bits.leValue]
        have joined : value ||| (guid % 256) <<< (8 * i) = value + guid % 256 * 256 ^ i := by
          rw [Nat.or_comm, ← Nat.shiftLeft_add_eq_or_of_lt (by rwa [← wide]), Nat.shiftLeft_eq, wide,
            Nat.add_comm]
        have under : value + guid % 256 * 256 ^ i < 256 ^ (i + 1) := by
          have digits : guid % 256 * 256 ^ i ≤ 255 * 256 ^ i :=
            Nat.mul_le_mul_right _ (Nat.le_of_lt_succ (Nat.mod_lt guid (by decide)))
          rw [Nat.pow_succ]
          omega
        obtain ⟨done, here, read⟩ := reads guidmark (fun j early => marked j (by omega)) _ rest _
          under after
        refine ⟨done, here, ?_⟩
        rw [readPackLoop, marked i (by omega), low i (by omega), bit, decide_eq_true rfl, Bool.or_true,
          if_pos rfl, bind_ok taken, value_, joined, read, sum, Nat.add_assoc]

theorem packed_round_trip (guid : UInt64) : ∃ written, appendPackGUID guid fresh = .ok written ∧
    ∃ done, readPackGUID { fresh with storage := written.storage } = .ok (guid, done) ∧
      done.rpos = done.size := by
  obtain ⟨more, same, -, reads⟩ := @readPackLoop_packLoop 8 0 guid.toNat 0 []
    guid.toNat_lt fun j _ => Nat.zero_testBit j
  generalize packed : packLoop guid.toNat 0 0 [] = pack at same reads
  obtain ⟨mark, bytes⟩ := pack
  obtain rfl : bytes = more := same
  refine ⟨filled (UInt8.ofNat mark :: bytes) [], ?_, ?_⟩
  · rw [appendPackGUID, packed]
    exact append_filled (UInt8.ofNat mark :: bytes) [] [] (Nat.succ_ne_zero _)
  · obtain ⟨taken, after⟩ := readInt_remaining
      { fresh with storage := UInt8.ofNat mark :: bytes } 1 [UInt8.ofNat mark] (bytes ++ [])
        ⟨[], by simp, rfl⟩ rfl
    obtain ⟨done, here, read⟩ := reads (Bits.leValue [UInt8.ofNat mark]) (fun j early => by
      have narrow : Bits.leValue [UInt8.ofNat mark] = mark % 2 ^ 8 := by simp [Bits.leValue]
      rw [narrow, Nat.testBit_mod_two_pow, decide_eq_true (by omega), Bool.true_and]) 0 [] _
        (by decide) after
    refine ⟨done, (bind_ok taken).trans ((bind_ok read).trans ?_), here.end⟩
    rw [Nat.zero_add, pow_zero, mul_one, UInt64.ofNat_toNat]
    rfl

end OpenWoW.ByteBuffer

namespace OpenWoW.Movement

open List ByteBuffer

/-- A handler that writes the bits of a guid in the order `p`, and its bytes in the order `q`. -/
def writeGuid (guid : ObjectGuid) (p q : List (Fin 8)) : List Call :=
  p.flatMap (fun i => MovingUnit.writeBit (guid i != 0)) ++
    .flushBits :: q.flatMap fun i => MovingUnit.writeByteSeq (guid i)

def readGuid (p q : List (Fin 8)) : Reader ObjectGuid := do
  let guid ← p.foldlM readGuidBit fun _ => 0
  q.foldlM readByteSeq guid

section

variable {guid : ObjectGuid}

theorem follows_flushed {α : Type} {reader : Reader α} {calls : List Call} {a : α}
    (follows : Follows reader calls a) : Follows reader (.flushBits :: calls) a := by
  intro more b done reads
  obtain ⟨value, after, read, rest⟩ := of_bind_ok reads
  obtain ⟨values, last, read', returned⟩ := of_bind_ok rest
  cases read
  cases returned
  exact follows more b done read'

theorem follows_readGuidBits (order : List (Fin 8)) (start : ObjectGuid) :
    Follows (order.foldlM readGuidBit start)
      (order.flatMap fun i => MovingUnit.writeBit (guid i != 0))
      (fun i => if i ∈ order then if guid i != 0 then 1 else 0 else start i) := by
  induction order generalizing start with
  | nil => exact Follows.pure start
  | cons i order ih =>
    have rest := ih (Function.update start i (if guid i != 0 then 1 else 0))
    rw [foldlM_cons, flatMap_cons]
    have all : Follows (_ >>= fun guid => order.foldlM readGuidBit guid) (_ ++ _) _ :=
      (follows_readGuidBit start i (guid i != 0)).bind rest
    convert all using 2 with j
    by_cases same : j = i
    · subst same
      simp
    · simp [same]

theorem follows_readByteSeqs {order : List (Fin 8)} {known : ObjectGuid} (once : order.Nodup)
    (flags : ∀ i ∈ order, known i = if guid i != 0 then 1 else 0) :
    Follows (order.foldlM readByteSeq known)
      (order.flatMap fun i => MovingUnit.writeByteSeq (guid i))
      (fun i => if i ∈ order then guid i else known i) := by
  induction order generalizing known with
  | nil => exact Follows.pure known
  | cons i order ih =>
    rw [nodup_cons] at once
    let next := if guid i != 0 then Function.update known i (guid i) else known
    have other : ∀ j, j ≠ i → next j = known j := by
      intro j apart
      dsimp only [next]
      split
      · exact Function.update_of_ne apart _ _
      · rfl
    have own : next i = guid i := by
      dsimp only [next]
      split
      · exact Function.update_self i _ _
      · rename_i none
        have zero : guid i = 0 := by simpa using none
        rw [flags i mem_cons_self, if_neg none, zero]
    have flagged : ∀ j ∈ order, next j = if guid j != 0 then 1 else 0 := fun j listed => by
      rw [other j (ne_of_mem_of_not_mem listed once.1)]
      exact flags j (mem_cons_of_mem i listed)
    have rest := ih once.2 flagged
    rw [foldlM_cons, flatMap_cons]
    have all : Follows (_ >>= fun guid => order.foldlM readByteSeq guid) (_ ++ _) _ :=
      (follows_readByteSeq (flags i mem_cons_self)).bind rest
    convert all using 2 with j
    by_cases same : j = i
    · subst same
      simp [once.1, own]
    · simp [same, other j same]

theorem aligned_bytes (order : List (Fin 8)) (stored : Nat) (few : stored + order.length < maxSize) :
    Aligned 0 false ((order.flatMap fun i => MovingUnit.writeByteSeq (guid i)).map Call.shape) ∧
      Fits stored (appendSizes 0
        ((order.flatMap fun i => MovingUnit.writeByteSeq (guid i)).map Call.shape)) := by
  induction order generalizing stored with
  | nil => exact ⟨trivial, trivial⟩
  | cons i order ih =>
    rw [length_cons] at few
    rw [flatMap_cons, MovingUnit.writeByteSeq]
    split
    · have rest := ih (stored + 1) (by omega)
      exact ⟨rest.1, by omega, rest.2⟩
    · exact ih stored (by omega)

end

theorem scattered_trips (guid : ObjectGuid) (p q : Equiv.Perm (Fin 8)) :
    ByteBuffer.RoundTrips (writeGuid guid ((finRange 8).map p) ((finRange 8).map q)) := by
  have bytes := @aligned_bytes guid ((finRange 8).map q) 1 (by rw [length_map, length_finRange]; decide)
  exact roundTrips_of_aligned ⟨rfl, rfl, rfl, rfl, rfl, rfl, rfl, rfl, bytes.1⟩
    ⟨by decide, bytes.2⟩

theorem guid_codecs :
    (∀ guid : UInt64, ∃ written, appendPackGUID guid fresh = .ok written ∧
      ∃ done, readPackGUID { fresh with storage := written.storage } = .ok (guid, done) ∧
        done.rpos = done.size) ∧
    ∀ (guid : ObjectGuid) (p q : Equiv.Perm (Fin 8)), ∃ written,
      (writeAll (writeGuid guid ((finRange 8).map p) ((finRange 8).map q)) fresh >>=
        ByteBuffer.flushBits) = .ok written ∧
      ∃ done, readGuid ((finRange 8).map p) ((finRange 8).map q)
          { fresh with storage := written.storage } = .ok (guid, done) ∧
        done.rpos = done.size := by
  refine ⟨packed_round_trip, fun guid p q => ?_⟩
  have once : ((finRange 8).map q).Nodup := Nodup.map q.injective (nodup_finRange 8)
  have every : ∀ (r : Equiv.Perm (Fin 8)) (i : Fin 8), i ∈ (finRange 8).map r := fun r i =>
    mem_map.mpr ⟨r.symm i, mem_finRange _, r.apply_symm_apply i⟩
  have bits := @follows_readGuidBits guid ((finRange 8).map p) fun _ => 0
  simp only [every p, if_true] at bits
  have bytes := @follows_readByteSeqs guid _ _ once fun i _ => rfl
  simp only [every q, if_true] at bytes
  exact (scattered_trips guid p q).follow (bits.bind (follows_flushed bytes))

end OpenWoW.Movement
