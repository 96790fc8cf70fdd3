import Mathlib.Algebra.BigOperators.Group.List.Basic
import OpenWoW.WorldSocketCuts
import OpenWoW.WorldSocketOrder

/-! Frames of world packets, and what a header makes the receiver wait for. -/
namespace OpenWoW.WorldSocket

open List

theorem word_of_bytes (word : UInt32) :
    Bits.leValue [(word &&& 0xFF).toUInt8, ((word >>> 8) &&& 0xFF).toUInt8,
      ((word >>> 16) &&& 0xFF).toUInt8, ((word >>> 24) &&& 0xFF).toUInt8] = word.toNat := by
  have small := word.toNat_lt
  have mask (n : Nat) : n &&& 255 = n % 256 := Nat.and_two_pow_sub_one_eq_mod n 8
  simp only [Bits.leValue, UInt32.toNat_toUInt8, UInt32.toNat_and, UInt32.toNat_shiftRight,
    Nat.shiftRight_eq_div_pow, UInt32.reduceToNat, Nat.reduceMod, Nat.reducePow, mask]
  omega

theorem totalLength_toNat {packet : WorldPacket} (short : packet.contents.length < 2 ^ 19)
    (opcode : packet.opcode < 0x2000) :
    (totalLength packet).toNat = packet.contents.length * 2 ^ 13 + packet.opcode := by
  have mask : packet.opcode &&& 0x1FFF = packet.opcode := by
    rw [show (0x1FFF : Nat) = 2 ^ 13 - 1 from rfl, Nat.and_two_pow_sub_one_eq_mod]
    exact Nat.mod_eq_of_lt opcode
  unfold totalLength
  rw [UInt32.toNat_or, UInt32.toNat_shiftLeft, UInt32.toNat_and, UInt32.toNat_ofNat',
    UInt32.toNat_ofNat', Nat.mod_eq_of_lt (by omega : packet.contents.length < 2 ^ 32),
    Nat.mod_eq_of_lt (by omega : packet.opcode < 2 ^ 32)]
  simp only [UInt32.reduceToNat, Nat.reduceMod, mask]
  rw [Nat.mod_eq_of_lt (by rw [Nat.shiftLeft_eq]; omega), ← Nat.shiftLeft_add_eq_or_of_lt opcode,
    Nat.shiftLeft_eq]

namespace Reception

theorem worldSize_toNat (word : UInt32) :
    (worldSize word).toNat = word.toNat / 2 ^ 13 % 2 ^ 16 := by
  have mask (n : Nat) : n &&& 0x7FFFF = n % 2 ^ 19 := Nat.and_two_pow_sub_one_eq_mod n 19
  have clear : (~~~0xFFF : UInt32).toNat >>> 13 = 0x7FFFF := rfl
  unfold worldSize
  rw [UInt32.toNat_toUInt16, UInt32.toNat_shiftRight, UInt32.toNat_and]
  simp only [UInt32.reduceToNat, Nat.reduceMod]
  rw [Nat.shiftRight_and_distrib, clear, mask, Nat.shiftRight_eq_div_pow]
  omega

theorem worldOpcode_lt (word : UInt32) : worldOpcode word < 0x2000 := by
  unfold worldOpcode
  rw [UInt32.toNat_and]
  exact Nat.and_lt_two_pow _ (by decide : (0x1FFF : UInt32).toNat < 2 ^ 13)

variable {σ κ : Type}

/-- A connection whose header after the start of the cipher is complete, before it is read. -/
structure AtWorldHeader (r : Reception σ κ) (key : κ) : Prop where
  crypt : r.crypt = some key
  header : r.worldHeader.length = worldHeaderSize
  noPacket : r.recvWPct = none
  noBytes : r.recvPct = []
  noSize : r.recvSize = 0

variable (receiver : Receiver σ κ) {r : Reception σ κ} {key : κ}

def headerWord (r : Reception σ κ) (key : κ) : UInt32 :=
  UInt32.ofNat (Bits.leValue (receiver.cipher.decrypt key r.worldHeader))

/-- The header is refused, or makes the receiver wait for the payload that it announces. -/
def Announces (r : Reception σ κ) (word : UInt32) : Prop :=
  r.handleInputHeader receiver = r.close ∨
    ∃ after, r.handleInputHeader receiver = .ok after ∧ after.recvPct = [] ∧
      after.recvSize = word.toNat / 2 ^ 13 ∧ word.toNat / 2 ^ 13 ≤ 20240

theorem expect_waits (noBytes : r.recvPct = []) (noSize : r.recvSize = 0) (opcode size : Nat) :
    ∃ after, r.expect opcode size = .ok after ∧ after.recvPct = [] ∧ after.recvSize = size := by
  unfold expect
  by_cases some : 0 < size
  · rw [if_pos some]
    exact ⟨_, rfl, rfl, rfl⟩
  have empty : r.recvSize - r.recvPct.length = 0 := by
    rw [noSize]
    exact Nat.zero_sub _
  rw [if_neg some]
  simp only [assert_of empty]
  exact ⟨_, rfl, noBytes, noSize.trans (Nat.eq_zero_of_not_pos some).symm⟩

theorem handleInputHeader_world (ready : AtWorldHeader r key) :
    let size := (headerWord receiver r key).toNat / 2 ^ 13 % 2 ^ 16
    if 20240 < size then r.handleInputHeader receiver = r.close
    else ∃ after, r.handleInputHeader receiver = .ok after ∧ after.recvPct = [] ∧
      after.recvSize = size := by
  intro size
  have size_eq : (worldSize (headerWord receiver r key)).toNat = size := worldSize_toNat _
  have opcode := worldOpcode_lt (headerWord receiver r key)
  have refuses : (20240 < worldSize (headerWord receiver r key) ∨
      0xFFFF ≤ worldOpcode (headerWord receiver r key)) ↔ 20240 < size := by
    rw [← size_eq]
    constructor
    · rintro (large | large)
      · exact large
      · omega
    · exact .inl
  unfold handleInputHeader
  rw [assert_of ready.noPacket, ready.crypt]
  split
  · rename_i large
    exact if_pos (refuses.mpr large)
  rename_i fits
  rw [← size_eq]
  obtain ⟨after, waits, bytes, waited⟩ := expect_waits (r := { r with
    worldHeader := receiver.cipher.decrypt key r.worldHeader
    crypt := some (receiver.cipher.advance worldHeaderSize key) }) ready.noBytes ready.noSize
    (worldOpcode (headerWord receiver r key)) (worldSize (headerWord receiver r key)).toNat
  exact ⟨after, (if_neg fun refused => fits (refuses.mp refused)).trans waits, bytes, waited⟩

theorem announces_iff (ready : AtWorldHeader r key) :
    Announces receiver r (headerWord receiver r key) ↔
      ¬ (2 ^ 16 ≤ (headerWord receiver r key).toNat / 2 ^ 13 ∧
        (headerWord receiver r key).toNat / 2 ^ 13 % 2 ^ 16 ≤ 20240) := by
  have world := handleInputHeader_world receiver ready
  simp only at world
  split at world
  · rename_i large
    exact iff_of_true (.inl world) (fun fits => absurd large (not_lt.mpr fits.2))
  rename_i fits
  obtain ⟨after, taken, bytes, size⟩ := world
  rw [not_and_or, not_le, not_le]
  constructor
  · rintro (refused | ⟨other, taken', -, size', small⟩)
    · cases taken.symm.trans refused
    · exact .inl (by omega)
  · rintro (narrow | large)
    · rw [Nat.mod_eq_of_lt narrow] at size fits
      exact .inr ⟨after, taken, bytes, size, not_lt.mp fits⟩
    · exact absurd large fits

end Reception

theorem ServerPktHeader.bytes_length (header : ServerPktHeader) :
    header.bytes.length = header.getHeaderLength := by
  unfold bytes getHeaderLength
  split <;> rfl

namespace Sending

variable {κ : Type} (cipher : StreamCipher κ UInt8) {s : Sending κ} {key : κ}

/-- The other end's way of reading: a deciphered word of four bytes, then the payload that it announces. -/
def splitFrames : Nat → κ → Bytes → Option (List WorldPacket)
  | _, _, [] => some []
  | 0, _, _ :: _ => none
  | fuel + 1, key, stream@(_ :: _) =>
    let word := Bits.leValue (cipher.decrypt key (stream.take worldHeaderSize))
    let size := word / 2 ^ 13
    if stream.length < worldHeaderSize + size then none
    else do
      let payload := (stream.drop worldHeaderSize).take size
      let packets ← splitFrames fuel (cipher.advance worldHeaderSize key)
        (stream.drop (worldHeaderSize + size))
      return ⟨word % 2 ^ 13, payload⟩ :: packets

def frames : κ → List WorldPacket → Bytes
  | _, [] => []
  | key, packet :: packets =>
    cipher.encrypt key (worldHeaderBytes packet) ++ packet.contents ++
      frames (cipher.advance (pktHeader packet).getHeaderLength key) packets

variable {packet : WorldPacket}

theorem getHeaderLength_eq (short : packet.contents.length < 2 ^ 19) :
    (pktHeader packet).getHeaderLength =
      if packet.contents.length + 2 ≤ 0x7FFF then worldHeaderSize else worldHeaderSize + 1 := by
  have size : (pktHeader packet).size.toNat = packet.contents.length + 2 :=
    UInt32.toNat_ofNat_of_lt' (by change _ < 4294967296; omega)
  have large : (pktHeader packet).isLargePacket = decide (0x7FFF < packet.contents.length + 2) := by
    rw [← size]
    rfl
  unfold ServerPktHeader.getHeaderLength
  rw [large]
  by_cases small : packet.contents.length + 2 ≤ 0x7FFF
  · rw [if_pos small, decide_eq_false (not_lt.mpr small)]
    rfl
  · rw [if_neg small, decide_eq_true (not_le.mp small)]
    rfl

theorem worldHeaderBytes_length (packet : WorldPacket) :
    (worldHeaderBytes packet).length = (pktHeader packet).getHeaderLength := by
  unfold worldHeaderBytes
  rw [← ServerPktHeader.bytes_length, length_append, length_drop]
  have least : 4 ≤ (pktHeader packet).bytes.length := by
    rw [ServerPktHeader.bytes_length]
    unfold ServerPktHeader.getHeaderLength
    split <;> omega
  exact Nat.add_sub_of_le least

variable {packets : List WorldPacket}

theorem frames_length (key : κ) (short : ∀ packet ∈ packets, packet.contents.length < 2 ^ 19) :
    (frames cipher key packets).length =
      (packets.map fun packet => worldHeaderSize + packet.contents.length).sum +
        packets.countP fun packet => 0x7FFF < packet.contents.length + 2 := by
  induction packets generalizing key with
  | nil => rfl
  | cons packet packets ih =>
    rw [forall_mem_cons] at short
    unfold frames
    rw [length_append, length_append, StreamCipher.encrypt_length,
      worldHeaderBytes_length, ih _ short.2, getHeaderLength_eq short.1, map_cons,
      sum_cons, countP_cons]
    by_cases small : packet.contents.length + 2 ≤ 0x7FFF
    · rw [if_pos small, if_neg (fun large => absurd (of_decide_eq_true large) (not_lt.mpr small))]
      omega
    · rw [if_neg small, if_pos (decide_eq_true (not_le.mp small))]
      omega

theorem splitFrames_length {fuel : Nat} {key : κ} {stream : Bytes}
    (split : splitFrames cipher fuel key stream = some packets) :
    stream.length = (packets.map fun packet => worldHeaderSize + packet.contents.length).sum := by
  induction fuel generalizing key stream packets with
  | zero =>
    cases stream with
    | nil =>
      cases split
      rfl
    | cons byte stream => cases split
  | succ fuel ih =>
    cases stream with
    | nil =>
      cases split
      rfl
    | cons byte stream =>
      unfold splitFrames at split
      simp only at split
      split at split
      · cases split
      rename_i enough
      obtain ⟨rest, splitRest, eq⟩ := Option.bind_eq_some_iff.mp split
      cases eq
      have length := ih splitRest
      rw [map_cons, sum_cons, ← length, length_take, length_drop, length_drop]
      omega

theorem splitFrames_cons {fuel : Nat} {key : κ} {header payload stream : Bytes} {opcode : Nat}
    (length : header.length = worldHeaderSize) (small : opcode < 2 ^ 13)
    (word : Bits.leValue (cipher.decrypt key header) = payload.length * 2 ^ 13 + opcode) :
    splitFrames cipher (fuel + 1) key (header ++ payload ++ stream) = (do
      let packets ← splitFrames cipher fuel (cipher.advance worldHeaderSize key) stream
      return ⟨opcode, payload⟩ :: packets) := by
  have taken : (header ++ payload ++ stream).take worldHeaderSize = header := by
    rw [append_assoc, ← length, take_left]
  have dropped : (header ++ payload ++ stream).drop worldHeaderSize = payload ++ stream := by
    rw [append_assoc, ← length, drop_left]
  have behind : (header ++ payload ++ stream).drop (worldHeaderSize + payload.length) = stream := by
    rw [← drop_drop, dropped, drop_left]
  have size : (payload.length * 2 ^ 13 + opcode) / 2 ^ 13 = payload.length := by omega
  have cmd : (payload.length * 2 ^ 13 + opcode) % 2 ^ 13 = opcode := by omega
  have enough : ¬ (header ++ payload ++ stream).length < worldHeaderSize + payload.length := by
    rw [length_append, length_append, length]
    omega
  cases bytes : header ++ payload ++ stream with
  | nil =>
    rw [bytes] at taken
    rw [← taken] at length
    cases length
  | cons byte rest =>
    rw [bytes] at taken dropped behind enough
    conv_lhs => unfold splitFrames
    simp only
    rw [taken, word, size, cmd, if_neg enough, dropped, behind, take_left]

theorem splitFrames_frames {fuel : Nat} (key : κ)
    (short : ∀ packet ∈ packets, packet.contents.length < 2 ^ 19)
    (opcodes : ∀ packet ∈ packets, packet.opcode < 0x2000)
    (small : ∀ packet ∈ packets, packet.contents.length + 2 ≤ 0x7FFF)
    (enough : packets.length ≤ fuel) :
    splitFrames cipher fuel key (frames cipher key packets) = some packets := by
  induction packets generalizing fuel key with
  | nil =>
    cases fuel <;> rfl
  | cons packet packets ih =>
    rw [forall_mem_cons] at short opcodes small
    obtain ⟨fuel, rfl⟩ : ∃ n, fuel = n + 1 := Nat.exists_eq_add_one.mpr (Nat.zero_lt_of_lt enough)
    have header : (pktHeader packet).getHeaderLength = worldHeaderSize := by
      rw [getHeaderLength_eq short.1, if_pos small.1]
    have word : Bits.leValue (cipher.decrypt key (cipher.encrypt key (worldHeaderBytes packet))) =
        packet.contents.length * 2 ^ 13 + packet.opcode := by
      rw [StreamCipher.decrypt_encrypt, ← totalLength_toNat short.1 opcodes.1,
        ← word_of_bytes (totalLength packet)]
      unfold worldHeaderBytes
      rw [drop_eq_nil_of_le (by rw [ServerPktHeader.bytes_length, header]), append_nil]
    unfold frames
    rw [header, splitFrames_cons cipher ?_ opcodes.1 word, ih _ short.2 opcodes.2 small.2]
    · rfl
    · exact Nat.le_of_succ_le_succ enough
    · rw [StreamCipher.encrypt_length, worldHeaderBytes_length, header]

def produced (s : Sending κ) (packets : List WorldPacket) : Bytes :=
  (Run.final (step cipher) s (packets.map .sendPacket)).pending.drop s.pending.length

theorem sendPacket_crypt (accepted : (s.sendPacket cipher packet).2 = .done) :
    (s.sendPacket cipher packet).1.crypt = (s.encryptedHeader cipher packet).2 := by
  unfold sendPacket at accepted ⊢
  split at accepted
  · cases accepted
  rename_i alive
  rw [if_neg alive]
  simp only
  split
  · rfl
  · split <;> rfl

section
variable (crypt : s.crypt = some key) {packets : List WorldPacket}
  (accepted : ∀ t ∈ Run.trace (step cipher) s (packets.map .sendPacket), t.out = .done)
include crypt accepted

theorem final_pending :
    (Run.final (step cipher) s (packets.map .sendPacket)).pending =
      s.pending ++ frames cipher key packets := by
  induction packets generalizing s key with
  | nil => exact (append_nil _).symm
  | cons packet packets ih =>
    simp only [map_cons, Run.trace, forall_mem_cons] at accepted
    obtain ⟨first, later⟩ := accepted
    have sent : (s.sendPacket cipher packet).2 = .done := first
    have header : s.encryptedHeader cipher packet = (cipher.encrypt key (worldHeaderBytes packet),
        some (cipher.advance (pktHeader packet).getHeaderLength key)) := by
      unfold encryptedHeader
      rw [crypt]
    have kept : (s.sendPacket cipher packet).1.pending = s.pending ++ s.frame cipher packet := by
      rcases sendPacket_conserves cipher (s := s) packet with failed | ⟨-, kept⟩
      · cases sent.symm.trans failed
      · exact kept
    have crypt' : (s.step cipher (.sendPacket packet)).1.crypt =
        some (cipher.advance (pktHeader packet).getHeaderLength key) := by
      rw [show s.step cipher (.sendPacket packet) = s.sendPacket cipher packet from rfl,
        sendPacket_crypt cipher sent, header]
    have rest := ih crypt' later
    simp only [map_cons, Run.final]
    rw [rest, show s.step cipher (.sendPacket packet) = s.sendPacket cipher packet from rfl, kept]
    unfold frame
    conv_rhs => unfold frames
    rw [header, append_assoc]

theorem produced_frames :
    s.produced cipher packets = frames cipher key packets := by
  unfold produced
  rw [final_pending cipher crypt accepted, drop_left]

end

theorem splitFrames_iff (key : κ) (short : ∀ packet ∈ packets, packet.contents.length < 2 ^ 19)
    (opcodes : ∀ packet ∈ packets, packet.opcode < 0x2000) :
    splitFrames cipher (frames cipher key packets).length key (frames cipher key packets) =
        some packets ↔
      ∀ packet ∈ packets, packet.contents.length + 2 ≤ 0x7FFF := by
  have length := frames_length cipher key short
  constructor
  · intro split
    have none := splitFrames_length cipher split
    rw [length, Nat.add_eq_left, countP_eq_zero] at none
    exact fun packet there => not_lt.mp fun large => none packet there (decide_eq_true large)
  · intro small
    refine splitFrames_frames cipher key short opcodes small ?_
    have least := length_le_sum_of_one_le
      (packets.map fun packet => worldHeaderSize + packet.contents.length)
      (fun n there => by
        obtain ⟨packet, -, rfl⟩ := mem_map.mp there
        exact Nat.le_add_right_of_le (by decide))
    rw [length_map] at least
    omega

/-- What is sent splits into its packets exactly when no packet is so long that its header keeps five
bytes; a header that is received makes the receiver wait for what it announces exactly when its size is
not one that sixteen bits make small. -/
theorem frames_iff {σ ι : Type} (receiver : Receiver σ ι) (crypt : s.crypt = some key)
    {packets : List WorldPacket} (short : ∀ packet ∈ packets, packet.contents.length < 2 ^ 19)
    (opcodes : ∀ packet ∈ packets, packet.opcode < 0x2000)
    (accepted : ∀ t ∈ Run.trace (step cipher) s (packets.map .sendPacket), t.out = .done)
    {r : Reception σ ι} {recvKey : ι} (ready : r.AtWorldHeader recvKey) :
    (splitFrames cipher (s.produced cipher packets).length key (s.produced cipher packets) =
        some packets ↔
      ∀ packet ∈ packets, packet.contents.length + 2 ≤ 0x7FFF) ∧
      (Reception.Announces receiver r (Reception.headerWord receiver r recvKey) ↔
        ¬ (2 ^ 16 ≤ (Reception.headerWord receiver r recvKey).toNat / 2 ^ 13 ∧
          (Reception.headerWord receiver r recvKey).toNat / 2 ^ 13 % 2 ^ 16 ≤ 20240)) := by
  refine ⟨?_, Reception.announces_iff receiver ready⟩
  rw [produced_frames cipher crypt accepted]
  exact splitFrames_iff cipher key short opcodes

theorem sent_fits (alive : s.closing = false)
    (room : packet.contents.length + (pktHeader packet).getHeaderLength ≤
      s.outBufferSize - s.outBuffer.length) (noQueue : s.queue = []) :
    ∀ t ∈ Run.trace (step cipher) s ([packet].map .sendPacket), t.out = .done := by
  intro t there
  rw [mem_singleton.mp there]
  change (s.sendPacket cipher packet).2 = .done
  unfold sendPacket
  rw [if_neg (by rw [alive]; exact Bool.false_ne_true)]
  rw [if_pos ⟨room, noQueue⟩]

/-- A packet of one byte, and a header that announces one byte. -/
theorem frames_iff_byte :
    let cipher : StreamCipher Unit UInt8 := ⟨fun _ => Equiv.refl UInt8, id⟩
    let receiver : Receiver Unit Unit := ⟨cipher, fun server crypt _ => ((server, crypt), true)⟩
    let s : Sending Unit := ⟨false, some (), [], 65536, [], true, []⟩
    let r : Reception Unit Unit :=
      { Reception.start () (some ()) with worldHeader := [1, 0x20, 0, 0] }
    splitFrames cipher (s.produced cipher [⟨1, [7]⟩]).length () (s.produced cipher [⟨1, [7]⟩]) =
        some [⟨1, [7]⟩] ∧
      Reception.Announces receiver r (Reception.headerWord receiver r ()) := by
  intro cipher receiver s r
  have crypt : s.crypt = some () := rfl
  have short : ∀ packet ∈ [(⟨1, [7]⟩ : WorldPacket)], packet.contents.length < 2 ^ 19 := by decide
  have ready : r.AtWorldHeader () := ⟨rfl, rfl, rfl, rfl, rfl⟩
  have both := frames_iff cipher receiver crypt short (by decide) (by decide) ready
  exact ⟨both.1.mpr (by decide), both.2.mpr (by decide)⟩

theorem frames_fails :
    (¬ ∀ (κ : Type) (cipher : StreamCipher κ UInt8) (s : Sending κ) (key : κ)
      (packets : List WorldPacket), s.crypt = some key →
        (∀ packet ∈ packets, packet.contents.length < 2 ^ 19) →
        (∀ packet ∈ packets, packet.opcode < 0x2000) →
        (∀ t ∈ Run.trace (step cipher) s (packets.map .sendPacket), t.out = .done) →
          splitFrames cipher (s.produced cipher packets).length key (s.produced cipher packets) =
            some packets) ∧
      ¬ ∀ (σ κ : Type) (receiver : Receiver σ κ) (r : Reception σ κ) (key : κ),
        r.AtWorldHeader key →
          Reception.Announces receiver r (Reception.headerWord receiver r key) := by
  let cipher : StreamCipher Unit UInt8 := ⟨fun _ => Equiv.refl UInt8, id⟩
  constructor
  · intro all
    let s : Sending Unit := ⟨false, some (), [], 65536, [], true, []⟩
    have length : (filler 32766).contents.length = 32766 := length_replicate
    have short : ∀ packet ∈ [filler 32766], packet.contents.length < 2 ^ 19 := by
      rw [forall_mem_singleton, length]
      decide
    have opcodes : ∀ packet ∈ [filler 32766], packet.opcode < 0x2000 := by
      rw [forall_mem_singleton]
      exact (by decide : 1 < 0x2000)
    have accepted : ∀ t ∈ Run.trace (step cipher) s ([filler 32766].map .sendPacket),
        t.out = .done := by
      have room : (filler 32766).contents.length + (pktHeader (filler 32766)).getHeaderLength ≤
          s.outBufferSize - s.outBuffer.length := by
        rw [filler_length (by decide)]
        exact Nat.le_of_ble_eq_true rfl
      exact sent_fits cipher rfl room rfl
    have split := all Unit cipher s () [filler 32766] rfl short opcodes accepted
    have crypt : s.crypt = some () := rfl
    rw [produced_frames cipher crypt accepted,
      splitFrames_iff cipher () short opcodes, forall_mem_singleton, length] at split
    exact absurd split (by decide)
  · intro all
    let receiver : Receiver Unit Unit := ⟨cipher, fun server crypt _ => ((server, crypt), true)⟩
    let r : Reception Unit Unit :=
      { Reception.start () (some ()) with worldHeader := [0, 0, 0, 0x20] }
    have ready : r.AtWorldHeader () := ⟨rfl, rfl, rfl, rfl, rfl⟩
    have announces := all Unit Unit receiver r () ready
    rw [Reception.announces_iff receiver ready] at announces
    exact announces (by decide)

end Sending

end OpenWoW.WorldSocket
