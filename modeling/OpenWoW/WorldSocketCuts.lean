import OpenWoW.WorldSocketInput

/-! Reception takes one byte after the other, however the stream is cut. -/
namespace OpenWoW.WorldSocket

open List

namespace Reception

variable {σ κ : Type}

section

variable (r : Reception σ κ)

def active : Bytes := if r.crypt.isSome then r.worldHeader else r.header

def passive : Bytes := if r.crypt.isSome then r.header else r.worldHeader

def activeSize : Nat := if r.crypt.isSome then worldHeaderSize else headerSize

def withActive (bytes : Bytes) : Reception σ κ :=
  if r.crypt.isSome then { r with worldHeader := bytes } else { r with header := bytes }

theorem activeSize_pos : 0 < r.activeSize := by
  unfold activeSize
  split <;> decide

@[simp] theorem withActive_active (bytes : Bytes) : (r.withActive bytes).active = bytes := by
  unfold withActive active
  cases crypt : r.crypt.isSome <;> simp [crypt]

@[simp] theorem withActive_withActive (first second : Bytes) :
    (r.withActive first).withActive second = r.withActive second := by
  unfold withActive
  cases crypt : r.crypt.isSome <;> simp [crypt]

theorem withActive_self : r.withActive r.active = r := by
  unfold withActive active
  cases crypt : r.crypt.isSome <;> simp

@[simp] theorem withActive_passive (bytes : Bytes) : (r.withActive bytes).passive = r.passive := by
  unfold withActive passive
  cases crypt : r.crypt.isSome <;> simp [crypt]

@[simp] theorem withActive_activeSize (bytes : Bytes) :
    (r.withActive bytes).activeSize = r.activeSize := by
  unfold withActive activeSize
  cases crypt : r.crypt.isSome <;> simp [crypt]

@[simp] theorem withActive_recvPct (bytes : Bytes) : (r.withActive bytes).recvPct = r.recvPct := by
  unfold withActive
  split <;> rfl

@[simp] theorem withActive_recvSize (bytes : Bytes) :
    (r.withActive bytes).recvSize = r.recvSize := by
  unfold withActive
  split <;> rfl

@[simp] theorem withActive_recvWPct (bytes : Bytes) :
    (r.withActive bytes).recvWPct = r.recvWPct := by
  unfold withActive
  split <;> rfl

/-- `m_RecvPct.copy`. -/
def receive (bytes : Bytes) : Reception σ κ := { r with recvPct := r.recvPct ++ bytes }

theorem receive_receive (first second : Bytes) :
    (r.receive first).receive second = r.receive (first ++ second) := by
  unfold receive
  rw [append_assoc]

theorem receive_nil : r.receive [] = r := by
  unfold receive
  rw [append_nil]

@[simp] theorem receive_active (bytes : Bytes) : (r.receive bytes).active = r.active := rfl

@[simp] theorem receive_passive (bytes : Bytes) : (r.receive bytes).passive = r.passive := rfl

@[simp] theorem receive_activeSize (bytes : Bytes) :
    (r.receive bytes).activeSize = r.activeSize := rfl

end

variable (receiver : Receiver σ κ) {r : Reception σ κ}

theorem turn_eq (message : Bytes) :
    r.turn receiver message =
      if r.active.length < r.activeSize then
        if message.length < r.activeSize - r.active.length then
          .ok (r.withActive (r.active ++ message), [])
        else do
          let full ← (r.withActive (r.active ++
            message.take (r.activeSize - r.active.length))).handleInputHeader receiver
          full.receivePayload receiver (message.drop (r.activeSize - r.active.length))
      else r.receivePayload receiver message := by
  unfold turn active activeSize withActive
  cases crypt : r.crypt.isSome with
  | true =>
    simp only [↓reduceIte]
    by_cases room : r.worldHeader.length < worldHeaderSize
    · rw [if_pos (Nat.sub_pos_of_lt room), if_pos room]
      by_cases short : message.length < worldHeaderSize - r.worldHeader.length
      · rw [Nat.min_eq_left short.le, take_length, drop_length, if_pos short, if_pos short]
        rfl
      · rw [Nat.min_eq_right (not_lt.mp short), if_neg (Nat.lt_irrefl _), if_neg short]
    · rw [if_neg (by omega), if_neg room]
  | false =>
    simp only [Bool.false_eq_true, ↓reduceIte]
    by_cases room : r.header.length < headerSize
    · rw [if_pos (Nat.sub_pos_of_lt room), if_pos room]
      by_cases short : message.length < headerSize - r.header.length
      · rw [Nat.min_eq_left short.le, take_length, drop_length, if_pos short, if_pos short]
        rfl
      · rw [Nat.min_eq_right (not_lt.mp short), if_neg (Nat.lt_irrefl _), if_neg short]
    · rw [if_neg (by omega), if_neg room]

theorem receivePayload_eq {opcode : Nat} (some : r.recvWPct = .some opcode) (message : Bytes) :
    r.receivePayload receiver message =
      if r.recvPct.length < r.recvSize then
        if message.length < r.recvSize - r.recvPct.length then .ok (r.receive message, [])
        else do
          let after ← (r.receive (message.take (r.recvSize - r.recvPct.length))).handleInputPayload
            receiver
          return (after, message.drop (r.recvSize - r.recvPct.length))
      else do
        let after ← r.handleInputPayload receiver
        return (after, message) := by
  have there : ¬ r.recvWPct = none := by
    rw [some]
    exact Option.some_ne_none opcode
  unfold receivePayload
  rw [if_neg there]
  by_cases room : r.recvPct.length < r.recvSize
  · simp only
    rw [if_pos (Nat.sub_pos_of_lt room), if_pos room]
    by_cases short : message.length < r.recvSize - r.recvPct.length
    · rw [Nat.min_eq_left short.le, take_length, drop_length, if_pos short, if_pos short]
      rfl
    · rw [Nat.min_eq_right (not_lt.mp short), if_neg (Nat.lt_irrefl _), if_neg short]
      rfl
  · simp only
    rw [if_neg (by omega), if_neg room]

/-- The header in use is not complete, and there is no packet. -/
structure AtHeader (r : Reception σ κ) : Prop where
  open_ : r.active.length < r.activeSize
  clear : r.passive = []
  noPacket : r.recvWPct = none
  noBytes : r.recvPct = []
  noSize : r.recvSize = 0

/-- The header is complete and has made a packet. -/
structure HasPacket (r : Reception σ κ) : Prop where
  full : r.active.length = r.activeSize
  clear : r.passive = []
  packet : ∃ opcode, r.recvWPct = some opcode
  within : r.recvPct.length ≤ r.recvSize

def Standing (r : Reception σ κ) : Prop :=
  AtHeader r ∨ HasPacket r ∧ r.recvPct.length < r.recvSize

/-- A step that ends in such a state or closes the connection: no assertion fails. -/
def Ends (good : Reception σ κ → Prop) : Receiving (Reception σ κ) → Prop
  | .ok r => good r
  | .error (halt, _) => halt = .closed

theorem assert_of {condition : Prop} [Decidable condition] (holds : condition) :
    r.assert condition = .ok () := if_pos holds

theorem expect_ends (full : r.active.length = r.activeSize) (clear : r.passive = [])
    (noBytes : r.recvPct = []) (noSize : r.recvSize = 0) (opcode size : Nat) :
    Ends HasPacket (r.expect opcode size) := by
  unfold expect
  by_cases some : 0 < size
  · simp only [if_pos some]
    exact ⟨full, clear, ⟨_, rfl⟩, Nat.zero_le _⟩
  have empty : r.recvSize - r.recvPct.length = 0 := by
    rw [noSize]
    exact Nat.zero_sub _
  simp only [if_neg some, assert_of empty]
  refine ⟨full, clear, ⟨_, rfl⟩, ?_⟩
  change r.recvPct.length ≤ r.recvSize
  rw [noBytes, noSize]
  rfl

theorem handleInputHeader_ends (full : r.active.length = r.activeSize) (clear : r.passive = [])
    (noPacket : r.recvWPct = none) (noBytes : r.recvPct = []) (noSize : r.recvSize = 0) :
    Ends HasPacket (r.handleInputHeader receiver) := by
  unfold handleInputHeader
  rw [assert_of noPacket]
  unfold active activeSize at full
  unfold passive at clear
  cases crypt : r.crypt with
  | some key =>
    rw [crypt] at full clear
    change Ends HasPacket (if _ then _ else _)
    split
    · exact rfl
    apply expect_ends
    · exact (receiver.cipher.decrypt_length key r.worldHeader).trans full
    · exact clear
    · exact noBytes
    · exact noSize
  | none =>
    rw [crypt] at full clear
    change Ends HasPacket (if _ then _ else _)
    split
    · exact rfl
    apply expect_ends
    · change (Bits.leBytes 2 _ ++ r.header.drop 2).length = headerSize
      have length : r.header.length = 6 := full
      rw [length_append, Bits.leBytes_length, length_drop, length]
    · exact clear
    · exact noBytes
    · exact noSize

theorem handleInputPayload_ends (packet : HasPacket r) (complete : r.recvPct.length = r.recvSize) :
    Ends AtHeader (r.handleInputPayload receiver) := by
  obtain ⟨full, clear, ⟨opcode, some⟩, -⟩ := packet
  unfold active activeSize at full
  unfold passive at clear
  have header : if r.crypt.isSome then r.worldHeader.length = worldHeaderSize
      else r.header.length = headerSize := by
    split
    · rename_i crypt
      rw [if_pos crypt, if_pos crypt] at full
      exact full
    rename_i crypt
    rw [if_neg crypt, if_neg crypt] at full
    exact full
  have header_nil : (if r.crypt.isSome then r.header else []) = [] := by
    split
    · rename_i crypt
      rw [if_pos crypt] at clear
      exact clear
    · rfl
  have worldHeader_nil : (if r.crypt.isSome then [] else r.worldHeader) = [] := by
    split
    · rfl
    rename_i crypt
    rw [if_neg crypt] at clear
    exact clear
  unfold handleInputPayload
  rw [assert_of (Nat.sub_eq_zero_of_le complete.ge), assert_of header, some, header_nil,
    worldHeader_nil]
  change Ends AtHeader (if _ then _ else _)
  split
  · refine ⟨?_, ?_, rfl, rfl, rfl⟩
    · exact (congrArg List.length (ite_self ([] : Bytes))).trans_lt (activeSize_pos _)
    · exact ite_self _
  · exact rfl

/-- A byte goes to the header in use, or to the payload; a complete header makes a packet, and a
complete packet is handed on. -/
def takeByte (r : Reception σ κ) (byte : UInt8) : Receiving (Reception σ κ) :=
  if r.active.length < r.activeSize then
    if r.active.length + 1 < r.activeSize then .ok (r.withActive (r.active ++ [byte]))
    else do
      let full ← (r.withActive (r.active ++ [byte])).handleInputHeader receiver
      if full.recvPct.length < full.recvSize then return full else full.handleInputPayload receiver
  else if r.recvPct.length + 1 < r.recvSize then .ok (r.receive [byte])
  else (r.receive [byte]).handleInputPayload receiver

def takeBytes (r : Reception σ κ) (bytes : Bytes) : Receiving (Reception σ κ) :=
  bytes.foldlM (takeByte receiver) r

theorem Ends.bind {good better : Reception σ κ → Prop} {first : Receiving (Reception σ κ)}
    {next : Reception σ κ → Receiving (Reception σ κ)} (ends : Ends good first)
    (keeps : ∀ r, good r → Ends better (next r)) : Ends better (first >>= next) := by
  cases first with
  | ok r => exact keeps r ends
  | error how => exact ends

theorem Ends.mono {good better : Reception σ κ → Prop} {ended : Receiving (Reception σ κ)}
    (ends : Ends good ended) (weaker : ∀ r, good r → better r) : Ends better ended := by
  cases ended with
  | ok r => exact weaker r ends
  | error how => exact ends

theorem handed_on (packet : HasPacket r) :
    Ends Standing (if r.recvPct.length < r.recvSize then return r
      else r.handleInputPayload receiver) := by
  split
  · exact .inr ⟨packet, ‹_›⟩
  rename_i complete
  exact (handleInputPayload_ends receiver packet
    (Nat.le_antisymm packet.within (not_lt.mp complete))).mono fun _ => .inl

variable {bytes : Bytes}

theorem withActive_full (header : AtHeader r) (length : (r.active ++ bytes).length = r.activeSize) :
    Ends HasPacket ((r.withActive (r.active ++ bytes)).handleInputHeader receiver) := by
  apply handleInputHeader_ends
  · rw [withActive_active, withActive_activeSize, length]
  · rw [withActive_passive, header.clear]
  · rw [withActive_recvWPct, header.noPacket]
  · rw [withActive_recvPct, header.noBytes]
  · rw [withActive_recvSize, header.noSize]

theorem withActive_open (header : AtHeader r) (length : (r.active ++ bytes).length < r.activeSize) :
    AtHeader (r.withActive (r.active ++ bytes)) := by
  refine ⟨?_, ?_, ?_, ?_, ?_⟩
  · rw [withActive_active, withActive_activeSize]
    exact length
  · rw [withActive_passive, header.clear]
  · rw [withActive_recvWPct, header.noPacket]
  · rw [withActive_recvPct, header.noBytes]
  · rw [withActive_recvSize, header.noSize]

theorem receive_packet (packet : HasPacket r) (bytes : Bytes)
    (within : r.recvPct.length + bytes.length ≤ r.recvSize) : HasPacket (r.receive bytes) :=
  ⟨packet.full, packet.clear, packet.packet, by
    change (r.recvPct ++ bytes).length ≤ r.recvSize
    rw [length_append]
    exact within⟩

theorem takeByte_ends (standing : Standing r) (byte : UInt8) :
    Ends Standing (r.takeByte receiver byte) := by
  unfold takeByte
  rcases standing with header | ⟨packet, room⟩
  · rw [if_pos header.open_]
    split
    · rename_i more
      exact .inl (withActive_open header (by rw [length_append]; exact more))
    rename_i last
    have length : (r.active ++ [byte]).length = r.activeSize := by
      have open_ := header.open_
      rw [length_append, length_singleton]
      omega
    exact (withActive_full receiver header length).bind fun full packet =>
      handed_on receiver packet
  · rw [if_neg (by rw [packet.full]; exact Nat.lt_irrefl _)]
    split
    · rename_i more
      refine .inr ⟨receive_packet packet [byte] more.le, ?_⟩
      change (r.recvPct ++ [byte]).length < r.recvSize
      rw [length_append]
      exact more
    · rename_i last
      refine (handleInputPayload_ends receiver (receive_packet packet [byte] room) ?_).mono
        fun _ => .inl
      change (r.recvPct ++ [byte]).length = r.recvSize
      rw [length_append, length_singleton]
      omega

theorem takeBytes_ends (standing : Standing r) (bytes : Bytes) :
    Ends Standing (r.takeBytes receiver bytes) := by
  induction bytes generalizing r with
  | nil => exact standing
  | cons byte bytes ih =>
    unfold takeBytes
    rw [foldlM_cons]
    exact (takeByte_ends receiver standing byte).bind fun after good => ih good

theorem takeBytes_append (front back : Bytes) :
    r.takeBytes receiver (front ++ back) =
      r.takeBytes receiver front >>= fun after => after.takeBytes receiver back :=
  foldlM_append

theorem takeBytes_header (header : AtHeader r)
    (short : r.active.length + bytes.length < r.activeSize) :
    r.takeBytes receiver bytes = .ok (r.withActive (r.active ++ bytes)) := by
  induction bytes generalizing r with
  | nil =>
    rw [append_nil, withActive_self]
    rfl
  | cons byte bytes ih =>
    rw [length_cons] at short
    have more : r.active.length + 1 < r.activeSize := by omega
    have first : r.takeByte receiver byte = .ok (r.withActive (r.active ++ [byte])) := by
      unfold takeByte
      rw [if_pos header.open_, if_pos more]
    have open_ : AtHeader (r.withActive (r.active ++ [byte])) :=
      withActive_open header (by rw [length_append]; exact more)
    have rest := ih open_ (by
      rw [withActive_active, withActive_activeSize, length_append, length_singleton]
      omega)
    unfold takeBytes at rest ⊢
    rw [foldlM_cons, first]
    refine rest.trans ?_
    rw [withActive_active, withActive_withActive, append_assoc, singleton_append]

theorem takeBytes_headerEnd (header : AtHeader r)
    (exact_ : r.active.length + bytes.length = r.activeSize) :
    r.takeBytes receiver bytes =
      (r.withActive (r.active ++ bytes)).handleInputHeader receiver >>= fun full =>
        if full.recvPct.length < full.recvSize then return full
        else full.handleInputPayload receiver := by
  have open_ := header.open_
  obtain ⟨front, last, rfl⟩ : ∃ front last, bytes = front ++ [last] := by
    refine ⟨bytes.dropLast, bytes.getLast ?_, (dropLast_append_getLast _).symm⟩
    rintro rfl
    rw [length_nil] at exact_
    omega
  rw [length_append, length_singleton] at exact_
  rw [takeBytes_append, takeBytes_header receiver header (by omega)]
  change (r.withActive (r.active ++ front)).takeBytes receiver [last] = _
  unfold takeBytes
  rw [foldlM_cons, takeByte, withActive_active, withActive_activeSize, length_append,
    if_pos (by omega), if_neg (by omega), withActive_withActive, append_assoc]
  exact bind_pure _

theorem takeBytes_payload (packet : HasPacket r)
    (short : r.recvPct.length + bytes.length < r.recvSize) :
    r.takeBytes receiver bytes = .ok (r.receive bytes) := by
  induction bytes generalizing r with
  | nil =>
    rw [receive_nil]
    rfl
  | cons byte bytes ih =>
    rw [length_cons] at short
    have complete : ¬ r.active.length < r.activeSize := by
      rw [packet.full]
      exact Nat.lt_irrefl _
    have first : r.takeByte receiver byte = .ok (r.receive [byte]) := by
      unfold takeByte
      rw [if_neg complete, if_pos (by omega)]
    have rest := ih (receive_packet packet [byte] (by rw [length_singleton]; omega)) (by
      change (r.recvPct ++ [byte]).length + bytes.length < r.recvSize
      rw [length_append, length_singleton]
      omega)
    unfold takeBytes at rest ⊢
    rw [foldlM_cons, first]
    refine rest.trans ?_
    rw [receive_receive, singleton_append]

theorem takeBytes_payloadEnd (packet : HasPacket r) (room : r.recvPct.length < r.recvSize)
    (exact_ : r.recvPct.length + bytes.length = r.recvSize) :
    r.takeBytes receiver bytes = (r.receive bytes).handleInputPayload receiver := by
  obtain ⟨front, last, rfl⟩ : ∃ front last, bytes = front ++ [last] := by
    refine ⟨bytes.dropLast, bytes.getLast ?_, (dropLast_append_getLast _).symm⟩
    rintro rfl
    rw [length_nil] at exact_
    omega
  rw [length_append, length_singleton] at exact_
  have complete : ¬ r.active.length < r.activeSize := by
    rw [packet.full]
    exact Nat.lt_irrefl _
  have last_ : ¬ (r.receive front).recvPct.length + 1 < (r.receive front).recvSize := by
    change ¬ (r.recvPct ++ front).length + 1 < r.recvSize
    rw [length_append]
    omega
  rw [takeBytes_append, takeBytes_payload receiver packet (by omega)]
  change (r.receive front).takeBytes receiver [last] = _
  unfold takeBytes
  rw [foldlM_cons, takeByte, receive_active, receive_activeSize, if_neg complete,
    if_neg last_, receive_receive]
  exact bind_pure _

theorem receivePayload_room (packet : HasPacket r) (room : r.recvPct.length < r.recvSize)
    (message : Bytes) : ∃ count ≤ message.length, (message ≠ [] → 0 < count) ∧
      r.receivePayload receiver message =
        r.takeBytes receiver (message.take count) >>= fun after =>
          .ok (after, message.drop count) := by
  obtain ⟨opcode, some⟩ := packet.packet
  rw [receivePayload_eq receiver some, if_pos room]
  by_cases short : message.length < r.recvSize - r.recvPct.length
  · refine ⟨message.length, le_rfl, length_pos_of_ne_nil, ?_⟩
    rw [if_pos short, take_length, drop_length, takeBytes_payload receiver packet (by omega)]
    rfl
  refine ⟨r.recvSize - r.recvPct.length, not_lt.mp short, fun _ => by omega, ?_⟩
  rw [if_neg short, takeBytes_payloadEnd receiver packet room (by
    rw [length_take]
    omega)]
  rfl

theorem turn_takes (standing : Standing r) {message : Bytes} (some : message ≠ []) :
    ∃ count ≤ message.length, 0 < count ∧
      r.turn receiver message =
        r.takeBytes receiver (message.take count) >>= fun after =>
          .ok (after, message.drop count) := by
  rw [turn_eq]
  rcases standing with header | ⟨packet, room⟩
  · have open_ := header.open_
    rw [if_pos open_]
    by_cases short : message.length < r.activeSize - r.active.length
    · refine ⟨message.length, le_rfl, length_pos_of_ne_nil some, ?_⟩
      rw [if_pos short, take_length, drop_length, takeBytes_header receiver header (by omega)]
      rfl
    rw [if_neg short]
    have length : r.active.length + (message.take (r.activeSize - r.active.length)).length =
        r.activeSize := by
      rw [length_take]
      omega
    have all := takeBytes_headerEnd receiver header length
    have ends := withActive_full receiver header (by rw [length_append, length])
    generalize (r.withActive (r.active ++ message.take (r.activeSize - r.active.length))).handleInputHeader
      receiver = made at all ends
    cases made with
    | error how =>
      refine ⟨r.activeSize - r.active.length, not_lt.mp short, by omega, ?_⟩
      rw [all]
      rfl
    | ok full =>
      by_cases more : full.recvPct.length < full.recvSize
      · obtain ⟨count, within, -, payload⟩ := receivePayload_room receiver ends more
          (message.drop (r.activeSize - r.active.length))
        rw [length_drop] at within
        refine ⟨r.activeSize - r.active.length + count, by omega, by omega, ?_⟩
        change full.receivePayload receiver _ = _ at payload
        change full.receivePayload receiver _ = _
        rw [payload, take_add, takeBytes_append, all, drop_drop]
        change _ = (if _ then _ else _) >>= _ >>= _
        rw [if_pos more]
        rfl
      · obtain ⟨opcode, packet⟩ := ends.packet
        refine ⟨r.activeSize - r.active.length, not_lt.mp short, by omega, ?_⟩
        change full.receivePayload receiver _ = _
        rw [receivePayload_eq receiver packet, if_neg more, all]
        change _ = (if _ then _ else _) >>= _
        rw [if_neg more]
        rfl
  · rw [if_neg (by rw [packet.full]; exact Nat.lt_irrefl _)]
    obtain ⟨count, within, positive, payload⟩ := receivePayload_room receiver packet room message
    exact ⟨count, within, positive some, payload⟩

theorem turns_eq {fuel : Nat} {message : Bytes} (enough : message.length ≤ fuel)
    (standing : Standing r) : turns receiver fuel r message = r.takeBytes receiver message := by
  induction fuel generalizing r message with
  | zero =>
    rw [eq_nil_of_length_eq_zero (Nat.le_zero.mp enough)]
    rfl
  | succ fuel ih =>
    cases message with
    | nil => rfl
    | cons byte bytes =>
      obtain ⟨count, within, positive, turn⟩ :=
        turn_takes receiver standing (cons_ne_nil byte bytes)
      unfold turns
      rw [turn]
      have ends := takeBytes_ends receiver standing ((byte :: bytes).take count)
      have whole := takeBytes_append receiver (r := r) ((byte :: bytes).take count)
        ((byte :: bytes).drop count)
      rw [take_append_drop] at whole
      rw [whole]
      cases taken : r.takeBytes receiver ((byte :: bytes).take count) with
      | error how => rfl
      | ok after =>
        rw [taken] at ends
        exact ih (by rw [length_drop]; omega) ends

theorem handleInputMissingData_eq (standing : Standing r) (message : Bytes) :
    r.handleInputMissingData receiver message = r.takeBytes receiver message :=
  turns_eq receiver le_rfl standing

theorem receiveAll_eq (standing : Standing r) (chunks : List Bytes) :
    r.receiveAll receiver chunks = r.takeBytes receiver chunks.flatten := by
  induction chunks generalizing r with
  | nil => rfl
  | cons chunk chunks ih =>
    unfold receiveAll at ih ⊢
    rw [foldlM_cons, handleInputMissingData_eq receiver standing, flatten_cons, takeBytes_append]
    have ends := takeBytes_ends receiver standing chunk
    cases taken : r.takeBytes receiver chunk with
    | error how => rfl
    | ok after =>
      rw [taken] at ends
      exact ih ends

theorem start_standing (server : σ) (crypt : Option κ) : Standing (start server crypt) := by
  refine .inl ⟨?_, ?_, rfl, rfl, rfl⟩
  · exact (congrArg List.length (ite_self ([] : Bytes))).trans_lt (activeSize_pos _)
  · exact ite_self _

/-- Two ways of cutting a stream into pieces lead to the same packets and the same buffers, or to a
connection that is closed after the same packets, and no assertion fails. -/
theorem receiveAll_cuts (server : σ) (crypt : Option κ) (chunks others : List Bytes)
    (same : chunks.flatten = others.flatten) :
    (start server crypt).receiveAll receiver chunks =
        (start server crypt).receiveAll receiver others ∧
      ∀ handed, (start server crypt).receiveAll receiver chunks ≠ .error (.assertion, handed) := by
  have standing := start_standing server crypt
  refine ⟨?_, ?_⟩
  · rw [receiveAll_eq receiver standing, receiveAll_eq receiver standing, same]
  · intro handed failed
    have ends := takeBytes_ends receiver standing chunks.flatten
    rw [← receiveAll_eq receiver standing, failed] at ends
    cases ends

/-- A stream whose first packet initialises the cipher, cut inside both headers and not at all. -/
theorem receiveAll_cuts_switched :
    let receiver : Receiver Unit Unit :=
      ⟨⟨fun _ => Equiv.refl UInt8, id⟩, fun server _ _ => ((server, some ()), true)⟩
    let chunks : List Bytes := [[5, 0, 1], [0, 0, 0, 9, 2], [0x20, 0, 0, 7]]
    let others : List Bytes := [[5, 0, 1, 0, 0, 0, 9, 2, 0x20, 0, 0, 7]]
    (start () none).receiveAll receiver chunks = (start () none).receiveAll receiver others ∧
      ∀ handed, (start () none).receiveAll receiver chunks ≠ .error (.assertion, handed) := by
  intro receiver chunks others
  exact receiveAll_cuts receiver () none chunks others (by decide)

end Reception

end OpenWoW.WorldSocket
