import OpenWoW.PetitionFounding

/-! Runs of purchases, signatures, memberships and charters that are turned in. -/
namespace OpenWoW.Petitions

open List

variable {w : World} {s after : State} {player : Nat}

open State

theorem readInt_cases (width : Nat) (b : ByteBuffer) :
    (b.rpos + width ≤ b.size ∧
      ∃ value, ByteBuffer.readInt width b = .ok (value, { b with rpos := b.rpos + width })) ∨
    b.size < b.rpos + width ∧ ∃ fault, ByteBuffer.readInt width b = .error fault := by
  by_cases short : b.size < b.rpos + width
  · refine .inr ⟨short, .positionException false b.rpos width b.size, ?_⟩
    unfold ByteBuffer.readInt ByteBuffer.read
    simp only [bind, StateT.bind, short, if_true, Except.bind]
  refine .inl ⟨Nat.not_lt.mp short, Bits.leValue ((b.storage.drop b.rpos).take width), ?_⟩
  unfold ByteBuffer.readInt ByteBuffer.read
  simp only [bind, StateT.bind, short, if_false, Except.bind]
  rfl

theorem toBool_readInt_bind {rest : Nat → Reader Unit} (width more : Nat)
    (reads : ∀ value b, b.rpos ≤ b.size → (rest value b).toBool = decide (b.rpos + more ≤ b.size))
    (b : ByteBuffer) :
    ((ByteBuffer.readInt width >>= rest) b).toBool = decide (b.rpos + (width + more) ≤ b.size) := by
  change (Except.bind (ByteBuffer.readInt width b) fun result => rest result.1 result.2).toBool = _
  rcases readInt_cases width b with ⟨enough, value, isRead⟩ | ⟨short, fault, fails⟩
  · rw [isRead]
    exact (reads value _ enough).trans (by rw [← Nat.add_assoc]; rfl)
  · rw [fails]
    exact (decide_eq_false (by omega)).symm

theorem readEmblem_toBool (b : ByteBuffer) :
    (readEmblem b).toBool = decide (b.rpos + 20 ≤ b.size) := by
  refine toBool_readInt_bind 4 16 (fun _ b _ => ?_) b
  refine toBool_readInt_bind 4 12 (fun _ b _ => ?_) b
  refine toBool_readInt_bind 4 8 (fun _ b _ => ?_) b
  refine toBool_readInt_bind 4 4 (fun _ b _ => ?_) b
  refine toBool_readInt_bind 4 0 (fun _ b inside => ?_) b
  exact (decide_eq_true inside).symm

/-- Who gets into the society of a charter. -/
def Joins (s : State) (petition : Petition) (player : Nat) : Prop :=
  player = petition.owner ∨
    player ∈ s.signers petition.guid ∧ s.isMember petition.type player = false

/-- The charter has become a society. -/
structure Founded (s : State) (petitionGuid : Nat) (petition : Petition) (after : State) :
    Prop where
  carried : (petition.owner, petitionGuid) ∈ s.items
  stored : petition ∈ s.petitions
  guid : petition.guid = guidLoPart petitionGuid
  destroyed : after.items = s.items.erase (petition.owner, petitionGuid)
  removed : ∀ other ∈ after.petitions, other.guid ≠ petition.guid
  unsigned : after.signers petition.guid = []
  society : ∃ members, after.societies = s.societies ++
      [{ type := petition.type, name := petition.name, leader := petition.owner, members }] ∧
    members.Nodup ∧ ∀ player, player ∈ members ↔ Joins s petition player

variable {petitionGuid : Nat} {petition : Petition}

theorem turnInChecks_some (accepted : turnInChecks w s player petitionGuid = some petition) :
    (player, petitionGuid) ∈ s.items ∧ petition ∈ s.petitions ∧
      petition.guid = guidLoPart petitionGuid ∧ petition.owner = player ∧
      s.isMember petition.type player = false ∧
      s.nameTaken petition.type petition.name = false := by
  unfold turnInChecks at accepted
  split at accepted
  · cases accepted
  next carried =>
  split at accepted
  · cases accepted
  next petition' found =>
  obtain ⟨stored, isGuid⟩ := find_petition found
  split at accepted
  · cases accepted
  next owner =>
  split at accepted
  · cases accepted
  next free =>
  dsimp only at accepted
  generalize (if petition'.type = .guild then _ else _) = required at accepted
  split at accepted
  · cases accepted
  obtain rfl := Option.some.inj accepted
  obtain ⟨stranger, unused⟩ := not_or.mp free
  exact ⟨not_not.mp carried, stored, isGuid, not_not.mp owner,
    Bool.eq_false_iff.mpr stranger, Bool.eq_false_iff.mpr unused⟩

variable {packet : ByteBuffer}

/-- What a request that passes the checks and brings its emblem does. -/
theorem found_spec (kept : Kept w s)
    (accepted : turnInChecks w s player petitionGuid = some petition) {rest : ByteBuffer}
    (isRead : ByteBuffer.readInt 8 packet = .ok (petitionGuid, rest))
    (whole : petition.type = .guild ∨ rest.rpos + 20 ≤ rest.size) :
    Founded s petitionGuid petition (handleTurnInPetition w s player packet) ∧
      (handleTurnInPetition w s player packet).petitions.Sublist s.petitions ∧
      (handleTurnInPetition w s player packet).signatures =
        s.signatures.filter (·.petition ≠ petition.guid) ∧
      ∀ other, other ∈ (handleTurnInPetition w s player packet).petitions ↔
        other ∈ s.petitions ∧ other.guid ≠ petition.guid ∧
          ¬(other.type = petition.type ∧ Joins s petition other.owner) := by
  obtain ⟨carried, stored, isGuid, owner, stranger, unused⟩ := turnInChecks_some accepted
  have lawful := kept.lawful petition stored
  have few : (s.signers petition.guid).length % 256 = (s.signers petition.guid).length := by
    refine Nat.mod_eq_of_lt (Nat.lt_of_le_of_lt lawful.few ?_)
    cases petition.type <;> decide
  obtain ⟨new, grown, distinct, members⟩ := addMembers_spec s
    (player :: s.signers petition.guid) ((s.destroyItem player petitionGuid).create petition player)
    { type := petition.type, name := petition.name, leader := player, members := [] }
    kept.types rfl nodup_nil (.inr (by
      have some : 1 ≤ petition.type.value := by cases petition.type <;> decide
      have room := lawful.few
      simp only [length_nil, length_cons]
      omega))
  have result : handleTurnInPetition w s player packet =
      ((player :: s.signers petition.guid).foldl (State.addMember s.societies.length)
        ((s.destroyItem player petitionGuid).create petition player)).deletePetition
          petition.guid := by
    have reads : ¬(petition.type ≠ .guild ∧ (readEmblem rest).toBool = false) := by
      rw [readEmblem_toBool, decide_eq_false_iff_not]
      exact fun both => both.2 (whole.resolve_left both.1)
    have founds : ¬(
        (s.destroyItem player petitionGuid).nameTaken petition.type petition.name = true ∨
        (petition.type = .guild ∧
          (s.destroyItem player petitionGuid).isMember .guild player = true)) := by
      rintro (taken | ⟨isGuild, member⟩)
      · exact Bool.eq_false_iff.mp unused taken
      · rw [isGuild] at stranger
        exact Bool.eq_false_iff.mp stranger member
    unfold handleTurnInPetition
    rw [isRead]
    dsimp only
    rw [accepted]
    dsimp only
    rw [if_neg reads, few, take_length]
    unfold found
    rw [if_neg founds, isGuid]
    rfl
  rw [result]
  generalize (player :: s.signers petition.guid).foldl _ _ = y at grown
  have joins (other : Nat) : other ∈ new ↔ Joins s petition other := by
    have each := members other
    simp only [nil_append, not_mem_nil, false_or, mem_cons] at each
    rw [each]
    unfold Joins
    rw [owner]
    constructor
    · rintro ⟨rfl | signed, free⟩
      · exact .inl rfl
      · exact .inr ⟨signed, free⟩
    · rintro (rfl | ⟨signed, free⟩)
      · exact ⟨.inl rfl, stranger⟩
      · exact ⟨.inr signed, free⟩
  have rows : (y.deletePetition petition.guid).signatures =
      s.signatures.filter (·.petition ≠ petition.guid) :=
    congrArg (List.filter _) grown.signatures
  refine ⟨⟨owner ▸ carried, stored, isGuid, ?_, fun other there => ?_, ?_, new, ?_, distinct,
    joins⟩, filter_sublist.trans grown.sublist, rows, fun other => ?_⟩
  · rw [owner]
    exact grown.items
  · exact of_decide_eq_true (mem_filter.mp there).2
  · refine eq_nil_iff_forall_not_mem.mpr fun other signed => ?_
    obtain ⟨row, there, ofPetition, _⟩ := mem_signers.mp signed
    rw [rows] at there
    exact of_decide_eq_true (mem_filter.mp there).2 ofPetition
  · rw [owner]
    exact grown.societies
  · have each := grown.petitions other
    rw [joins] at each
    change other ∈ y.petitions.filter _ ↔ _
    rw [mem_filter, each, decide_eq_true_iff, and_assoc]
    change other ∈ s.petitions ∧ _ ↔ _
    exact and_congr_right fun _ => And.comm

theorem handleTurnInPetition_of_checks
    (refused : ∀ petitionGuid rest, ByteBuffer.readInt 8 packet = .ok (petitionGuid, rest) →
      turnInChecks w s player petitionGuid = none) :
    handleTurnInPetition w s player packet = s := by
  unfold handleTurnInPetition
  split
  · rfl
  · rename_i petitionGuid rest isRead
    rw [refused petitionGuid rest isRead]

theorem handleTurnInPetition_of_short
    (accepted : turnInChecks w s player petitionGuid = some petition) {rest : ByteBuffer}
    (isRead : ByteBuffer.readInt 8 packet = .ok (petitionGuid, rest))
    (short : ¬(petition.type = .guild ∨ rest.rpos + 20 ≤ rest.size)) :
    handleTurnInPetition w s player packet = s.destroyItem player petitionGuid := by
  obtain ⟨team, few⟩ := not_or.mp short
  unfold handleTurnInPetition
  rw [isRead]
  dsimp only
  rw [accepted]
  dsimp only
  rw [if_pos ⟨team, by rw [readEmblem_toBool]; exact decide_eq_false few⟩]

/-- Nobody is added to a society while a charter of its kind carries a signature of his that stays,
and the packet for an arena team is whole. -/
def Careful (w : World) (s : State) : Input → Prop
  | .addMember index player => ∀ society, s.societies[index]? = some society →
      s.refuses society player = false →
        ∀ petition ∈ s.petitions, petition.type = society.type → player ∉ s.signers petition.guid
  | .turnIn player packet => ∀ petitionGuid rest petition,
      ByteBuffer.readInt 8 packet = .ok (petitionGuid, rest) →
        turnInChecks w s player petitionGuid = some petition →
          (petition.type = .guild ∨ rest.rpos + 20 ≤ rest.size) ∧
            ∀ joins, Joins s petition joins → ∀ other ∈ s.petitions,
              other.type = petition.type → other.guid ≠ petition.guid →
                ¬Joins s petition other.owner → joins ∉ s.signers other.guid
  | .buy _ => True
  | .sign _ => True
  | .leave _ _ _ => True

structure Sound (w : World) (t : Run.Taken State Input Unit) : Prop where
  lawful : ∀ petition ∈ t.after.petitions, Lawful w t.after petition
  unsigned : t.after.Unsigned
  turnIn : ∀ player packet, t.input = .turnIn player packet → t.after = t.before ∨
    ∃ petitionGuid rest petition, ByteBuffer.readInt 8 packet = .ok (petitionGuid, rest) ∧
      petition.owner = player ∧ Founded t.before petitionGuid petition t.after

theorem Sound.of_other {input : Input} (kept : Kept w (step w s input).1)
    (unsigned : (step w s input).1.Unsigned)
    (other : ∀ player packet, input ≠ .turnIn player packet) :
    Sound w (Run.take (step w) s input) :=
  ⟨kept.lawful, unsigned, fun player packet same => absurd same (other player packet)⟩

theorem unsigned_founded_iff (unsigned : s.Unsigned) (founded : Founded s petitionGuid petition after)
    (signatures : after.signatures = s.signatures.filter (·.petition ≠ petition.guid))
    (petitions : ∀ other, other ∈ after.petitions ↔ other ∈ s.petitions ∧
      other.guid ≠ petition.guid ∧ ¬(other.type = petition.type ∧ Joins s petition other.owner)) :
    after.Unsigned ↔ ∀ joins, Joins s petition joins → ∀ other ∈ s.petitions,
      other.type = petition.type → other.guid ≠ petition.guid →
        ¬Joins s petition other.owner → joins ∉ s.signers other.guid := by
  obtain ⟨members, societies, _, whoJoins⟩ := founded.society
  have signers (guid : Nat) (different : guid ≠ petition.guid) :
      after.signers guid = s.signers guid := by
    unfold State.signers
    rw [signatures, filter_filter]
    refine congrArg (List.map _) (filter_congr fun row _ => ?_)
    by_cases this : row.petition = guid
    · simp [this, different]
    · simp [this]
  constructor
  · intro later joins isJoining other there isType different stays signed
    have member : after.isMember petition.type joins = true := by
      refine isMember_iff.mpr ⟨⟨petition.type, petition.name, petition.owner, members⟩, ?_, rfl,
        (whoJoins joins).mpr isJoining⟩
      rw [societies]
      exact mem_append_right _ (mem_singleton_self _)
    refine later petition.type joins member other
      ((petitions other).mpr ⟨there, different, fun both => stays both.2⟩) isType ?_
    rw [signers other.guid different]
    exact signed
  · intro clean type player member other there isType
    obtain ⟨before, different, stays⟩ := (petitions other).mp there
    rw [signers other.guid different]
    obtain ⟨society, isThere, isSociety, inside⟩ := isMember_iff.mp member
    rw [societies] at isThere
    rcases mem_append.mp isThere with old | new
    · exact unsigned type player (isMember_iff.mpr ⟨society, old, isSociety, inside⟩) other before
        isType
    rw [mem_singleton.mp new] at isSociety inside
    have same : other.type = petition.type := isType.trans isSociety.symm
    exact clean player ((whoJoins player).mp inside) other before same different
      fun joins => stays ⟨same, joins⟩

theorem items_erase_ne (carried : (player, petitionGuid) ∈ s.items) :
    s.items.erase (player, petitionGuid) ≠ s.items := by
  intro same
  have shorter := length_erase_of_mem carried
  rw [same] at shorter
  have some := length_pos_of_mem carried
  omega

theorem sound_turnIn_iff (kept : Kept w s) (unsigned : s.Unsigned) (player : Nat)
    (packet : ByteBuffer) :
    (Sound w (Run.take (step w) s (.turnIn player packet)) ↔ Careful w s (.turnIn player packet)) ∧
    Kept w (handleTurnInPetition w s player packet) := by
  by_cases refused : ∀ petitionGuid rest, ByteBuffer.readInt 8 packet = .ok (petitionGuid, rest) →
      turnInChecks w s player petitionGuid = none
  · have same : handleTurnInPetition w s player packet = s :=
      handleTurnInPetition_of_checks refused
    refine ⟨⟨fun _ petitionGuid rest petition isRead accepted => ?_, fun _ => ⟨?_, ?_, ?_⟩⟩, ?_⟩
    · rw [refused petitionGuid rest isRead] at accepted
      cases accepted
    · exact (congrArg (fun s : State => ∀ petition ∈ s.petitions, Lawful w s petition) same).mpr
        kept.lawful
    · exact (congrArg State.Unsigned same).mpr unsigned
    · exact fun _ _ _ => .inl same
    · rw [same]
      exact kept
  · push Not at refused
    obtain ⟨petitionGuid, rest, isRead, passes⟩ := refused
    obtain ⟨petition, accepted⟩ := Option.ne_none_iff_exists'.mp passes
    obtain ⟨carried, _, _, owner, _, _⟩ := turnInChecks_some accepted
    have only (guid : Nat) (after : ByteBuffer) (charter : Petition)
        (again : ByteBuffer.readInt 8 packet = .ok (guid, after))
        (passes : turnInChecks w s player guid = some charter) :
        after = rest ∧ charter = petition := by
      rw [isRead] at again
      cases again
      exact ⟨rfl, Option.some.inj (passes.symm.trans accepted)⟩
    by_cases whole : petition.type = .guild ∨ rest.rpos + 20 ≤ rest.size
    · obtain ⟨founded, sublist, signatures, petitions⟩ := found_spec kept accepted isRead whole
      have clean := unsigned_founded_iff unsigned founded signatures petitions
      have keeps : Kept w (handleTurnInPetition w s player packet) :=
        kept.less sublist (signatures ▸ filter_sublist)
      refine ⟨⟨fun sound guid after charter again passes => ?_, fun careful => ?_⟩, keeps⟩
      · obtain ⟨rfl, rfl⟩ := only guid after charter again passes
        exact ⟨whole, clean.mp sound.unsigned⟩
      · refine ⟨keeps.lawful, clean.mpr (careful petitionGuid rest petition isRead accepted).2, ?_⟩
        rintro _ _ ⟨rfl, rfl⟩
        exact .inr ⟨petitionGuid, rest, petition, isRead, owner, founded⟩
    · have short := handleTurnInPetition_of_short accepted isRead whole
      refine ⟨⟨fun sound => ?_, fun careful =>
        absurd (careful petitionGuid rest petition isRead accepted).1 whole⟩, ?_⟩
      · rcases sound.turnIn player packet rfl with same | ⟨_, _, other, _, _, founded⟩
        · exact absurd (congrArg State.items (short.symm.trans same)) (items_erase_ne carried)
        · obtain ⟨members, societies, _⟩ := founded.society
          have still : s.societies = s.societies ++ _ :=
            (congrArg State.societies short).symm.trans societies
          exact absurd still (by simp)
      · rw [short]
        exact kept.less (List.Sublist.refl _) (List.Sublist.refl _)

theorem kept_step (kept : Kept w s) (unsigned : s.Unsigned) (input : Input) :
    Kept w (step w s input).1 := by
  cases input with
  | buy purchase => exact (kept.buy unsigned purchase).1
  | sign signing => exact (kept.sign unsigned signing).1
  | addMember index player => exact kept.addMember index player
  | leave index player undeletable => exact (kept.leave unsigned index player undeletable).1
  | turnIn player packet => exact (sound_turnIn_iff kept unsigned player packet).2

theorem sound_step_iff (kept : Kept w s) (unsigned : s.Unsigned) (input : Input) :
    Sound w (Run.take (step w) s input) ↔ Careful w s input := by
  cases input with
  | buy purchase =>
    obtain ⟨keeps, clean⟩ := kept.buy unsigned purchase
    exact ⟨fun _ => trivial, fun _ => .of_other keeps clean nofun⟩
  | sign signing =>
    obtain ⟨keeps, clean⟩ := kept.sign unsigned signing
    exact ⟨fun _ => trivial, fun _ => .of_other keeps clean nofun⟩
  | addMember index player =>
    have clean := unsigned_addMember_iff kept unsigned index player
    exact ⟨fun sound => clean.mp sound.unsigned,
      fun careful => .of_other (kept.addMember index player) (clean.mpr careful) nofun⟩
  | leave index player undeletable =>
    obtain ⟨keeps, clean⟩ := kept.leave unsigned index player undeletable
    exact ⟨fun _ => trivial, fun _ => .of_other keeps clean nofun⟩
  | turnIn player packet => exact (sound_turnIn_iff kept unsigned player packet).1

/-- Charters found societies of their willing signers exactly when nobody who is added leaves a
signature behind, and every packet for an arena team is whole. -/
theorem charters_iff (w : World) (societies : List Society) (inputs : List Input) :
    (∀ t ∈ Run.trace (step w) { societies } inputs, Sound w t) ↔
      ∀ t ∈ Run.trace (step w) { societies } inputs, Careful w t.before t.input :=
  Run.good_iff (step w) (Careful w) (fun s => Kept w s ∧ s.Unsigned) (Sound w)
    (fun _ input holds => sound_step_iff holds.1 holds.2 input)
    (fun _ input holds careful => ⟨kept_step holds.1 holds.2 input,
      ((sound_step_iff holds.1 holds.2 input).mpr careful).unsigned⟩)
    _ _ ⟨⟨nodup_nil, nofun, nofun, nofun⟩, nofun⟩

/-- A world in which two signatures found a guild. -/
def smallWorld : World where
  accountId := id
  team := fun _ => 0
  allowTwoSideInteraction := false
  maxPlayerLevel := 90
  minPetitionSigns := 2
  isValidCharterName := fun _ => true

def purchase (isTabardDesigner : Bool) : Purchase :=
  { player := 1, low := 7, isTabardDesigner, clientIndex := 1, level := 90, name := [65],
    money := 800000, canStore := true }

def signing (player : Nat) : Signing :=
  { player, petitionGuid := 7, level := 90, guildInvited := false, arenaTeamInvited := false }

/-- A packet that ends with the GUID of the charter. -/
def onlyGuid : ByteBuffer :=
  { ByteBuffer.fresh with storage := [7, 0, 0, 0, 0, 0, 0, 0x40] }

/-- A signature stays on the charter after its signer has joined another guild. And the charter of
an arena team is destroyed without a team when the packet ends early. -/
theorem signature_stays :
    ¬(∀ t ∈ Run.trace (step smallWorld) { societies := [⟨.guild, [66], 9, [9]⟩] }
      [.buy (purchase true), .sign (signing 2), .addMember 0 2], Sound smallWorld t) ∧
    ¬(∀ t ∈ Run.trace (step smallWorld) {}
      [.buy (purchase false), .sign (signing 2), .turnIn 1 onlyGuid], Sound smallWorld t) := by
  constructor
  · intro sound
    have last := sound _ (mem_cons_of_mem _ (mem_cons_of_mem _ mem_cons_self))
    exact last.unsigned .guild 2 (by decide) ⟨1, 7, [65], .guild⟩ (by decide) rfl (by decide)
  · intro sound
    have last := sound _ (mem_cons_of_mem _ (mem_cons_of_mem _ mem_cons_self))
    rcases last.turnIn 1 onlyGuid rfl with same | ⟨_, _, _, _, _, founded⟩
    · exact absurd (congrArg State.items same) (by decide)
    · obtain ⟨members, societies, _⟩ := founded.society
      exact append_ne_nil_of_right_ne_nil _ (cons_ne_nil _ _) (societies.symm.trans rfl)

end OpenWoW.Petitions
