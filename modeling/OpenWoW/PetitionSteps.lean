import Mathlib.Data.List.Nodup
import OpenWoW.Petitions

/-! What a step does to charters, their signatures and the societies. -/
namespace OpenWoW.Petitions

open List

variable {w : World} {s after : State} {type : CharterType} {player : Nat}

namespace State

theorem mem_signers {guid : Nat} :
    player ∈ s.signers guid ↔ ∃ row ∈ s.signatures, row.petition = guid ∧ row.player = player := by
  simp only [signers, mem_map, mem_filter, decide_eq_true_eq, and_assoc]

theorem isMember_iff : s.isMember type player = true ↔
    ∃ society ∈ s.societies, society.type = type ∧ player ∈ society.members := by
  simp only [isMember, any_eq_true, Bool.and_eq_true, decide_eq_true_eq]

theorem signers_sublist (signatures : after.signatures.Sublist s.signatures) (guid : Nat) :
    (after.signers guid).Sublist (s.signers guid) :=
  (signatures.filter _).map _

/-- No charter carries a signature of someone in a guild or a team of its type. -/
def Unsigned (s : State) : Prop :=
  ∀ type player, s.isMember type player = true →
    ∀ petition ∈ s.petitions, petition.type = type → player ∉ s.signers petition.guid

theorem Unsigned.less (unsigned : s.Unsigned)
    (members : ∀ type player, after.isMember type player = true → s.isMember type player = true)
    (petitions : after.petitions ⊆ s.petitions)
    (signatures : after.signatures.Sublist s.signatures) : after.Unsigned :=
  fun type player member petition there isType signed =>
    unsigned type player (members type player member) petition (petitions there) isType
      ((signers_sublist signatures petition.guid).subset signed)

theorem find_petition {guid : Nat} {petition : Petition}
    (found : s.petitions.find? (·.guid = guid) = some petition) :
    petition ∈ s.petitions ∧ petition.guid = guid :=
  ⟨mem_of_find?_eq_some found, by simpa using find?_some found⟩

end State

open State

/-- The signatures of one charter come from different accounts, not from the owner, and are no
more than its type. -/
structure Lawful (w : World) (s : State) (petition : Petition) : Prop where
  accounts : ((s.signers petition.guid).map w.accountId).Nodup
  owner : petition.owner ∉ s.signers petition.guid
  few : (s.signers petition.guid).length ≤ petition.type.value

/-- The invariant of the stores. -/
structure Kept (w : World) (s : State) : Prop where
  distinct : (s.petitions.map (·.guid)).Nodup
  types : ∀ row ∈ s.signatures, row.type = 0
  account : ∀ row ∈ s.signatures, row.account = w.accountId row.player
  lawful : ∀ petition ∈ s.petitions, Lawful w s petition

theorem Kept.less (kept : Kept w s) (petitions : after.petitions.Sublist s.petitions)
    (signatures : after.signatures.Sublist s.signatures) : Kept w after := by
  refine ⟨kept.distinct.sublist (petitions.map _), fun row there => kept.types row ?_,
    fun row there => kept.account row ?_, fun petition there => ?_⟩
  · exact signatures.subset there
  · exact signatures.subset there
  · have lawful := kept.lawful petition (petitions.subset there)
    have fewer := signers_sublist signatures petition.guid
    exact ⟨lawful.accounts.sublist (fewer.map _), fun signed => lawful.owner (fewer.subset signed),
      Nat.le_trans fewer.length_le lawful.few⟩

theorem handlePetitionBuy_cases (s : State) (purchase : Purchase) :
    handlePetitionBuy w s purchase = s ∨
      ∃ (petition : Petition) (invalid : List Nat), petition.guid ∈ invalid ∧
        (handlePetitionBuy w s purchase).societies = s.societies ∧
        (handlePetitionBuy w s purchase).petitions =
          s.petitions.filter (·.guid ∉ invalid) ++ [petition] ∧
        (handlePetitionBuy w s purchase).signatures =
          s.signatures.filter (·.petition ∉ invalid) := by
  unfold handlePetitionBuy
  cases purchase.type with
  | none => exact .inl rfl
  | some type =>
    dsimp only
    split
    · exact .inl rfl
    · exact .inr ⟨⟨purchase.player, guidLoPart (makeItemGuid purchase.low), purchase.name, type⟩,
        _, mem_append_right _ (mem_singleton_self _), rfl, rfl, rfl⟩

theorem Kept.buy (kept : Kept w s) (unsigned : s.Unsigned) (purchase : Purchase) :
    Kept w (handlePetitionBuy w s purchase) ∧ (handlePetitionBuy w s purchase).Unsigned := by
  rcases handlePetitionBuy_cases (w := w) s purchase with same | bought
  · rw [same]
    exact ⟨kept, unsigned⟩
  obtain ⟨petition, invalid, isInvalid, societies, petitions, signatures⟩ := bought
  generalize handlePetitionBuy w s purchase = after at societies petitions signatures
  have rows : after.signatures.Sublist s.signatures := signatures ▸ filter_sublist
  -- a new charter has no signatures
  have fresh : after.signers petition.guid = [] := by
    refine eq_nil_iff_forall_not_mem.mpr fun player signed => ?_
    obtain ⟨row, there, ofPetition, _⟩ := mem_signers.mp signed
    rw [signatures] at there
    have valid := (mem_filter.mp there).2
    rw [decide_eq_true_iff, ofPetition] at valid
    exact valid isInvalid
  have old (other : Petition) (there : other ∈ after.petitions) :
      other = petition ∨ other ∈ s.petitions := by
    rw [petitions] at there
    rcases mem_append.mp there with before | new
    · exact .inr (mem_of_mem_filter before)
    · exact .inl (mem_singleton.mp new)
  refine ⟨⟨?_, fun row there => kept.types row (rows.subset there),
    fun row there => kept.account row (rows.subset there), fun other there => ?_⟩,
    fun type player member other there isType => ?_⟩
  · rw [petitions, map_append, map_singleton]
    refine nodup_append.mpr ⟨kept.distinct.sublist (filter_sublist.map _), nodup_singleton _, ?_⟩
    intro guid before other new same
    obtain ⟨former, there, rfl⟩ := mem_map.mp before
    have valid := (mem_filter.mp there).2
    rw [decide_eq_true_iff, same, mem_singleton.mp new] at valid
    exact valid isInvalid
  · rcases old other there with rfl | before
    · exact ⟨by rw [fresh]; exact nodup_nil, by rw [fresh]; exact not_mem_nil,
        by rw [fresh]; exact Nat.zero_le _⟩
    · have lawful := kept.lawful other before
      have fewer := signers_sublist rows other.guid
      exact ⟨lawful.accounts.sublist (fewer.map _), fun signed =>
        lawful.owner (fewer.subset signed), Nat.le_trans fewer.length_le lawful.few⟩
  · rcases old other there with rfl | before
    · rw [fresh]
      exact not_mem_nil
    · have was : s.isMember type player = true := by
        unfold isMember at member ⊢
        rwa [societies] at member
      exact fun signed => unsigned type player was other before isType
        ((signers_sublist rows other.guid).subset signed)

/-- A signature is added to a charter that may have one more, by someone who may give it. -/
theorem handlePetitionSign_cases (s : State) (signing : Signing) :
    handlePetitionSign w s signing = s ∨
      ∃ petition ∈ s.petitions, petition.owner ≠ signing.player ∧
        s.isMember petition.type signing.player = false ∧
        (s.signers petition.guid).length + 1 ≤ petition.type.value ∧
        (∀ row ∈ s.signatures, row.petition = petition.guid →
          row.account ≠ w.accountId signing.player) ∧
        handlePetitionSign w s signing =
          { s with
            signatures := s.signatures ++
              [{ owner := petition.owner, petition := petition.guid, player := signing.player,
                 account := w.accountId signing.player }] } := by
  unfold handlePetitionSign
  dsimp only
  cases found : s.petitions.find? (·.guid = guidLoPart signing.petitionGuid) with
  | none => exact .inl rfl
  | some petition =>
    obtain ⟨there, isGuid⟩ := find_petition found
    dsimp only
    split
    · exact .inl rfl
    next notOwner =>
    split
    · exact .inl rfl
    split
    · exact .inl rfl
    next lets =>
    split
    · exact .inl rfl
    next room =>
    split
    · exact .inl rfl
    next unsigned =>
    refine .inr ⟨petition, there, notOwner, ?_, ?_, ?_, by rw [isGuid]⟩
    · obtain ⟨_, away⟩ := not_or.mp lets
      exact Bool.eq_false_iff.mpr (not_or.mp away).1
    · unfold signers
      rw [length_map, isGuid]
      exact Nat.not_lt.mp room
    · intro row stored ofPetition same
      refine unsigned (any_eq_true.mpr ⟨row, stored, ?_⟩)
      simp [same, ofPetition, isGuid]

theorem Kept.sign (kept : Kept w s) (unsigned : s.Unsigned) (signing : Signing) :
    Kept w (handlePetitionSign w s signing) ∧ (handlePetitionSign w s signing).Unsigned := by
  rcases handlePetitionSign_cases (w := w) s signing with same | signed
  · rw [same]
    exact ⟨kept, unsigned⟩
  obtain ⟨petition, there, notOwner, stranger, room, newAccount, same⟩ := signed
  rw [same]
  generalize isAfter : ({ s with signatures := s.signatures ++ [_] } : State) = after
  have petitions : after.petitions = s.petitions := by rw [← isAfter]
  have rows : after.signatures = s.signatures ++
      [{ owner := petition.owner, petition := petition.guid, player := signing.player,
         account := w.accountId signing.player }] := by rw [← isAfter]
  have signers (guid : Nat) : after.signers guid =
      s.signers guid ++ if petition.guid = guid then [signing.player] else [] := by
    unfold State.signers
    rw [rows, filter_append, map_append]
    congr 1
    by_cases this : petition.guid = guid <;> simp [this]
  have member (type : CharterType) (player : Nat) :
      after.isMember type player = s.isMember type player := by rw [← isAfter]; rfl
  refine ⟨⟨petitions ▸ kept.distinct, fun row stored => ?_, fun row stored => ?_,
    fun other stored => ?_⟩, fun type player isMember other stored isType => ?_⟩
  · rw [rows] at stored
    rcases mem_append.mp stored with old | new
    · exact kept.types row old
    · rw [mem_singleton.mp new]
  · rw [rows] at stored
    rcases mem_append.mp stored with old | new
    · exact kept.account row old
    · rw [mem_singleton.mp new]
  · rw [petitions] at stored
    have lawful := kept.lawful other stored
    by_cases this : petition.guid = other.guid
    · -- the row of the charter is the only one with its GUID
      obtain rfl : other = petition := by
        exact inj_on_of_nodup_map kept.distinct stored there this.symm
      refine ⟨?_, ?_, ?_⟩
      · rw [signers, if_pos rfl, map_append]
        refine nodup_append.mpr ⟨lawful.accounts, nodup_singleton _, ?_⟩
        intro account old other new isSame
        obtain ⟨player, isSigner, rfl⟩ := mem_map.mp old
        obtain ⟨row, inRows, ofPetition, rfl⟩ := mem_signers.mp isSigner
        refine newAccount row inRows ofPetition ?_
        rw [kept.account row inRows, isSame]
        exact mem_singleton.mp new
      · rw [signers, if_pos rfl, mem_append, not_or]
        exact ⟨lawful.owner, fun new => notOwner (mem_singleton.mp new)⟩
      · rw [signers, if_pos rfl, length_append, length_singleton]
        exact room
    · have still : after.signers other.guid = s.signers other.guid := by
        rw [signers, if_neg this, append_nil]
      exact ⟨by rw [still]; exact lawful.accounts, by rw [still]; exact lawful.owner,
        by rw [still]; exact lawful.few⟩
  · rw [petitions] at stored
    rw [member] at isMember
    have old := unsigned type player isMember other stored isType
    rw [signers, mem_append, not_or]
    refine ⟨old, ?_⟩
    split
    · rename_i this
      obtain rfl : other = petition :=
        inj_on_of_nodup_map kept.distinct stored there this.symm
      rw [mem_singleton]
      rintro rfl
      rw [isType, isMember] at stranger
      cases stranger
    · exact not_mem_nil

end OpenWoW.Petitions
