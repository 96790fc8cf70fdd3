import OpenWoW.PetitionSteps

/-! Members that are added to societies, and charters that are turned in. -/
namespace OpenWoW.Petitions

open List

variable {w : World} {s after : State} {type : CharterType} {player : Nat}

open State

theorem removePetitionsAndSigns_signatures (types : ∀ row ∈ s.signatures, row.type = 0)
    (player : Nat) (type : CharterType) :
    (s.removePetitionsAndSigns player type).signatures = s.signatures := by
  have named : type.value ≠ 0 := by cases type <;> decide
  have keeps (row : Signature) (there : row ∈ s.signatures) (who : Prop) [Decidable who] :
      (decide ¬(who ∧ row.type = type.value)) = true := by
    rw [decide_eq_true_iff, types row there]
    exact fun both => named both.2.symm
  unfold removePetitionsAndSigns
  rw [filter_filter, filter_eq_self]
  intro row there
  rw [keeps row there, keeps row there]
  rfl

theorem addMember_cases (s : State) (index player : Nat) :
    (s.addMember index player = s ∧
      ∀ society, s.societies[index]? = some society → s.refuses society player = true) ∨
    ∃ society, s.societies[index]? = some society ∧ s.refuses society player = false ∧
      s.addMember index player =
        { s.removePetitionsAndSigns player society.type with
          societies := s.societies.set index
            { society with members := society.members ++ [player] } } := by
  unfold addMember
  cases found : s.societies[index]? with
  | none => exact .inl ⟨rfl, nofun⟩
  | some society =>
    dsimp only
    cases refuses : s.refuses society player with
    | true =>
      refine .inl ⟨rfl, fun other same => ?_⟩
      rw [← Option.some.inj same]
      exact refuses
    | false => exact .inr ⟨society, rfl, refuses, rfl⟩

theorem isMember_set {index : Nat} {society : Society} {members : List Nat}
    (societies : after.societies = s.societies.set index { society with members })
    {type : CharterType} {player : Nat} (member : after.isMember type player = true) :
    s.isMember type player = true ∨ society.type = type ∧ player ∈ members := by
  obtain ⟨other, there, isType, inside⟩ := isMember_iff.mp member
  rw [societies] at there
  rcases mem_or_eq_of_mem_set there with old | new
  · exact .inl (isMember_iff.mpr ⟨other, old, isType, inside⟩)
  · subst new
    exact .inr ⟨isType, inside⟩

theorem Kept.addMember (kept : Kept w s) (index player : Nat) :
    Kept w (s.addMember index player) := by
  rcases addMember_cases s index player with ⟨same, _⟩ | ⟨society, _, _, joined⟩
  · rw [same]
    exact kept
  rw [joined]
  exact kept.less filter_sublist (filter_sublist.trans filter_sublist)

/-- Nobody who joins is left with a signature exactly when none was there to be removed. -/
theorem unsigned_addMember_iff (kept : Kept w s) (unsigned : s.Unsigned) (index player : Nat) :
    (s.addMember index player).Unsigned ↔
      ∀ society, s.societies[index]? = some society → s.refuses society player = false →
        ∀ petition ∈ s.petitions, petition.type = society.type →
          player ∉ s.signers petition.guid := by
  rcases addMember_cases s index player with ⟨same, refused⟩ | ⟨society, found, lets, joined⟩
  · rw [same]
    refine ⟨fun _ society isThere lets => ?_, fun _ => unsigned⟩
    rw [refused society isThere] at lets
    cases lets
  have signatures : (s.addMember index player).signatures = s.signatures := by
    rw [joined]
    exact removePetitionsAndSigns_signatures kept.types player society.type
  have signers (guid : Nat) : (s.addMember index player).signers guid = s.signers guid := by
    unfold State.signers
    rw [signatures]
  have petitions : (s.addMember index player).petitions = s.petitions.filter fun petition =>
      ¬(petition.owner = player ∧ petition.type = society.type) := by
    rw [joined]
    rfl
  have societies : (s.addMember index player).societies = s.societies.set index
      { society with members := society.members ++ [player] } := by rw [joined]
  generalize s.addMember index player = after at signatures signers petitions societies
  constructor
  · intro later other isOther _ petition there isType signed
    obtain rfl : society = other := Option.some.inj (found.symm.trans isOther)
    have member : after.isMember society.type player = true := by
      refine isMember_iff.mpr ⟨{ society with members := society.members ++ [player] }, ?_, rfl,
        mem_append_right _ (mem_singleton_self _)⟩
      rw [societies]
      exact List.mem_set (List.getElem?_eq_some_iff.mp found).1 _
    have still : petition ∈ after.petitions := by
      rw [petitions]
      refine mem_filter.mpr ⟨there, decide_eq_true fun own => ?_⟩
      exact (kept.lawful petition there).owner (own.1 ▸ signed)
    exact later society.type player member petition still isType (signers _ ▸ signed)
  · intro clean type other member petition there isType
    rw [petitions] at there
    have before := mem_of_mem_filter there
    rw [signers]
    rcases isMember_set societies member with old | ⟨isSociety, inside⟩
    · exact unsigned type other old petition before isType
    rcases mem_append.mp inside with was | new
    · exact unsigned type other (isMember_iff.mpr ⟨society, mem_of_getElem? found,
        isSociety, was⟩) petition before isType
    · rw [mem_singleton.mp new]
      exact clean society found lets petition before (isType.trans isSociety.symm)

theorem leave_cases (s : State) (index player : Nat) (undeletable : Bool) :
    (s.leave index player undeletable).petitions = s.petitions ∧
      (s.leave index player undeletable).signatures = s.signatures ∧
      ∀ type other, (s.leave index player undeletable).isMember type other = true →
        s.isMember type other = true := by
  unfold State.leave
  cases found : s.societies[index]? with
  | none => exact ⟨rfl, rfl, fun _ _ => id⟩
  | some society =>
    dsimp only
    split
    · split
      · exact ⟨rfl, rfl, fun _ _ => id⟩
      · refine ⟨rfl, rfl, fun type other member => ?_⟩
        obtain ⟨one, there, isOne⟩ := isMember_iff.mp member
        exact isMember_iff.mpr ⟨one, mem_of_mem_eraseIdx there, isOne⟩
    · refine ⟨rfl, rfl, fun type other member => ?_⟩
      rcases isMember_set rfl member with old | ⟨isSociety, inside⟩
      · exact old
      · exact isMember_iff.mpr ⟨society, mem_of_getElem? found, isSociety,
          mem_of_mem_erase inside⟩

theorem Kept.leave (kept : Kept w s) (unsigned : s.Unsigned) (index player : Nat)
    (undeletable : Bool) :
    Kept w (s.leave index player undeletable) ∧ (s.leave index player undeletable).Unsigned := by
  obtain ⟨petitions, signatures, members⟩ := leave_cases s index player undeletable
  have fewer : (s.leave index player undeletable).petitions.Sublist s.petitions :=
    petitions ▸ List.Sublist.refl _
  have rows : (s.leave index player undeletable).signatures.Sublist s.signatures :=
    signatures ▸ List.Sublist.refl _
  exact ⟨kept.less fewer rows, unsigned.less members fewer.subset rows⟩

structure Grown (s x : State) (society : Society) (new : List Nat) (y : State) : Prop where
  societies : y.societies = s.societies ++ [{ society with members := society.members ++ new }]
  items : y.items = x.items
  signatures : y.signatures = x.signatures
  sublist : y.petitions.Sublist x.petitions
  petitions : ∀ petition, petition ∈ y.petitions ↔
    petition ∈ x.petitions ∧ ¬(petition.type = society.type ∧ petition.owner ∈ new)

theorem isMember_append {x : State} {society : Society}
    (societies : x.societies = s.societies ++ [society]) (player : Nat) :
    x.isMember society.type player =
      (s.isMember society.type player || decide (player ∈ society.members)) := by
  unfold isMember
  rw [societies, any_append, any_cons, any_nil, Bool.or_false]
  simp

theorem addMembers_spec (s : State) (candidates : List Nat) (x : State) (society : Society)
    (types : ∀ row ∈ x.signatures, row.type = 0)
    (societies : x.societies = s.societies ++ [society]) (distinct : society.members.Nodup)
    (room : society.type = .guild ∨
      society.members.length + candidates.length ≤ society.type.value * 2) :
    ∃ new, Grown s x society new (candidates.foldl (State.addMember s.societies.length) x) ∧
      (society.members ++ new).Nodup ∧
      ∀ player, player ∈ society.members ++ new ↔ player ∈ society.members ∨
        player ∈ candidates ∧ s.isMember society.type player = false := by
  induction candidates generalizing x society with
  | nil =>
    refine ⟨[], ⟨by simpa using societies, rfl, rfl, List.Sublist.refl _, by simp⟩, by simpa,
      by simp⟩
  | cons first candidates ih =>
    have found : x.societies[s.societies.length]? = some society := by
      rw [societies, getElem?_append_right (Nat.le_refl _), Nat.sub_self]
      rfl
    have notFull : (society.type ≠ .guild &&
        society.type.value * 2 ≤ society.members.length) = false := by
      rcases room with guild | small
      · simp [guild]
      rw [length_cons] at small
      simp only [Bool.and_eq_false_iff, decide_eq_false_iff_not]
      exact .inr (by omega)
    have refuses : x.refuses society first =
        (s.isMember society.type first || decide (first ∈ society.members)) := by
      unfold State.refuses
      rw [notFull, Bool.false_or, isMember_append societies]
    rw [foldl_cons]
    rcases addMember_cases x s.societies.length first with ⟨same, refused⟩ | joins
    · -- a member already, here or elsewhere
      have already := refused society found
      rw [refuses, Bool.or_eq_true, decide_eq_true_iff] at already
      rw [same]
      obtain ⟨new, grown, nodup, members⟩ := ih x society types societies distinct
        (room.imp_right fun small => by rw [length_cons] at small; omega)
      refine ⟨new, grown, nodup, fun player => (members player).trans ⟨?_, ?_⟩⟩
      · exact Or.imp_right fun both => ⟨mem_cons_of_mem _ both.1, both.2⟩
      · rintro (inside | ⟨candidate, free⟩)
        · exact .inl inside
        · rcases mem_cons.mp candidate with rfl | later
          · exact .inl (already.resolve_left (by rw [free]; nofun))
          · exact .inr ⟨later, free⟩
    · obtain ⟨other, isOther, lets, joined⟩ := joins
      obtain rfl : society = other := Option.some.inj (found.symm.trans isOther)
      rw [refuses, Bool.or_eq_false_iff, decide_eq_false_iff_not] at lets
      have signatures := removePetitionsAndSigns_signatures types first society.type
      generalize isAfter : x.addMember s.societies.length first = after at joined
      have rows : after.signatures = x.signatures := by
        rw [joined]
        exact signatures
      have grownBy : after.societies =
          s.societies ++ [{ society with members := society.members ++ [first] }] := by
        rw [joined]
        rw [societies, set_append_right _ _ (Nat.le_refl _), Nat.sub_self]
        rfl
      have petitions : after.petitions = x.petitions.filter fun petition =>
          ¬(petition.owner = first ∧ petition.type = society.type) := by
        rw [joined]
        rfl
      obtain ⟨new, grown, nodup, members⟩ := ih after
        { society with members := society.members ++ [first] } (rows ▸ types) grownBy
        (nodup_append.mpr ⟨distinct, nodup_singleton _, fun a inside b new same =>
          lets.2 ((mem_singleton.mp new) ▸ same ▸ inside)⟩)
        (room.imp_right fun small => by
          simp only [length_cons, length_append, length_nil] at small ⊢
          omega)
      refine ⟨first :: new, ⟨?_, ?_, grown.signatures.trans rows, ?_, fun petition => ?_⟩, ?_,
        fun player => ?_⟩
      · rw [grown.societies, append_assoc]
        rfl
      · rw [grown.items, joined]
        rfl
      · exact grown.sublist.trans (petitions ▸ filter_sublist)
      · rw [grown.petitions, petitions, mem_filter, decide_eq_true_iff, mem_cons]
        tauto
      · simpa using nodup
      · have each := members player
        simp only [mem_append, mem_cons, not_mem_nil, or_false] at each ⊢
        rw [← or_assoc, each, or_assoc]
        constructor
        · rintro (inside | rfl | ⟨later, free⟩)
          · exact .inl inside
          · exact .inr ⟨.inl rfl, lets.1⟩
          · exact .inr ⟨.inr later, free⟩
        · rintro (inside | ⟨rfl | later, free⟩)
          · exact .inl inside
          · exact .inr (.inl rfl)
          · exact .inr (.inr ⟨later, free⟩)

end OpenWoW.Petitions
