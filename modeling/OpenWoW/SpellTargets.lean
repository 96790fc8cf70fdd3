import OpenWoW.SpellSearch

/-! When narrowing the types of a search by the conditions of a spell hides none of its targets. -/
namespace OpenWoW.Spells

open List Option

open Conditions

variable {ι : Type} {w : World ι} {references : References}

section

variable [DecidableEq ι]

/-- An object that meets the conditions is of a type that the mask lets through. -/
def TypeSound (w : World ι) (references : References) (depth : Nat) (conditions : List Condition)
    (o caster : ι) : Prop :=
  ∃ met mask,
    w.isObjectMeetToConditions references (.of (some o) (some caster)) depth conditions = some met ∧
    getSearcherTypeMaskForConditionList references depth conditions = some mask ∧
    (met = true → (w.objectType o).within mask = true)

/-- In each else group that the object meets with the caster, the conditions asked of the caster admit
the object's own type, unless the list is open to the type in another way. -/
def Clean (w : World ι) (references : References) (depth : Nat) (conditions : List Condition)
    (o caster : ι) : Prop :=
  ∀ first ∈ conditions,
    w.GroupMet references (.of (some o) (some caster)) depth conditions first →
    (∀ cond ∈ conditions, cond.elseGroup = first.elseGroup → cond.referenceId = 0 →
      cond.conditionTarget = 1 → cond.admits (w.objectType o) = true) ∨
    Open references (w.objectType o) (depth + 1) conditions

theorem open_of_met {depth : Nat} {conditions : List Condition} {o caster : ι} {first : Condition}
    (loaded : Loaded w references .spellImplicitTarget (depth + 1) conditions)
    (here : first ∈ conditions)
    (met : w.GroupMet references (.of (some o) (some caster)) depth conditions first)
    (plain : ∀ cond ∈ conditions, cond.elseGroup = first.elseGroup → cond.referenceId = 0 →
      cond.conditionTarget = 1 → cond.admits (w.objectType o) = true) :
    Open references (w.objectType o) (depth + 1) conditions := by
  refine Or.inr ⟨first, here, fun cond there same => ?_⟩
  have member := loaded cond there
  have passed := met cond there same
  unfold World.MemberMet at passed
  by_cases reference : cond.referenceId ≠ 0
  · rw [if_pos reference] at member passed ⊢
    obtain ⟨ref, found, below⟩ := member
    obtain ⟨ref', found', meets⟩ := passed
    obtain rfl := some.inj (found.symm.trans found')
    have target : ConditionSourceInfo.of (some o) (some caster) 0 = some o := rfl
    exact ⟨ref, found, templates_open target below meets⟩
  · rw [if_neg reference] at member passed ⊢
    have own := accepted_target member.2
    have few := getMaxAvailableConditionTargets_le cond
    rcases Nat.lt_or_ge cond.conditionTarget 1 with zero | one
    · exact meets_admits (by rw [Nat.lt_one_iff.mp zero]; rfl) passed
    · exact plain cond there same (not_not.mp reference) (by omega)

theorem typeSound_iff {depth : Nat} {conditions : List Condition}
    (loaded : Loaded w references .spellImplicitTarget (depth + 1) conditions) (o caster : ι) :
    TypeSound w references (depth + 1) conditions o caster ↔
      Clean w references depth conditions o caster := by
  obtain ⟨mask, computed, types⟩ := list_mask loaded
  obtain ⟨met, verdict, meaning⟩ := list_meets (.of (some o) (some caster)) loaded
  unfold TypeSound World.isObjectMeetToConditions
  rw [computed, verdict]
  cases empty : conditions.isEmpty with
  | true =>
    rw [List.isEmpty_iff] at empty
    refine iff_of_true ⟨true, mask, rfl, rfl, fun _ => (types _).mpr (Or.inl empty)⟩ ?_
    intro first here
    rw [empty] at here
    cases here
  | false =>
    constructor
    · intro ⟨_, _, same, same', sound⟩ first here group
      obtain rfl := some.inj same
      obtain rfl := some.inj same'
      exact Or.inr ((types _).mp (sound (meaning.mpr ⟨first, here, group⟩)))
    · intro clean
      refine ⟨met, mask, rfl, rfl, fun held => (types _).mpr ?_⟩
      obtain ⟨first, here, group⟩ := meaning.mp held
      rcases clean first here group with plain | otherwise
      · exact open_of_met loaded here group plain
      · exact otherwise

end

variable {t : ObjectType}

theorem rare_isType (rare : t = .dynamicObject ∨ t = .areaTrigger)
    {value : UInt32} (only : value &&& ~~~(0xB8 : UInt32) = 0) :
    t.isType value.toUInt16 = false := by
  have outside : (0xB8 : UInt32) &&& t.objectType.toUInt32 = 0 := by
    rcases rare with rfl | rfl <;> decide
  unfold ObjectType.isType
  rw [narrowed_and, and_allowed only, outside, UInt32.and_zero]
  rfl

theorem admits_everyone {cond : Condition} (valid : w.isConditionTypeValid cond = true)
    (rare : t = .dynamicObject ∨ t = .areaTrigger)
    (admitted : cond.admits t = true) (other : ObjectType) : cond.admits other = true := by
  unfold Condition.admits at admitted ⊢
  cases negated : cond.negativeCondition with
  | true => rfl
  | false =>
    rw [negated] at admitted
    rw [Bool.false_or] at admitted ⊢
    cases kind : cond.conditionType
    case objectEntry =>
      rw [kind] at admitted
      have accepted := objectEntry_accepted valid kind
      rw [← beq_iff_eq.mp admitted] at accepted
      exfalso
      rcases rare with rfl | rfl <;> revert accepted <;> decide
    case typeMask =>
      rw [kind] at admitted
      exact absurd ((rare_isType rare (typeMask_accepted valid kind)).symm.trans admitted)
        Bool.false_ne_true
    case unused24 =>
      rw [kind] at admitted
      cases admitted
    all_goals first
      | rfl
      | (rw [kind] at admitted; rcases rare with rfl | rfl <;> cases admitted)

variable {conditions : List Condition}

theorem open_everyone (rare : t = .dynamicObject ∨ t = .areaTrigger)
    (other : ObjectType) {depth : Nat} {sourceType : ConditionSourceType}
    (loaded : Loaded w references sourceType depth conditions)
    (openTo : Open references t depth conditions) : Open references other depth conditions := by
  induction depth generalizing sourceType conditions with
  | zero => exact absurd loaded id
  | succ depth ih =>
    rcases openTo with empty | ⟨first, here, group⟩
    · exact Or.inl empty
    refine Or.inr ⟨first, here, fun cond there same => ?_⟩
    have member := loaded cond there
    have passed := group cond there same
    by_cases reference : cond.referenceId ≠ 0
    · rw [if_pos reference] at member passed ⊢
      obtain ⟨ref, found, below⟩ := member
      obtain ⟨ref', found', inner⟩ := passed
      obtain rfl := some.inj (found.symm.trans found')
      exact ⟨ref, found, ih below inner⟩
    · rw [if_neg reference] at member passed ⊢
      exact admits_everyone member.2 rare passed other

theorem typeMask_everyone {spellInfo : SpellInfo} {objType : SpellTargetObjectType}
    (rare : t = .dynamicObject ∨ t = .areaTrigger)
    (within : t.within (spellInfo.typeMask objType) = true) :
    ObjectType.unit.within (spellInfo.typeMask objType) = true := by
  unfold SpellInfo.typeMask at *
  simp only at *
  generalize (spellInfo.attributesEx2 &&& spellAttr2CanTargetDead == 0) = living at *
  generalize (spellInfo.attributesEx3 &&& spellAttr3OnlyTargetPlayers != 0) = players at *
  generalize (spellInfo.attributesEx3 &&& spellAttr3OnlyTargetGhosts != 0) = ghosts at *
  revert within
  rcases rare with rfl | rfl <;> cases objType <;> cases living <;> cases players <;>
    cases ghosts <;> decide

theorem mem_visit {mask : UInt32} {accepts : ι → Option Bool} {objects found : List ι}
    (visited : visit w mask accepts objects = some found) (o : ι) :
    o ∈ found ↔ o ∈ objects ∧ (w.objectType o).within mask = true ∧ accepts o = some true := by
  induction objects generalizing found with
  | nil =>
    obtain rfl := some.inj visited
    simp
  | cons object rest ih =>
    unfold visit at visited
    split at visited
    · rename_i within
      obtain ⟨verdict, asked, later⟩ := bind_eq_some_iff.mp visited
      obtain ⟨more, visited', rfl⟩ := map_eq_some_iff.mp later
      cases verdict with
      | true =>
        rw [if_pos rfl, mem_cons, ih visited', mem_cons]
        by_cases same : o = object
        · subst same
          simp [within, asked]
        · simp [same]
      | false =>
        rw [if_neg Bool.false_ne_true, ih visited', mem_cons]
        by_cases same : o = object
        · subst same
          simp [asked]
        · simp [same]
    · rename_i outside
      rw [ih visited, mem_cons]
      by_cases same : o = object
      · subst same
        simp [outside]
      · simp [same]

theorem visit_total {mask : UInt32} {accepts : ι → Option Bool}
    (total : ∀ o, (accepts o).isSome) (objects : List ι) :
    (visit w mask accepts objects).isSome := by
  induction objects with
  | nil => rfl
  | cons object rest ih =>
    obtain ⟨verdict, asked⟩ := isSome_iff_exists.mp (total object)
    obtain ⟨more, visited⟩ := isSome_iff_exists.mp ih
    unfold visit
    split
    · rw [asked, visited]
      rfl
    · exact ih

variable [DecidableEq ι] (search : AreaSearch w)

/-- The search with a mask comes to the containers that an object stands in. -/
def Visits (mask : UInt32) (o : ι) : Prop :=
  (o ∈ search.worldObjects ∧ mask &&&
    (gridMapTypeMaskCreature ||| gridMapTypeMaskPlayer ||| gridMapTypeMaskCorpse) ≠ 0) ∨
  (o ∈ search.gridObjects ∧ mask &&& (gridMapTypeMaskCreature ||| gridMapTypeMaskGameObject) ≠ 0)

variable {depth : Nat}

theorem mem_searchTargets (mask : UInt32)
    (total : ∀ o, (search.check.accepts w references depth o).isSome) :
    ∃ found, search.searchTargets references depth mask = some found ∧
      ∀ o, o ∈ found ↔ Visits search mask o ∧ (w.objectType o).within mask = true ∧
        search.check.accepts w references depth o = some true := by
  have part : ∀ (flag : UInt32) (objects : List ι), ∃ found,
      (if flag != 0 then visit w mask (search.check.accepts w references depth) objects
        else some []) = some found ∧
      ∀ o, o ∈ found ↔ (o ∈ objects ∧ flag ≠ 0) ∧ (w.objectType o).within mask = true ∧
        search.check.accepts w references depth o = some true := by
    intro flag objects
    by_cases clear : flag = 0
    · subst clear
      exact ⟨[], rfl, fun o => by simp⟩
    obtain ⟨found, visited⟩ := isSome_iff_exists.mp (@visit_total ι w mask _ total objects)
    refine ⟨found, ?_, fun o => ?_⟩
    · rw [if_pos (bne_iff_ne.mpr clear), visited]
    · rw [mem_visit visited]
      simp [clear]
  obtain ⟨world, inWorld, worldMem⟩ := part (mask &&&
    (gridMapTypeMaskCreature ||| gridMapTypeMaskPlayer ||| gridMapTypeMaskCorpse))
    search.worldObjects
  obtain ⟨grid, inGrid, gridMem⟩ := part (mask &&&
    (gridMapTypeMaskCreature ||| gridMapTypeMaskGameObject)) search.gridObjects
  refine ⟨world ++ grid, ?_, fun o => ?_⟩
  · unfold AreaSearch.searchTargets
    simp only
    rw [inWorld, inGrid]
    rfl
  · rw [mem_append, worldMem, gridMem]
    unfold Visits
    tauto

theorem mem_searchAreaTargets {depth : Nat} {condList : Option (List Condition)} {mask : UInt32}
    (computed : getSearcherTypeMask references depth search.spellInfo search.objectType condList =
      some mask)
    (total : ∀ o, (search.check.accepts w references depth o).isSome) :
    ∃ found, search.searchAreaTargets references depth condList = some found ∧
      ∀ o, o ∈ found ↔ Visits search mask o ∧ (w.objectType o).within mask = true ∧
        search.check.accepts w references depth o = some true := by
  unfold AreaSearch.searchAreaTargets
  rw [computed]
  by_cases nothing : mask = 0
  · subst nothing
    refine ⟨[], rfl, fun o => ?_⟩
    rw [ObjectType.within_zero]
    simp
  obtain ⟨found, searched, mem⟩ := mem_searchTargets search mask total
  refine ⟨found, ?_, mem⟩
  rw [bind_some, if_neg nothing, searched]

theorem flag_of_within {mask bits : UInt32}
    (inside : bits &&& t.gridMapTypeMask = t.gridMapTypeMask) (within : t.within mask = true) :
    mask &&& bits ≠ 0 := by
  intro clear
  unfold ObjectType.within at within
  rw [bne_iff_ne] at within
  apply within
  rw [← inside, ← UInt32.and_assoc, clear, UInt32.zero_and]

theorem visits_of_within {mask before : UInt32} {o : ι}
    (visited : Visits search before o)
    (accepted : search.check.accepts w references depth o = some true)
    (within : (w.objectType o).within mask = true)
    (rare : w.objectType o = .dynamicObject ∨ w.objectType o = .areaTrigger →
      ObjectType.unit.within mask = true) : Visits search mask o := by
  rcases visited with ⟨world, _⟩ | ⟨grid, _⟩
  · refine Or.inl ⟨world, ?_⟩
    rcases search.worldTypes o world with type | type | type | type
    · exact flag_of_within (by rw [type]; decide) within
    · exact flag_of_within (by rw [type]; decide) within
    · exact flag_of_within (by rw [type]; decide) within
    · exact flag_of_within (by decide) (rare (Or.inl type))
  · refine Or.inr ⟨grid, ?_⟩
    rcases search.gridTypes o grid with type | type | type | type | type
    · exact flag_of_within (by rw [type]; decide) within
    · exact flag_of_within (by rw [type]; decide) within
    · exact flag_of_within (by decide) (rare (Or.inl type))
    · -- bones have no owner to stand for
      exfalso
      have unowned := search.bones o grid type
      unfold TargetCheck.accepts TargetCheck.suits at accepted
      rw [if_pos type, unowned] at accepted
      simp at accepted
    · exact flag_of_within (by decide) (rare (Or.inr type))

/-- The narrowed search finds all that the search with the same checks finds among all the types that
the spell looks for. -/
def SearchSound (references : References) (depth : Nat) (search : AreaSearch w) : Prop :=
  ∃ all found, search.searchAreaTargets references depth none = some all ∧
    search.searchAreaTargets references depth search.check.condList = some found ∧
    ∀ o ∈ all, o ∈ found

theorem met_of_accepted {o : ι} (given : search.check.condList = some conditions)
    (accepted : search.check.accepts w references depth o = some true) :
    w.isObjectMeetToConditions references (.of (some o) (some search.check.caster)) depth
      conditions = some true := by
  unfold TargetCheck.accepts at accepted
  rw [given] at accepted
  split at accepted
  · cases accepted
  · exact accepted

theorem accepts_total (loaded : Loaded w references .spellImplicitTarget depth conditions)
    (given : search.check.condList = some conditions) (o : ι) :
    (search.check.accepts w references depth o).isSome := by
  unfold TargetCheck.accepts World.isObjectMeetToConditions
  rw [given]
  simp only
  split
  · rfl
  split
  · rfl
  · exact list_total _ loaded

theorem searchSound_iff (loaded : Loaded w references .spellImplicitTarget (depth + 1) conditions)
    (given : search.check.condList = some conditions) :
    SearchSound references (depth + 1) search ↔
      ∀ all, search.searchAreaTargets references (depth + 1) none = some all →
        ∀ o ∈ all, Clean w references depth conditions o search.check.caster := by
  obtain ⟨mask, computed, types⟩ := list_mask loaded
  have total := accepts_total search loaded given
  obtain ⟨all, searched, allMem⟩ := @mem_searchAreaTargets ι w references _ search (depth + 1) none
    _ rfl total
  obtain ⟨found, narrowed, foundMem⟩ := @mem_searchAreaTargets ι w references _ search (depth + 1)
    (some conditions) (search.spellInfo.typeMask search.objectType &&& mask)
    (by unfold getSearcherTypeMask; simp only; rw [computed]; rfl) total
  have each : ∀ o ∈ all, (o ∈ found ↔ Clean w references depth conditions o search.check.caster) := by
    intro o inAll
    obtain ⟨visited, within, accepted⟩ := (allMem o).mp inAll
    have met := met_of_accepted search given accepted
    rw [← typeSound_iff loaded, foundMem, ObjectType.within_and, within, Bool.true_and]
    constructor
    · intro ⟨_, inside, _⟩
      exact ⟨true, mask, met, computed, fun _ => inside⟩
    · intro ⟨_, _, met', computed', sound⟩
      obtain rfl := some.inj (met.symm.trans met')
      obtain rfl := some.inj (computed.symm.trans computed')
      have inside := sound rfl
      refine ⟨visits_of_within search visited accepted ?_ fun rare => ?_, inside, accepted⟩
      · rw [ObjectType.within_and, within, inside]
        rfl
      · rw [ObjectType.within_and, typeMask_everyone rare within, Bool.true_and, types]
        exact open_everyone rare _ loaded ((types _).mp inside)
  unfold SearchSound
  rw [searched, given, narrowed]
  constructor
  · intro ⟨_, _, same, same', kept⟩ _ same'' o inAll
    obtain rfl := some.inj same
    obtain rfl := some.inj same'
    obtain rfl := some.inj same''
    exact (each o inAll).mp (kept o inAll)
  · intro clean
    exact ⟨all, found, rfl, rfl, fun o inAll => (each o inAll).mpr (clean all rfl o inAll)⟩

/-- Narrowing by the types hides an object that meets the conditions, or a target of the search, exactly
when some group that it meets has a condition on the caster that its own type cannot meet, and the list
is not open to its type in another way. -/
theorem hides_nothing_iff {depth : Nat} {conditions : List Condition}
    (loaded : Loaded w references .spellImplicitTarget (depth + 1) conditions) :
    (∀ o caster, TypeSound w references (depth + 1) conditions o caster ↔
      Clean w references depth conditions o caster) ∧
    ∀ search : AreaSearch w, search.check.condList = some conditions →
      (SearchSound references (depth + 1) search ↔
        ∀ all, search.searchAreaTargets references (depth + 1) none = some all →
          ∀ o ∈ all, Clean w references depth conditions o search.check.caster) :=
  ⟨typeSound_iff loaded, fun search given => searchSound_iff search loaded given⟩

/-- The caster is the player. -/
def besideCreature : World Bool where
  objectType := fun caster => if caster then .player else .unit
  entry := fun _ => 0
  zoneId := fun _ => 0
  areaId := fun _ => 0
  mapId := fun _ => 0
  phaseMask := fun _ => 1
  spawnMode := fun _ => 0
  instanceScript := fun _ => none
  distance := fun _ _ => 0
  closestCreature := fun _ _ _ => none
  closestGameObject := fun _ _ _ => none
  hasAuraEffect := fun _ _ _ => false
  unitClass := fun _ => 1
  unitRace := fun _ => 1
  level := fun _ => 1
  isAlive := fun _ => true
  health := fun _ => 1
  healthPct := fun _ => 100
  unitState := fun _ => 0
  guid := fun caster => if caster then 1 else 2
  ownerGUID := fun _ => 0
  creatorGUID := fun _ => 0
  isInPartyWith := fun _ _ => false
  isInRaidWith := fun _ _ => false
  isOnVehicle := fun _ _ => false
  reactionTo := fun _ _ => 4
  hasItemCount := fun _ _ _ _ => false
  hasItemOrGemWithIdEquipped := fun _ _ => false
  reputationRank := fun _ _ => 0
  hasAchieved := fun _ _ => false
  team := fun _ => alliance
  gender := fun _ => 0
  hasSkill := fun _ _ => false
  baseSkillValue := fun _ _ => 0
  questRewardStatus := fun _ _ => false
  questStatus := fun _ _ => .none_
  hasSpell := fun _ _ => false
  drunkenState := fun _ => 0
  hasTitle := fun _ _ => false
  isActiveEvent := fun _ => false
  worldState := fun _ => 0
  onConditionCheck := fun _ _ => true
  float := fun n => n.toNat
  spellInfo := fun _ => false
  itemTemplate := fun _ => false
  areaEntry := fun _ => none
  faction := fun _ => false
  skillLine := fun _ => false
  configMaxSkillValue := 0
  questTemplate := fun _ => false
  gameEvent := fun _ => false
  achievementEntry := fun _ => false
  mapEntry := fun _ => false
  creatureTemplate := fun _ => false
  gameObjectTemplate := fun _ => false
  titleEntry := fun _ => false

/-- An alliance player, as the target or as the caster. -/
def ofTeam (conditionTarget : Nat) : Condition where
  sourceType := .spellImplicitTarget
  elseGroup := 0
  conditionType := .team
  conditionValue1 := alliance
  conditionValue2 := 0
  conditionValue3 := 0
  referenceId := 0
  scriptId := 0
  conditionTarget := conditionTarget
  negativeCondition := false

theorem ofTeam_loaded {conditionTarget : Nat} (known : conditionTarget = 0 ∨ conditionTarget = 1) :
    Loaded besideCreature (fun _ => none) .spellImplicitTarget 1 [ofTeam conditionTarget] := by
  intro cond here
  rw [mem_singleton.mp here]
  rcases known with rfl | rfl
  · exact ⟨rfl, by decide⟩
  · exact ⟨rfl, by decide⟩

/-- No creature is hidden from a search for the targets of the alliance. -/
theorem hides_nothing_team : TypeSound besideCreature (fun _ => none) 1 [ofTeam 0] false true := by
  refine ((hides_nothing_iff (ofTeam_loaded (Or.inl rfl))).1 false true).mpr ?_
  intro first here met
  left
  intro cond there _ _ asked
  rw [mem_singleton.mp there] at asked
  cases asked

/-- A creature is hidden from a search for all targets of a caster of the alliance. -/
theorem hides_creature :
    ¬ ∀ (ι : Type) [DecidableEq ι] (w : World ι) (references : References) (depth : Nat)
      (conditions : List Condition), Loaded w references .spellImplicitTarget depth conditions →
      ∀ o caster, TypeSound w references depth conditions o caster := by
  intro all
  obtain ⟨met, mask, verdict, computed, sound⟩ := all Bool besideCreature (fun _ => none) 1
    [ofTeam 1] (ofTeam_loaded (Or.inr rfl)) false true
  obtain rfl := some.inj ((by rfl : _ = some true).symm.trans verdict)
  obtain rfl := some.inj ((by rfl : _ = some gridMapTypeMaskPlayer).symm.trans computed)
  exact absurd (sound rfl) (by decide)

end OpenWoW.Spells
