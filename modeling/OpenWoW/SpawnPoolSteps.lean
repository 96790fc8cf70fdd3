import OpenWoW.SpawnPoolCounts

/-! What spawning and despawning keep, from the pools without pools up. -/
namespace OpenWoW.SpawnPools

open List

open ActivePoolData

variable {config : Config} {s after : ActivePoolData} {kind : Kind} {guid pool : Nat}

/-- A pool is another one or below it. -/
def Under (config : Config) (lower upper : Nat) : Prop :=
  Relation.ReflTransGen (fun child mother => config.mother child = some mother) lower upper

theorem Under.rank_le {lower upper : Nat} (under : Under config lower upper) :
    config.rank lower ≤ config.rank upper := by
  induction under with
  | refl => exact Nat.le_refl _
  | tail _ last ih =>
    exact Nat.le_trans ih (Nat.le_of_lt (config.rank_lt ((config.mother_iff _ _).mpr last)))

section
variable (member : guid ∈ (config.group .pool pool).members)
include member

theorem not_under_child :
    ¬Under config pool guid := fun under =>
  absurd under.rank_le (Nat.not_le.mpr (config.rank_lt member))

theorem under_of_member {lower : Nat}
    (under : Under config lower guid) : Under config lower pool :=
  under.tail (config.mother_of_member member)

theorem not_under_sibling {sibling : Nat}
    (also : sibling ∈ (config.group .pool pool).members) (different : sibling ≠ guid) :
    ¬Under config sibling guid := by
  intro under
  cases under.cases_head with
  | inl same => exact different same
  | inr up =>
    obtain ⟨mother, isMother, above⟩ := up
    have same : mother = pool :=
      Option.some.inj (isMother.symm.trans (config.mother_of_member also))
    exact not_under_child member (same ▸ above)

end

/-- Only the pools below one are touched. -/
def Confined (config : Config) (pool : Nat) (s after : ActivePoolData) : Prop :=
  ∀ other, ¬Under config other pool → after.spawnedPools other = s.spawnedPools other

/-- No pool without quests below this one has more than it may. -/
def Fits (config : Config) (pool : Nat) (s : ActivePoolData) : Prop :=
  ∀ other, Under config other pool → config.hasQuests other = false →
    s.activeObjectCount other ≤ config.maxLimit other

theorem Confined.refl (pool : Nat) (s : ActivePoolData) : Confined config pool s s :=
  fun _ _ => rfl

theorem Confined.trans {middle : ActivePoolData} (first : Confined config pool s middle)
    (second : Confined config pool middle after) : Confined config pool s after :=
  fun other outside => (second other outside).trans (first other outside)

theorem Confined.of_member (member : guid ∈ (config.group .pool pool).members)
    (confined : Confined config guid s after) : Confined config pool s after :=
  fun other outside => confined other fun under => outside (under_of_member member under)

structure Despawned (config : Config) (pool : Nat) (s after : ActivePoolData) : Prop where
  exact_ : Exact config after
  confined : Confined config pool s after
  fewer : ∀ other, config.hasQuests other = false →
    after.activeObjectCount other ≤ s.activeObjectCount other
  shrinks : ∀ kind place object, object ∈ (config.group kind place).members →
    after.isActiveObject kind object = true → s.isActiveObject kind object = true
  present : (s.spawnedPools pool).isSome → (after.spawnedPools pool).isSome

theorem Despawned.refl (exact_ : Exact config s) : Despawned config pool s s :=
  ⟨exact_, .refl pool s, fun _ _ => Nat.le_refl _, fun _ _ _ _ => id, id⟩

theorem Despawned.trans {middle : ActivePoolData} (first : Despawned config pool s middle)
    (second : Despawned config pool middle after) : Despawned config pool s after :=
  ⟨second.exact_, first.confined.trans second.confined,
    fun other plain => Nat.le_trans (second.fewer other plain) (first.fewer other plain),
    fun kind place object there => first.shrinks kind place object there ∘
      second.shrinks kind place object there, second.present ∘ first.present⟩

theorem Despawned.still_open (despawned : Despawned config pool s after) (isOpen : Open config s pool) :
    Open config after pool :=
  isOpen.imp_right despawned.present

def Despawns (config : Config) (despawn : ActivePoolData → Nat → ActivePoolData) (pool : Nat) :
    Prop :=
  ∀ s, Exact config s → Open config s pool →
    Despawned config pool s (despawn s pool) ∧ activeMembers config (despawn s pool) pool = 0

section

variable {despawnChild : ActivePoolData → Nat → ActivePoolData}

/-- What is below a member is despawned; the members of its kind and the pool's count stay. -/
structure Emptied (config : Config) (kind : Kind) (pool guid : Nat) (s middle : ActivePoolData) :
    Prop where
  exact_ : Exact config middle
  confined : Confined config pool s middle
  fewer : ∀ other, config.hasQuests other = false →
    middle.activeObjectCount other ≤ s.activeObjectCount other
  shrinks : ∀ other place object, object ∈ (config.group other place).members →
    middle.isActiveObject other object = true → s.isActiveObject other object = true
  siblings : ∀ sibling ∈ (config.group kind pool).members,
    middle.isActiveObject kind sibling = s.isActiveObject kind sibling
  same : middle.spawnedPools pool = s.spawnedPools pool
  empty : kind = .pool → activeMembers config middle guid = 0

section
variable (exact_ : Exact config s)
  (children : ∀ child ∈ (config.group .pool pool).members, Despawns config despawnChild child)
  (member : guid ∈ (config.group kind pool).members) (active : s.isActiveObject kind guid = true)
include exact_ children member active

theorem oneObject_emptied :
    Emptied config kind pool guid s (oneObject despawnChild kind s guid) := by
  cases kind with
  | creature =>
    exact ⟨exact_, .refl pool s, fun _ _ => Nat.le_refl _, fun _ _ _ _ => id, fun _ _ => rfl, rfl,
      nofun⟩
  | gameObject =>
    exact ⟨exact_, .refl pool s, fun _ _ => Nat.le_refl _, fun _ _ _ _ => id, fun _ _ => rfl, rfl,
      nofun⟩
  | pool =>
    obtain ⟨despawned, empty⟩ := children guid member s exact_ (.inr active)
    refine ⟨despawned.exact_, despawned.confined.of_member member, despawned.fewer,
      despawned.shrinks, fun sibling also => ?_, despawned.confined pool (not_under_child member),
      fun _ => empty⟩
    change ((despawnChild s guid).spawnedPools sibling).isSome = (s.spawnedPools sibling).isSome
    by_cases same : sibling = guid
    · subst same
      have before : (s.spawnedPools sibling).isSome = true := active
      rw [before]
      exact despawned.present before
    · rw [despawned.confined sibling (not_under_sibling member also same)]

/-- One member is despawned, and its siblings stay as they are. -/
theorem despawnOne_spec :
    Despawned config pool s (despawnOne despawnChild kind pool s guid) ∧
      (∀ sibling ∈ (config.group kind pool).members,
        (despawnOne despawnChild kind pool s guid).isActiveObject kind sibling =
          if sibling = guid then false else s.isActiveObject kind sibling) ∧
      (despawnOne despawnChild kind pool s guid).activeObjectCount pool =
        s.activeObjectCount pool - 1 := by
  have apart := config.member_apart member
  have emptied := oneObject_emptied exact_ children member active
  unfold despawnOne
  generalize oneObject despawnChild kind s guid = middle at emptied
  have still : middle.isActiveObject kind guid = true := (emptied.siblings guid member).trans active
  obtain ⟨keeps, _⟩ := emptied.exact_.remove member still emptied.empty
  have only := removeObject_only (s := middle) member (emptied.exact_.open_of_active member still)
  have here : (middle.removeObject kind guid pool).spawnedPools pool =
      some (middle.activeObjectCount pool - 1) := by
    rw [removeObject_spawnedPools pool apart, if_pos rfl]
  have count : middle.activeObjectCount pool = s.activeObjectCount pool :=
    congrArg (·.getD 0) emptied.same
  refine ⟨⟨keeps, fun other outside => ?_, fun other plain => ?_, fun other place object there => ?_,
    fun _ => by rw [here]; rfl⟩, fun sibling also => ?_, ?_⟩
  · have different : other ≠ pool := fun same => outside (same ▸ .refl)
    rw [removeObject_spawnedPools other apart, if_neg different, if_neg]
    · exact emptied.confined other outside
    · rintro ⟨rfl, rfl⟩
      exact outside (under_of_member member .refl)
  · refine Nat.le_trans ?_ (emptied.fewer other plain)
    unfold activeObjectCount
    rw [removeObject_spawnedPools other apart]
    split
    · rename_i same
      rw [same]
      exact Nat.sub_le _ _
    split
    · exact Nat.zero_le _
    · exact Nat.le_refl _
  · rw [only other place object there]
    split
    · nofun
    · exact emptied.shrinks other place object there
  · rw [only kind pool sibling also, emptied.siblings sibling also]
    simp only [true_and]
  · rw [← count]
    unfold activeObjectCount
    rw [here]
    rfl

end

/-- The walk through some members that takes the active ones among those that are meant. -/
def despawnWalk (despawnChild : ActivePoolData → Nat → ActivePoolData) (kind : Kind)
    (pool guid : Nat) (objects : List Nat) (s : ActivePoolData) : ActivePoolData :=
  objects.foldl
    (fun s object =>
      if s.isActiveObject kind object ∧ (guid = 0 ∨ object = guid) then
        despawnOne despawnChild kind pool s object
      else s) s

theorem despawnWalk_all (exact_ : Exact config s)
    (children : ∀ child ∈ (config.group .pool pool).members, Despawns config despawnChild child)
    {objects : List Nat} (members : objects ⊆ (config.group kind pool).members) :
    Despawned config pool s (despawnWalk despawnChild kind pool 0 objects s) ∧
      ∀ object ∈ objects,
        (despawnWalk despawnChild kind pool 0 objects s).isActiveObject kind object = false := by
  induction objects generalizing s with
  | nil => exact ⟨.refl exact_, fun _ none => by cases none⟩
  | cons first objects ih =>
    have here := members mem_cons_self
    have rest : objects ⊆ (config.group kind pool).members := fun _ there =>
      members (mem_cons_of_mem _ there)
    by_cases active : s.isActiveObject kind first = true
    · obtain ⟨despawned, siblings, _⟩ := despawnOne_spec exact_ children here active
      obtain ⟨later, gone⟩ := ih despawned.exact_ rest
      have walk : despawnWalk despawnChild kind pool 0 (first :: objects) s =
          despawnWalk despawnChild kind pool 0 objects
            (despawnOne despawnChild kind pool s first) :=
        congrArg (despawnWalk despawnChild kind pool 0 objects) (if_pos ⟨active, .inl rfl⟩)
      rw [walk]
      refine ⟨despawned.trans later, fun object there => ?_⟩
      rcases mem_cons.mp there with rfl | inside
      · have off := siblings object here
        rw [if_pos rfl] at off
        cases on : (despawnWalk despawnChild kind pool 0 objects
            (despawnOne despawnChild kind pool s object)).isActiveObject kind object with
        | false => rfl
        | true =>
          exact absurd (later.shrinks kind pool object here on)
            (by rw [off]; exact Bool.false_ne_true)
      · exact gone object inside
    · obtain ⟨later, gone⟩ := ih exact_ rest
      have walk : despawnWalk despawnChild kind pool 0 (first :: objects) s =
          despawnWalk despawnChild kind pool 0 objects s :=
        congrArg (despawnWalk despawnChild kind pool 0 objects) (if_neg fun both => active both.1)
      rw [walk]
      refine ⟨later, fun object there => ?_⟩
      rcases mem_cons.mp there with rfl | inside
      · cases on : (despawnWalk despawnChild kind pool 0 objects s).isActiveObject kind object with
        | false => rfl
        | true => exact absurd (later.shrinks kind pool object here on) active
      · exact gone object inside

theorem despawnWalk_away (despawnChild : ActivePoolData → Nat → ActivePoolData) (kind : Kind)
    (pool : Nat) (s : ActivePoolData) (positive : guid ≠ 0) {objects : List Nat}
    (away : guid ∉ objects) : despawnWalk despawnChild kind pool guid objects s = s := by
  induction objects with
  | nil => rfl
  | cons first objects ih =>
    have different : first ≠ guid := fun same => away (same ▸ mem_cons_self)
    have walk : despawnWalk despawnChild kind pool guid (first :: objects) s =
        despawnWalk despawnChild kind pool guid objects s :=
      congrArg (despawnWalk despawnChild kind pool guid objects)
        (if_neg fun both => both.2.elim positive different)
    rw [walk]
    exact ih fun there => away (mem_cons_of_mem _ there)

theorem despawnObject_one (member : guid ∈ (config.group kind pool).members)
    (positive : guid ≠ 0) (active : s.isActiveObject kind guid = true) :
    despawnObject config despawnChild kind pool guid s =
      despawnOne despawnChild kind pool s guid := by
  change despawnWalk despawnChild kind pool guid (config.group kind pool).members s = _
  have distinct := config.distinct kind pool
  obtain ⟨before, later, whole⟩ := append_of_mem member
  rw [whole] at distinct ⊢
  have outside := (nodup_cons.mp (nodup_middle.mp distinct)).1
  have first := despawnWalk_away despawnChild kind pool s positive fun there =>
    outside (mem_append_left later there)
  have walk : despawnWalk despawnChild kind pool guid (before ++ guid :: later) s =
      despawnWalk despawnChild kind pool guid later
        (despawnOne despawnChild kind pool (despawnWalk despawnChild kind pool guid before s)
          guid) := by
    unfold despawnWalk at first ⊢
    rw [foldl_append, foldl_cons, first, if_pos ⟨active, .inr rfl⟩]
  rw [walk, first]
  exact despawnWalk_away _ _ _ _ positive fun there => outside (mem_append_right before there)

theorem despawnKind_spec (kind : Kind) (exact_ : Exact config s)
    (children : ∀ child ∈ (config.group .pool pool).members, Despawns config despawnChild child) :
    Despawned config pool s (despawnKind config despawnChild kind pool s) ∧
      ∀ object ∈ (config.group kind pool).members,
        (despawnKind config despawnChild kind pool s).isActiveObject kind object = false := by
  unfold despawnKind
  split
  · rename_i empty
    rw [empty]
    exact ⟨.refl exact_, fun _ none => by cases none⟩
  · exact despawnWalk_all exact_ children (List.Subset.refl _)

end

end OpenWoW.SpawnPools
