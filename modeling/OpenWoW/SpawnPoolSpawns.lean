import OpenWoW.SpawnPoolSteps

/-! Whole calls that spawn or despawn a pool. -/
namespace OpenWoW.SpawnPools

open List

open ActivePoolData

variable {config : Config} {s after : ActivePoolData} {kind : Kind} {guid pool : Nat}
  {spawnChild despawnChild : ActivePoolData → Nat → ActivePoolData}

section
variable (exact_ : Exact config s) (isOpen : Open config s pool)
include exact_ isOpen

theorem Despawned.quests
    (quests : config.hasQuests pool = true) (count : Nat) (active : Nat → Bool) :
    Despawned config pool s { s.setCount pool count with activeQuests := active } := by
  refine ⟨(exact_.setCount quests isOpen count).activeQuests active, fun other outside => ?_,
    fun other plain => ?_, fun other place object there => ?_, fun _ => ?_⟩
  · exact (setCount_spawnedPools count other).trans
      (if_neg fun same : other = pool => outside (same ▸ .refl))
  · have different : other ≠ pool := by
      rintro rfl
      rw [quests] at plain
      cases plain
    change ((s.setCount pool count).spawnedPools other).getD 0 ≤ (s.spawnedPools other).getD 0
    rw [setCount_spawnedPools, if_neg different]
  · cases other with
    | creature => exact id
    | gameObject => exact id
    | pool =>
      change ((s.setCount pool count).spawnedPools object).isSome = true →
        (s.spawnedPools object).isSome = true
      rw [setCount_spawnedPools]
      split
      · rename_i same
        subst same
        have child := config.mother_of_member there
        exact fun _ => isOpen.resolve_left fun none => by rw [none] at child; cases child
      · exact id
  · change ((s.setCount pool count).spawnedPools pool).isSome = true
    rw [setCount_spawnedPools, if_pos rfl]
    rfl

theorem spawnQuests_spec :
    Despawned config pool s (spawnQuests config pool s) := by
  unfold spawnQuests
  split
  · rename_i quests
    have next : Despawned config pool s s.next :=
      ⟨exact_.next, fun _ _ => rfl, fun _ _ => Nat.le_refl _, fun _ _ _ _ => id, id⟩
    split
    · exact next
    · exact next.trans (.quests exact_.next isOpen quests _ _)
  · exact .refl exact_

theorem despawnQuests_spec :
    Despawned config pool s (despawnQuests config pool s) := by
  have walk (list : List Nat) (quests : config.hasQuests pool = true) :
      ∀ s, Exact config s → Open config s pool →
        Despawned config pool s (list.foldl (despawnQuest pool) s) := by
    induction list with
    | nil => exact fun s exact_ _ => .refl exact_
    | cons quest list ih =>
      intro s exact_ isOpen
      have first : Despawned config pool s (despawnQuest pool s quest) := by
        unfold despawnQuest
        split
        · exact .quests exact_ isOpen quests _ _
        · exact .refl exact_
      exact first.trans (ih _ first.exact_ (first.still_open isOpen))
  by_cases some : config.hasQuests pool = true
  · exact walk _ some s exact_ isOpen
  have empty : config.quests pool = [] := by simpa [Config.hasQuests] using some
  unfold despawnQuests
  rw [empty]
  exact .refl exact_

end

theorem Despawned.still {kind : Kind} (despawned : Despawned config pool s after)
    (off : ∀ object ∈ (config.group kind pool).members, s.isActiveObject kind object = false) :
    activeIn config after kind pool = 0 := by
  refine countP_eq_zero.mpr fun object there on => ?_
  have was := despawned.shrinks kind pool object there on
  rw [off object there] at was
  cases was

theorem despawnPoolWith_spec
    (children : ∀ child ∈ (config.group .pool pool).members, Despawns config despawnChild child) :
    Despawns config (despawnPoolWith config despawnChild) pool := by
  intro s exact_ isOpen
  obtain ⟨first, creatures⟩ := despawnKind_spec .creature exact_ children
  obtain ⟨second, gameObjects⟩ := despawnKind_spec .gameObject first.exact_ children
  obtain ⟨third, pools⟩ := despawnKind_spec .pool second.exact_ children
  have fourth := despawnQuests_spec third.exact_ (((first.trans second).trans third).still_open isOpen)
  unfold despawnPoolWith
  refine ⟨((first.trans second).trans third).trans fourth, ?_⟩
  unfold activeMembers
  rw [((second.trans third).trans fourth).still creatures, (third.trans fourth).still gameObjects,
    fourth.still pools]

theorem despawnLevels_spec {levels : Nat} (pool : Nat) (enough : config.rank pool ≤ levels) :
    Despawns config (despawnLevels config levels) pool := by
  induction levels generalizing pool with
  | zero =>
    refine despawnPoolWith_spec fun child there => ?_
    have lower := config.rank_lt there
    omega
  | succ levels ih =>
    refine despawnPoolWith_spec fun child there => ih child ?_
    have lower := config.rank_lt there
    omega

structure Spawned (config : Config) (pool : Nat) (s after : ActivePoolData) : Prop where
  exact_ : Exact config after
  confined : Confined config pool s after
  fits : Fits config pool after
  present : (s.spawnedPools pool).isSome → (after.spawnedPools pool).isSome

def Spawns (config : Config) (spawn : ActivePoolData → Nat → ActivePoolData) (pool : Nat) : Prop :=
  ∀ s, Exact config s → Open config s pool → Fits config pool s →
    Spawned config pool s (spawn s pool)

theorem Spawned.trans {middle : ActivePoolData} (first : Spawned config pool s middle)
    (second : Spawned config pool middle after) : Spawned config pool s after :=
  ⟨second.exact_, first.confined.trans second.confined, second.fits, second.present ∘ first.present⟩

theorem Spawned.still_open (spawned : Spawned config pool s after) (isOpen : Open config s pool) :
    Open config after pool :=
  isOpen.imp_right spawned.present

/-- The invariant of the loop: with the turns to come the pool cannot get over its limit, one more
than that while the trigger is still counted. -/
structure Turning (config : Config) (kind : Kind) (pool turns triggerFrom : Nat)
    (s : ActivePoolData) : Prop where
  exact_ : Exact config s
  isOpen : Open config s pool
  below : ∀ other, Under config other pool → other ≠ pool → config.hasQuests other = false →
    s.activeObjectCount other ≤ config.maxLimit other
  within : config.hasQuests pool = false → s.activeObjectCount pool ≤ config.maxLimit pool
  room : config.hasQuests pool = false →
    s.activeObjectCount pool + turns ≤ config.maxLimit pool + if triggerFrom = 0 then 0 else 1
  trigger : triggerFrom ≠ 0 → triggerFrom ∈ (config.group kind pool).members ∧
    s.isActiveObject kind triggerFrom = true

variable {triggerFrom : Nat}

theorem rollOne_some (rolled : s.rollOne kind (config.group kind pool) triggerFrom = some guid) :
    guid ∈ (config.group kind pool).members ∧
      (guid = triggerFrom ∨ s.isActiveObject kind guid = false) := by
  unfold rollOne at rolled
  dsimp only at rolled
  split at rolled
  · rename_i found isFound
    obtain rfl := Option.some.inj rolled
    have there := mem_of_find?_eq_some isFound
    have free := find?_some isFound
    refine ⟨mem_append_right _ (mem_of_mem_drop there), ?_⟩
    simpa using free
  · split at rolled
    · rename_i found isFound
      split at rolled
      · rename_i free
        obtain rfl := Option.some.inj rolled
        exact ⟨mem_append_left _ (mem_of_getElem? isFound), by simpa using free⟩
      · cases rolled
    · cases rolled

/-- One object is activated, with all that it spawns. -/
structure Added (config : Config) (kind : Kind) (pool guid : Nat) (s after : ActivePoolData) :
    Prop where
  exact_ : Exact config after
  confined : Confined config pool s after
  below : ∀ other, Under config other pool → other ≠ pool → config.hasQuests other = false →
    after.activeObjectCount other ≤ config.maxLimit other
  here : after.spawnedPools pool = some (s.activeObjectCount pool + 1)
  siblings : ∀ sibling ∈ (config.group kind pool).members, sibling ≠ guid →
    after.isActiveObject kind sibling = s.isActiveObject kind sibling

theorem oneObject_added
    (children : ∀ child ∈ (config.group .pool pool).members, Spawns config spawnChild child)
    (exact_ : Exact config s) (isOpen : Open config s pool)
    (below : ∀ other, Under config other pool → other ≠ pool → config.hasQuests other = false →
      s.activeObjectCount other ≤ config.maxLimit other)
    (member : guid ∈ (config.group kind pool).members)
    (inactive : s.isActiveObject kind guid = false) :
    Added config kind pool guid s
      (oneObject spawnChild kind (s.next.activateObject kind guid pool) guid) := by
  have apart := config.member_apart member
  obtain ⟨activated, _⟩ := exact_.next.activate member isOpen inactive
  have only := activateObject_only (s := s.next) member isOpen
  have pools (other : Nat) : (s.next.activateObject kind guid pool).spawnedPools other = _ :=
    activateObject_spawnedPools other apart
  have here : (s.next.activateObject kind guid pool).spawnedPools pool =
      some (s.activeObjectCount pool + 1) := by
    rw [pools, if_pos rfl]
    rfl
  have confined : Confined config pool s (s.next.activateObject kind guid pool) := by
    intro other outside
    rw [pools, if_neg fun same : other = pool => outside (same ▸ .refl), if_neg]
    · rfl
    · rintro ⟨rfl, rfl⟩
      exact outside (under_of_member member .refl)
  have few : ∀ other, Under config other pool → other ≠ pool → config.hasQuests other = false →
      (s.next.activateObject kind guid pool).activeObjectCount other ≤ config.maxLimit other := by
    intro other under different plain
    unfold activeObjectCount
    rw [pools, if_neg different]
    split
    · exact Nat.zero_le _
    · exact below other under different plain
  have siblings : ∀ sibling ∈ (config.group kind pool).members, sibling ≠ guid →
      (s.next.activateObject kind guid pool).isActiveObject kind sibling =
        s.isActiveObject kind sibling := by
    intro sibling also different
    rw [only kind pool sibling also, if_neg fun both => different both.2]
    cases kind <;> rfl
  cases kind with
  | creature => exact ⟨activated, confined, few, here, siblings⟩
  | gameObject => exact ⟨activated, confined, few, here, siblings⟩
  | pool =>
    have fresh : (s.next.activateObject .pool guid pool).spawnedPools guid = some 0 := by
      rw [pools, if_neg (apart rfl), if_pos ⟨rfl, rfl⟩]
    have fits : Fits config guid (s.next.activateObject .pool guid pool) := fun other under =>
      few other (under_of_member member under) fun same => not_under_child member (same ▸ under)
    have spawned := children guid member _ activated (.inr (by rw [fresh]; rfl)) fits
    refine ⟨spawned.exact_, confined.trans (spawned.confined.of_member member),
      fun other under different plain => ?_, ?_, fun sibling also different => ?_⟩
    · by_cases lower : Under config other guid
      · exact spawned.fits other lower plain
      · have same := spawned.confined other lower
        change ((spawnChild _ guid).spawnedPools other).getD 0 ≤ _
        rw [same]
        exact few other under different plain
    · exact (spawned.confined pool (not_under_child member)).trans here
    · rw [← siblings sibling also different]
      change ((spawnChild _ guid).spawnedPools sibling).isSome = _
      rw [spawned.confined sibling (not_under_sibling member also different)]
      rfl

variable {turns : Nat}

theorem Turning.fits
    (turning : Turning config kind pool turns triggerFrom s) : Fits config pool s := by
  intro other under plain
  by_cases same : other = pool
  · subst same
    exact turning.within plain
  · exact turning.below other under same plain

theorem Turning.idle (turning : Turning config kind pool (turns + 1) triggerFrom s) :
    Turning config kind pool turns triggerFrom s.next := by
  refine ⟨turning.exact_.next, turning.isOpen, turning.below, turning.within, fun plain => ?_,
    fun present => ?_⟩
  · have room := turning.room plain
    change s.activeObjectCount pool + turns ≤ _
    omega
  · obtain ⟨member, active⟩ := turning.trigger present
    refine ⟨member, ?_⟩
    rw [← active]
    cases kind <;> rfl

theorem Turning.respawned (turning : Turning config kind pool (turns + 1) triggerFrom s) :
    Turning config kind pool turns 0 s.next := by
  have idle := turning.idle
  refine ⟨idle.exact_, idle.isOpen, idle.below, idle.within, fun plain => ?_,
    fun present => absurd rfl present⟩
  have room := turning.room plain
  change s.activeObjectCount pool + turns ≤ _
  rw [if_pos rfl]
  split at room <;> omega

theorem Turning.activated (turning : Turning config kind pool (turns + 1) 0 s)
    (added : Added config kind pool guid s after) : Turning config kind pool turns 0 after := by
  have count : after.activeObjectCount pool = s.activeObjectCount pool + 1 := by
    unfold activeObjectCount
    rw [added.here]
    rfl
  refine ⟨added.exact_, .inr (by rw [added.here]; rfl), added.below, fun plain => ?_,
    fun plain => ?_, fun present => absurd rfl present⟩
  · have room := turning.room plain
    rw [if_pos rfl] at room
    omega
  · have room := turning.room plain
    rw [if_pos rfl] at room ⊢
    omega

theorem Turning.replaced
    (turning : Turning config kind pool (turns + 1) triggerFrom s) (triggered : triggerFrom ≠ 0)
    (different : guid ≠ triggerFrom) (added : Added config kind pool guid s after)
    (children : ∀ child ∈ (config.group .pool pool).members, Despawns config despawnChild child) :
    Despawned config pool after (despawnObject config despawnChild kind pool triggerFrom after) ∧
      Turning config kind pool turns 0
        (despawnObject config despawnChild kind pool triggerFrom after) := by
  obtain ⟨member, active⟩ := turning.trigger triggered
  have still : after.isActiveObject kind triggerFrom = true :=
    (added.siblings triggerFrom member (Ne.symm different)).trans active
  rw [despawnObject_one member triggered still]
  obtain ⟨despawned, _, fewer⟩ := despawnOne_spec added.exact_ children member still
  have count : after.activeObjectCount pool = s.activeObjectCount pool + 1 := by
    unfold activeObjectCount
    rw [added.here]
    rfl
  rw [count, Nat.add_sub_cancel] at fewer
  refine ⟨despawned, despawned.exact_, despawned.still_open (.inr (by rw [added.here]; rfl)),
    fun other under apart plain =>
      Nat.le_trans (despawned.fewer other plain) (added.below other under apart plain),
    fun plain => ?_, fun plain => ?_, fun present => absurd rfl present⟩
  · rw [fewer]
    exact turning.within plain
  · have room := turning.room plain
    rw [if_neg triggered] at room
    rw [fewer, if_pos rfl]
    omega

section

variable (spawns : ∀ child ∈ (config.group .pool pool).members, Spawns config spawnChild child)
  (despawns : ∀ child ∈ (config.group .pool pool).members, Despawns config despawnChild child)

include spawns despawns in
theorem spawnLoop_spec (lastDespawned : Nat)
    (turning : Turning config kind pool turns triggerFrom s) :
    Spawned config pool s
      (spawnLoop config spawnChild despawnChild kind pool turns lastDespawned triggerFrom s) := by
  induction turns generalizing s lastDespawned triggerFrom with
  | zero => exact ⟨turning.exact_, .refl pool s, turning.fits, id⟩
  | succ turns ih =>
    unfold spawnLoop
    split
    · have later := ih lastDespawned turning.idle
      exact ⟨later.exact_, later.confined, later.fits, later.present⟩
    next guid rolled =>
    obtain ⟨member, free⟩ := rollOne_some rolled
    split
    · have later := ih lastDespawned turning.idle
      exact ⟨later.exact_, later.confined, later.fits, later.present⟩
    split
    · have later := ih lastDespawned turning.respawned
      exact ⟨later.exact_, later.confined, later.fits, later.present⟩
    next different =>
    have added := oneObject_added spawns turning.exact_ turning.isOpen turning.below
      member (free.resolve_left different)
    split
    · rename_i triggered
      obtain ⟨despawned, again⟩ :=
        turning.replaced triggered different added despawns
      have later := ih triggerFrom again
      refine ⟨later.exact_,
        (added.confined.trans despawned.confined).trans later.confined, later.fits,
        fun _ => later.present (despawned.present ?_)⟩
      rw [added.here]
      rfl
    · rename_i untriggered
      obtain rfl : triggerFrom = 0 := not_not.mp untriggered
      have later := ih lastDespawned (turning.activated added)
      refine ⟨later.exact_, added.confined.trans later.confined, later.fits,
        fun _ => later.present ?_⟩
      rw [added.here]
      rfl

theorem signed_sub_le {limit count : Nat} (small : limit < 2 ^ 32) (within : count ≤ limit) :
    (signed (limit - count)).toNat ≤ limit - count ∧
      (signed (signed (limit - count) + 1)).toNat ≤ limit - count + 1 := by
  unfold signed
  omega

include spawns despawns

section

variable (exact_ : Exact config s) (isOpen : Open config s pool) (fits : Fits config pool s)
  (trigger : triggerFrom ≠ 0 → triggerFrom ∈ (config.group kind pool).members ∧
    s.isActiveObject kind triggerFrom = true)

include exact_ isOpen fits trigger

theorem spawnObject_spec :
    Spawned config pool s (spawnObject config spawnChild despawnChild kind pool triggerFrom s) := by
  refine spawnLoop_spec spawns despawns 0
    ⟨exact_, isOpen, fun other under _ => fits other under, fits pool .refl, fun plain => ?_,
      trigger⟩
  have within := fits pool .refl plain
  obtain ⟨plainly, once⟩ := signed_sub_le (config.maxLimit_lt pool) within
  by_cases untriggered : triggerFrom = 0
  · rw [if_neg (not_not.mpr untriggered), if_pos untriggered]
    omega
  · rw [if_pos untriggered, if_neg untriggered]
    omega

theorem spawnKind_spec :
    Spawned config pool s (spawnKind config spawnChild despawnChild kind pool triggerFrom s) := by
  unfold spawnKind
  split
  · exact ⟨exact_, .refl pool s, fits, id⟩
  · exact spawnObject_spec spawns despawns exact_ isOpen fits trigger

end

theorem spawnPoolWith_spec :
    Spawns config (spawnPoolWith config spawnChild despawnChild) pool := by
  intro s exact_ isOpen fits
  have each (kind : Kind) (s : ActivePoolData) (exact_ : Exact config s)
      (isOpen : Open config s pool) (fits : Fits config pool s) :
      Spawned config pool s (spawnKind config spawnChild despawnChild kind pool 0 s) :=
    spawnKind_spec spawns despawns exact_ isOpen fits fun triggered => absurd rfl triggered
  have first := each .pool s exact_ isOpen fits
  have second := each .gameObject _ first.exact_ (first.still_open isOpen) first.fits
  have third := each .creature _ second.exact_ ((first.trans second).still_open isOpen) second.fits
  have whole := (first.trans second).trans third
  have fourth := spawnQuests_spec third.exact_ (whole.still_open isOpen)
  exact ⟨fourth.exact_, whole.confined.trans fourth.confined,
    fun other under plain => Nat.le_trans (fourth.fewer other plain) (third.fits other under plain),
    fourth.present ∘ whole.present⟩

end

theorem spawnLevels_spec {levels : Nat} (pool : Nat) (enough : config.rank pool ≤ levels) :
    Spawns config (spawnLevels config levels) pool := by
  induction levels generalizing pool with
  | zero =>
    refine spawnPoolWith_spec (fun child there => ?_) fun child there => ?_
    all_goals
      have lower := config.rank_lt there
      omega
  | succ levels ih =>
    refine spawnPoolWith_spec (fun child there => ih child ?_)
      fun child there => despawnLevels_spec child ?_
    all_goals
      have lower := config.rank_lt there
      omega

theorem spawnPool_spec (pool : Nat) : Spawns config (spawnPool config) pool :=
  spawnLevels_spec pool (config.rank_le pool)

theorem despawnPool_spec (pool : Nat) : Despawns config (despawnPool config) pool :=
  despawnLevels_spec pool (config.rank_le pool)

end OpenWoW.SpawnPools
