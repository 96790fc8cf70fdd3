import OpenWoW.SpawnPoolSpawns

/-! Runs of calls on spawn pools. -/
namespace OpenWoW.SpawnPools

open List

open ActivePoolData

variable {config : Config} {s : ActivePoolData} {kind : Kind} {guid pool : Nat}

def Triggered (config : Config) (s : ActivePoolData) : Input → Prop
  | .updatePool kind pool guid _ =>
    guid = 0 ∨ guid ∈ (config.group kind pool).members ∧ s.isActiveObject kind guid = true
  | .spawnPool _ _ => True
  | .despawnPool _ _ => True

/-- A child pool is left to its mother while it is not active. -/
def Careful (config : Config) (s : ActivePoolData) : Input → Prop
  | .updatePool _ pool _ _ => Open config s pool
  | .spawnPool pool _ => Open config s pool
  | .despawnPool pool _ =>
    Open config s pool ∨ ∀ quest ∈ config.quests pool, s.activeQuests quest = false

structure Sound (config : Config) (s : ActivePoolData) : Prop where
  count : ∀ pool, config.quests pool = [] →
    s.activeObjectCount pool = activeMembers config s pool ∧
      s.activeObjectCount pool ≤ config.maxLimit pool
  asleep : ∀ pool, config.mother pool ≠ none → s.isActiveObject .pool pool = false →
    ∀ lower, Under config lower pool → activeMembers config s lower = 0

/-- The invariant of the runs. -/
structure Accounted (config : Config) (s : ActivePoolData) : Prop where
  exact_ : Exact config s
  within : ∀ pool, config.hasQuests pool = false → s.activeObjectCount pool ≤ config.maxLimit pool

theorem Config.hasQuests_eq_false : config.hasQuests pool = false ↔ config.quests pool = [] := by
  simp [Config.hasQuests]

theorem Exact.asleep_below (exact_ : Exact config s) (child : config.mother pool ≠ none)
    (absent : s.spawnedPools pool = none) {lower : Nat} (under : Under config lower pool) :
    activeMembers config s lower = 0 := by
  induction under using Relation.ReflTransGen.head_induction_on with
  | refl => exact exact_.asleep pool child absent
  | head up _ nobody =>
    have member := (config.mother_iff _ _).mpr up
    have inactive := inactive_of_activeMembers member nobody
    refine exact_.asleep _ (by rw [up]; nofun) ?_
    exact Option.isNone_iff_eq_none.mp (by simpa [isActiveObject] using inactive)

theorem Accounted.sound (accounted : Accounted config s) : Sound config s := by
  refine ⟨fun pool plain => ?_, fun pool child inactive lower under => ?_⟩
  · have plain := Config.hasQuests_eq_false.mpr plain
    exact ⟨accounted.exact_.count pool plain, accounted.within pool plain⟩
  · refine accounted.exact_.asleep_below child ?_ under
    exact Option.isNone_iff_eq_none.mp (by simpa [isActiveObject] using inactive)

theorem Accounted.fits (accounted : Accounted config s) (pool : Nat) : Fits config pool s :=
  fun other _ plain => accounted.within other plain

theorem Accounted.chances (accounted : Accounted config s) (chances : Nat → Chance) :
    Accounted config { s with chances } :=
  ⟨⟨accounted.exact_.count, accounted.exact_.asleep⟩, accounted.within⟩

theorem Accounted.spawned {after : ActivePoolData} (accounted : Accounted config s)
    (spawned : Spawned config pool s after) : Accounted config after := by
  refine ⟨spawned.exact_, fun other plain => ?_⟩
  by_cases under : Under config other pool
  · exact spawned.fits other under plain
  have same : after.activeObjectCount other = s.activeObjectCount other :=
    congrArg (·.getD 0) (spawned.confined other under)
  rw [same]
  exact accounted.within other plain

theorem Accounted.despawned {after : ActivePoolData} (accounted : Accounted config s)
    (despawned : Despawned config pool s after) : Accounted config after :=
  ⟨despawned.exact_, fun other plain =>
    Nat.le_trans (despawned.fewer other plain) (accounted.within other plain)⟩

variable {despawnChild : ActivePoolData → Nat → ActivePoolData}

theorem despawnKind_still (nobody : activeMembers config s pool = 0) :
    despawnKind config despawnChild kind pool s = s := by
  have walk : ∀ objects, objects ⊆ (config.group kind pool).members →
      despawnWalk despawnChild kind pool 0 objects s = s := by
    intro objects members
    induction objects with
    | nil => rfl
    | cons first objects ih =>
      have inactive := inactive_of_activeMembers (members mem_cons_self) nobody
      have same : despawnWalk despawnChild kind pool 0 (first :: objects) s =
          despawnWalk despawnChild kind pool 0 objects s :=
        congrArg (despawnWalk despawnChild kind pool 0 objects) (if_neg (by rw [inactive]; nofun))
      rw [same]
      exact ih fun _ there => members (mem_cons_of_mem _ there)
  unfold despawnKind
  split
  · rfl
  · exact walk _ (List.Subset.refl _)

theorem despawnQuests_still (quiet : ∀ quest ∈ config.quests pool, s.activeQuests quest = false) :
    despawnQuests config pool s = s := by
  unfold despawnQuests
  generalize config.quests pool = list at quiet
  induction list with
  | nil => rfl
  | cons quest list ih =>
    have same : despawnQuest pool s quest = s := if_neg (by rw [quiet quest (by simp)]; nofun)
    rw [foldl_cons, same]
    exact ih fun other there => quiet other (mem_cons_of_mem _ there)

theorem despawnPoolWith_still (nobody : activeMembers config s pool = 0)
    (quiet : ∀ quest ∈ config.quests pool, s.activeQuests quest = false) :
    despawnPoolWith config despawnChild s pool = s := by
  unfold despawnPoolWith
  dsimp only
  rw [despawnKind_still nobody, despawnKind_still nobody, despawnKind_still nobody,
    despawnQuests_still quiet]

theorem Accounted.updatePool (accounted : Accounted config s) (isOpen : Open config s pool)
    (trigger : guid = 0 ∨
      guid ∈ (config.group kind pool).members ∧ s.isActiveObject kind guid = true) :
    Accounted config (updatePool config kind s pool guid) := by
  unfold SpawnPools.updatePool Config.isPartOfAPool
  dsimp only
  have spawns (mother child : Nat) (_ : child ∈ (config.group .pool mother).members) :
      Spawns config (spawnPool config) child := spawnPool_spec child
  have despawns (mother child : Nat) (_ : child ∈ (config.group .pool mother).members) :
      Despawns config (despawnPool config) child := despawnPool_spec child
  split
  · rename_i isChild
    -- the mother is updated, and the pool is one of its active members
    cases up : config.mother pool with
    | none => exact absurd (by rw [up]; rfl) isChild
    | some mother =>
      have member := (config.mother_iff pool mother).mpr up
      have active : s.isActiveObject .pool pool = true :=
        isOpen.resolve_left (by rw [up]; nofun)
      exact accounted.spawned (spawnKind_spec (spawns mother) (despawns mother)
        accounted.exact_ (accounted.exact_.open_of_active member active)
        (accounted.fits mother) fun _ => ⟨member, active⟩)
  · exact accounted.spawned (spawnKind_spec (spawns pool) (despawns pool) accounted.exact_
      isOpen (accounted.fits pool) trigger.resolve_left)

theorem Accounted.despawnPool (accounted : Accounted config s)
    (careful : Open config s pool ∨ ∀ quest ∈ config.quests pool, s.activeQuests quest = false) :
    Accounted config (despawnPool config s pool) := by
  by_cases isOpen : Open config s pool
  · exact accounted.despawned (despawnPool_spec pool s accounted.exact_ isOpen).1
  obtain ⟨child, absent⟩ := not_or.mp isOpen
  have nobody := accounted.exact_.asleep pool child (by simpa using absent)
  have same : SpawnPools.despawnPool config s pool = s :=
    despawnPoolWith_still nobody (careful.resolve_left isOpen)
  rw [same]
  exact accounted

theorem accounted_step {s : ActivePoolData} {input : Input} (accounted : Accounted config s)
    (allowed : Triggered config s input ∧ Careful config s input) :
    Accounted config (step config s input).1 := by
  cases input with
  | spawnPool pool chances =>
    have ready := accounted.chances chances
    exact ready.spawned (spawnPool_spec pool _ ready.exact_ allowed.2 (ready.fits pool))
  | despawnPool pool chances => exact (accounted.chances chances).despawnPool allowed.2
  | updatePool kind pool guid chances =>
    exact (accounted.chances chances).updatePool allowed.2 (by cases kind <;> exact allowed.1)

theorem accounted_start : Accounted config {} := by
  have nobody (pool : Nat) : activeMembers config {} pool = 0 := by
    have none (kind : Kind) : activeIn config {} kind pool = 0 :=
      countP_eq_zero.mpr fun _ _ => by cases kind <;> nofun
    unfold activeMembers
    rw [none, none, none]
  exact ⟨⟨fun pool _ => (nobody pool).symm, fun pool _ _ => nobody pool⟩, fun _ _ => Nat.zero_le _⟩

/-- Pools count their active members and keep their limits. -/
theorem spawn_pools_accounted (config : Config) (inputs : List Input)
    (allowed : ∀ t ∈ Run.trace (step config) {} inputs,
      Triggered config t.before t.input ∧ Careful config t.before t.input) :
    Sound config (Run.final (step config) {} inputs) :=
  (Run.history (step config) (fun s input => Triggered config s input ∧ Careful config s input)
    (fun _ => Accounted config) (fun _ _ _ accounted => accounted_step accounted) []
    {} inputs accounted_start allowed).sound

/-- A pool of three child pools, of which one is to be spawned, and beside them a pool of quests. -/
def threeChildren : Config where
  group
    | .creature, 2 => { equalChanced := [7] }
    | .creature, 3 => { equalChanced := [8] }
    | .pool, 1 => { equalChanced := [2, 3, 4] }
    | _, _ => {}
  maxLimit := fun _ => 1
  maxLimit_lt := fun _ => by decide
  quests := fun pool => if pool = 2 then [9] else if pool = 5 then [10] else []
  mother := fun child => if 1 < child ∧ child < 5 then some 1 else none
  distinct := by
    intro kind pool
    split <;> decide
  one := by
    intro kind guid pool other here there
    split at here <;> split at there <;> simp_all [Group.members]
  mother_iff := by
    intro child pool
    split <;> simp_all [Group.members] <;> omega
  maxPoolId := 5
  known := by
    intro child isChild
    split at isChild
    · omega
    · exact absurd rfl isChild
  acyclic := by
    intro pool cycle
    have edge (child up : Nat) (here : (if 1 < child ∧ child < 5 then some 1 else none) = some up) :
        1 < child ∧ up = 1 := by
      split at here
      · exact ⟨by omega, (Option.some.inj here).symm⟩
      · cases here
    have path (lower upper : Nat) (chain : Relation.TransGen
        (fun child up => (if 1 < child ∧ child < 5 then some 1 else none) = some up) lower upper) :
        1 < lower ∧ upper = 1 := by
      induction chain with
      | single here => exact edge _ _ here
      | tail _ here before => exact ⟨before.1, (edge _ _ here).2⟩
    have loop := path pool pool cycle
    omega

def rolls (equal : List Nat) (n : Nat) : Chance := { equal := equal.getD n 0 }

/-- A child pool is rolled, and its update spawns the other one instead. -/
theorem spawn_pools_accounted_two :
    Sound threeChildren (Run.final (step threeChildren) {}
      [.spawnPool 1 (rolls [0]), .updatePool .creature 2 7 (rolls [1]), .despawnPool 1 (rolls [])]) :=
  spawn_pools_accounted threeChildren _ (by
    intro t here
    simp only [Run.trace, mem_cons, not_mem_nil, or_false] at here
    rcases here with rfl | rfl | rfl
    · exact ⟨trivial, .inl rfl⟩
    · exact ⟨.inr (by decide), .inr (by decide)⟩
    · exact ⟨trivial, .inl (.inl rfl)⟩)

/-- What a row of `pool_quest_save` brings that names a quest of another pool. -/
def foreignQuest (_ : Nat) : Chance := { quests := some (1, fun quest => decide (quest = 9)) }

/-- A child pool that is spawned alone is missing in its mother's count; so is one whose quest is
taken off while it is not active. As a trigger of its mother it leaves her one too many. -/
theorem spawn_child_alone :
    ¬(∀ inputs, (∀ t ∈ Run.trace (step threeChildren) {} inputs,
        Triggered threeChildren t.before t.input) →
      Sound threeChildren (Run.final (step threeChildren) {} inputs)) ∧
    ¬Sound threeChildren (Run.final (step threeChildren) {} [.spawnPool 2 (rolls [])]) ∧
    ¬Sound threeChildren (Run.final (step threeChildren) {}
      [.spawnPool 5 foreignQuest, .despawnPool 2 (rolls [])]) ∧
    ¬Sound threeChildren (Run.final (step threeChildren) {}
      [.updatePool .creature 2 0 (rolls [1, 0, 2])]) := by
  have alone : ¬Sound threeChildren (Run.final (step threeChildren) {} [.spawnPool 2 (rolls [])]) :=
    fun sound => absurd (sound.count 1 rfl).1 (by decide)
  refine ⟨fun always => alone (always _ ?_), alone, fun sound => ?_, fun sound => ?_⟩
  · intro t here
    simp only [Run.trace, mem_cons, not_mem_nil, or_false] at here
    subst here
    exact trivial
  · exact absurd (sound.count 1 rfl).1 (by decide)
  · exact absurd (sound.count 1 rfl).2 (by decide)

end OpenWoW.SpawnPools
