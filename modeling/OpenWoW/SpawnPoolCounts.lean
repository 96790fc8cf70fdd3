import Mathlib.Data.Set.Card
import OpenWoW.Lib.Counting
import OpenWoW.SpawnPools

/-! The count of a pool against its active members. -/
namespace OpenWoW.SpawnPools

open ActivePoolData Function

variable {config : Config} {s after : ActivePoolData} {kind : Kind} {guid pool : Nat}

def activeIn (config : Config) (s : ActivePoolData) (kind : Kind) (pool : Nat) : Nat :=
  (config.group kind pool).members.countP (s.isActiveObject kind)

def activeMembers (config : Config) (s : ActivePoolData) (pool : Nat) : Nat :=
  activeIn config s .creature pool + activeIn config s .gameObject pool +
    activeIn config s .pool pool

/-- No child pool or a spawned one. -/
def Open (config : Config) (s : ActivePoolData) (pool : Nat) : Prop :=
  config.mother pool = none ∨ (s.spawnedPools pool).isSome

structure Exact (config : Config) (s : ActivePoolData) : Prop where
  count : ∀ pool, config.hasQuests pool = false →
    s.activeObjectCount pool = activeMembers config s pool
  asleep : ∀ pool, config.mother pool ≠ none → s.spawnedPools pool = none →
    activeMembers config s pool = 0

theorem Config.mother_of_member (member : guid ∈ (config.group .pool pool).members) :
    config.mother guid = some pool :=
  (config.mother_iff guid pool).mp member

def Config.lower (config : Config) (pool : Nat) : Set Nat :=
  {lower | lower ≤ config.maxPoolId ∧
    Relation.TransGen (fun child up => config.mother child = some up) lower pool}

theorem Config.lower_finite (config : Config) (pool : Nat) : (config.lower pool).Finite :=
  (Set.finite_le_nat config.maxPoolId).subset fun _ below => below.1

noncomputable def Config.rank (config : Config) (pool : Nat) : Nat := (config.lower pool).ncard

theorem Config.rank_le (config : Config) (pool : Nat) : config.rank pool ≤ config.maxPoolId + 1 := by
  have known : config.lower pool ⊆ ↑(Finset.range (config.maxPoolId + 1)) := fun lower below =>
    Finset.mem_coe.mpr (Finset.mem_range.mpr (Nat.lt_succ_of_le below.1))
  have few := Set.ncard_le_ncard known (Finset.finite_toSet _)
  rwa [Set.ncard_coe_finset, Finset.card_range] at few

theorem Config.rank_lt (config : Config) {pool child : Nat}
    (member : child ∈ (config.group .pool pool).members) : config.rank child < config.rank pool := by
  have up := config.mother_of_member member
  have known : child ≤ config.maxPoolId := config.known child (by rw [up]; nofun)
  refine Set.ncard_lt_ncard ⟨?_, fun reversed => ?_⟩ (config.lower_finite pool)
  · exact fun lower below => ⟨below.1, below.2.tail up⟩
  · exact config.acyclic child (reversed ⟨known, .single up⟩).2

theorem Config.child_ne (member : guid ∈ (config.group .pool pool).members) : guid ≠ pool := by
  intro same
  have lower := config.rank_lt member
  rw [same] at lower
  exact Nat.lt_irrefl _ lower

theorem activeMembers_change (s after : ActivePoolData)
    (member : guid ∈ (config.group kind pool).members)
    (only : ∀ other place object, object ∈ (config.group other place).members →
      ¬(other = kind ∧ object = guid) →
        after.isActiveObject other object = s.isActiveObject other object) (place : Nat) :
    activeMembers config after place +
        (if place = pool then (s.isActiveObject kind guid).toNat else 0) =
      activeMembers config s place +
        if place = pool then (after.isActiveObject kind guid).toNat else 0 := by
  have elsewhere (other : Kind) (away : ¬(other = kind ∧ place = pool)) :
      activeIn config after other place = activeIn config s other place := by
    refine List.countP_congr fun object there => ?_
    rw [only other place object there]
    rintro ⟨rfl, rfl⟩
    exact away ⟨rfl, config.one other object place pool there member⟩
  unfold activeMembers
  by_cases here : place = pool
  · subst here
    have changes : activeIn config after kind place + (s.isActiveObject kind guid).toNat =
        activeIn config s kind place + (after.isActiveObject kind guid).toNat :=
      Counting.countP_change _ _ (config.distinct kind place) member fun object there different =>
        only kind place object there fun both => different both.2
    rw [if_pos rfl, if_pos rfl]
    cases kind with
    | creature =>
      rw [elsewhere .gameObject (by simp), elsewhere .pool (by simp)]
      omega
    | gameObject =>
      rw [elsewhere .creature (by simp), elsewhere .pool (by simp)]
      omega
    | pool =>
      rw [elsewhere .creature (by simp), elsewhere .gameObject (by simp)]
      omega
  · rw [if_neg here, if_neg here, elsewhere .creature (by simp [here]),
      elsewhere .gameObject (by simp [here]), elsewhere .pool (by simp [here])]

theorem activeMembers_congr (same : ∀ other place object,
    object ∈ (config.group other place).members →
      after.isActiveObject other object = s.isActiveObject other object) (place : Nat) :
    activeMembers config after place = activeMembers config s place := by
  have each (other : Kind) : activeIn config after other place = activeIn config s other place :=
    List.countP_congr fun object there => by rw [same other place object there]
  unfold activeMembers
  rw [each, each, each]

theorem activeMembers_pos (member : guid ∈ (config.group kind pool).members)
    (active : s.isActiveObject kind guid = true) : 0 < activeMembers config s pool := by
  have one : 0 < activeIn config s kind pool := List.countP_pos_iff.mpr ⟨guid, member, active⟩
  unfold activeMembers
  cases kind <;> omega

theorem inactive_of_activeMembers (member : guid ∈ (config.group kind pool).members)
    (nobody : activeMembers config s pool = 0) : s.isActiveObject kind guid = false := by
  cases active : s.isActiveObject kind guid with
  | false => rfl
  | true => exact absurd nobody (Nat.ne_of_gt (activeMembers_pos member active))

@[simp] theorem setCount_spawnedPools (count other : Nat) :
    (s.setCount pool count).spawnedPools other =
      if other = pool then some count else s.spawnedPools other :=
  update_apply ..

theorem isActiveObject_pool (s : ActivePoolData) (guid : Nat) :
    s.isActiveObject .pool guid = (s.spawnedPools guid).isSome := rfl

/-- One object is put into its table or taken out, and a counter is set. -/
def switch (s : ActivePoolData) (kind : Kind) (guid : Nat) (active : Bool) (pool count : Nat) :
    ActivePoolData :=
  ActivePoolData.setCount (match kind with
    | .creature => { s with spawnedCreatures := update s.spawnedCreatures guid active }
    | .gameObject => { s with spawnedGameobjects := update s.spawnedGameobjects guid active }
    | .pool => { s with spawnedPools := update s.spawnedPools guid (if active then some 0 else none) })
    pool count

theorem activateObject_eq (apart : kind = .pool → guid ≠ pool) :
    s.activateObject kind guid pool = switch s kind guid true pool (s.activeObjectCount pool + 1) := by
  cases kind with
  | creature => rfl
  | gameObject => rfl
  | pool => simp [activateObject, switch, setCount, activeObjectCount, Ne.symm (apart rfl)]

theorem removeObject_eq (apart : kind = .pool → guid ≠ pool) :
    s.removeObject kind guid pool = switch s kind guid false pool (s.activeObjectCount pool - 1) := by
  cases kind with
  | creature => rfl
  | gameObject => rfl
  | pool => simp [removeObject, switch, setCount, activeObjectCount, Ne.symm (apart rfl)]

section

variable {active : Bool} {count : Nat}

theorem switch_spawnedPools (other : Nat) :
    (switch s kind guid active pool count).spawnedPools other =
      if other = pool then some count
      else if kind = .pool ∧ other = guid then if active then some 0 else none
      else s.spawnedPools other := by
  unfold switch
  cases kind <;> simp [update_apply]

theorem switch_isActive {other : Kind} {object : Nat} (here : ¬(other = .pool ∧ object = pool)) :
    (switch s kind guid active pool count).isActiveObject other object =
      if other = kind ∧ object = guid then active else s.isActiveObject other object := by
  cases other with
  | pool =>
    have different : object ≠ pool := fun same => here ⟨rfl, same⟩
    rw [isActiveObject_pool, isActiveObject_pool, switch_spawnedPools, if_neg different]
    by_cases isGuid : kind = .pool ∧ object = guid
    · obtain ⟨rfl, rfl⟩ := isGuid
      cases active <;> simp
    · rw [if_neg isGuid, if_neg fun both => isGuid ⟨both.1.symm, both.2⟩]
  | creature => cases kind <;> simp [switch, setCount, isActiveObject, update_apply]
  | gameObject => cases kind <;> simp [switch, setCount, isActiveObject, update_apply]

theorem switch_only (member : guid ∈ (config.group kind pool).members)
    (isOpen : Open config s pool) (other : Kind) (place object : Nat)
    (there : object ∈ (config.group other place).members) :
    (switch s kind guid active pool count).isActiveObject other object =
      if other = kind ∧ object = guid then active else s.isActiveObject other object := by
  by_cases here : other = .pool ∧ object = pool
  · -- a pool that is itself a member is spawned already
    obtain ⟨rfl, rfl⟩ := here
    have child := config.mother_of_member there
    have present : (s.spawnedPools object).isSome := isOpen.resolve_left fun none => by
      rw [none] at child
      cases child
    rw [isActiveObject_pool, isActiveObject_pool, switch_spawnedPools, if_pos rfl, present]
    by_cases isGuid : Kind.pool = kind ∧ object = guid
    · obtain ⟨rfl, rfl⟩ := isGuid
      exact absurd rfl (config.child_ne member)
    · rw [if_neg isGuid]
      rfl
  · exact switch_isActive here

end

theorem activateObject_spawnedPools (other : Nat) (apart : kind = .pool → guid ≠ pool) :
    (s.activateObject kind guid pool).spawnedPools other =
      if other = pool then some (s.activeObjectCount pool + 1)
      else if kind = .pool ∧ other = guid then some 0
      else s.spawnedPools other := by
  rw [activateObject_eq apart, switch_spawnedPools]
  rfl

theorem Config.member_apart (member : guid ∈ (config.group kind pool).members) :
    kind = .pool → guid ≠ pool := by
  rintro rfl
  exact config.child_ne member

theorem activateObject_only (member : guid ∈ (config.group kind pool).members)
    (isOpen : Open config s pool) (other : Kind) (place object : Nat)
    (there : object ∈ (config.group other place).members) :
    (s.activateObject kind guid pool).isActiveObject other object =
      if other = kind ∧ object = guid then true else s.isActiveObject other object := by
  rw [activateObject_eq (config.member_apart member)]
  exact switch_only member isOpen other place object there

theorem Exact.activate (exact_ : Exact config s) (member : guid ∈ (config.group kind pool).members)
    (isOpen : Open config s pool) (inactive : s.isActiveObject kind guid = false) :
    Exact config (s.activateObject kind guid pool) ∧
      activeMembers config (s.activateObject kind guid pool) pool =
        activeMembers config s pool + 1 := by
  have apart := config.member_apart member
  have only := activateObject_only (s := s) member isOpen
  have changes := activeMembers_change s (s.activateObject kind guid pool) member
    fun other place object there different => by
      rw [only other place object there, if_neg different]
  rw [only kind pool guid member, if_pos ⟨rfl, rfl⟩, inactive] at changes
  simp only [Bool.toNat_true, Bool.toNat_false, ite_self, Nat.add_zero] at changes
  have child (other : Nat) (isGuid : kind = .pool ∧ other = guid) :
      activeMembers config s other = 0 := by
    obtain ⟨rfl, rfl⟩ := isGuid
    refine exact_.asleep other (by rw [config.mother_of_member member]; nofun) ?_
    exact Option.isNone_iff_eq_none.mp (by simpa [isActiveObject] using inactive)
  refine ⟨⟨fun other plain => ?_, fun other isChild absent => ?_⟩, by rw [changes, if_pos rfl]⟩
  · rw [changes]
    unfold activeObjectCount
    rw [activateObject_spawnedPools other apart]
    split
    · rename_i same
      subst same
      rw [Option.getD_some, exact_.count other plain]
    split
    · next isGuid => rw [child other isGuid]; rfl
    · exact exact_.count other plain
  · rw [activateObject_spawnedPools other apart] at absent
    split at absent
    · cases absent
    next different =>
    split at absent
    · cases absent
    · rw [changes, if_neg different]
      exact exact_.asleep other isChild absent

theorem removeObject_spawnedPools (other : Nat) (apart : kind = .pool → guid ≠ pool) :
    (s.removeObject kind guid pool).spawnedPools other =
      if other = pool then some (s.activeObjectCount pool - 1)
      else if kind = .pool ∧ other = guid then none
      else s.spawnedPools other := by
  rw [removeObject_eq apart, switch_spawnedPools]
  rfl

theorem Exact.open_of_active (exact_ : Exact config s)
    (member : guid ∈ (config.group kind pool).members)
    (active : s.isActiveObject kind guid = true) : Open config s pool := by
  by_contra closed
  obtain ⟨child, absent⟩ := not_or.mp closed
  have nobody := exact_.asleep pool child (by simpa using absent)
  exact absurd nobody (Nat.ne_of_gt (activeMembers_pos member active))

theorem removeObject_only (member : guid ∈ (config.group kind pool).members)
    (isOpen : Open config s pool) (other : Kind) (place object : Nat)
    (there : object ∈ (config.group other place).members) :
    (s.removeObject kind guid pool).isActiveObject other object =
      if other = kind ∧ object = guid then false else s.isActiveObject other object := by
  rw [removeObject_eq (config.member_apart member)]
  exact switch_only member isOpen other place object there

theorem Exact.remove (exact_ : Exact config s) (member : guid ∈ (config.group kind pool).members)
    (active : s.isActiveObject kind guid = true)
    (empty : kind = .pool → activeMembers config s guid = 0) :
    Exact config (s.removeObject kind guid pool) ∧
      activeMembers config (s.removeObject kind guid pool) pool + 1 =
        activeMembers config s pool := by
  have apart := config.member_apart member
  have only := removeObject_only (s := s) member (exact_.open_of_active member active)
  have changes := activeMembers_change s (s.removeObject kind guid pool) member
    fun other place object there different => by
      rw [only other place object there, if_neg different]
  rw [only kind pool guid member, if_pos ⟨rfl, rfl⟩, active] at changes
  simp only [Bool.toNat_true, Bool.toNat_false, ite_self, Nat.add_zero] at changes
  have fewer := changes pool
  rw [if_pos rfl] at fewer
  refine ⟨⟨fun other plain => ?_, fun other isChild absent => ?_⟩, fewer⟩
  · have change := changes other
    have before := exact_.count other plain
    unfold activeObjectCount at before ⊢
    rw [removeObject_spawnedPools other apart]
    split
    · rename_i same
      subst same
      rw [if_pos rfl] at change
      unfold activeObjectCount
      rw [Option.getD_some]
      omega
    · rename_i different
      rw [if_neg different] at change
      split
      · rename_i isGuid
        have none := empty isGuid.1
        rw [← isGuid.2] at none
        change 0 = _
        omega
      · omega
  · have change := changes other
    rw [removeObject_spawnedPools other apart] at absent
    split at absent
    · cases absent
    next different =>
    rw [if_neg different] at change
    split at absent
    · rename_i isGuid
      have none := empty isGuid.1
      rw [← isGuid.2] at none
      omega
    · have none := exact_.asleep other isChild absent
      omega

theorem Exact.next (exact_ : Exact config s) : Exact config s.next :=
  ⟨exact_.count, exact_.asleep⟩

theorem Exact.activeQuests (exact_ : Exact config s) (active : Nat → Bool) :
    Exact config { s with activeQuests := active } :=
  ⟨exact_.count, exact_.asleep⟩

theorem Exact.setCount (exact_ : Exact config s) (quests : config.hasQuests pool = true)
    (isOpen : Open config s pool) (count : Nat) : Exact config (s.setCount pool count) := by
  have same : ∀ other place object, object ∈ (config.group other place).members →
      (s.setCount pool count).isActiveObject other object = s.isActiveObject other object := by
    intro other place object there
    cases other with
    | creature => rfl
    | gameObject => rfl
    | pool =>
      rw [isActiveObject_pool, isActiveObject_pool, setCount_spawnedPools]
      split
      · rename_i isPool
        subst isPool
        have child := config.mother_of_member there
        exact (isOpen.resolve_left fun none => by rw [none] at child; cases child).symm
      · rfl
  refine ⟨fun other plain => ?_, fun other isChild absent => ?_⟩
  · rw [activeMembers_congr same, ← exact_.count other plain]
    unfold activeObjectCount
    rw [setCount_spawnedPools, if_neg]
    rintro rfl
    rw [quests] at plain
    cases plain
  · rw [setCount_spawnedPools] at absent
    split at absent
    · cases absent
    · rw [activeMembers_congr same]
      exact exact_.asleep other isChild absent

end OpenWoW.SpawnPools
