import Mathlib.Data.List.Flatten
import OpenWoW.DungeonProposals
import OpenWoW.Lib.Run

/-! The cache of compatible entries, and what a fresh check of the same entries says. -/
namespace OpenWoW.DungeonFinder

open List Function

variable {w : World} {q : LFGQueue}

/-- What the tests of `CheckCompatibility` ask of several entries, in whatever order they come. -/
structure Fits (w : World) (q : LFGQueue) (check : List Nat) : Prop where
  oneGroup : check.countP w.isLfgGroup ≤ 1
  five : (check.flatMap q.rolesOf).length ≤ maxGroupSize
  distinct : (OrderedMap.keys (check.flatMap q.rolesOf)).Nodup
  tolerant : (check.flatMap q.rolesOf).Pairwise (LFGQueue.Tolerates w)
  roles : ∃ assigned, Assigned (withoutLeader (check.flatMap q.rolesOf)) assigned
  dungeon : ∃ dungeon, ∀ entry ∈ check, dungeon ∈ q.dungeonsOf entry

theorem tolerates_symm {player other : Nat × UInt8} (tolerates : LFGQueue.Tolerates w player other) :
    LFGQueue.Tolerates w other player := by
  unfold LFGQueue.Tolerates
  rw [LFGQueue.hasIgnore_comm]
  exact tolerates

theorem Assigned.sublist {groles fewer assigned : LfgRolesMap} (chosen : Assigned groles assigned)
    (within : fewer.Sublist groles) : ∃ picked, Assigned fewer picked := by
  have part : ∀ {groles fewer assigned : LfgRolesMap}, List.Forall₂ Offers groles assigned →
      fewer.Sublist groles → ∃ picked, List.Forall₂ Offers fewer picked ∧ picked.Sublist assigned := by
    intro groles fewer assigned each within
    induction within generalizing assigned with
    | slnil => exact ⟨[], .nil, nil_sublist _⟩
    | cons entry _ ih =>
      obtain ⟨first, rest, _, others, rfl⟩ := forall₂_cons_left_iff.mp each
      obtain ⟨picked, offers, fewer⟩ := ih others
      exact ⟨picked, offers, fewer.cons first⟩
    | cons_cons entry _ ih =>
      obtain ⟨first, rest, offer, others, rfl⟩ := forall₂_cons_left_iff.mp each
      obtain ⟨picked, offers, fewer⟩ := ih others
      exact ⟨first :: picked, .cons offer offers, fewer.cons_cons first⟩
  obtain ⟨picked, offers, fewer⟩ := part chosen.each within
  exact ⟨picked, offers, (fewer.countP_le).trans chosen.damage,
    (fewer.countP_le).trans chosen.healer, (fewer.countP_le).trans chosen.tank⟩

theorem Assigned.perm {groles other assigned : LfgRolesMap} (chosen : Assigned groles assigned)
    (same : other.Perm groles) : ∃ picked, Assigned other picked := by
  obtain ⟨picked, offers, perm⟩ := perm_comp_forall₂ same chosen.each
  exact ⟨picked, offers, (perm.countP_eq _).trans_le chosen.damage,
    (perm.countP_eq _).trans_le chosen.healer, (perm.countP_eq _).trans_le chosen.tank⟩

variable {check : List Nat}

theorem Fits.subperm {fewer : List Nat} (fits : Fits w q check) (within : fewer.Subperm check) :
    Fits w q fewer := by
  obtain ⟨some_, perm, sub⟩ := within
  have players : (fewer.flatMap q.rolesOf).Perm (some_.flatMap q.rolesOf) :=
    (perm.flatMap_right q.rolesOf).symm
  have part : (some_.flatMap q.rolesOf).Sublist (check.flatMap q.rolesOf) := sub.flatMap q.rolesOf
  constructor
  · rw [← perm.countP_eq]
    exact sub.countP_le.trans fits.oneGroup
  · rw [players.length_eq]
    exact part.length_le.trans fits.five
  · exact (players.map _).nodup_iff.mpr (fits.distinct.sublist (part.map _))
  · exact (players.pairwise_iff tolerates_symm).mpr (fits.tolerant.sublist part)
  · obtain ⟨assigned, chosen⟩ := fits.roles
    obtain ⟨picked, offers⟩ := chosen.sublist (part.map _)
    exact offers.perm (players.map _)
  · obtain ⟨dungeon, common⟩ := fits.dungeon
    exact ⟨dungeon, fun entry there => common entry (sub.subset (perm.mem_iff.mpr there))⟩

namespace LFGQueue

theorem count_present (check : List Nat) : ∀ {before : Counted},
    (∀ guid ∈ check, ∃ data, q.queueData guid = some data) →
    ∃ counted, q.count w before check = .ok counted := by
  induction check with
  | nil => exact fun {before} _ => ⟨before, rfl⟩
  | cons guid check ih =>
    intro before present
    unfold count
    split
    · obtain ⟨data, found⟩ := present guid mem_cons_self
      simp only [found]
      exact ih fun other there => present other (mem_cons_of_mem _ there)
    · exact ⟨before, rfl⟩

theorem count_few (small : q.Small) {check : List Nat} : ∀ {before counted : Counted},
    q.count w before check = .ok counted →
    before.numLfgGroups + check.countP w.isLfgGroup ≤ 1 →
    before.numPlayers + (check.flatMap q.rolesOf).length ≤ maxGroupSize →
    counted.numLfgGroups ≤ 1 ∧ counted.numPlayers ≤ maxGroupSize := by
  induction check with
  | nil =>
    intro before counted ends few fits
    obtain rfl := Except.ok.inj ends
    exact ⟨by simpa using few, by simpa using fits⟩
  | cons guid check ih =>
    intro before counted ends few fits
    unfold count at ends
    rw [countP_cons] at few
    rw [flatMap_cons, length_append] at fits
    split at ends
    · split at ends
      · cases ends
      · rename_i data found
        have roles : q.rolesOf guid = data.roles := by
          unfold rolesOf
          rw [found]
          rfl
        rw [roles] at fits
        apply ih ends
        · dsimp only
          omega
        · have size : data.roles.length ≤ 5 := small guid data found
          have within : before.numPlayers + (data.roles.length +
            (check.flatMap q.rolesOf).length) ≤ 5 := fits
          dsimp only
          rw [Nat.mod_eq_of_lt (by omega)]
          show before.numPlayers + data.roles.length + _ ≤ 5
          omega
    · rename_i stops
      omega

theorem addPlayers_all (players : LfgRolesMap) : ∀ {roles : LfgRolesMap},
    (OrderedMap.keys (roles ++ players)).Nodup →
    (∀ player ∈ players, ∀ other ∈ roles, Tolerates w player other) →
    players.Pairwise (Tolerates w) →
    (players.foldl (addPlayer w) roles).length = roles.length + players.length := by
  induction players with
  | nil => exact fun _ _ _ => rfl
  | cons player players ih =>
    intro roles distinct before together
    have ⟨mates, others⟩ := pairwise_cons.mp together
    have tolerated : ¬ (roles.any fun other =>
        other.1 ≠ player.1 && w.hasIgnore player.1 other.1) = true := by
      rw [Bool.not_eq_true, any_eq_false]
      intro other there
      have tolerates := before player mem_cons_self other there
      unfold Tolerates at tolerates
      simp [tolerates]
    have fresh : player.1 ∉ OrderedMap.keys roles := by
      intro there
      unfold OrderedMap.keys at distinct there
      rw [map_append, nodup_append] at distinct
      exact distinct.2.2 _ there _ (mem_map_of_mem mem_cons_self) rfl
    have joins : addPlayer w roles player = OrderedMap.insert player.1 player.2 roles := by
      unfold addPlayer
      rw [if_neg tolerated]
    have perm := OrderedMap.insert_perm player.2 fresh
    rw [foldl_cons, joins, ih _ _ others, perm.length_eq]
    · simp only [length_cons]
      omega
    · have moved : (OrderedMap.insert player.1 player.2 roles ++ players).Perm
          (roles ++ player :: players) :=
        (perm.append_right players).trans perm_middle.symm
      exact (moved.map _).nodup_iff.mpr distinct
    · intro later there other mem
      rcases mem_cons.mp (perm.mem_iff.mp mem) with rfl | old
      · exact tolerates_symm (mates later there)
      · exact before later (mem_cons_of_mem _ there) other old

end LFGQueue

/-- What a check of entries that are all in the queue leaves: its verdict is cached. -/
structure Checked (q : LFGQueue) (check : List Nat) (ends : LFGQueue × LfgCompatibility) : Prop where
  data : ends.1.queueData = q.queueData
  cached : ends.1.compatibleMap = Function.update q.compatibleMap check.toFinset (some ends.2)
  current : ends.1.currentQueue.Sublist q.currentQueue
  new : ends.1.newToQueue.Sublist q.newToQueue

theorem checked_setCompatibles (q : LFGQueue) (check : List Nat) (compatibles : LfgCompatibility) :
    Checked q check (q.setCompatibles check.toFinset compatibles, compatibles) :=
  ⟨rfl, rfl, List.Sublist.refl _, List.Sublist.refl _⟩

theorem checked_propose (q : LFGQueue) (check : List Nat) (counted : LFGQueue.Counted)
    (roles : LfgRolesMap) (dungeons : Finset Nat) :
    Checked q check (q.propose w check counted roles dungeons) := by
  have removed : ∀ (guids : List Nat) (q : LFGQueue),
      let after := guids.foldl
        (fun q guid => (q.removeFromNewQueue guid).removeFromCurrentQueue guid) q
      after.compatibleMap = q.compatibleMap ∧ after.currentQueue.Sublist q.currentQueue ∧
        after.newToQueue.Sublist q.newToQueue := by
    intro guids
    induction guids with
    | nil => exact fun q => ⟨rfl, List.Sublist.refl _, List.Sublist.refl _⟩
    | cons guid guids ih =>
      intro q
      have ⟨cache, current, new⟩ := ih ((q.removeFromNewQueue guid).removeFromCurrentQueue guid)
      exact ⟨cache, current.trans filter_sublist, new.trans filter_sublist⟩
  unfold LFGQueue.propose
  simp only
  split
  · exact checked_setCompatibles q check _
  split
  · exact checked_setCompatibles q check _
  have ⟨cache, current, new⟩ := removed check q
  have ⟨data, _⟩ := removeAll_data check q
  refine ⟨data, ?_, current, new⟩
  unfold LFGQueue.setCompatibles
  simp only [cache]

theorem propose_compatible (q : LFGQueue) (check : List Nat) (counted : LFGQueue.Counted)
    (roles : LfgRolesMap) (dungeons : Finset Nat) :
    (q.propose w check counted roles dungeons).2.notCompatible = false := by
  unfold LFGQueue.propose
  simp only
  split
  · rfl
  · split <;> rfl

theorem checked_checkEntries (present : ∀ guid ∈ check, ∃ data, q.queueData guid = some data) :
    Checked q check (q.checkEntries w check) := by
  obtain ⟨counted, counts⟩ :=
    @LFGQueue.count_present w q check ⟨0, 0, 0, fun _ => 0⟩ present
  unfold LFGQueue.checkEntries
  simp only [counts]
  split
  · exact checked_setCompatibles q check _
  split
  · exact checked_setCompatibles q check _
  split
  · exact checked_setCompatibles q check _
  split
  · split
    · exact checked_setCompatibles q check _
    split
    · exact checked_setCompatibles q check _
    split
    · exact checked_setCompatibles q check _
    · exact checked_propose q check counted _ _
  · exact checked_propose q check counted _ _

theorem mem_commonDungeons (someone : check ≠ []) {dungeon : Nat}
    (common : ∀ entry ∈ check, dungeon ∈ q.dungeonsOf entry) :
    dungeon ∈ q.commonDungeons check := by
  have folded : ∀ (rest : List Nat) (dungeons : Finset Nat), dungeon ∈ dungeons →
      (∀ entry ∈ rest, dungeon ∈ q.dungeonsOf entry) →
      dungeon ∈ rest.foldl (fun dungeons other => dungeons ∩ q.dungeonsOf other) dungeons := by
    intro rest
    induction rest with
    | nil => exact fun _ there _ => there
    | cons first rest ih =>
      intro dungeons there each
      exact ih _ (Finset.mem_inter.mpr ⟨there, each first mem_cons_self⟩)
        fun entry later => each entry (mem_cons_of_mem _ later)
  cases check with
  | nil => exact absurd rfl someone
  | cons first rest =>
    exact folded rest _ (common first mem_cons_self)
      fun entry later => common entry (mem_cons_of_mem _ later)

/-- Every entry has some players, and at most five. -/
def Populated (q : LFGQueue) : Prop :=
  ∀ guid data, q.queueData guid = some data → data.roles ≠ [] ∧ data.roles.length ≤ maxGroupSize

theorem Populated.small (populated : Populated q) : q.Small :=
  fun guid data found => (populated guid data found).2

theorem checkEntries_single (small : q.Small) {guid : Nat}
    (present : ∃ data, q.queueData guid = some data) :
    (q.checkEntries w [guid]).2.notCompatible = false := by
  have there : ∀ entry ∈ [guid], ∃ data, q.queueData entry = some data := by
    intro entry mem
    rw [mem_singleton.mp mem]
    exact present
  obtain ⟨counted, counts⟩ := @LFGQueue.count_present w q [guid] ⟨0, 0, 0, fun _ => 0⟩ there
  obtain ⟨data, found⟩ := present
  have size : ([guid].flatMap q.rolesOf).length ≤ maxGroupSize := by
    rw [flatMap_singleton]
    unfold LFGQueue.rolesOf
    rw [found]
    exact small guid data found
  have one : [guid].countP w.isLfgGroup ≤ 1 := countP_le_length
  have ⟨groups, players⟩ := LFGQueue.count_few small counts
    (by rw [Nat.zero_add]; exact one) (by rw [Nat.zero_add]; exact size)
  unfold LFGQueue.checkEntries
  simp only [counts]
  split
  · rfl
  rw [if_neg (Nat.not_lt.mpr groups), if_neg (Nat.not_lt.mpr players), if_neg (by simp)]
  exact propose_compatible q [guid] counted _ _

/-- Several entries are compatible exactly when they fit together. -/
theorem checkEntries_several (populated : Populated q) (several : 1 < check.length)
    (present : ∀ guid ∈ check, ∃ data, q.queueData guid = some data) :
    (q.checkEntries w check).2.notCompatible = false ↔ Fits w q check := by
  have small := populated.small
  have someone : check ≠ [] := length_pos_iff.mp (Nat.lt_of_succ_lt several)
  obtain ⟨counted, counts⟩ := @LFGQueue.count_present w q check ⟨0, 0, 0, fun _ => 0⟩ present
  have exact_ := fun few fits => LFGQueue.count_ok small counts few fits
  have within := LFGQueue.count_few small counts
  simp only [Nat.zero_add] at exact_ within
  obtain ⟨ordered, most, all⟩ := @LFGQueue.addPlayers_length w
    (check.flatMap q.rolesOf) [] List.Pairwise.nil
  have larger := @LFGQueue.addPlayers_all w (check.flatMap q.rolesOf) []
  rw [← LFGQueue.gather_eq] at ordered most all larger
  simp only [length_nil, Nat.zero_add, nil_append] at most all larger
  have whole : Fits w q check → (q.gather w check).length = (check.flatMap q.rolesOf).length :=
    fun fits => larger fits.distinct (fun _ _ _ mem => (not_mem_nil mem).elim) fits.tolerant
  unfold LFGQueue.checkEntries
  simp only [counts]
  rw [if_neg fun single => absurd single.1 (Nat.ne_of_gt several)]
  split
  · rename_i groups
    apply iff_of_false Bool.true_eq_false.mp
    intro fits
    exact absurd groups (Nat.not_lt.mpr (within fits.oneGroup fits.five).1)
  rename_i fewGroups
  split
  · rename_i players
    apply iff_of_false Bool.true_eq_false.mp
    intro fits
    exact absurd players (Nat.not_lt.mpr (within fits.oneGroup fits.five).2)
  rename_i few
  obtain ⟨_, players, groups⟩ := exact_ (Nat.not_lt.mp fewGroups) (Nat.not_lt.mp few)
  have atMost : counted.numPlayers ≤ 5 := Nat.not_lt.mp few
  split
  · rename_i missing
    apply iff_of_false Bool.true_eq_false.mp
    intro fits
    have size := whole fits
    omega
  rename_i nobodyMissing
  obtain ⟨perm, _, tolerant⟩ := all (by omega)
  have somebody : q.gather w check ≠ [] := by
    obtain ⟨first, rest, rfl⟩ := exists_cons_of_ne_nil someone
    obtain ⟨data, found⟩ := present first mem_cons_self
    obtain ⟨player, _, eq⟩ := exists_cons_of_ne_nil (populated first data found).1
    have mem : player ∈ (first :: rest).flatMap q.rolesOf := by
      apply mem_flatMap.mpr ⟨first, mem_cons_self, _⟩
      unfold LFGQueue.rolesOf
      rw [found, Option.elim_some, eq]
      exact mem_cons_self
    exact ne_nil_of_mem (perm.mem_iff.mpr mem)
  have roles := @checkGroupRoles_iff (q.gather w check)
    (by rw [perm.length_eq, ← players]; omega) somebody
  split
  · rename_i bad
    apply iff_of_false Bool.true_eq_false.mp
    intro fits
    obtain ⟨assigned, chosen⟩ := fits.roles
    have good := roles.mpr (chosen.perm (perm.map _))
    rw [good] at bad
    cases bad
  rename_i good
  split
  · rename_i none_
    apply iff_of_false Bool.true_eq_false.mp
    intro fits
    obtain ⟨dungeon, common⟩ := fits.dungeon
    have there := mem_commonDungeons someone common
    rw [none_] at there
    exact absurd there (Finset.notMem_empty dungeon)
  rename_i common
  apply iff_of_true (propose_compatible q check counted _ _)
  obtain ⟨assigned, chosen⟩ := roles.mp (by simpa using good)
  obtain ⟨dungeon, there⟩ := Finset.nonempty_iff_ne_empty.mpr common
  refine ⟨groups ▸ Nat.not_lt.mp fewGroups, players ▸ atMost, ?_, tolerant.imp tolerates_symm,
    chosen.perm (perm.symm.map _), dungeon, fun entry mem => ?_⟩
  · exact (perm.map _).nodup_iff.mp ordered.nodup
  · exact commonDungeons_subset entry mem there

variable {after : LFGQueue}

theorem Fits.congr
    (same : ∀ entry ∈ check, after.queueData entry = q.queueData entry) (fits : Fits w q check) :
    Fits w after check := by
  have roles : check.flatMap after.rolesOf = check.flatMap q.rolesOf := by
    apply flatMap_congr
    intro entry there
    unfold LFGQueue.rolesOf
    rw [same entry there]
  constructor
  · exact fits.oneGroup
  · rw [roles]
    exact fits.five
  · rw [roles]
    exact fits.distinct
  · rw [roles]
    exact fits.tolerant
  · rw [roles]
    exact fits.roles
  · obtain ⟨dungeon, common⟩ := fits.dungeon
    refine ⟨dungeon, fun entry there => ?_⟩
    unfold LFGQueue.dungeonsOf
    rw [same entry there]
    exact common entry there

/-- A verdict on some entries. -/
def Right (w : World) (q : LFGQueue) (check : List Nat) (compatibles : LfgCompatibility) : Prop :=
  compatibles.notCompatible = false ↔ check.length = 1 ∨ Fits w q check

variable {compatibles : LfgCompatibility}

theorem Right.congr (right : Right w q check compatibles)
    (same : ∀ entry ∈ check, after.queueData entry = q.queueData entry) :
    Right w after check compatibles := by
  unfold Right at right ⊢
  rw [right]
  constructor
  · exact Or.imp_right fun fits => fits.congr same
  · exact Or.imp_right fun fits => fits.congr fun entry there => (same entry there).symm

theorem right_checkEntries (populated : Populated q) (someone : check ≠ [])
    (present : ∀ guid ∈ check, ∃ data, q.queueData guid = some data) :
    Right w q check (q.checkEntries w check).2 := by
  by_cases one : check.length = 1
  · obtain ⟨guid, rfl⟩ := length_eq_one_iff.mp one
    exact iff_of_true (checkEntries_single populated.small (present guid mem_cons_self)) (.inl rfl)
  have several : 1 < check.length := by
    have := length_pos_iff.mpr someone
    omega
  unfold Right
  rw [checkEntries_several populated several present, or_iff_right one]

theorem Right.fewer {fewer : List Nat} {all some_ : LfgCompatibility}
    (right : Right w q check all) (part : Right w q fewer some_) (within : fewer.Subperm check)
    (someone : fewer ≠ []) (compatible : all.notCompatible = false) :
    some_.notCompatible = false := by
  apply part.mpr
  rcases right.mp compatible with one | fits
  · left
    have most := within.length_le
    have least := length_pos_iff.mpr someone
    omega
  · exact .inr (fits.subperm within)

/-- A verdict that says whether entries are compatible, and nothing about a proposal. -/
def LfgCompatibility.judges (compatibles : LfgCompatibility) : Prop :=
  compatibles ≠ .pending ∧ compatibles ≠ .badStates ∧ compatibles ≠ .matched

/-- The cached verdicts are right for the entries that they are about. -/
def Truthful (w : World) (q : LFGQueue) : Prop :=
  ∀ key compatibles, q.compatibleMap key = some compatibles → compatibles.judges →
    ∃ check, check.Nodup ∧ check ≠ [] ∧ check.length ≤ maxGroupSize ∧ check.toFinset = key ∧
      (∀ guid ∈ check, ∃ data, q.queueData guid = some data) ∧ Right w q check compatibles

theorem Truthful.congr (truthful : Truthful w q)
    (data : after.queueData = q.queueData) (cached : after.compatibleMap = q.compatibleMap) :
    Truthful w after := by
  intro key compatibles there judged
  rw [cached] at there
  obtain ⟨check, distinct, someone, few, eq, present, right⟩ := truthful key compatibles there judged
  refine ⟨check, distinct, someone, few, eq, ?_, right.congr fun entry _ => congrFun data entry⟩
  rw [data]
  exact present

theorem Truthful.update (truthful : Truthful w q) (distinct : check.Nodup) (someone : check ≠ [])
    (few : check.length ≤ maxGroupSize)
    (present : ∀ guid ∈ check, ∃ data, q.queueData guid = some data)
    (data : after.queueData = q.queueData)
    (cached : after.compatibleMap =
      Function.update q.compatibleMap check.toFinset (some compatibles))
    (right : compatibles.judges → Right w q check compatibles) : Truthful w after := by
  intro key verdict there judged
  rw [cached] at there
  by_cases here : key = check.toFinset
  · rw [here, update_self] at there
    obtain rfl := Option.some.inj there
    refine ⟨check, distinct, someone, few, here.symm, ?_,
      (right judged).congr fun entry _ => congrFun data entry⟩
    rw [data]
    exact present
  · rw [update_of_ne here] at there
    obtain ⟨other, distinct, someone, few, eq, present, right⟩ := truthful key verdict there judged
    refine ⟨other, distinct, someone, few, eq, ?_, right.congr fun entry _ => congrFun data entry⟩
    rw [data]
    exact present

/-- What a search leaves of the queue: the data, and fewer entries in the lists. -/
structure Shrinks (q after : LFGQueue) : Prop where
  data : after.queueData = q.queueData
  current : after.currentQueue.Sublist q.currentQueue
  new : after.newToQueue.Sublist q.newToQueue

theorem Shrinks.refl (q : LFGQueue) : Shrinks q q :=
  ⟨rfl, List.Sublist.refl _, List.Sublist.refl _⟩

theorem Shrinks.trans {middle : LFGQueue} (first : Shrinks q middle)
    (second : Shrinks middle after) : Shrinks q after :=
  ⟨second.data.trans first.data, second.current.trans first.current, second.new.trans first.new⟩

theorem Checked.shrinks {ends : LFGQueue × LfgCompatibility}
    (checked : Checked q check ends) : Shrinks q ends.1 :=
  ⟨checked.data, checked.current, checked.new⟩

theorem Populated.congr (populated : Populated q)
    (data : after.queueData = q.queueData) : Populated after := by
  unfold Populated
  rw [data]
  exact populated

/-- `CheckCompatibility` says what the tests say, and caches nothing else. -/
theorem checkCompatibility_right (populated : Populated q) (check : List Nat) :
    check.Nodup → check ≠ [] → check.length ≤ maxGroupSize →
    (∀ guid ∈ check, ∃ data, q.queueData guid = some data) →
    Right w q check (q.checkCompatibility w check).2 ∧
      Shrinks q (q.checkCompatibility w check).1 ∧
      (Truthful w q → Truthful w (q.checkCompatibility w check).1) := by
  induction check with
  | nil => exact fun _ someone => absurd rfl someone
  | cons front rest ih =>
    intro distinct someone few present
    have direct : ∀ after : LFGQueue, Shrinks q after →
        Right w q (front :: rest) (after.checkEntries w (front :: rest)).2 ∧
        Shrinks q (after.checkEntries w (front :: rest)).1 ∧
        (Truthful w after → Truthful w (after.checkEntries w (front :: rest)).1) := by
      intro after shrinks
      have there : ∀ guid ∈ front :: rest, ∃ data, after.queueData guid = some data := by
        rw [shrinks.data]
        exact present
      have right := right_checkEntries (w := w) (populated.congr shrinks.data) someone there
      have checked := checked_checkEntries (w := w) there
      refine ⟨right.congr fun entry _ => (congrFun shrinks.data entry).symm,
        shrinks.trans checked.shrinks, fun truthful => ?_⟩
      exact truthful.update distinct someone few there checked.data checked.cached fun _ => right
    unfold LFGQueue.checkCompatibility
    rw [if_neg (Nat.not_lt.mpr few)]
    split
    · rename_i several
      have nonempty : rest ≠ [] := by
        rintro rfl
        exact absurd several (by simp)
      have shorter : rest.length ≤ maxGroupSize := (Nat.le_succ _).trans few
      obtain ⟨right, shrinks, keeps⟩ := ih (nodup_cons.mp distinct).2 nonempty shorter
        fun guid there => present guid (mem_cons_of_mem _ there)
      simp only
      split
      · rename_i refused
        have wrong : Right w q (front :: rest) (q.checkCompatibility w rest).2 := by
          have whole := direct q (Shrinks.refl q)
          apply iff_of_false (by rw [refused]; exact Bool.true_eq_false.mp)
          rintro (one | fits)
          · omega
          · have good := right.mpr (.inr (fits.subperm
              (sublist_cons_self front rest).subperm))
            rw [refused] at good
            cases good
        refine ⟨wrong, ⟨shrinks.data, shrinks.current, shrinks.new⟩, fun truthful => ?_⟩
        have cached := checked_setCompatibles (q.checkCompatibility w rest).1 (front :: rest)
          (q.checkCompatibility w rest).2
        refine (keeps truthful).update distinct someone few ?_ cached.data cached.cached
          fun _ => wrong.congr fun entry _ => congrFun shrinks.data entry
        rw [shrinks.data]
        exact present
      · obtain ⟨whole, less, still⟩ := direct _ shrinks
        exact ⟨whole, less, fun truthful => still (keeps truthful)⟩
    · exact direct q (Shrinks.refl q)

theorem Truthful.unjudged (truthful : Truthful w q) {key : Finset Nat} (silent : ¬ compatibles.judges)
    (data : after.queueData = q.queueData)
    (cached : after.compatibleMap = Function.update q.compatibleMap key (some compatibles)) :
    Truthful w after := by
  intro other verdict there judged
  rw [cached] at there
  by_cases here : other = key
  · rw [here, update_self] at there
    rw [← Option.some.inj there] at judged
    exact absurd judged silent
  rw [update_of_ne here] at there
  obtain ⟨check, distinct, someone, few, eq, present, right⟩ :=
    truthful other verdict there judged
  refine ⟨check, distinct, someone, few, eq, ?_, right.congr fun entry _ => congrFun data entry⟩
  rw [data]
  exact present

theorem truthful_compatibilityOf (populated : Populated q) (truthful : Truthful w q)
    (distinct : check.Nodup)
    (present : ∀ guid ∈ check, ∃ data, q.queueData guid = some data) :
    Truthful w (q.compatibilityOf w check).1 ∧ Shrinks q (q.compatibilityOf w check).1 := by
  have found : Truthful w (q.cachedOrChecked w check).1 ∧
      Shrinks q (q.cachedOrChecked w check).1 := by
    unfold LFGQueue.cachedOrChecked
    simp only
    split
    · by_cases someone : check = []
      · rw [someone]
        exact ⟨truthful, Shrinks.refl q⟩
      · by_cases few : check.length ≤ maxGroupSize
        · obtain ⟨_, shrinks, keeps⟩ :=
            checkCompatibility_right populated check distinct someone few present
          exact ⟨keeps truthful, shrinks⟩
        · obtain ⟨front, rest, rfl⟩ := exists_cons_of_ne_nil someone
          unfold LFGQueue.checkCompatibility
          rw [if_pos (Nat.not_le.mp few)]
          exact ⟨truthful, Shrinks.refl q⟩
    · exact ⟨truthful, Shrinks.refl q⟩
  unfold LFGQueue.compatibilityOf
  simp only
  split
  · exact ⟨found.1.unjudged (fun judged => judged.2.2 rfl) rfl rfl,
      found.2.trans ⟨rfl, List.Sublist.refl _, List.Sublist.refl _⟩⟩
  · exact found

/-- Entries in the lists have data. -/
def Listed (q : LFGQueue) : Prop :=
  ∀ guid, guid ∈ q.newToQueue ∨ guid ∈ q.currentQueue → ∃ data, q.queueData guid = some data

/-- No entry is listed twice, up to what `list.remove` takes away at once. -/
def Once (q : LFGQueue) : Prop :=
  q.currentQueue.Nodup ∧ ∀ guid ∈ q.newToQueue, guid ∉ q.currentQueue

theorem Listed.shrinks (listed : Listed q) (shrinks : Shrinks q after) : Listed after := by
  intro guid there
  rw [shrinks.data]
  exact listed guid (there.imp (shrinks.new.subset ·) (shrinks.current.subset ·))

theorem Once.shrinks (once : Once q) (shrinks : Shrinks q after) : Once after :=
  ⟨once.1.sublist shrinks.current, fun guid there current =>
    once.2 guid (shrinks.new.subset there) (shrinks.current.subset current)⟩

/-- What every step of a run keeps. -/
structure Honest (w : World) (q : LFGQueue) : Prop where
  populated : Populated q
  listed : Listed q
  truthful : Truthful w q

/-- A turn of `FindGroups`: the entry that was taken out of the new ones waits with the others, or is
part of a proposal. -/
theorem honest_findGroups (honest : Honest w q) (once : Once q) : Honest w (q.findGroups w) := by
  have kept : Honest w (q.findGroups w) ∧ Once (q.findGroups w) := by
    apply @LFGQueue.findGroups_keeps q w (fun q => Honest w q ∧ Once q) _ ⟨honest, once⟩
    rintro now frontguid rest waiting ⟨honest, once⟩
    have inNew : frontguid ∈ now.newToQueue := waiting ▸ mem_cons_self
    have takes : Shrinks now (now.removeFromNewQueue frontguid) :=
      ⟨rfl, List.Sublist.refl _, filter_sublist⟩
    have present := honest.listed frontguid (.inl inNew)
    have start : Truthful w (now.removeFromNewQueue frontguid) := honest.truthful.congr rfl rfl
    have distinct : ([frontguid] ++ now.currentQueue).Nodup :=
      nodup_cons.mpr ⟨once.2 frontguid inNew, once.1⟩
    have there : ∀ guid ∈ [frontguid] ++ now.currentQueue, ∃ data,
        now.queueData guid = some data := by
      intro guid mem
      rcases mem_cons.mp mem with rfl | later
      · exact present
      · exact honest.listed guid (.inr later)
    have searched : Truthful w ((now.removeFromNewQueue frontguid).findNewGroups w [frontguid]
          (now.removeFromNewQueue frontguid).currentQueue).1 ∧
        Shrinks (now.removeFromNewQueue frontguid)
          ((now.removeFromNewQueue frontguid).findNewGroups w [frontguid]
            (now.removeFromNewQueue frontguid).currentQueue).1 := by
      apply @LFGQueue.findNewGroups_keeps _ w
        (fun q => Truthful w q ∧ Shrinks (now.removeFromNewQueue frontguid) q) _ _ _
        ⟨start, Shrinks.refl _⟩
      rintro looked check within ⟨truthful, shrinks⟩
      have data : looked.queueData = now.queueData := shrinks.data
      have ⟨after, less⟩ := truthful_compatibilityOf (honest.populated.congr data) truthful
        (distinct.sublist within) fun guid mem => by
          rw [data]
          exact there guid (within.subset mem)
      exact ⟨after, shrinks.trans less⟩
    have shrinks := takes.trans searched.2
    have gone : frontguid ∉ (now.removeFromNewQueue frontguid).newToQueue := by
      intro mem
      have apart := (mem_filter.mp mem).2
      simp at apart
    split
    · exact ⟨⟨honest.populated.congr shrinks.data, honest.listed.shrinks shrinks, searched.1⟩,
        once.shrinks shrinks⟩
    have after := once.shrinks shrinks
    refine ⟨⟨honest.populated.congr shrinks.data, ?_, searched.1.congr rfl rfl⟩, ?_, ?_⟩
    · intro guid mem
      rcases mem with new | current
      · exact honest.listed.shrinks shrinks guid (.inl new)
      rcases mem_append.mp current with old | front
      · exact honest.listed.shrinks shrinks guid (.inr old)
      rw [mem_singleton.mp front]
      obtain ⟨data, found⟩ := present
      exact ⟨data, (congrFun shrinks.data frontguid).trans found⟩
    · have absent : frontguid ∉ ((now.removeFromNewQueue frontguid).findNewGroups w [frontguid]
          (now.removeFromNewQueue frontguid).currentQueue).1.currentQueue :=
        fun mem => once.2 frontguid inNew (shrinks.current.subset mem)
      exact List.Nodup.append after.1 (nodup_singleton _) (disjoint_singleton.mpr absent)
    · intro guid new current
      rcases mem_append.mp current with old | front
      · exact after.2 guid new old
      · rw [mem_singleton.mp front] at new
        exact gone (searched.2.new.subset new)
  exact kept.1

/-- Worlds with the same ignore lists and the same dungeon groups. -/
structure SameTests (w other : World) : Prop where
  hasIgnore : ∀ guid1 guid2, other.hasIgnore guid1 guid2 = w.hasIgnore guid1 guid2
  isLfgGroup : ∀ guid, other.isLfgGroup guid = w.isLfgGroup guid

variable {other : World}

theorem SameTests.symm (same : SameTests w other) : SameTests other w :=
  ⟨fun guid1 guid2 => (same.hasIgnore guid1 guid2).symm, fun guid => (same.isLfgGroup guid).symm⟩

theorem Fits.world (same : SameTests w other) (fits : Fits w q check) : Fits other q check := by
  have groups : other.isLfgGroup = w.isLfgGroup := funext same.isLfgGroup
  refine ⟨groups ▸ fits.oneGroup, fits.five, fits.distinct, fits.tolerant.imp ?_, fits.roles,
    fits.dungeon⟩
  intro player mate tolerates
  exact (same.hasIgnore player.1 mate.1).trans tolerates

theorem Truthful.world (same : SameTests w other) (truthful : Truthful w q) : Truthful other q := by
  intro key compatibles there judged
  obtain ⟨check, distinct, someone, few, eq, present, right⟩ := truthful key compatibles there judged
  refine ⟨check, distinct, someone, few, eq, present, right.trans ?_⟩
  exact or_congr_right ⟨fun fits => fits.world same, fun fits => fits.world same.symm⟩

theorem Honest.world (same : SameTests w other) (honest : Honest w q) :
    Honest other q := ⟨honest.populated, honest.listed, honest.truthful.world same⟩

inductive QueueCall where
  | addQueueData (guid : Nat) (data : LfgQueueData)
  | removeFromQueue (guid : Nat)
  | addToQueue (guid : Nat)
  | findGroups (w : World)

def QueueCall.apply (q : LFGQueue) : QueueCall → LFGQueue
  | addQueueData guid data => q.addQueueData guid data
  | removeFromQueue guid => q.removeFromQueue guid
  | addToQueue guid => q.addToQueue guid
  | findGroups w => q.findGroups w

/-- What callers promise: a joining player or group has one to five players, and the ignore lists and
dungeon groups do not change. -/
def QueueCall.Promised (w : World) : QueueCall → Prop
  | addQueueData _ data => data.roles ≠ [] ∧ data.roles.length ≤ maxGroupSize
  | findGroups other => SameTests w other
  | _ => True

/-- Data replaces other data only where no cached verdict is about it, or with the same dungeons and
roles; and a search finds no entry listed twice. -/
def QueueCall.Careful (q : LFGQueue) : QueueCall → Prop
  | addQueueData guid data =>
    (∀ key compatibles, guid ∈ key → q.compatibleMap key = some compatibles →
      ¬ compatibles.judges) ∨
    ∃ old, q.queueData guid = some old ∧ old.dungeons = data.dungeons ∧ old.roles = data.roles
  | findGroups _ => Once q
  | _ => True

theorem honest_addToQueue (honest : Honest w q) (guid : Nat) : Honest w (q.addToQueue guid) := by
  unfold LFGQueue.addToQueue
  split
  · exact honest
  rename_i data found
  refine ⟨honest.populated.congr rfl, fun other there => ?_, honest.truthful.congr rfl rfl⟩
  rcases there with new | current
  · rcases mem_append.mp new with old | added
    · exact honest.listed other (.inl old)
    · rw [mem_singleton.mp added]
      exact ⟨data, found⟩
  · exact honest.listed other (.inr current)

theorem honest_addQueueData (honest : Honest w q) {guid : Nat} {data : LfgQueueData}
    (promised : (QueueCall.addQueueData guid data).Promised w)
    (careful : (QueueCall.addQueueData guid data).Careful q) :
    Honest w (q.addQueueData guid data) := by
  apply honest_addToQueue
  refine ⟨?_, ?_, ?_⟩
  · intro other found there
    by_cases here : other = guid
    · have eq : some data = some found := by
        rw [← there, here]
        exact (update_self guid _ q.queueData).symm
      rw [← Option.some.inj eq]
      exact promised
    · exact honest.populated other found ((update_of_ne here _ _).symm.trans there)
  · intro other there
    by_cases here : other = guid
    · exact ⟨data, here ▸ update_self guid _ q.queueData⟩
    · obtain ⟨found, eq⟩ := honest.listed other there
      exact ⟨found, (update_of_ne here _ _).trans eq⟩
  · intro key compatibles cached judged
    obtain ⟨check, distinct, someone, few, eq, present, right⟩ :=
      honest.truthful key compatibles cached judged
    by_cases about : guid ∈ check
    · -- The new data are the old ones, as far as the tests read them.
      have inKey : guid ∈ key := eq ▸ mem_toFinset.mpr about
      rcases careful with silent | ⟨old, stands, dungeons, roles⟩
      · exact absurd judged (silent key compatibles inKey cached)
      have same : Function.update q.queueData guid (some data) = q.queueData := by
        apply update_eq_self_iff.mpr
        rw [stands]
        cases old
        cases data
        simp only at dungeons roles
        subst dungeons
        subst roles
        rfl
      refine ⟨check, distinct, someone, few, eq, ?_, right.congr fun entry _ => congrFun same entry⟩
      intro other there
      obtain ⟨found, eq⟩ := present other there
      exact ⟨found, (congrFun same other).trans eq⟩
    · have same : ∀ entry ∈ check,
          Function.update q.queueData guid (some data) entry = q.queueData entry :=
        fun entry there => update_of_ne (ne_of_mem_of_not_mem there about) _ _
      refine ⟨check, distinct, someone, few, eq, ?_, right.congr same⟩
      intro other there
      obtain ⟨found, eq⟩ := present other there
      exact ⟨found, (same other there).trans eq⟩

theorem mentions_of_mem {key : Finset Nat} {guid : Nat} (there : guid ∈ key) : mentions key guid := by
  have among : ∀ (texts : List (List Char)) (text : List Char), text ∈ texts →
      text ∈ texts.intersperse ['|'] := by
    intro texts
    induction texts with
    | nil => exact fun _ mem => (not_mem_nil mem).elim
    | cons first rest ih =>
      intro text mem
      cases rest with
      | nil => exact mem
      | cons second rest =>
        rcases mem_cons.mp mem with rfl | later
        · exact mem_cons_self
        · exact mem_cons_of_mem _ (mem_cons_of_mem _ (ih text later))
  exact infix_of_mem_flatten (among _ _ (mem_map_of_mem ((Finset.mem_sort _).mpr there)))

theorem honest_removeFromQueue (honest : Honest w q) (guid : Nat) :
    Honest w (q.removeFromQueue guid) := by
  have still : ∀ other, other ≠ guid →
      (q.removeFromQueue guid).queueData other = q.queueData other :=
    fun other apart => update_of_ne apart _ _
  refine ⟨?_, ?_, ?_⟩
  · intro other found there
    by_cases here : other = guid
    · have gone : (q.removeFromQueue guid).queueData other = none :=
        here ▸ update_self guid _ q.queueData
      rw [gone] at there
      cases there
    · exact honest.populated other found ((still other here).symm.trans there)
  · intro other there
    have kept : other ≠ guid ∧ (other ∈ q.newToQueue ∨ other ∈ q.currentQueue) := by
      rcases there with new | current
      · have ⟨mem, apart⟩ := mem_filter.mp new
        exact ⟨of_decide_eq_true apart, .inl mem⟩
      · have ⟨mem, apart⟩ := mem_filter.mp current
        exact ⟨of_decide_eq_true apart, .inr mem⟩
    rw [still other kept.1]
    exact honest.listed other kept.2
  · intro key compatibles cached judged
    have silent : ¬ mentions key guid := by
      intro mentioned
      rw [show (q.removeFromQueue guid).compatibleMap key = none from if_pos mentioned] at cached
      cases cached
    rw [show (q.removeFromQueue guid).compatibleMap key = q.compatibleMap key from
      if_neg silent] at cached
    obtain ⟨check, distinct, someone, few, eq, present, right⟩ :=
      honest.truthful key compatibles cached judged
    have apart : ∀ entry ∈ check, entry ≠ guid := by
      rintro entry there rfl
      exact silent (mentions_of_mem (eq ▸ mem_toFinset.mpr there))
    refine ⟨check, distinct, someone, few, eq, ?_,
      right.congr fun entry there => still entry (apart entry there)⟩
    intro entry there
    rw [still entry (apart entry there)]
    exact present entry there

theorem honest_apply (honest : Honest w q) {call : QueueCall} (promised : call.Promised w)
    (careful : call.Careful q) : Honest w (call.apply q) := by
  cases call with
  | addQueueData guid data => exact honest_addQueueData honest promised careful
  | removeFromQueue guid => exact honest_removeFromQueue honest guid
  | addToQueue guid => exact honest_addToQueue honest guid
  | findGroups other =>
    have same : SameTests w other := promised
    exact (honest_findGroups (honest.world same) careful).world same.symm

/-- A cached verdict is what a fresh check in any order says, and more entries than incompatible ones are
incompatible. -/
structure CacheTells (w : World) (q : LFGQueue) : Prop where
  verdicts : ∀ key compatibles, q.compatibleMap key = some compatibles → compatibles.judges →
    ∀ check, check.Nodup → check.toFinset = key →
      (q.checkCompatibility w check).2.notCompatible = compatibles.notCompatible
  supersets : ∀ check more, check.Nodup → check ≠ [] → more.Nodup → check ⊆ more →
    (∀ guid ∈ more, ∃ data, q.queueData guid = some data) →
    (q.checkCompatibility w check).2.notCompatible = true →
    (q.checkCompatibility w more).2.notCompatible = true

theorem checkCompatibility_many (many : maxGroupSize < check.length) :
    (q.checkCompatibility w check).2 = .wrongGroupSize := by
  cases check with
  | nil => rfl
  | cons front rest =>
    unfold LFGQueue.checkCompatibility
    rw [if_pos many]

theorem Honest.tells (honest : Honest w q) : CacheTells w q := by
  constructor
  · intro key compatibles cached judged check distinct eq
    obtain ⟨known, knownDistinct, someone, few, eq', present, right⟩ :=
      honest.truthful key compatibles cached judged
    have same : check.toFinset = known.toFinset := eq.trans eq'.symm
    have perm : check.Perm known := perm_of_nodup_nodup_toFinset_eq distinct knownDistinct same
    have nonempty : check ≠ [] := by
      rintro rfl
      exact someone perm.symm.eq_nil
    have fresh := (checkCompatibility_right (w := w) honest.populated check distinct nonempty
      (perm.length_eq ▸ few) fun guid there => present guid (perm.mem_iff.mp there)).1
    have agree : (q.checkCompatibility w check).2.notCompatible = false ↔
        compatibles.notCompatible = false :=
      ⟨fun compatible => fresh.fewer right perm.symm.subperm someone compatible,
        fun compatible => right.fewer fresh perm.subperm nonempty compatible⟩
    exact Bool.eq_iff_iff.mpr (by
      rw [← Bool.not_eq_false, ← Bool.not_eq_false]
      exact not_congr agree)
  · intro check more distinct someone moreDistinct within present refused
    by_cases few : more.length ≤ maxGroupSize
    · have sub : check.Subperm more := subperm_of_subset distinct within
      have nonempty : more ≠ [] := by
        rintro rfl
        exact someone (subset_nil.mp within)
      have whole := (checkCompatibility_right (w := w) honest.populated more moreDistinct nonempty
        few present).1
      have part := (checkCompatibility_right (w := w) honest.populated check distinct someone
        (sub.length_le.trans few) fun guid there => present guid (within there)).1
      by_contra compatible
      have good := whole.fewer part sub someone (Bool.not_eq_true _ ▸ compatible)
      rw [refused] at good
      cases good
    · rw [checkCompatibility_many (Nat.not_le.mp few)]
      rfl

/-- The queue as a machine without answers. -/
def queueStep (q : LFGQueue) (call : QueueCall) : LFGQueue × Unit := (call.apply q, ())

theorem honest_empty (w : World) : Honest w .empty := by
  constructor
  · intro guid data found
    cases found
  · rintro guid (there | there) <;> cases there
  · intro key compatibles cached
    cases cached

/-- In a run of careful calls the cache tells what a fresh check would. -/
theorem cache_tells_of_careful (w : World) (calls : List QueueCall)
    (promised : ∀ call ∈ calls, call.Promised w)
    (careful : ∀ t ∈ Run.trace queueStep .empty calls, t.input.Careful t.before) :
    CacheTells w (Run.final queueStep .empty calls) := by
  have end_ := Run.history queueStep (fun q call => call.Promised w ∧ call.Careful q)
    (fun _ q => Honest w q) (fun _ q call honest ok => honest_apply honest ok.1 ok.2) [] .empty calls
    (honest_empty w) fun t there =>
      ⟨promised _ (Run.input_mem queueStep .empty there), careful t there⟩
  exact end_.tells

theorem LfgQueueData.alone_ordered (guid : Nat) (role : UInt8) :
    OrderedMap.Ordered [(guid, role)] :=
  List.pairwise_singleton _ _

/-- A player who waits for one dungeon. -/
def LfgQueueData.forDungeon (guid : Nat) (role : UInt8) (dungeon : Nat) : LfgQueueData :=
  ⟨{dungeon}, [(guid, role)], Finset.singleton_nonempty _, alone_ordered guid role⟩

/-- A tank and a healer look for different dungeons, and a search finds that they do not fit. -/
def apart : List QueueCall :=
  [.addQueueData 1 (.forDungeon 1 2 6), .addQueueData 2 (.forDungeon 2 4 7), .findGroups .waiting]

/-- The healer joins again for the dungeon of the tank: the cached verdict stays. -/
theorem cache_tells_fails : ¬ ∀ (w : World) (calls : List QueueCall),
    (∀ call ∈ calls, call.Promised w) → CacheTells w (Run.final queueStep .empty calls) := by
  intro claim
  have told := claim .waiting (apart ++ [.addQueueData 2 (.forDungeon 2 4 6)]) (by
    intro call there
    simp only [apart, cons_append, nil_append, mem_cons, not_mem_nil, or_false] at there
    rcases there with rfl | rfl | rfl | rfl
    · exact ⟨cons_ne_nil _ _, by decide⟩
    · exact ⟨cons_ne_nil _ _, by decide⟩
    · exact ⟨fun _ _ => rfl, fun _ => rfl⟩
    · exact ⟨cons_ne_nil _ _, by decide⟩)
  have fresh := told.verdicts [2, 1].toFinset .noDungeons (by decide +kernel)
    (by refine ⟨?_, ?_, ?_⟩ <;> decide) [2, 1] (by decide) rfl
  exact absurd fresh (by decide +kernel)

/-- Nothing is replaced before the healer joins again. -/
theorem cache_tells_of_careful_apart : CacheTells .waiting (Run.final queueStep .empty apart) := by
  apply cache_tells_of_careful
  · intro call there
    simp only [apart, mem_cons, not_mem_nil, or_false] at there
    rcases there with rfl | rfl | rfl
    · exact ⟨cons_ne_nil _ _, by decide⟩
    · exact ⟨cons_ne_nil _ _, by decide⟩
    · exact ⟨fun _ _ => rfl, fun _ => rfl⟩
  · intro t there
    simp only [apart, Run.trace, mem_cons, not_mem_nil, or_false] at there
    rcases there with rfl | rfl | rfl
    · exact .inl fun _ _ _ cached => by cases cached
    · exact .inl fun _ _ _ cached => by cases cached
    · exact ⟨by decide +kernel, by decide +kernel⟩

end OpenWoW.DungeonFinder
