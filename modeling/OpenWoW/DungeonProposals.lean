import OpenWoW.DungeonQueue

/-! The proposals of the dungeon finder are legal parties. -/
namespace OpenWoW.DungeonFinder

open List

namespace LFGQueue

variable {w : World} {q : LFGQueue}

/-- Entries of at most five players. -/
def Small (q : LFGQueue) : Prop :=
  ∀ guid data, q.queueData guid = some data → data.roles.length ≤ maxGroupSize

/-- A count that neither found two dungeon groups nor too many players looked at all entries. -/
theorem count_ok (small : q.Small) {check : List Nat} : ∀ {before counted : Counted},
    q.count w before check = .ok counted → counted.numLfgGroups ≤ 1 →
    counted.numPlayers ≤ maxGroupSize →
    (∀ guid ∈ check, ∃ data, q.queueData guid = some data) ∧
    counted.numPlayers = before.numPlayers + (check.flatMap q.rolesOf).length ∧
    counted.numLfgGroups = before.numLfgGroups + check.countP w.isLfgGroup := by
  induction check with
  | nil =>
    intro before counted ends _ _
    obtain rfl := Except.ok.inj ends
    exact ⟨fun guid there => (not_mem_nil there).elim, rfl, rfl⟩
  | cons guid check ih =>
    intro before counted ends few fits
    unfold count at ends
    split at ends
    · rename_i goesOn
      split at ends
      · cases ends
      rename_i data found
      have size : data.roles.length ≤ 5 := small guid data found
      have within : before.numPlayers ≤ 5 := goesOn.2
      obtain ⟨present, players, groups⟩ := ih ends few fits
      have roles : q.rolesOf guid = data.roles := by
        unfold rolesOf
        rw [found]
        rfl
      refine ⟨?_, ?_, ?_⟩
      · intro other there
        rcases mem_cons.mp there with rfl | later
        · exact ⟨data, found⟩
        · exact present other later
      · rw [players, flatMap_cons, length_append, roles]
        dsimp only
        rw [Nat.mod_eq_of_lt (by omega)]
        omega
      · rw [groups, countP_cons]
        dsimp only
        omega
    · rename_i stops
      obtain rfl := Except.ok.inj ends
      omega

theorem gather_eq (w : World) (q : LFGQueue) (check : List Nat) :
    q.gather w check = (check.flatMap q.rolesOf).foldl (addPlayer w) [] :=
  foldl_flatMap.symm

/-- Two players do not ignore each other. -/
def Tolerates (w : World) (player other : Nat × UInt8) : Prop :=
  w.hasIgnore player.1 other.1 = false

theorem hasIgnore_comm (w : World) (guid1 guid2 : Nat) :
    w.hasIgnore guid1 guid2 = w.hasIgnore guid2 guid1 := by
  unfold World.hasIgnore
  rw [Bool.and_comm (w.isOnline guid1), Bool.or_comm]

theorem addPlayer_ordered {roles : LfgRolesMap} (ordered : OrderedMap.Ordered roles)
    (player : Nat × UInt8) : OrderedMap.Ordered (addPlayer w roles player) := by
  unfold addPlayer
  split
  · exact ordered
  · exact ordered.insert player.1 player.2

theorem addPlayer_length {roles : LfgRolesMap} (ordered : OrderedMap.Ordered roles)
    (player : Nat × UInt8) :
    ((addPlayer w roles player).Perm (player :: roles) ∧ player.1 ∉ OrderedMap.keys roles ∧
      ∀ other ∈ roles, Tolerates w player other) ∨
    (addPlayer w roles player).length = roles.length := by
  unfold addPlayer
  split
  · exact .inr rfl
  rename_i tolerated
  by_cases there : player.1 ∈ OrderedMap.keys roles
  · exact .inr (OrderedMap.length_insert_of_mem ordered player.2 there)
  refine .inl ⟨OrderedMap.insert_perm player.2 there, there, fun other mem => ?_⟩
  have apart : other.1 ≠ player.1 := fun same => there (same ▸ mem_map_of_mem mem)
  rw [Bool.not_eq_true, any_eq_false] at tolerated
  have both := tolerated other mem
  unfold Tolerates
  simpa [apart] using both

theorem addPlayers_length (players : LfgRolesMap) : ∀ {roles : LfgRolesMap},
    OrderedMap.Ordered roles →
    OrderedMap.Ordered (players.foldl (addPlayer w) roles) ∧
    (players.foldl (addPlayer w) roles).length ≤ roles.length + players.length ∧
    (roles.length + players.length ≤ (players.foldl (addPlayer w) roles).length →
      (players.foldl (addPlayer w) roles).Perm (roles ++ players) ∧
      (∀ player ∈ players, ∀ other ∈ roles, Tolerates w player other) ∧
      players.Pairwise (fun first later => Tolerates w later first)) := by
  induction players with
  | nil =>
    intro roles ordered
    exact ⟨ordered, Nat.le_refl _, fun _ =>
      ⟨by simp, fun _ there => (not_mem_nil there).elim, .nil⟩⟩
  | cons player players ih =>
    intro roles ordered
    obtain ⟨after, most, all⟩ := ih (addPlayer_ordered (w := w) ordered player)
    rw [foldl_cons, length_cons]
    rcases addPlayer_length (w := w) ordered player with ⟨joins, fresh, tolerates⟩ | same
    · have larger := joins.length_eq
      rw [length_cons] at larger
      refine ⟨after, by omega, fun enough => ?_⟩
      obtain ⟨perm, before, others⟩ := all (by omega)
      refine ⟨perm.trans ((joins.append_right players).trans perm_middle.symm), ?_, ?_⟩
      · intro one there other mem
        rcases mem_cons.mp there with rfl | later
        · exact tolerates other mem
        · exact before one later other (joins.mem_iff.mpr (mem_cons_of_mem _ mem))
      · refine pairwise_cons.mpr ⟨fun later there => ?_, others⟩
        exact before later there player (joins.mem_iff.mpr mem_cons_self)
    · exact ⟨after, by omega, fun enough => absurd enough (by omega)⟩

end LFGQueue

structure Party (offered assigned : LfgRolesMap) : Prop where
  distinct : (OrderedMap.keys assigned).Nodup
  five : assigned.length = maxGroupSize
  each : List.Forall₂ (fun offer chosen => chosen.1 = offer.1 ∧ Single chosen.2 ∧
    chosen.2 &&& offer.2 = chosen.2) offered assigned
  tank : having PlayerRole.tank assigned = tanksNeeded
  healer : having PlayerRole.healer assigned = healersNeeded
  damage : having PlayerRole.damage assigned = dpsNeeded

theorem part_of_withoutLeader {part role : UInt8}
    (within : part &&& (role &&& ~~~PlayerRole.leader) = part) : part &&& role = part := by
  apply part_trans within
  rw [UInt8.and_assoc, UInt8.and_comm (~~~PlayerRole.leader), ← UInt8.and_assoc, UInt8.and_self]

variable {offered assigned : LfgRolesMap}

theorem party_of_checked
    (checked : checkGroupRoles offered = (assigned, true)) (five : offered.length = maxGroupSize)
    (distinct : (OrderedMap.keys offered).Nodup) : Party offered assigned := by
  have chosen := checkGroupRoles_sound (by rw [five]; decide) checked
  have keys : OrderedMap.keys assigned = OrderedMap.keys offered := by
    rw [chosen.keys]
    unfold OrderedMap.keys withoutLeader
    rw [map_map]
    rfl
  have length : assigned.length = 5 := by
    rw [chosen.length, withoutLeader, length_map, five]
  have each : List.Forall₂ (fun offer chosen : Nat × UInt8 => chosen.1 = offer.1 ∧
      Single chosen.2 ∧ chosen.2 &&& offer.2 = chosen.2) offered assigned := by
    have offers := chosen.each
    rw [withoutLeader, forall₂_map_left_iff] at offers
    exact offers.imp fun offer choice chosen =>
      ⟨chosen.1, chosen.2.1, part_of_withoutLeader chosen.2.2.1⟩
  have all : ∀ entry ∈ assigned, Single entry.2 := by
    intro entry there
    obtain ⟨offer, _, _, single, _⟩ := exists_partner each.flip there
    exact single
  have total := having_total assigned
  rw [countP_eq_length.mpr fun entry there => decide_eq_true (all entry there), length] at total
  have tank : having PlayerRole.tank assigned ≤ 1 := chosen.tank
  have healer : having PlayerRole.healer assigned ≤ 1 := chosen.healer
  have damage : having PlayerRole.damage assigned ≤ 3 := chosen.damage
  have counts : having PlayerRole.tank assigned = 1 ∧ having PlayerRole.healer assigned = 1 ∧
      having PlayerRole.damage assigned = 3 := by omega
  exact ⟨keys ▸ distinct, length, each, counts.1, counts.2.1, counts.2.2⟩

structure Legal (w : World) (q : LFGQueue) (proposal : LfgProposal) : Prop where
  present : ∀ entry ∈ proposal.queues, ∃ data, q.queueData entry = some data
  five : proposal.players.length = maxGroupSize
  distinct : (OrderedMap.keys proposal.players).Nodup
  members : ∀ player, player ∈ OrderedMap.keys proposal.players ↔
    ∃ entry ∈ proposal.queues, player ∈ OrderedMap.keys (q.rolesOf entry)
  roles : ∀ entry ∈ proposal.queues, ∀ offer ∈ q.rolesOf entry,
    ∃ chosen ∈ proposal.players, chosen.1 = offer.1 ∧ Single chosen.2.role ∧
      chosen.2.role &&& offer.2 = chosen.2.role
  tank : proposal.players.countP (·.2.role = PlayerRole.tank) = tanksNeeded
  healer : proposal.players.countP (·.2.role = PlayerRole.healer) = healersNeeded
  damage : proposal.players.countP (·.2.role = PlayerRole.damage) = dpsNeeded
  tolerant : ∀ entry ∈ proposal.queues, ∀ other ∈ proposal.queues, entry ≠ other →
    ∀ player ∈ OrderedMap.keys (q.rolesOf entry), ∀ mate ∈ OrderedMap.keys (q.rolesOf other),
      w.hasIgnore player mate = false
  dungeon : ∀ entry ∈ proposal.queues, proposal.dungeonId ∈ q.dungeonsOf entry
  oneGroup : proposal.queues.countP w.isLfgGroup ≤ 1

variable {dungeons : Finset Nat}

theorem selectRandom_mem (number : Nat) (some_ : dungeons.Nonempty) :
    LFGQueue.selectRandom number dungeons ∈ dungeons := by
  have within : number % dungeons.card < (dungeons.sort (· ≤ ·)).length := by
    rw [Finset.length_sort]
    exact Nat.mod_lt _ some_.card_pos
  unfold LFGQueue.selectRandom
  rw [getElem?_eq_getElem within, Option.getD_some]
  exact (Finset.mem_sort _).mp (getElem_mem within)

theorem Party.keys (party : Party offered assigned) :
    OrderedMap.keys assigned = OrderedMap.keys offered := by
  have each := party.each
  clear party
  induction each with
  | nil => rfl
  | cons first _ ih => rw [OrderedMap.keys_cons, OrderedMap.keys_cons, ih, first.1]

variable {w : World} {q : LFGQueue}

/-- No player of an entry ignores one of another. -/
def AllTolerate (w : World) (q : LFGQueue) (entry other : Nat) : Prop :=
  ∀ player ∈ q.rolesOf entry, ∀ mate ∈ q.rolesOf other, w.hasIgnore mate.1 player.1 = false

instance : Std.Symm (AllTolerate w q) where
  symm entry other tolerates player mem mate there := by
    rw [LFGQueue.hasIgnore_comm]
    exact tolerates mate there player mem

variable {check : List Nat}

/-- A proposal for entries that all tests passed is legal. -/
theorem makeProposal_legal {made : LFGQueue} {counted : LFGQueue.Counted}
    (present : ∀ entry ∈ check, ∃ data, q.queueData entry = some data)
    (party : Party offered assigned) (players : offered.Perm (check.flatMap q.rolesOf))
    (tolerant : check.Pairwise (AllTolerate w q))
    (some_ : dungeons.Nonempty) (common : ∀ entry ∈ check, dungeons ⊆ q.dungeonsOf entry)
    (oneGroup : check.countP w.isLfgGroup ≤ 1) :
    Legal w q (made.makeProposal w check counted assigned dungeons) := by
  have keys : OrderedMap.keys (made.makeProposal w check counted assigned dungeons).players =
      OrderedMap.keys assigned := map_map
  have counts : ∀ role, (made.makeProposal w check counted assigned dungeons).players.countP
      (·.2.role = role) = having role assigned := fun role => countP_map
  constructor
  · exact present
  · exact (length_map _).trans party.five
  · rw [keys]
    exact party.distinct
  · intro player
    rw [keys, party.keys]
    have joined : player ∈ OrderedMap.keys offered ↔
        player ∈ OrderedMap.keys (check.flatMap q.rolesOf) := (players.map _).mem_iff
    rw [joined]
    unfold OrderedMap.keys
    simp only [mem_map, mem_flatMap]
    constructor
    · rintro ⟨offer, ⟨entry, queued, mem⟩, rfl⟩
      exact ⟨entry, queued, offer, mem, rfl⟩
    · rintro ⟨entry, queued, offer, mem, rfl⟩
      exact ⟨offer, ⟨entry, queued, mem⟩, rfl⟩
  · intro entry queued offer mem
    have offers : offer ∈ offered :=
      players.mem_iff.mpr (mem_flatMap.mpr ⟨entry, queued, mem⟩)
    obtain ⟨chosen, there, same, single, part⟩ := exists_partner party.each offers
    exact ⟨_, mem_map_of_mem there, same, single, part⟩
  · exact (counts _).trans party.tank
  · exact (counts _).trans party.healer
  · exact (counts _).trans party.damage
  · intro entry queued other also apart player mem mate there
    obtain ⟨offer, offers, rfl⟩ := mem_map.mp mem
    obtain ⟨second, seconds, rfl⟩ := mem_map.mp there
    rw [LFGQueue.hasIgnore_comm]
    exact tolerant.forall queued also apart offer offers second seconds
  · intro entry queued
    exact common entry queued (selectRandom_mem _ some_)
  · exact oneGroup

variable {after : LFGQueue}

theorem Legal.congr {proposal : LfgProposal} (legal : Legal w q proposal)
    (same : after.queueData = q.queueData) : Legal w after proposal := by
  have roles : after.rolesOf = q.rolesOf := by
    unfold LFGQueue.rolesOf
    rw [same]
  have dungeons : after.dungeonsOf = q.dungeonsOf := by
    unfold LFGQueue.dungeonsOf
    rw [same]
  constructor
  · rw [same]
    exact legal.present
  · exact legal.five
  · exact legal.distinct
  · rw [roles]
    exact legal.members
  · rw [roles]
    exact legal.roles
  · exact legal.tank
  · exact legal.healer
  · exact legal.damage
  · rw [roles]
    exact legal.tolerant
  · rw [dungeons]
    exact legal.dungeon
  · exact legal.oneGroup

/-- Entries have at most five players, and those of several passed `CheckGroupRoles` when they joined. -/
structure RoleChecked (q : LFGQueue) : Prop where
  small : q.Small
  passed : ∀ guid data, q.queueData guid = some data → 1 < data.roles.length →
    (checkGroupRoles data.roles).2 = true

theorem RoleChecked.congr (content : RoleChecked q)
    (same : after.queueData = q.queueData) : RoleChecked after := by
  constructor
  · unfold LFGQueue.Small
    rw [same]
    exact content.small
  · rw [same]
    exact content.passed

/-- The entries keep their data, and the proposals that are added are legal. -/
def Extends (w : World) (q after : LFGQueue) : Prop :=
  after.queueData = q.queueData ∧
    ∃ added, after.proposals = q.proposals ++ added ∧
      (RoleChecked q → ∀ proposal ∈ added, Legal w q proposal)

theorem Extends.refl (w : World) (q : LFGQueue) : Extends w q q :=
  ⟨rfl, [], (append_nil _).symm, fun _ _ there => (not_mem_nil there).elim⟩

theorem Extends.trans {middle : LFGQueue} (first : Extends w q middle)
    (second : Extends w middle after) : Extends w q after := by
  obtain ⟨data, added, eq, legal⟩ := first
  obtain ⟨data', added', eq', legal'⟩ := second
  refine ⟨data'.trans data, added ++ added', by rw [eq', eq, append_assoc], ?_⟩
  intro content proposal there
  rcases mem_append.mp there with old | new
  · exact legal content proposal old
  · exact (legal' (content.congr data) proposal new).congr data.symm

theorem Extends.still (data : after.queueData = q.queueData)
    (proposals : after.proposals = q.proposals) : Extends w q after :=
  ⟨data, [], by rw [proposals, append_nil], fun _ _ there => (not_mem_nil there).elim⟩

theorem extends_removeFromQueue {guid : Nat} (missing : q.queueData guid = none) :
    Extends w q (q.removeFromQueue guid) := by
  apply Extends.still
  · exact Function.update_eq_self_iff.mpr missing.symm
  · rfl

theorem removeAll_data (check : List Nat) : ∀ q : LFGQueue,
    (check.foldl (fun q guid => (q.removeFromNewQueue guid).removeFromCurrentQueue guid)
      q).queueData = q.queueData ∧
    (check.foldl (fun q guid => (q.removeFromNewQueue guid).removeFromCurrentQueue guid)
      q).proposals = q.proposals := by
  induction check with
  | nil => exact fun q => ⟨rfl, rfl⟩
  | cons guid check ih => exact fun q => ih _

theorem extends_propose {counted : LFGQueue.Counted} {roles : LfgRolesMap}
    (legal : RoleChecked q → counted.numPlayers = maxGroupSize →
      Legal w q (q.makeProposal w check counted roles dungeons)) :
    Extends w q (q.propose w check counted roles dungeons).1 := by
  unfold LFGQueue.propose
  split
  · exact Extends.still rfl rfl
  rename_i five
  split
  · exact Extends.still rfl rfl
  have ⟨data, proposals⟩ := removeAll_data check q
  refine ⟨data, [_], congrArg (· ++ _) proposals, fun content proposal there => ?_⟩
  rw [mem_singleton.mp there]
  exact legal content (not_not.mp five)

theorem count_error : ∀ {before : LFGQueue.Counted} {guid : Nat},
    q.count w before check = .error guid → q.queueData guid = none := by
  induction check with
  | nil =>
    intro before guid ends
    cases ends
  | cons first check ih =>
    intro before guid ends
    unfold LFGQueue.count at ends
    split at ends
    · split at ends
      · rename_i missing
        rw [← Except.error.inj ends]
        exact missing
      · exact ih ends
    · cases ends

theorem commonDungeons_subset : ∀ entry ∈ check, q.commonDungeons check ⊆ q.dungeonsOf entry := by
  have folded : ∀ (rest : List Nat) (dungeons : Finset Nat),
      rest.foldl (fun dungeons other => dungeons ∩ q.dungeonsOf other) dungeons ⊆ dungeons ∧
      ∀ entry ∈ rest, rest.foldl (fun dungeons other => dungeons ∩ q.dungeonsOf other) dungeons ⊆
        q.dungeonsOf entry := by
    intro rest
    induction rest with
    | nil => exact fun dungeons => ⟨fun _ there => there, fun _ there => (not_mem_nil there).elim⟩
    | cons first rest ih =>
      intro dungeons
      have ⟨within, each⟩ := ih (dungeons ∩ q.dungeonsOf first)
      refine ⟨within.trans Finset.inter_subset_left, fun entry there => ?_⟩
      rcases mem_cons.mp there with rfl | later
      · exact within.trans Finset.inter_subset_right
      · exact each entry later
  cases check with
  | nil => exact fun _ there => (not_mem_nil there).elim
  | cons first rest =>
    intro entry there
    have ⟨within, each⟩ := folded rest (q.dungeonsOf first)
    rcases mem_cons.mp there with rfl | later
    · exact within
    · exact each entry later

theorem extends_checkEntries (q : LFGQueue)
    (someone : check ≠ []) : Extends w q (q.checkEntries w check).1 := by
  unfold LFGQueue.checkEntries
  simp only
  split
  · rename_i guid ends
    exact extends_removeFromQueue (count_error ends)
  rename_i counted ends
  split
  · exact Extends.still rfl rfl
  rename_i notLess
  split
  · exact Extends.still rfl rfl
  rename_i fewGroups
  split
  · exact Extends.still rfl rfl
  rename_i fits
  have counts := fun content : RoleChecked q =>
    LFGQueue.count_ok content.small ends (Nat.not_lt.mp fewGroups) (Nat.not_lt.mp fits)
  simp only [Nat.zero_add] at counts
  split
  · split
    · exact Extends.still rfl rfl
    rename_i noIgnores
    split
    · exact Extends.still rfl rfl
    rename_i goodRoles
    split
    · exact Extends.still rfl rfl
    rename_i common
    apply extends_propose
    intro content five
    obtain ⟨present, players, groups⟩ := counts content
    obtain ⟨ordered, most, all⟩ := @LFGQueue.addPlayers_length w
      (check.flatMap q.rolesOf) [] List.Pairwise.nil
    rw [← LFGQueue.gather_eq] at ordered most all
    simp only [length_nil, Nat.zero_add, nil_append] at most all
    have few : counted.numPlayers ≤ 5 := Nat.not_lt.mp fits
    obtain ⟨perm, _, tolerant⟩ := all (by omega)
    have tolerant := (pairwise_flatMap.mp tolerant).2
    apply makeProposal_legal present _ perm tolerant (Finset.nonempty_iff_ne_empty.mpr common)
      (commonDungeons_subset)
    · exact groups ▸ Nat.not_lt.mp fewGroups
    · apply party_of_checked
      · exact Prod.ext rfl (by simpa using goodRoles)
      · rw [perm.length_eq, ← players]
        exact five
      · exact ordered.nodup
  · rename_i single
    have one : check.length = 1 :=
      Nat.le_antisymm (Nat.not_lt.mp single) (length_pos_iff.mpr someone)
    obtain ⟨guid, rfl⟩ := length_eq_one_iff.mp one
    apply extends_propose
    intro content five
    obtain ⟨present, players, groups⟩ := counts content
    obtain ⟨data, found⟩ := present guid mem_cons_self
    have roles : q.rolesOf guid = data.roles := by
      unfold LFGQueue.rolesOf
      rw [found]
      rfl
    have dungeons : q.dungeonsOf guid = data.dungeons := by
      unfold LFGQueue.dungeonsOf
      rw [found]
      rfl
    have size : data.roles.length = maxGroupSize := by
      rw [← five, players, flatMap_singleton, roles]
    have checked := content.passed guid data found (by rw [size]; decide)
    simp only [headD_cons, roles, dungeons]
    apply makeProposal_legal present _ _ (pairwise_singleton _ _) data.someDungeon
    · intro entry there
      rw [mem_singleton.mp there, dungeons]
    · exact groups ▸ Nat.not_lt.mp fewGroups
    · exact data.roles
    · exact party_of_checked (Prod.ext rfl checked) size data.ordered.nodup
    · rw [flatMap_singleton, roles]

theorem extends_checkCompatibility (check : List Nat) : ∀ q : LFGQueue,
    Extends w q (q.checkCompatibility w check).1 := by
  induction check with
  | nil => exact fun q => Extends.refl w q
  | cons front rest ih =>
    intro q
    unfold LFGQueue.checkCompatibility
    split
    · exact Extends.refl w q
    split
    · simp only
      split
      · exact (ih q).trans (Extends.still rfl rfl)
      · exact (ih q).trans (extends_checkEntries _ (cons_ne_nil _ _))
    · exact extends_checkEntries q (cons_ne_nil _ _)

theorem extends_compatibilityOf (q : LFGQueue) (check : List Nat) :
    Extends w q (q.compatibilityOf w check).1 := by
  have found : Extends w q (q.cachedOrChecked w check).1 := by
    unfold LFGQueue.cachedOrChecked
    simp only
    split
    · exact extends_checkCompatibility check q
    · exact Extends.refl w q
  unfold LFGQueue.compatibilityOf
  simp only
  split
  · exact found.trans (Extends.still rfl rfl)
  · exact found

theorem extends_findGroups (q : LFGQueue) : Extends w q (q.findGroups w) := by
  apply LFGQueue.findGroups_keeps q _ (Extends.refl w q)
  intro now frontguid rest _ before
  have takes : Extends w now (now.removeFromNewQueue frontguid) := Extends.still rfl rfl
  have searched := @LFGQueue.findNewGroups_keeps (now.removeFromNewQueue frontguid) w
    (Extends w q) [frontguid] (now.removeFromNewQueue frontguid).currentQueue
    (fun looked check _ so => so.trans (extends_compatibilityOf looked check))
    (before.trans takes)
  split
  · exact searched
  · exact searched.trans (Extends.still rfl rfl)

/-- Everyone waits, and nobody ignores anybody. -/
def World.waiting : World where
  isGroupGuid := fun guid => 1000 ≤ guid
  state := fun _ => .queued
  oldState := fun _ => .none
  isOnline := fun _ => true
  hasOnIgnoreList := fun _ _ => false
  now := 0
  randomDungeon := fun _ => 0
  randomLeader := fun _ _ => false

/-- Five players without groups: two of them offer a second role. -/
def fiveRoles : List UInt8 := [10, 12, 8, 8, 8]

def LfgQueueData.solo (guid : Nat) (role : UInt8) : LfgQueueData :=
  ⟨{6, 7}, [(guid, role)], by decide, List.pairwise_singleton _ _⟩

def LFGQueue.five : LFGQueue :=
  { LFGQueue.empty with
    queueData := fun guid => (fiveRoles[guid]?).map (LfgQueueData.solo guid)
    newToQueue := [0, 1, 2, 3, 4] }

end OpenWoW.DungeonFinder
