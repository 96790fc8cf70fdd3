import OpenWoW.Guild
import OpenWoW.Lib.Run

/-! Rank ids are written down three times: in the ranks, by their place, and in the members. -/
namespace OpenWoW.Guilds

open List Option

/-- Every rank has the id of its place, every member a rank of the guild, and the guild master
every right. -/
structure Guild.Consistent (g : Guild) : Prop where
  numbered : ∀ (i : Nat) (info : RankInfo), g.ranks[i]? = some info → info.rankId = i
  known : ∀ member ∈ g.members, member.rankId < g.ranks.length
  master : ∃ info, g.ranks[0]? = some info ∧ info.rights = grRightAll

/-- A member whose rank the step changes gets one below the issuer's. -/
def BelowIssuer (t : Run.Taken State Request Bool) : Prop :=
  match t.input with
  | .updateMemberRank player _ _ => ∀ guid member changed,
      t.before.guild.getMember guid = some member →
      t.after.guild.getMember guid = some changed → changed.rankId ≠ member.rankId →
      ∃ issuer, t.before.guild.getMember player = some issuer ∧ issuer.rankId < changed.rankId
  | _ => True

/-- Only the last rank is removed, while nobody has it, and members get ranks that exist. -/
def Guild.KeepsRanks (g : Guild) : Request → Prop
  | .removeRank player rankId => g.removesRank player (toUInt8 rankId) = true →
      toUInt8 rankId + 1 = g.ranks.length ∧ ∀ member ∈ g.members, member.rankId ≠ toUInt8 rankId
  | .addMember guid rankId joins => g.isMember guid = false → joins = true →
      toUInt8 rankId = guildRankNone ∨ toUInt8 rankId < g.ranks.length
  | .setMemberRank player guid rank => g.setsMemberRank player guid rank = true →
      toUInt8 rank < g.ranks.length
  | .setNewGuildMaster player newMaster => g.isLeader player = true → g.isMember player = true →
      g.isMember newMaster = true → grInitiate < g.ranks.length
  | _ => True

namespace Guild

variable {g : Guild}

theorem getMember_mem {guid : Nat} {member : Member} (found : g.getMember guid = some member) :
    member ∈ g.members ∧ lowPart member.guid = lowPart guid :=
  ⟨mem_of_find?_eq_some found, by simpa using find?_some found⟩

theorem modifyMember_mem {guid : Nat} {member : Member} (f : Member → Member)
    (found : g.getMember guid = some member) : f member ∈ (g.modifyMember guid f).members := by
  obtain ⟨here, same⟩ := getMember_mem found
  exact mem_map.mpr ⟨member, here, if_pos same⟩

theorem mem_modifyMember {guid : Nat} {f : Member → Member} {member : Member}
    (here : member ∈ (g.modifyMember guid f).members) :
    (∃ old ∈ g.members, lowPart old.guid = lowPart guid ∧ member = f old) ∨ member ∈ g.members := by
  obtain ⟨old, there, rfl⟩ := mem_map.mp here
  split
  · next same => exact Or.inl ⟨old, there, same, rfl⟩
  · exact Or.inr there

theorem getMember_modifyMember (guid other : Nat) (f : Member → Member)
    (keepsGuid : ∀ member, (f member).guid = member.guid) :
    (g.modifyMember guid f).getMember other =
      (g.getMember other).map fun member =>
        if lowPart member.guid = lowPart guid then f member else member := by
  unfold getMember modifyMember
  rw [find?_map]
  congr 2
  funext member
  simp only [Function.comp_apply]
  split
  · rw [keepsGuid]
  · rfl

theorem toUInt8_of_lt {n : Nat} (small : n < 256) : toUInt8 n = n := by
  unfold toUInt8
  omega

theorem getRanksSize_of_le (few : g.ranks.length ≤ guildRanksMaxCount) :
    g.getRanksSize = g.ranks.length := toUInt8_of_lt (by unfold guildRanksMaxCount at few; omega)

theorem getLowestRankId_of_le (some_ : 0 < g.ranks.length)
    (few : g.ranks.length ≤ guildRanksMaxCount) : g.getLowestRankId = g.ranks.length - 1 := by
  unfold guildRanksMaxCount at few
  unfold getLowestRankId toUInt8
  omega

theorem Consistent.ranks_pos (consistent : g.Consistent) : 0 < g.ranks.length := by
  obtain ⟨info, first, _⟩ := consistent.master
  exact (List.getElem?_eq_some_iff.mp first).1

theorem Consistent.members {h : Guild} (consistent : g.Consistent) (same : h.ranks = g.ranks)
    (known : ∀ member ∈ h.members, member.rankId < g.ranks.length) : h.Consistent := by
  constructor
  · rw [same]
    exact consistent.numbered
  · rw [same]
    exact known
  · rw [same]
    exact consistent.master

theorem Consistent.changeRank (consistent : g.Consistent) (guid newRank : Nat)
    (known : toUInt8 newRank < g.ranks.length) :
    (g.modifyMember guid (·.changeRank newRank)).Consistent := by
  refine consistent.members ?_ fun member here => ?_
  · rfl
  rcases mem_modifyMember here with ⟨old, _, _, rfl⟩ | unchanged
  · exact known
  · exact consistent.known member unchanged

theorem Consistent.changeRank_iff (consistent : g.Consistent) {guid : Nat} {member : Member}
    (found : g.getMember guid = some member) (newRank : Nat) :
    (g.modifyMember guid (·.changeRank newRank)).Consistent ↔ toUInt8 newRank < g.ranks.length := by
  constructor
  · intro after
    exact after.known _ (modifyMember_mem _ found)
  · exact consistent.changeRank guid newRank

theorem Consistent.ranks {h : Guild} (consistent : g.Consistent) (same : h.members = g.members)
    (longer : g.ranks.length ≤ h.ranks.length)
    (numbered : ∀ (i : Nat) (info : RankInfo), h.ranks[i]? = some info → info.rankId = i)
    (master : ∃ info, h.ranks[0]? = some info ∧ info.rights = grRightAll) : h.Consistent := by
  constructor
  · exact numbered
  · intro member here
    rw [same] at here
    exact Nat.lt_of_lt_of_le (consistent.known member here) longer
  · exact master

theorem Consistent.modifyRank (consistent : g.Consistent) (rankId : Nat) (f : RankInfo → RankInfo)
    (keepsId : ∀ info, (f info).rankId = info.rankId)
    (keepsMaster : ∀ info, info.rankId = grGuildmaster → info.rights = grRightAll →
      (f info).rights = grRightAll) :
    ({ g with ranks := g.ranks.modify rankId f } : Guild).Consistent := by
  refine consistent.ranks ?_ ?_ ?_ ?_
  · rfl
  · simp
  · intro i info there
    rw [getElem?_modify] at there
    obtain ⟨old, before, rfl⟩ := map_eq_some_iff.mp there
    have id_ := consistent.numbered i old before
    split
    · rw [keepsId]
      exact id_
    · exact id_
  · obtain ⟨info, first, rights⟩ := consistent.master
    simp only [getElem?_modify, first]
    split
    · exact ⟨f info, rfl, keepsMaster info (consistent.numbered 0 info first) rights⟩
    · exact ⟨info, rfl, rights⟩

theorem Consistent.createRank (consistent : g.Consistent) (rights : Nat)
    (few : g.ranks.length ≤ guildRanksMaxCount) : (g.createRank rights).Consistent := by
  unfold Guild.createRank
  simp only
  split
  · exact consistent
  refine consistent.ranks ?_ ?_ ?_ ?_
  · rfl
  · simp
  · intro i info there
    rw [getElem?_append] at there
    split at there
    · exact consistent.numbered i info there
    next beyond =>
    have single := List.getElem?_eq_some_iff.mp there
    obtain ⟨bound, rfl⟩ := single
    simp only [length_singleton] at bound
    simp only [getElem_singleton, RankInfo.createMissingTabsIfNeeded, getRanksSize_of_le few]
    omega
  · obtain ⟨info, first, all⟩ := consistent.master
    exact ⟨info, by rw [getElem?_append_left consistent.ranks_pos]; exact first, all⟩

theorem createRank_length (rights : Nat) (few : g.ranks.length ≤ guildRanksMaxCount) :
    (g.createRank rights).ranks.length ≤ guildRanksMaxCount := by
  unfold createRank
  simp only
  split
  · exact few
  next room =>
  rw [getRanksSize_of_le few] at room
  rw [length_append, length_singleton]
  omega

theorem Consistent.eraseRank_iff (consistent : g.Consistent) {rankId : Nat}
    (there : rankId < g.ranks.length) (several : 1 < g.ranks.length) :
    ({ g with ranks := g.ranks.eraseIdx rankId } : Guild).Consistent ↔
      rankId + 1 = g.ranks.length ∧ ∀ member ∈ g.members, member.rankId ≠ rankId := by
  have length : (g.ranks.eraseIdx rankId).length = g.ranks.length - 1 := by
    rw [length_eraseIdx, if_pos there]
  constructor
  · intro after
    have last : rankId + 1 = g.ranks.length := by
      by_contra middle
      have next : rankId + 1 < g.ranks.length := by omega
      have before := consistent.numbered (rankId + 1) _ (getElem?_eq_getElem next)
      have shifted := after.numbered rankId g.ranks[rankId + 1] (by
        simp only [getElem?_eraseIdx, Nat.lt_irrefl, if_false, getElem?_eq_getElem next])
      omega
    refine ⟨last, fun member here holds => ?_⟩
    have bound := after.known member here
    simp only [length] at bound
    omega
  · intro ⟨last, unused⟩
    have kept : ∀ i, i < rankId → (g.ranks.eraseIdx rankId)[i]? = g.ranks[i]? := by
      intro i before
      rw [getElem?_eraseIdx, if_pos before]
    constructor
    · intro i info found
      have bound : i < (g.ranks.eraseIdx rankId).length :=
        (List.getElem?_eq_some_iff.mp found).1
      have inside : i < rankId := by omega
      simp only [kept i inside] at found
      exact consistent.numbered i info found
    · intro member here
      have bound := consistent.known member here
      have apart := unused member here
      simp only [length]
      omega
    · obtain ⟨info, first, all⟩ := consistent.master
      exact ⟨info, by simp only [kept 0 (by omega), first], all⟩

/-- The bank tabs of a rank leave its id, its rights and its gold alone. -/
theorem setRankBankTabs_spec (rankId : Nat) (rightsAndSlots : List BankRightsAndSlots) :
    ∃ f : RankInfo → RankInfo, (∀ info, (f info).rankId = info.rankId ∧
        (f info).rights = info.rights ∧ (f info).bankMoneyPerDay = info.bankMoneyPerDay) ∧
      rightsAndSlots.foldl (fun g r => g.setRankBankTabRightsAndSlots rankId r) g =
        { g with ranks := g.ranks.modify rankId f } := by
  induction rightsAndSlots generalizing g with
  | nil => exact ⟨id, fun _ => ⟨rfl, rfl, rfl⟩, by simp⟩
  | cons r rest ih =>
    rw [foldl_cons]
    obtain ⟨f, keeps, tabs⟩ := @ih (g.setRankBankTabRightsAndSlots rankId r)
    rw [tabs]
    unfold setRankBankTabRightsAndSlots
    split
    · rename_i tab
      refine ⟨f ∘ (·.setBankTabSlotsAndRights ⟨r.tabId, tab.1⟩ r), fun info => keeps _, ?_⟩
      dsimp only
      rw [modify_modify_eq]
    · exact ⟨f, keeps, rfl⟩

/-- What the guild master sets for a rank. -/
theorem handleSetRankInfo_spec (player rankId rights : Nat) (moneyPerDay : UInt32)
    (rightsAndSlots : List BankRightsAndSlots) :
    ∃ f : RankInfo → RankInfo, (∀ info, (f info).rankId = info.rankId ∧
        (f info).rights = (info.setRights rights).rights ∧ (f info).bankMoneyPerDay =
          ((info.setRights rights).setBankMoneyPerDay moneyPerDay).bankMoneyPerDay) ∧
      g.handleSetRankInfo player rankId rights moneyPerDay rightsAndSlots =
        if g.isLeader player && rankId < g.getRanksSize then
          { g with ranks := g.ranks.modify rankId f }
        else g := by
  let set (info : RankInfo) := (info.setRights rights).setBankMoneyPerDay moneyPerDay
  obtain ⟨f, keeps, tabs⟩ := @setRankBankTabs_spec { g with ranks := g.ranks.modify rankId set }
    rankId rightsAndSlots
  refine ⟨f ∘ set, fun info => keeps _, ?_⟩
  unfold handleSetRankInfo
  dsimp only
  rw [tabs]
  dsimp only
  rw [modify_modify_eq]

theorem handleSetRankInfo_consistent (consistent : g.Consistent) (player rankId rights : Nat)
    (moneyPerDay : UInt32) (rightsAndSlots : List BankRightsAndSlots) :
    (g.handleSetRankInfo player rankId rights moneyPerDay rightsAndSlots).Consistent := by
  obtain ⟨f, keeps, set⟩ :=
    @handleSetRankInfo_spec g player rankId rights moneyPerDay rightsAndSlots
  rw [set]
  split
  · exact consistent.modifyRank rankId f (fun info => (keeps info).1)
      fun info master _ => (keeps info).2.1.trans (if_pos master)
  · exact consistent

theorem handleSetRankInfo_length (player rankId rights : Nat) (moneyPerDay : UInt32)
    (rightsAndSlots : List BankRightsAndSlots) :
    (g.handleSetRankInfo player rankId rights moneyPerDay rightsAndSlots).ranks.length =
      g.ranks.length := by
  obtain ⟨f, _, set⟩ := @handleSetRankInfo_spec g player rankId rights moneyPerDay rightsAndSlots
  rw [set]
  split
  · exact length_modify _ _ _
  · rfl

theorem addMember_consistent_iff (w : World) (consistent : g.Consistent)
    (few : g.ranks.length ≤ guildRanksMaxCount) (guid rankId : Nat) (joins : Bool) :
    (g.addMember w guid rankId joins).Consistent ↔
      (g.isMember guid = false → joins = true →
        rankId = guildRankNone ∨ rankId < g.ranks.length) := by
  have some_ := consistent.ranks_pos
  unfold addMember
  split
  · rename_i refused
    constructor
    · intro _ outside joins
      simp [outside, joins] at refused
    · exact fun _ => consistent
  · rename_i joined
    simp only [Bool.or_eq_true, Bool.not_eq_true', not_or, Bool.not_eq_true,
      Bool.not_eq_false] at joined
    have known : (if rankId = guildRankNone then g.getLowestRankId else rankId) <
        g.ranks.length ↔ (rankId = guildRankNone ∨ rankId < g.ranks.length) := by
      rw [getLowestRankId_of_le some_ few]
      split <;> omega
    constructor
    · intro after _ _
      apply known.mp
      exact after.known _ ((w.rehash_perm _).mem_iff.mpr (mem_append_right _ mem_cons_self))
    · intro names
      refine consistent.members ?_ fun member here => ?_
      · rfl
      rcases mem_append.mp ((w.rehash_perm _).mem_iff.mp here) with old | added
      · exact consistent.known member old
      · obtain rfl := mem_singleton.mp added
        exact known.mpr (names joined.1 joined.2)

theorem setLeaderGUID_consistent (consistent : g.Consistent) (leader : Member) :
    (g.setLeaderGUID leader).Consistent :=
  @Consistent.changeRank { g with leaderGuid := leader.guid }
    (consistent.members rfl consistent.known) leader.guid grGuildmaster consistent.ranks_pos

theorem eraseMember_consistent (consistent : g.Consistent) (guid : Nat) :
    (g.eraseMember guid).Consistent := by
  refine consistent.members ?_ fun member here => ?_
  · rfl
  · exact consistent.known member (mem_of_mem_filter here)

theorem deleteMember_consistent (consistent : g.Consistent) (guid : Nat) (isDisbanding : Bool) :
    (g.deleteMember guid isDisbanding).Consistent := by
  unfold deleteMember
  split
  · split
    · exact consistent.members rfl fun member here => by cases here
    · exact eraseMember_consistent (setLeaderGUID_consistent consistent _) guid
  · exact eraseMember_consistent consistent guid

theorem getMember_setLeaderGUID {player : Nat} {member : Member}
    (found : g.getMember player = some member) (leader : Member) :
    (g.setLeaderGUID leader).getMember player =
      some (if lowPart member.guid = lowPart leader.guid then member.changeRank grGuildmaster
        else member) := by
  unfold setLeaderGUID
  rw [getMember_modifyMember _ _ (·.changeRank grGuildmaster) fun _ => rfl]
  exact congrArg _ found

theorem handleSetNewGuildMaster_consistent_iff (consistent : g.Consistent)
    (player newMaster : Nat) :
    (g.handleSetNewGuildMaster player newMaster).Consistent ↔
      (g.isLeader player = true → g.isMember player = true → g.isMember newMaster = true →
        grInitiate < g.ranks.length) := by
  unfold handleSetNewGuildMaster isMember
  split
  · rename_i leads
    cases old : g.getMember player with
    | none => simp [consistent]
    | some oldGuildMaster =>
      cases new : g.getMember newMaster with
      | none => simp [consistent]
      | some newGuildMaster =>
        simp only [leads, isSome_some, forall_const]
        exact (setLeaderGUID_consistent consistent newGuildMaster).changeRank_iff
          (getMember_setLeaderGUID old newGuildMaster) grInitiate
  · next stays => simp [consistent, stays]

theorem updatedRank_some {player guid newRank : Nat} {demote : Bool} (consistent : g.Consistent)
    (few : g.ranks.length ≤ guildRanksMaxCount)
    (updated : g.updatedRank player guid demote = some newRank) :
    newRank < g.ranks.length ∧
      ∃ issuer, g.getMember player = some issuer ∧ issuer.rankId < newRank := by
  unfold updatedRank at updated
  by_cases right : g.hasRankRight player (if demote then grRightDemote else grRightPromote) = true
  · rw [if_pos right] at updated
    split at updated
    · rename_i member issuer isMember isIssuer
      have known := consistent.known member (getMember_mem isMember).1
      have issuerKnown := consistent.known issuer (getMember_mem isIssuer).1
      rw [getLowestRankId_of_le consistent.ranks_pos few] at updated
      have plus : toUInt8 ((issuer.rankId : Int) + 1) = issuer.rankId + 1 :=
        @toUInt8_of_lt (issuer.rankId + 1) (by unfold guildRanksMaxCount at few; omega)
      rw [plus] at updated
      split at updated
      · cases updated
      split at updated
      · split at updated
        · cases updated
        · split at updated
          · cases updated
          · obtain rfl := some.inj updated
            exact ⟨by omega, issuer, isIssuer, by omega⟩
      · split at updated
        · cases updated
        · obtain rfl := some.inj updated
          exact ⟨by omega, issuer, isIssuer, by omega⟩
    · cases updated
  · rw [if_neg right] at updated
    cases updated

theorem handleUpdateMemberRank_consistent (consistent : g.Consistent)
    (few : g.ranks.length ≤ guildRanksMaxCount) (player guid : Nat) (demote : Bool) :
    (g.handleUpdateMemberRank player guid demote).Consistent := by
  unfold handleUpdateMemberRank
  split
  · rename_i newRank updated
    have ⟨known, _⟩ := updatedRank_some consistent few updated
    apply consistent.changeRank
    rw [toUInt8_of_lt (by unfold guildRanksMaxCount at few; omega)]
    exact known
  · exact consistent

theorem handleRemoveRank_consistent_iff (consistent : g.Consistent)
    (few : g.ranks.length ≤ guildRanksMaxCount) (player rankId : Nat) :
    (g.handleRemoveRank player rankId).Consistent ↔
      (g.removesRank player rankId = true →
        rankId + 1 = g.ranks.length ∧ ∀ member ∈ g.members, member.rankId ≠ rankId) := by
  unfold handleRemoveRank
  split
  · rename_i removes
    simp only [removes, forall_const]
    unfold removesRank at removes
    rw [getRanksSize_of_le few] at removes
    simp only [Bool.not_eq_true', Bool.or_eq_false_iff, decide_eq_false_iff_not,
      guildRanksMinCount] at removes
    exact consistent.eraseRank_iff (by omega) (by omega)
  · next stays => simp [consistent, stays]

end Guild

namespace Guild

theorem create_consistent (leaderGuid : Nat) :
    (create leaderGuid).Consistent ∧ (create leaderGuid).ranks.length = 5 := by
  have ids : (create leaderGuid).ranks.map (·.rankId) = List.range 5 := rfl
  have length : (create leaderGuid).ranks.length = 5 := rfl
  constructor
  · constructor
    · intro i info found
      have bound : i < 5 := length ▸ (List.getElem?_eq_some_iff.mp found).1
      have named := congrArg (·[i]?) ids
      simp only [getElem?_map, found, map_some, getElem?_range bound, some.injEq] at named
      exact named
    · intro member here
      cases here
    · exact ⟨_, rfl, rfl⟩
  · exact length

end Guild

section

variable (w : World) (s : State)

theorem withdrawMoney_guild (player amount : Nat) (repair : Bool) :
    (s.withdrawMoney player amount repair).1.guild.ranks = s.guild.ranks ∧
      ∀ member ∈ (s.withdrawMoney player amount repair).1.guild.members,
        ∃ old ∈ s.guild.members, member.rankId = old.rankId := by
  have same : s.guild.ranks = s.guild.ranks ∧
      ∀ member ∈ s.guild.members, ∃ old ∈ s.guild.members, member.rankId = old.rankId :=
    ⟨rfl, fun member here => ⟨member, here, rfl⟩⟩
  unfold State.withdrawMoney
  split
  · exact same
  split
  · exact same
  split
  · exact same
  simp only
  generalize (if repair then (s.wallets player, true)
    else Player.modifyMoney (s.wallets player) (toInt64 amount)) = paid
  split
  · refine ⟨rfl, fun member here => ?_⟩
    rcases Guild.mem_modifyMember here with ⟨old, there, _, rfl⟩ | unchanged
    · exact ⟨old, there, rfl⟩
    · exact ⟨member, unchanged, rfl⟩
  · exact same

theorem step_few (r : Request) (few : s.guild.ranks.length ≤ guildRanksMaxCount) :
    (step w s r).1.guild.ranks.length ≤ guildRanksMaxCount := by
  cases r with
  | addNewRank player =>
    simp only [step, State.withGuild, Guild.handleAddNewRank]
    split
    · exact few
    split
    · exact Guild.createRank_length _ few
    · exact few
  | removeRank player rankId =>
    simp only [step, State.withGuild, Guild.handleRemoveRank]
    split
    · exact Nat.le_trans (length_eraseIdx_le _ _) few
    · exact few
  | updateMemberRank player guid demote =>
    simp only [step, State.withGuild, Guild.handleUpdateMemberRank]
    split <;> exact few
  | setMemberRank player guid rank =>
    simp only [step, State.withGuild, Guild.handleSetMemberRank]
    split <;> exact few
  | changeMemberRank guid newRank =>
    simp only [step, State.withGuild, Guild.changeMemberRank]
    split <;> exact few
  | setNewGuildMaster player newMaster =>
    simp only [step, State.withGuild, Guild.handleSetNewGuildMaster]
    split
    · split <;> exact few
    · exact few
  | setRankInfo player rankId rights moneyPerDay rightsAndSlots =>
    simp only [step, State.withGuild]
    rw [Guild.handleSetRankInfo_length]
    exact few
  | addMember guid rankId joins =>
    simp only [step, State.withGuild, Guild.addMember]
    split <;> exact few
  | deleteMember guid isDisbanding =>
    simp only [step, State.withGuild, Guild.deleteMember]
    split
    · split <;> exact few
    · exact few
  | withdrawMoney player amount repair =>
    simp only [step]
    rw [(withdrawMoney_guild s player amount repair).1]
    exact few
  | depositMoney player amount =>
    simp only [step, State.handleGuildBankDepositMoney, State.depositMoney]
    split <;> exact few
  | resetTimes => exact few

theorem step_consistent_iff (r : Request) (consistent : s.guild.Consistent)
    (few : s.guild.ranks.length ≤ guildRanksMaxCount) :
    (step w s r).1.guild.Consistent ↔ s.guild.KeepsRanks r := by
  cases r with
  | addNewRank player =>
    refine iff_of_true ?_ trivial
    simp only [step, State.withGuild, Guild.handleAddNewRank]
    split
    · exact consistent
    split
    · exact consistent.createRank _ few
    · exact consistent
  | removeRank player rankId =>
    exact Guild.handleRemoveRank_consistent_iff consistent few player (toUInt8 rankId)
  | updateMemberRank player guid demote =>
    exact iff_of_true (Guild.handleUpdateMemberRank_consistent consistent few player guid demote)
      trivial
  | setMemberRank player guid rank =>
    simp only [step, State.withGuild, Guild.handleSetMemberRank, Guild.KeepsRanks]
    split
    · rename_i sets
      simp only [sets, forall_const]
      unfold Guild.setsMemberRank at sets
      cases found : s.guild.getMember guid with
      | none => simp [found] at sets
      | some member => exact consistent.changeRank_iff found rank
    · next stays => simp [consistent, stays]
  | changeMemberRank guid newRank =>
    refine iff_of_true ?_ trivial
    simp only [step, State.withGuild, Guild.changeMemberRank]
    split
    · rename_i exists_
      have some_ := consistent.ranks_pos
      rw [Guild.getLowestRankId_of_le some_ few] at exists_
      apply consistent.changeRank
      rw [Guild.toUInt8_of_lt (by unfold guildRanksMaxCount at few; omega)]
      omega
    · exact consistent
  | setNewGuildMaster player newMaster =>
    exact Guild.handleSetNewGuildMaster_consistent_iff consistent player newMaster
  | setRankInfo player rankId rights moneyPerDay rightsAndSlots =>
    exact iff_of_true (Guild.handleSetRankInfo_consistent consistent _ _ _ _ _) trivial
  | addMember guid rankId joins =>
    exact Guild.addMember_consistent_iff w consistent few guid (toUInt8 rankId) joins
  | deleteMember guid isDisbanding =>
    exact iff_of_true (Guild.deleteMember_consistent consistent guid isDisbanding) trivial
  | withdrawMoney player amount repair =>
    refine iff_of_true ?_ trivial
    have ⟨ranks, members⟩ := withdrawMoney_guild s player amount repair
    refine consistent.members ranks fun member here => ?_
    obtain ⟨old, there, same⟩ := members member here
    rw [same]
    exact consistent.known old there
  | depositMoney player amount =>
    refine iff_of_true ?_ trivial
    simp only [step, State.handleGuildBankDepositMoney, State.depositMoney]
    split
    · exact consistent.members rfl consistent.known
    · exact consistent
  | resetTimes =>
    refine iff_of_true ?_ trivial
    refine consistent.members rfl fun member here => ?_
    obtain ⟨old, there, rfl⟩ := mem_map.mp here
    exact consistent.known old there

theorem step_belowIssuer (r : Request) (consistent : s.guild.Consistent)
    (few : s.guild.ranks.length ≤ guildRanksMaxCount) : BelowIssuer (Run.take (step w) s r) := by
  cases r with
  | updateMemberRank player guid demote =>
    intro other member changed before after differs
    simp only [Run.take_before, Run.take_after, step, State.withGuild] at before after
    unfold Guild.handleUpdateMemberRank at after
    cases updated : s.guild.updatedRank player guid demote with
    | none =>
      simp only [updated, before, some.injEq] at after
      exact absurd (congrArg Member.rankId after).symm differs
    | some newRank =>
      simp only [updated] at after
      rw [Guild.getMember_modifyMember _ _ (·.changeRank newRank) fun _ => rfl, before] at after
      simp only [map_some, some.injEq] at after
      have ⟨known, issuer, isIssuer, below⟩ := Guild.updatedRank_some consistent few updated
      refine ⟨issuer, isIssuer, ?_⟩
      split at after
      · subst after
        simp only [Member.changeRank]
        rw [Guild.toUInt8_of_lt (by unfold guildRanksMaxCount at few; omega)]
        exact below
      · exact absurd (congrArg Member.rankId after).symm differs
  | _ => trivial

end

def newGuild (leaderGuid : Nat) (wallets : Nat → Nat) : State :=
  { guild := Guild.create leaderGuid, wallets := wallets }

/-- In a run from a new guild the ranks stay consistent, and nobody raises a member to his own rank,
exactly when every step keeps the ranks. -/
theorem ranks_consistent_iff (w : World) (leaderGuid : Nat) (wallets : Nat → Nat)
    (requests : List Request) :
    (∀ t ∈ Run.trace (step w) (newGuild leaderGuid wallets) requests,
      t.after.guild.Consistent ∧ BelowIssuer t) ↔
    ∀ t ∈ Run.trace (step w) (newGuild leaderGuid wallets) requests,
      t.before.guild.KeepsRanks t.input := by
  have ⟨fresh, five⟩ := Guild.create_consistent leaderGuid
  have start : (newGuild leaderGuid wallets).guild.Consistent ∧
      (newGuild leaderGuid wallets).guild.ranks.length ≤ guildRanksMaxCount :=
    ⟨fresh, by simp [newGuild, five, guildRanksMaxCount]⟩
  refine Run.good_iff (step w) (fun s r => s.guild.KeepsRanks r)
    (fun s => s.guild.Consistent ∧ s.guild.ranks.length ≤ guildRanksMaxCount) _ ?_ ?_ _ requests start
  · intro s r ⟨consistent, few⟩
    constructor
    · intro ⟨after, _⟩
      exact (step_consistent_iff w s r consistent few).mp after
    · intro keeps
      exact ⟨(step_consistent_iff w s r consistent few).mpr keeps,
        step_belowIssuer w s r consistent few⟩
  · intro s r ⟨consistent, few⟩ keeps
    exact ⟨(step_consistent_iff w s r consistent few).mpr keeps, step_few w s r few⟩

/-- A hash map that keeps its members in the order of their insertion. -/
def World.inOrder : World where
  rehash := id
  rehash_perm := fun members => List.Perm.refl members

/-- The guild master of a new guild removes the rank in the middle. -/
theorem removed_rank_not_consistent :
    ¬ ∀ (w : World) (leaderGuid : Nat) (wallets : Nat → Nat) (requests : List Request),
      ∀ t ∈ Run.trace (step w) (newGuild leaderGuid wallets) requests,
        t.after.guild.Consistent ∧ BelowIssuer t := by
  intro all
  have last := all World.inOrder 1 (fun _ => 0) [.addMember 1 grGuildmaster true, .removeRank 1 2] _
    (mem_cons_of_mem _ mem_cons_self)
  have third := last.1.numbered 2 _ rfl
  exact absurd third (by decide)

end OpenWoW.Guilds
