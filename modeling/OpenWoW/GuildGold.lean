import OpenWoW.GuildRanks
import Mathlib.Data.List.Nodup

/-! The gold that a member may take in a day, and where the gold goes. -/
namespace OpenWoW.Guilds

open List Function

/-- The gold a member took since the last reset, as the counter has it, read as a `uint32`. -/
def Member.goldTaken (member : Member) : Nat := toUInt32 (member.bankWithdraw moneyCounter)

def Guild.moneyPerDay (g : Guild) (rankId : Nat) : Nat :=
  (g.getRankInfo rankId).elim 0 fun info => info.bankMoneyPerDay.toNat

def RankInfo.mayWithdraw (info : RankInfo) : Bool := info.rights &&& grRightWithdraw != 0

/-- The difference between what was taken and what may be taken is no overflow. -/
def RankInfo.Fits (info : RankInfo) (taken : Nat) : Prop :=
  info.mayWithdraw = false ∨ taken ≤ info.bankMoneyPerDay.toNat + 2 ^ 31

namespace Guild

variable (g : Guild)

def Fits (rankId taken : Nat) : Prop :=
  rankId = grGuildmaster ∨ ∀ info, g.getRankInfo rankId = some info → info.Fits taken

def AllFit : Prop := ∀ member ∈ g.members, g.Fits member.rankId member.goldTaken

/-- Members other than the guild master have at most the gold per day of their rank left. -/
def WithinAllowance : Prop :=
  ∀ member ∈ g.members, member.rankId ≠ grGuildmaster →
    g.getMemberRemainingMoney member ≤ g.moneyPerDay member.rankId

/-- A member who is given a rank, or whose rank is given new terms, did not take more than `2 ^ 31`
above the gold per day of that rank. -/
def KeepsAllowance : Request → Prop
  | .changeMemberRank guid newRank => toUInt8 newRank ≤ g.getLowestRankId →
      ∀ member, g.getMember guid = some member → g.Fits (toUInt8 newRank) member.goldTaken
  | .updateMemberRank player guid demote =>
    ∀ newRank, g.updatedRank player guid demote = some newRank →
      ∀ member, g.getMember guid = some member → g.Fits (toUInt8 newRank) member.goldTaken
  | .setMemberRank player guid rank => g.setsMemberRank player guid rank = true →
      ∀ member, g.getMember guid = some member → g.Fits (toUInt8 rank) member.goldTaken
  | .setNewGuildMaster player newMaster => g.isLeader player = true →
      g.isMember newMaster = true →
      ∀ member, g.getMember player = some member → g.Fits grInitiate member.goldTaken
  | .setRankInfo player rankId rights moneyPerDay _ => g.isLeader player = true →
      toUInt8 rankId ≠ grGuildmaster → ∀ info, g.getRankInfo (toUInt8 rankId) = some info →
      ∀ member ∈ g.members, member.rankId = toUInt8 rankId →
        ((info.setRights (toUInt32 rights)).setBankMoneyPerDay moneyPerDay).Fits member.goldTaken
  | .removeRank player rankId => g.removesRank player (toUInt8 rankId) = true →
      ∀ member ∈ g.members,
        ({ g with ranks := g.ranks.eraseIdx (toUInt8 rankId) } : Guild).Fits member.rankId
          member.goldTaken
  | _ => True

end Guild

/-- A member with a guid has a rank with a given gold per day. -/
def Guild.Holding (g : Guild) (guid rankId money : Nat) : Prop :=
  (∃ member, g.getMember guid = some member ∧ member.rankId = rankId) ∧ g.moneyPerDay rankId = money

/-- What a step takes out of the bank for a member. -/
def withdrawnBy (guid : Nat) (t : Run.Taken State Request Bool) : Nat :=
  match t.input with
  | .withdrawMoney player amount _ =>
    if lowPart player = lowPart guid ∧ t.out = true then amount else 0
  | _ => 0

/-- Between two resets a member who keeps a rank, with the same gold per day, takes no more than
that. -/
def AllowanceLasts (trace : List (Run.Taken State Request Bool)) : Prop :=
  ∀ pre mid post guid rankId money, trace = pre ++ mid ++ post → rankId ≠ grGuildmaster →
    (∀ t ∈ mid, t.input ≠ .resetTimes ∧ t.before.guild.Holding guid rankId money ∧
      t.after.guild.Holding guid rankId money) →
    (mid.map (withdrawnBy guid)).sum ≤ money

/-- Gold moves between the bank and one wallet; what a repair costs leaves the bank. -/
def Conserves (t : Run.Taken State Request Bool) : Prop :=
  match t.input with
  | .withdrawMoney player amount repair =>
    t.after.guild.bankMoney + t.after.wallets player +
        (if repair = true ∧ t.out = true then amount else 0) =
      t.before.guild.bankMoney + t.before.wallets player ∧
    ∀ other, other ≠ player → t.after.wallets other = t.before.wallets other
  | .depositMoney player _ =>
    t.after.guild.bankMoney + t.after.wallets player =
      t.before.guild.bankMoney + t.before.wallets player ∧
    ∀ other, other ≠ player → t.after.wallets other = t.before.wallets other
  | _ => t.after.guild.bankMoney = t.before.guild.bankMoney ∧ t.after.wallets = t.before.wallets

theorem remaining_le_iff (may : Bool) (perDay : UInt32) (counter : Int) :
    (if may = true then
      if 0 < toInt32 (toInt32 perDay.toNat - counter) then
        toInt32 (toInt32 perDay.toNat - counter) else 0
      else 0) ≤ (perDay.toNat : Int) ↔
      may = false ∨ toUInt32 counter ≤ perDay.toNat + 2 ^ 31 := by
  have small := perDay.toNat_lt
  cases may with
  | false => simp
  | true =>
    rw [if_pos rfl, or_iff_right Bool.noConfusion]
    unfold toInt32 toUInt32
    simp only [Int.bmod_def]
    omega

theorem remaining_eq {perDay : UInt32} {counter : Int}
    (fits : toUInt32 counter ≤ perDay.toNat + 2 ^ 31)
    (left : 0 < toInt32 (toInt32 perDay.toNat - counter)) :
    toInt32 (toInt32 perDay.toNat - counter) + toUInt32 counter = perDay.toNat := by
  have small := perDay.toNat_lt
  unfold toInt32 toUInt32 at *
  simp only [Int.bmod_def] at *
  omega

namespace Guild

variable {g : Guild}

theorem mayWithdraw_none {rankId : Nat} (none_ : g.getRankInfo rankId = none) :
    g.mayWithdraw rankId = false := by
  unfold mayWithdraw getRankRights
  rw [none_]
  rfl

theorem mayWithdraw_some {rankId : Nat} {info : RankInfo}
    (found : g.getRankInfo rankId = some info) : g.mayWithdraw rankId = info.mayWithdraw := by
  unfold mayWithdraw getRankRights
  rw [found]
  rfl

theorem getMemberRemainingMoney_le_iff {member : Member}
    (nonmaster : member.rankId ≠ grGuildmaster) :
    g.getMemberRemainingMoney member ≤ g.moneyPerDay member.rankId ↔
      g.Fits member.rankId member.goldTaken := by
  have counter : member.getBankWithdrawValue moneyCounter = member.bankWithdraw moneyCounter :=
    if_neg nonmaster
  unfold getMemberRemainingMoney Fits
  rw [if_neg nonmaster, counter, or_iff_right nonmaster]
  cases found : g.getRankInfo member.rankId with
  | none =>
    rw [mayWithdraw_none found]
    simp
  | some info =>
    have perDay : g.getRankBankMoneyPerDay member.rankId =
        toInt32 info.bankMoneyPerDay.toNat := by
      unfold getRankBankMoneyPerDay
      rw [found, Option.elim_some]
    have money : g.moneyPerDay member.rankId = info.bankMoneyPerDay.toNat := by
      unfold moneyPerDay
      rw [found, Option.elim_some]
    rw [mayWithdraw_some found, perDay, money]
    simp only [Option.some.injEq, forall_eq']
    exact remaining_le_iff _ _ _

theorem withinAllowance_iff : g.WithinAllowance ↔ g.AllFit := by
  unfold WithinAllowance AllFit
  constructor
  · intro within member here
    by_cases master : member.rankId = grGuildmaster
    · exact Or.inl master
    · exact (getMemberRemainingMoney_le_iff master).mp (within member here master)
  · intro fits member here nonmaster
    exact (getMemberRemainingMoney_le_iff nonmaster).mpr (fits member here)

end Guild

def Guild.Unique (g : Guild) : Prop := (g.members.map fun member => lowPart member.guid).Nodup

theorem withdrawMoney_cases (s : State) (player amount : Nat) (repair : Bool) :
    s.withdrawMoney player amount repair = (s, false) ∨
      ∃ member, s.guild.getMember player = some member ∧ amount ≤ s.guild.bankMoney ∧
        amount ≤ toUInt64 (s.guild.getMemberRemainingMoney member) ∧
        ∃ wallet, (if repair then (s.wallets player, true)
          else Player.modifyMoney (s.wallets player) (toInt64 amount)) = (wallet, true) ∧
        s.withdrawMoney player amount repair =
          ({ guild := { s.guild.modifyMember player
                (·.updateBankWithdrawValue moneyCounter amount) with
              bankMoney := s.guild.bankMoney - amount }
             wallets := Function.update s.wallets player wallet }, true) := by
  unfold State.withdrawMoney
  split
  · exact Or.inl rfl
  next enough =>
  split
  · exact Or.inl rfl
  next member found =>
  split
  · exact Or.inl rfl
  next allowed =>
  simp only
  generalize (if repair then (s.wallets player, true)
    else Player.modifyMoney (s.wallets player) (toInt64 amount)) = paid
  obtain ⟨wallet, ok⟩ := paid
  cases ok with
  | false => exact Or.inl rfl
  | true =>
    exact Or.inr ⟨member, found, Nat.not_lt.mp enough, Nat.not_lt.mp allowed, wallet, rfl, rfl⟩

namespace Guild

variable {g : Guild}

theorem getMember_iff (unique : g.Unique) (guid : Nat) (member : Member) :
    g.getMember guid = some member ↔ member ∈ g.members ∧ lowPart member.guid = lowPart guid := by
  constructor
  · exact getMember_mem
  · intro ⟨here, same⟩
    unfold getMember
    have found := (find?_isSome (p := fun m => lowPart m.guid == lowPart guid)).mpr
      ⟨member, here, by simpa using same⟩
    obtain ⟨other, isOther⟩ := Option.isSome_iff_exists.mp found
    have ⟨there, equal⟩ := @getMember_mem g guid other isOther
    rw [isOther, inj_on_of_nodup_map unique there here (equal.trans same.symm)]

theorem Unique.modifyMember (unique : g.Unique) (guid : Nat) (f : Member → Member)
    (keepsGuid : ∀ member, (f member).guid = member.guid) : (g.modifyMember guid f).Unique := by
  have keys : (fun member : Member => lowPart member.guid) ∘
      (fun member => if lowPart member.guid = lowPart guid then f member else member) =
        fun member => lowPart member.guid := by
    funext member
    simp only [comp_apply]
    split
    · rw [keepsGuid]
    · rfl
  unfold Unique Guild.modifyMember
  rw [map_map, keys]
  exact unique

theorem Unique.eraseMember (unique : g.Unique) (guid : Nat) : (g.eraseMember guid).Unique :=
  unique.sublist (List.Sublist.map _ filter_sublist)

theorem Unique.setLeaderGUID (unique : g.Unique) (leader : Member) :
    (g.setLeaderGUID leader).Unique :=
  @Unique.modifyMember { g with leaderGuid := leader.guid } unique leader.guid
    (·.changeRank grGuildmaster) fun _ => rfl

theorem Unique.addMember (w : World) (unique : g.Unique) (guid rankId : Nat) (joins : Bool) :
    (g.addMember w guid rankId joins).Unique := by
  unfold Guild.addMember
  split
  · exact unique
  next joined =>
  simp only [Bool.or_eq_true, not_or, Bool.not_eq_true] at joined
  unfold Unique
  simp only
  rw [((w.rehash_perm _).map _).nodup_iff, map_append, nodup_append]
  refine ⟨unique, by simp, ?_⟩
  intro key there other new
  obtain ⟨member, here, rfl⟩ := mem_map.mp there
  obtain rfl := mem_singleton.mp new
  have outside : ∀ member ∈ g.members, lowPart member.guid ≠ lowPart guid := by
    simpa [isMember, getMember] using joined.1
  exact outside member here

end Guild

namespace Guild

variable {g : Guild}

theorem changeRank_allFit_iff (unique : g.Unique) (fits : g.AllFit) (guid newRank : Nat) :
    (g.modifyMember guid (·.changeRank newRank)).AllFit ↔
      ∀ member, g.getMember guid = some member → g.Fits (toUInt8 newRank) member.goldTaken := by
  constructor
  · intro after member found
    exact after _ (modifyMember_mem _ found)
  · intro fitting member here
    rcases mem_modifyMember here with ⟨old, there, same, rfl⟩ | unchanged
    · exact fitting old ((getMember_iff unique guid old).mpr ⟨there, same⟩)
    · exact fits member unchanged

theorem setLeaderGUID_allFit (fits : g.AllFit) (leader : Member) :
    (g.setLeaderGUID leader).AllFit := by
  intro member here
  rcases mem_modifyMember here with ⟨old, _, _, rfl⟩ | unchanged
  · exact Or.inl rfl
  · exact fits member unchanged

theorem eraseMember_allFit (fits : g.AllFit) (guid : Nat) : (g.eraseMember guid).AllFit :=
  fun member here => fits member (mem_of_mem_filter here)

theorem handleSetNewGuildMaster_allFit_iff (unique : g.Unique) (fits : g.AllFit)
    (player newMaster : Nat) :
    (g.handleSetNewGuildMaster player newMaster).AllFit ↔
      (g.isLeader player = true → g.isMember newMaster = true →
        ∀ member, g.getMember player = some member → g.Fits grInitiate member.goldTaken) := by
  unfold handleSetNewGuildMaster isMember
  split
  · rename_i leads
    cases old : g.getMember player with
    | none => exact iff_of_true fits fun _ _ member found => by cases found
    | some oldGuildMaster =>
      cases new : g.getMember newMaster with
      | none => exact iff_of_true fits fun _ none_ => by cases none_
      | some newGuildMaster =>
        have taken : (if lowPart oldGuildMaster.guid = lowPart newGuildMaster.guid then
            oldGuildMaster.changeRank grGuildmaster else oldGuildMaster).goldTaken =
              oldGuildMaster.goldTaken := by
          split <;> rfl
        have after := changeRank_allFit_iff (unique.setLeaderGUID newGuildMaster)
          (setLeaderGUID_allFit fits newGuildMaster) player grInitiate
        rw [getMember_setLeaderGUID old newGuildMaster] at after
        simp only [Option.some.injEq, forall_eq', taken] at after
        simp only [leads, Option.isSome_some, forall_const, Option.some.injEq, forall_eq']
        exact after
  · next stays => exact iff_of_true fits fun leads => absurd leads stays

theorem getRankInfo_modify (rankId other : Nat) (f : RankInfo → RankInfo) :
    ({ g with ranks := g.ranks.modify rankId f } : Guild).getRankInfo other =
      (g.getRankInfo other).map fun info => if rankId = other then f info else info := by
  unfold getRankInfo getRanksSize
  simp only [length_modify, getElem?_modify]
  split <;> rfl

theorem handleSetRankInfo_fits {player : Nat} (rankId rights : Nat) (moneyPerDay : UInt32)
    (rightsAndSlots : List BankRightsAndSlots) (leads : g.isLeader player = true)
    (other taken : Nat) :
    (g.handleSetRankInfo player rankId rights moneyPerDay rightsAndSlots).Fits other taken ↔
      if other = rankId then
        other = grGuildmaster ∨ ∀ info, g.getRankInfo rankId = some info →
          ((info.setRights rights).setBankMoneyPerDay moneyPerDay).Fits taken
      else g.Fits other taken := by
  obtain ⟨f, keeps, set⟩ :=
    @handleSetRankInfo_spec g player rankId rights moneyPerDay rightsAndSlots
  have same (info : RankInfo) : (f info).Fits taken ↔
      ((info.setRights rights).setBankMoneyPerDay moneyPerDay).Fits taken := by
    unfold RankInfo.Fits RankInfo.mayWithdraw
    rw [(keeps info).2.1, (keeps info).2.2]
    rfl
  rw [set, leads, Bool.true_and]
  split
  · unfold Fits
    rw [getRankInfo_modify]
    by_cases here : other = rankId
    · subst here
      rw [if_pos rfl]
      simp [same]
    · rw [if_neg here]
      simp [Ne.symm here]
  · rename_i absent
    by_cases here : other = rankId
    · subst here
      have none_ : g.getRankInfo other = none := by
        unfold getRankInfo
        exact if_neg (by simpa using absent)
      rw [if_pos rfl]
      simp [Fits, none_]
    · rw [if_neg here]

theorem handleSetRankInfo_members (player rankId rights : Nat) (moneyPerDay : UInt32)
    (rightsAndSlots : List BankRightsAndSlots) :
    (g.handleSetRankInfo player rankId rights moneyPerDay rightsAndSlots).members = g.members := by
  obtain ⟨f, _, set⟩ := @handleSetRankInfo_spec g player rankId rights moneyPerDay rightsAndSlots
  rw [set]
  split <;> rfl

theorem handleSetRankInfo_allFit_iff (fits : g.AllFit) (player rankId rights : Nat)
    (moneyPerDay : UInt32) (rightsAndSlots : List BankRightsAndSlots) :
    (g.handleSetRankInfo player rankId rights moneyPerDay rightsAndSlots).AllFit ↔
      (g.isLeader player = true → rankId ≠ grGuildmaster →
        ∀ info, g.getRankInfo rankId = some info →
        ∀ member ∈ g.members, member.rankId = rankId →
          ((info.setRights rights).setBankMoneyPerDay moneyPerDay).Fits member.goldTaken) := by
  by_cases leads : g.isLeader player = true
  · unfold AllFit
    rw [handleSetRankInfo_members]
    simp only [handleSetRankInfo_fits rankId rights moneyPerDay rightsAndSlots leads, leads,
      forall_const]
    constructor
    · intro all lower info found member here same
      have fitting := all member here
      rw [if_pos same] at fitting
      exact (fitting.resolve_left (same ▸ lower)) info found
    · intro all member here
      split
      · rename_i same
        by_cases master : member.rankId = grGuildmaster
        · exact Or.inl master
        · exact Or.inr fun info found => all (same ▸ master) info found member here same
      · exact fits member here
  · have unchanged : g.handleSetRankInfo player rankId rights moneyPerDay rightsAndSlots = g := by
      unfold handleSetRankInfo
      simp [leads]
    rw [unchanged]
    exact iff_of_true fits fun now => absurd now leads

theorem createRank_allFit (fits : g.AllFit) (few : g.ranks.length ≤ guildRanksMaxCount) :
    (g.createRank grRightGchatListenSpeak).AllFit := by
  unfold createRank
  simp only
  split
  · exact fits
  intro member here
  rcases fits member here with master | fitting
  · exact Or.inl master
  refine Or.inr fun info found => ?_
  unfold getRankInfo at found
  split at found
  · simp only [getElem?_append] at found
    split at found
    · rename_i inside
      apply fitting info
      unfold getRankInfo
      rw [if_pos (by rw [getRanksSize_of_le few]; exact inside)]
      exact found
    · obtain ⟨bound, rfl⟩ := List.getElem?_eq_some_iff.mp found
      have chat : (grRightGchatListenSpeak &&& grRightWithdraw != 0) = false := by decide
      simp only [getElem_singleton]
      exact Or.inl chat
  · cases found

end Guild

@[simp] theorem goldTaken_update (member : Member) (amount : Nat) :
    (member.updateBankWithdrawValue moneyCounter amount).goldTaken =
      (member.goldTaken + amount) % 2 ^ 32 := by
  unfold Member.goldTaken Member.updateBankWithdrawValue
  simp only [update_self]
  unfold toUInt32 toInt32
  simp only [Int.bmod_def]
  omega

variable {member : Member}

/-- What a member who is no guild master takes is within his rank's gold per day. -/
theorem taken_within {g : Guild} {amount : Nat}
    (nonmaster : member.rankId ≠ grGuildmaster) (fits : g.Fits member.rankId member.goldTaken)
    (allowed : amount ≤ toUInt64 (g.getMemberRemainingMoney member)) :
    amount = 0 ∨ member.goldTaken + amount ≤ g.moneyPerDay member.rankId := by
  have counter : member.getBankWithdrawValue moneyCounter = member.bankWithdraw moneyCounter :=
    if_neg nonmaster
  unfold Guild.getMemberRemainingMoney at allowed
  rw [if_neg nonmaster, counter] at allowed
  cases found : g.getRankInfo member.rankId with
  | none =>
    rw [Guild.mayWithdraw_none found] at allowed
    exact Or.inl (Nat.le_zero.mp allowed)
  | some info =>
    have perDay : g.getRankBankMoneyPerDay member.rankId =
        toInt32 info.bankMoneyPerDay.toNat := by
      unfold Guild.getRankBankMoneyPerDay
      rw [found, Option.elim_some]
    have money : g.moneyPerDay member.rankId = info.bankMoneyPerDay.toNat := by
      unfold Guild.moneyPerDay
      rw [found, Option.elim_some]
    rw [Guild.mayWithdraw_some found, perDay] at allowed
    rw [money]
    have fitting := (fits.resolve_left nonmaster) info found
    split at allowed
    · rename_i may
      have small := fitting.resolve_left (by simp [may])
      simp only at allowed
      split at allowed
      · rename_i left
        have rest : toInt32 (toInt32 info.bankMoneyPerDay.toNat -
            member.bankWithdraw moneyCounter) + member.goldTaken =
            info.bankMoneyPerDay.toNat :=
          remaining_eq small left
        have less := info.bankMoneyPerDay.toNat_lt
        generalize toInt32 (toInt32 info.bankMoneyPerDay.toNat -
          member.bankWithdraw moneyCounter) = remaining at allowed left rest
        right
        unfold toUInt64 at allowed
        omega
      · exact Or.inl (Nat.le_zero.mp allowed)
    · exact Or.inl (Nat.le_zero.mp allowed)

variable {s : State}

theorem withdrawMoney_allFit (unique : s.guild.Unique) (fits : s.guild.AllFit)
    (player amount : Nat) (repair : Bool) :
    (s.withdrawMoney player amount repair).1.guild.AllFit := by
  rcases withdrawMoney_cases s player amount repair with refused |
    ⟨member, found, _, allowed, wallet, _, taken⟩
  · rw [refused]
    exact fits
  rw [taken]
  intro other here
  rcases Guild.mem_modifyMember here with ⟨old, there, same, rfl⟩ | unchanged
  · have isMember := (Guild.getMember_iff unique player old).mpr ⟨there, same⟩
    obtain rfl := Option.some.inj (found.symm.trans isMember)
    by_cases master : member.rankId = grGuildmaster
    · exact Or.inl master
    refine Or.inr fun info isInfo => ?_
    have before := fits member there
    have money : s.guild.moneyPerDay member.rankId = info.bankMoneyPerDay.toNat := by
      unfold Guild.moneyPerDay
      rw [show s.guild.getRankInfo member.rankId = some info from isInfo, Option.elim_some]
    have fitting := (before.resolve_left master) info isInfo
    rw [goldTaken_update]
    have bound : member.goldTaken < 2 ^ 32 := by
      unfold Member.goldTaken toUInt32
      omega
    rcases taken_within master before allowed with none_ | within
    · rw [none_, Nat.add_zero, Nat.mod_eq_of_lt bound]
      exact fitting
    · have less := info.bankMoneyPerDay.toNat_lt
      exact Or.inr (by omega)
  · exact fits other unchanged

theorem step_allFit_iff (w : World) (r : Request) (unique : s.guild.Unique)
    (few : s.guild.ranks.length ≤ guildRanksMaxCount) (fits : s.guild.AllFit) :
    (step w s r).1.guild.AllFit ↔ s.guild.KeepsAllowance r := by
  cases r with
  | addNewRank player =>
    refine iff_of_true ?_ trivial
    simp only [step, State.withGuild, Guild.handleAddNewRank]
    split
    · exact fits
    split
    · exact Guild.createRank_allFit fits few
    · exact fits
  | removeRank player rankId =>
    simp only [step, State.withGuild, Guild.handleRemoveRank, Guild.KeepsAllowance]
    split
    · rename_i removes
      simp only [removes, forall_const]
      exact Iff.rfl
    · next stays => exact iff_of_true fits fun removes => absurd removes stays
  | updateMemberRank player guid demote =>
    simp only [step, State.withGuild, Guild.handleUpdateMemberRank, Guild.KeepsAllowance]
    cases updated : s.guild.updatedRank player guid demote with
    | none => exact iff_of_true fits fun _ none_ => by cases none_
    | some newRank =>
      simp only [Option.some.injEq, forall_eq']
      exact Guild.changeRank_allFit_iff unique fits guid newRank
  | setMemberRank player guid rank =>
    simp only [step, State.withGuild, Guild.handleSetMemberRank, Guild.KeepsAllowance]
    split
    · rename_i sets
      simp only [sets, forall_const]
      exact Guild.changeRank_allFit_iff unique fits guid rank
    · next stays => exact iff_of_true fits fun sets => absurd sets stays
  | changeMemberRank guid newRank =>
    simp only [step, State.withGuild, Guild.changeMemberRank, Guild.KeepsAllowance]
    have byte : toUInt8 (toUInt8 newRank : Nat) = toUInt8 newRank := by
      unfold toUInt8
      omega
    split
    · rename_i known
      simp only [known, forall_const]
      have changed := Guild.changeRank_allFit_iff unique fits guid (toUInt8 newRank)
      rw [byte] at changed
      exact changed
    · next stays => exact iff_of_true fits fun known => absurd known stays
  | setNewGuildMaster player newMaster =>
    exact Guild.handleSetNewGuildMaster_allFit_iff unique fits player newMaster
  | setRankInfo player rankId rights moneyPerDay rightsAndSlots =>
    exact Guild.handleSetRankInfo_allFit_iff fits player (toUInt8 rankId) (toUInt32 rights)
      moneyPerDay rightsAndSlots
  | addMember guid rankId joins =>
    refine iff_of_true ?_ trivial
    simp only [step, State.withGuild, Guild.addMember]
    split
    · exact fits
    intro member here
    rcases mem_append.mp ((w.rehash_perm _).mem_iff.mp here) with old | added
    · exact fits member old
    · obtain rfl := mem_singleton.mp added
      exact Or.inr fun info _ => Or.inr (Nat.zero_le _)
  | deleteMember guid isDisbanding =>
    refine iff_of_true ?_ trivial
    simp only [step, State.withGuild, Guild.deleteMember]
    split
    · split
      · intro member here
        cases here
      · exact Guild.eraseMember_allFit (Guild.setLeaderGUID_allFit fits _) guid
    · exact Guild.eraseMember_allFit fits guid
  | withdrawMoney player amount repair =>
    exact iff_of_true (withdrawMoney_allFit unique fits player amount repair) trivial
  | depositMoney player amount =>
    refine iff_of_true ?_ trivial
    simp only [step, State.handleGuildBankDepositMoney, State.depositMoney]
    split <;> exact fits
  | resetTimes =>
    refine iff_of_true (fun member here => ?_) trivial
    obtain ⟨old, _, rfl⟩ := mem_map.mp here
    exact Or.inr fun info _ => Or.inr (Nat.zero_le _)

theorem step_unique (w : World) (r : Request) (unique : s.guild.Unique) :
    (step w s r).1.guild.Unique := by
  cases r with
  | addNewRank player =>
    simp only [step, State.withGuild, Guild.handleAddNewRank]
    split
    · exact unique
    split
    · unfold Guild.createRank
      simp only
      split <;> exact unique
    · exact unique
  | removeRank player rankId =>
    simp only [step, State.withGuild, Guild.handleRemoveRank]
    split <;> exact unique
  | updateMemberRank player guid demote =>
    simp only [step, State.withGuild, Guild.handleUpdateMemberRank]
    split
    · exact unique.modifyMember guid _ fun _ => rfl
    · exact unique
  | setMemberRank player guid rank =>
    simp only [step, State.withGuild, Guild.handleSetMemberRank]
    split
    · exact unique.modifyMember guid _ fun _ => rfl
    · exact unique
  | changeMemberRank guid newRank =>
    simp only [step, State.withGuild, Guild.changeMemberRank]
    split
    · exact unique.modifyMember guid _ fun _ => rfl
    · exact unique
  | setNewGuildMaster player newMaster =>
    simp only [step, State.withGuild, Guild.handleSetNewGuildMaster]
    split
    · split
      · exact (unique.setLeaderGUID _).modifyMember player _ fun _ => rfl
      · exact unique
    · exact unique
  | setRankInfo player rankId rights moneyPerDay rightsAndSlots =>
    simp only [step, State.withGuild]
    unfold Guild.Unique
    rw [Guild.handleSetRankInfo_members]
    exact unique
  | addMember guid rankId joins => exact unique.addMember w guid (toUInt8 rankId) joins
  | deleteMember guid isDisbanding =>
    simp only [step, State.withGuild, Guild.deleteMember]
    split
    · split
      · exact nodup_nil
      · exact (unique.setLeaderGUID _).eraseMember guid
    · exact unique.eraseMember guid
  | withdrawMoney player amount repair =>
    simp only [step]
    rcases withdrawMoney_cases s player amount repair with refused | ⟨_, _, _, _, _, _, taken⟩
    · rw [refused]
      exact unique
    · rw [taken]
      exact unique.modifyMember player _ fun _ => rfl
  | depositMoney player amount =>
    simp only [step, State.handleGuildBankDepositMoney, State.depositMoney]
    split <;> exact unique
  | resetTimes =>
    simp only [step, State.withGuild, Guild.resetTimes]
    unfold Guild.Unique
    rw [map_map]
    exact unique

/-- Members of the second guild are members of the first, with the same counter. -/
def Guild.Kept (g h : Guild) : Prop :=
  ∀ member ∈ h.members, ∃ old ∈ g.members, old.guid = member.guid ∧ old.goldTaken = member.goldTaken

namespace Guild

variable {g h k : Guild}

theorem Kept.of_members (same : h.members = g.members) : Kept g h := by
  intro member here
  rw [same] at here
  exact ⟨member, here, rfl, rfl⟩

theorem Kept.trans (first : Kept g h) (second : Kept h k) : Kept g k := by
  intro member here
  obtain ⟨old, there, guid, taken⟩ := second member here
  obtain ⟨oldest, before, guid', taken'⟩ := first old there
  exact ⟨oldest, before, guid'.trans guid, taken'.trans taken⟩

theorem Kept.changeRank (guid newRank : Nat) :
    Kept g (g.modifyMember guid (·.changeRank newRank)) := by
  intro member here
  rcases mem_modifyMember here with ⟨old, there, _, rfl⟩ | unchanged
  · exact ⟨old, there, rfl, rfl⟩
  · exact ⟨member, unchanged, rfl, rfl⟩

theorem Kept.setLeaderGUID (leader : Member) : Kept g (g.setLeaderGUID leader) :=
  @Kept.changeRank { g with leaderGuid := leader.guid } leader.guid grGuildmaster

theorem Kept.eraseMember (guid : Nat) : Kept g (g.eraseMember guid) :=
  fun member here => ⟨member, mem_of_mem_filter here, rfl, rfl⟩

theorem Kept.goldTaken (kept : Kept g h) (unique : g.Unique) {guid : Nat} {member changed : Member}
    (before : g.getMember guid = some member) (after : h.getMember guid = some changed) :
    changed.goldTaken = member.goldTaken := by
  have ⟨here, same⟩ := getMember_mem after
  obtain ⟨old, there, sameGuid, taken⟩ := kept changed here
  rw [← sameGuid] at same
  have isOld := (getMember_iff unique guid old).mpr ⟨there, same⟩
  obtain rfl := Option.some.inj (before.symm.trans isOld)
  exact taken.symm

end Guild

theorem goldTaken_lt (member : Member) : member.goldTaken < 2 ^ 32 := by
  unfold Member.goldTaken toUInt32
  omega

theorem withdrawnBy_other {w : World} {r : Request} (guid : Nat)
    (other : ∀ player amount repair, r ≠ .withdrawMoney player amount repair) :
    withdrawnBy guid (Run.take (step w) s r) = 0 := by
  unfold withdrawnBy
  cases r with
  | withdrawMoney player amount repair => exact absurd rfl (other player amount repair)
  | _ => rfl

/-- Between resets the counter of a member who stays counts what he takes. -/
theorem step_goldTaken (w : World) {r : Request} {guid : Nat} {changed : Member}
    (unique : s.guild.Unique) (before : s.guild.getMember guid = some member)
    (after : (step w s r).1.guild.getMember guid = some changed) (noReset : r ≠ .resetTimes) :
    changed.goldTaken = (member.goldTaken + withdrawnBy guid (Run.take (step w) s r)) % 2 ^ 32 := by
  have counts : (∀ player amount repair, r ≠ .withdrawMoney player amount repair) →
      changed.goldTaken = member.goldTaken →
      changed.goldTaken =
        (member.goldTaken + withdrawnBy guid (Run.take (step w) s r)) % 2 ^ 32 := by
    intro other same
    rw [withdrawnBy_other guid other, Nat.add_zero, same, Nat.mod_eq_of_lt (goldTaken_lt member)]
  have counted : (∀ player amount repair, r ≠ .withdrawMoney player amount repair) →
      Guild.Kept s.guild (step w s r).1.guild →
      changed.goldTaken = (member.goldTaken + withdrawnBy guid (Run.take (step w) s r)) % 2 ^ 32 :=
    fun other kept => counts other (kept.goldTaken unique before after)
  cases r with
  | addNewRank player =>
    refine counted (fun _ _ _ => Request.noConfusion) (Guild.Kept.of_members ?_)
    simp only [step, State.withGuild, Guild.handleAddNewRank]
    split
    · rfl
    split
    · unfold Guild.createRank
      simp only
      split <;> rfl
    · rfl
  | removeRank player rankId =>
    refine counted (fun _ _ _ => Request.noConfusion) (Guild.Kept.of_members ?_)
    simp only [step, State.withGuild, Guild.handleRemoveRank]
    split <;> rfl
  | updateMemberRank player other demote =>
    refine counted (fun _ _ _ => Request.noConfusion) ?_
    simp only [step, State.withGuild, Guild.handleUpdateMemberRank]
    split
    · exact Guild.Kept.changeRank other _
    · exact Guild.Kept.of_members rfl
  | setMemberRank player other rank =>
    refine counted (fun _ _ _ => Request.noConfusion) ?_
    simp only [step, State.withGuild, Guild.handleSetMemberRank]
    split
    · exact Guild.Kept.changeRank other _
    · exact Guild.Kept.of_members rfl
  | changeMemberRank other newRank =>
    refine counted (fun _ _ _ => Request.noConfusion) ?_
    simp only [step, State.withGuild, Guild.changeMemberRank]
    split
    · exact Guild.Kept.changeRank other _
    · exact Guild.Kept.of_members rfl
  | setNewGuildMaster player newMaster =>
    refine counted (fun _ _ _ => Request.noConfusion) ?_
    simp only [step, State.withGuild, Guild.handleSetNewGuildMaster]
    split
    · split
      · exact (Guild.Kept.setLeaderGUID _).trans (Guild.Kept.changeRank player _)
      · exact Guild.Kept.of_members rfl
    · exact Guild.Kept.of_members rfl
  | setRankInfo player rankId rights moneyPerDay rightsAndSlots =>
    exact counted (fun _ _ _ => Request.noConfusion)
      (Guild.Kept.of_members (Guild.handleSetRankInfo_members _ _ _ _ _))
  | addMember other rankId joins =>
    refine counts (fun _ _ _ => Request.noConfusion) ?_
    simp only [step, State.withGuild, Guild.addMember] at after
    split at after
    · rw [before] at after
      rw [Option.some.inj after]
    next joined =>
    simp only [Bool.or_eq_true, not_or, Bool.not_eq_true] at joined
    obtain ⟨here, same⟩ := Guild.getMember_mem after
    obtain ⟨there, same'⟩ := Guild.getMember_mem before
    rcases mem_append.mp ((w.rehash_perm _).mem_iff.mp here) with old | added
    · have isOld := (Guild.getMember_iff unique guid changed).mpr ⟨old, same⟩
      rw [Option.some.inj (before.symm.trans isOld)]
    obtain rfl := mem_singleton.mp added
    have outside : ∀ member ∈ s.guild.members, lowPart member.guid ≠ lowPart other := by
      simpa [Guild.isMember, Guild.getMember] using joined.1
    exact absurd (same'.trans same.symm) (outside member there)
  | deleteMember other isDisbanding =>
    refine counted (fun _ _ _ => Request.noConfusion) ?_
    simp only [step, State.withGuild, Guild.deleteMember]
    split
    · split
      · intro member here
        cases here
      · exact (Guild.Kept.setLeaderGUID _).trans (Guild.Kept.eraseMember other)
    · exact Guild.Kept.eraseMember other
  | withdrawMoney player amount repair =>
    have amounts : withdrawnBy guid (Run.take (step w) s (.withdrawMoney player amount repair)) =
        if lowPart player = lowPart guid ∧ (s.withdrawMoney player amount repair).2 = true then
          amount else 0 := rfl
    simp only [step] at after
    rw [amounts]
    rcases withdrawMoney_cases s player amount repair with refused | ⟨_, _, _, _, wallet, _, taken⟩
    · rw [refused, before] at after
      rw [refused]
      obtain rfl := Option.some.inj after
      simp only [Bool.false_eq_true, and_false, if_false, Nat.add_zero]
      exact (Nat.mod_eq_of_lt (goldTaken_lt member)).symm
    · rw [taken] at after
      rw [taken]
      have changes := Guild.getMember_modifyMember (g := s.guild) player guid
        (·.updateBankWithdrawValue moneyCounter amount) fun _ => rfl
      rw [before] at changes
      have isChanged : changed = if lowPart member.guid = lowPart player then
          member.updateBankWithdrawValue moneyCounter amount else member :=
        Option.some.inj (after.symm.trans changes)
      obtain ⟨_, same⟩ := Guild.getMember_mem before
      rw [isChanged, same]
      by_cases own : lowPart player = lowPart guid
      · rw [if_pos own.symm, if_pos ⟨own, rfl⟩, goldTaken_update]
      · rw [if_neg (Ne.symm own), if_neg (fun both => own both.1), Nat.add_zero,
          Nat.mod_eq_of_lt (goldTaken_lt member)]
  | depositMoney player amount =>
    refine counted (fun _ _ _ => Request.noConfusion) (Guild.Kept.of_members ?_)
    simp only [step, State.handleGuildBankDepositMoney, State.depositMoney]
    split <;> rfl
  | resetTimes => exact absurd rfl noReset

/-- The guild is as the counters need it. -/
structure Guild.Kempt (g : Guild) : Prop where
  unique : g.Unique
  few : g.ranks.length ≤ guildRanksMaxCount
  fits : g.AllFit

theorem step_kempt (w : World) (s : State) (r : Request) (kempt : s.guild.Kempt)
    (keeps : s.guild.KeepsAllowance r) : (step w s r).1.guild.Kempt where
  unique := step_unique w r kempt.unique
  few := step_few w s r kempt.few
  fits := (step_allFit_iff w r kempt.unique kempt.few kempt.fits).mpr keeps

theorem withdrawnBy_within (w : World) {r : Request} {guid : Nat} (kempt : s.guild.Kempt)
    (before : s.guild.getMember guid = some member) (nonmaster : member.rankId ≠ grGuildmaster) :
    withdrawnBy guid (Run.take (step w) s r) = 0 ∨
      member.goldTaken + withdrawnBy guid (Run.take (step w) s r) ≤
        s.guild.moneyPerDay member.rankId := by
  cases r with
  | withdrawMoney player amount repair =>
    have amounts : withdrawnBy guid (Run.take (step w) s (.withdrawMoney player amount repair)) =
        if lowPart player = lowPart guid ∧ (s.withdrawMoney player amount repair).2 = true then
          amount else 0 := rfl
    rw [amounts]
    rcases withdrawMoney_cases s player amount repair with refused |
      ⟨taker, found, _, allowed, wallet, _, taken⟩
    · rw [refused]
      exact Or.inl (if_neg fun both => Bool.noConfusion both.2)
    by_cases own : lowPart player = lowPart guid
    · have same : s.guild.getMember player = s.guild.getMember guid := by
        unfold Guild.getMember
        rw [own]
      obtain rfl := Option.some.inj (found.symm.trans (same.trans before))
      rw [taken, if_pos ⟨own, rfl⟩]
      have here := (Guild.getMember_mem found).1
      exact taken_within nonmaster (kempt.fits taker here) allowed
    · exact Or.inl (if_neg fun both => own both.1)
  | _ => exact Or.inl rfl

theorem withdrawn_lasts (w : World) (guid rankId money : Nat) (nonmaster : rankId ≠ grGuildmaster)
    (requests : List Request) (s : State) (kempt : s.guild.Kempt)
    (found : s.guild.getMember guid = some member) (rank : member.rankId = rankId)
    (terms : s.guild.moneyPerDay rankId = money)
    (keeps : ∀ t ∈ Run.trace (step w) s requests, t.before.guild.KeepsAllowance t.input)
    (holds : ∀ t ∈ Run.trace (step w) s requests, t.input ≠ .resetTimes ∧
      t.after.guild.Holding guid rankId money) :
    ((Run.trace (step w) s requests).map (withdrawnBy guid)).sum ≤ money - member.goldTaken := by
  induction requests generalizing s member with
  | nil => exact Nat.zero_le _
  | cons r rest ih =>
    simp only [Run.trace, forall_mem_cons, map_cons, sum_cons] at keeps holds ⊢
    obtain ⟨⟨noReset, ⟨changed, after, sameRank⟩, sameTerms⟩, later⟩ := holds
    have kempt' := step_kempt w s r kempt keeps.1
    have remaining := ih _ kempt' after sameRank sameTerms keeps.2 later
    have counted := step_goldTaken w kempt.unique found after noReset
    have within := withdrawnBy_within w (r := r) kempt found (rank.symm ▸ nonmaster)
    rw [rank, terms] at within
    have less : money < 2 ^ 32 := by
      rw [← terms]
      unfold Guild.moneyPerDay
      cases s.guild.getRankInfo rankId with
      | none => simp
      | some info => exact info.bankMoneyPerDay.toNat_lt
    have bound := goldTaken_lt member
    rcases within with nothing | little
    · rw [nothing, Nat.add_zero, Nat.mod_eq_of_lt bound] at counted
      omega
    · rw [Nat.mod_eq_of_lt (by omega)] at counted
      omega

theorem allowance_lasts (w : World) (s : State) (requests : List Request) (kempt : s.guild.Kempt)
    (keeps : ∀ t ∈ Run.trace (step w) s requests, t.before.guild.KeepsAllowance t.input) :
    AllowanceLasts (Run.trace (step w) s requests) := by
  intro pre mid post guid rankId money split nonmaster holds
  rw [append_assoc] at split
  obtain ⟨first, second, rfl, rfl, rest⟩ := Run.trace_split (step w) s pre split
  obtain ⟨middle, last, rfl, rfl, rfl⟩ := Run.trace_split (step w) _ mid rest.symm
  rw [split] at keeps
  have kempt' : (Run.final (step w) s first).guild.Kempt :=
    Run.history (step w) (fun s r => s.guild.KeepsAllowance r) (fun _ s => s.guild.Kempt)
      (fun _ s r kempt keeps => step_kempt w s r kempt keeps) [] s first kempt
      fun t here => keeps t (mem_append_left _ here)
  cases middle with
  | nil => exact Nat.zero_le _
  | cons r middle =>
    have ⟨_, ⟨⟨member, found, rank⟩, terms⟩, _⟩ := holds _ mem_cons_self
    have lasts := withdrawn_lasts w guid rankId money nonmaster (r :: middle) _ kempt' found rank
      terms (fun t here => keeps t (mem_append_right _ (mem_append_left _ here)))
      fun t here => ⟨(holds t here).1, (holds t here).2.2⟩
    exact Nat.le_trans lasts (Nat.sub_le _ _)

def State.WalletsWithin (s : State) : Prop := ∀ player, s.wallets player ≤ Player.maxMoneyAmount

theorem withdrawMoney_conserves (w : World) (player amount : Nat) (repair : Bool)
    (within : s.WalletsWithin) (bank : s.guild.bankMoney ≤ Player.maxMoneyAmount) :
    Conserves (Run.take (step w) s (.withdrawMoney player amount repair)) ∧
      (s.withdrawMoney player amount repair).1.WalletsWithin := by
  have wallet := within player
  show (_ + _ + (if repair = true ∧ (s.withdrawMoney player amount repair).2 = true then
      amount else 0) = _ ∧ ∀ other, other ≠ player →
        (s.withdrawMoney player amount repair).1.wallets other = s.wallets other) ∧ _
  simp only [Run.take_before, Run.take_after, step]
  rcases withdrawMoney_cases s player amount repair with refused |
    ⟨member, found, enough, allowed, paid, payment, taken⟩
  · rw [refused]
    exact ⟨⟨by simp, fun _ _ => rfl⟩, within⟩
  rw [taken]
  have small : amount < 2 ^ 63 := by
    unfold Player.maxMoneyAmount at bank
    omega
  have worth : paid ≤ Player.maxMoneyAmount ∧
      paid + (if repair = true then amount else 0) = s.wallets player + amount := by
    cases repair with
    | true =>
      obtain rfl : s.wallets player = paid := congrArg Prod.fst payment
      exact ⟨wallet, rfl⟩
    | false =>
      simp only [Bool.false_eq_true, if_false] at payment ⊢
      rw [toInt64_of_lt amount small] at payment
      have gain := Player.modifyMoney_gain _ amount wallet (Nat.le_trans enough bank)
        (congrArg Prod.snd payment)
      rw [payment] at gain
      omega
  refine ⟨⟨?_, fun other apart => update_of_ne apart _ _⟩, fun other => ?_⟩
  · simp only [update_self, and_true]
    omega
  · by_cases own : other = player
    · subst own
      simp only [update_self]
      exact worth.1
    · simp only [update_of_ne own]
      exact within other

theorem depositMoney_conserves (w : World) (player amount : Nat)
    (within : s.WalletsWithin) (bank : s.guild.bankMoney ≤ Player.maxMoneyAmount) :
    Conserves (Run.take (step w) s (.depositMoney player amount)) ∧
      (s.handleGuildBankDepositMoney player amount).WalletsWithin := by
  have wallet := within player
  unfold Conserves
  simp only [Run.take_input, Run.take_before, Run.take_after, step]
  unfold State.handleGuildBankDepositMoney
  split
  · rename_i affords
    unfold Player.maxMoneyAmount at wallet bank
    have charge : Player.modifyMoney (s.wallets player) (-(toInt64 amount)) =
        (s.wallets player - amount, true) := by
      rw [toInt64_of_lt amount (by omega)]
      exact Player.modifyMoney_charge (by omega) affords.2
    have exact_ : toUInt64 ((s.guild.bankMoney : Int) + amount) = s.guild.bankMoney + amount := by
      exact_mod_cast toUInt64_of_lt (by omega)
    unfold State.depositMoney
    rw [charge, exact_]
    refine ⟨⟨?_, fun other apart => update_of_ne apart _ _⟩, fun other => ?_⟩
    · simp only [update_self]
      omega
    · by_cases own : other = player
      · subst own
        simp only [update_self]
        exact Nat.le_trans (Nat.sub_le _ _) (within other)
      · simp only [update_of_ne own]
        exact within other
  · exact ⟨⟨rfl, fun _ _ => rfl⟩, within⟩

theorem handleSetRankInfo_bankMoney (g : Guild) (player rankId rights : Nat) (moneyPerDay : UInt32)
    (rightsAndSlots : List BankRightsAndSlots) :
    (g.handleSetRankInfo player rankId rights moneyPerDay rightsAndSlots).bankMoney =
      g.bankMoney := by
  obtain ⟨f, _, set⟩ :=
    @Guild.handleSetRankInfo_spec g player rankId rights moneyPerDay rightsAndSlots
  rw [set]
  split <;> rfl

theorem step_conserves (w : World) (r : Request) (within : s.WalletsWithin)
    (bank : s.guild.bankMoney ≤ Player.maxMoneyAmount) :
    Conserves (Run.take (step w) s r) ∧ (step w s r).1.WalletsWithin := by
  have aside : ∀ guild : Guild, guild.bankMoney = s.guild.bankMoney →
      ((s.withGuild guild).guild.bankMoney = s.guild.bankMoney ∧
        (s.withGuild guild).wallets = s.wallets) ∧ (s.withGuild guild).WalletsWithin :=
    fun guild same => ⟨⟨same, rfl⟩, within⟩
  cases r with
  | addNewRank player =>
    refine aside _ ?_
    unfold Guild.handleAddNewRank
    split
    · rfl
    split
    · unfold Guild.createRank
      simp only
      split <;> rfl
    · rfl
  | removeRank player rankId =>
    refine aside _ ?_
    unfold Guild.handleRemoveRank
    split <;> rfl
  | updateMemberRank player guid demote =>
    refine aside _ ?_
    unfold Guild.handleUpdateMemberRank
    split <;> rfl
  | setMemberRank player guid rank =>
    refine aside _ ?_
    unfold Guild.handleSetMemberRank
    split <;> rfl
  | changeMemberRank guid newRank =>
    refine aside _ ?_
    unfold Guild.changeMemberRank
    split <;> rfl
  | setNewGuildMaster player newMaster =>
    refine aside _ ?_
    unfold Guild.handleSetNewGuildMaster
    split
    · split <;> rfl
    · rfl
  | setRankInfo player rankId rights moneyPerDay rightsAndSlots =>
    exact aside _ (handleSetRankInfo_bankMoney s.guild _ _ _ _ _)
  | addMember guid rankId joins =>
    refine aside _ ?_
    unfold Guild.addMember
    split <;> rfl
  | deleteMember guid isDisbanding =>
    refine aside _ ?_
    unfold Guild.deleteMember
    split
    · split <;> rfl
    · rfl
  | withdrawMoney player amount repair =>
    exact withdrawMoney_conserves w player amount repair within bank
  | depositMoney player amount => exact depositMoney_conserves w player amount within bank
  | resetTimes => exact aside _ rfl

/-- Nobody but the guild master ever has more left, or takes more between two resets, than his
rank's gold per day, exactly when all steps keep the allowance. The gold is conserved anyway. -/
theorem allowance_kept_iff (w : World) (s : State) (requests : List Request) (kempt : s.guild.Kempt)
    (within : s.WalletsWithin)
    (bank : ∀ t ∈ Run.trace (step w) s requests, t.before.guild.bankMoney ≤ Player.maxMoneyAmount) :
    ((∀ t ∈ Run.trace (step w) s requests, t.after.guild.WithinAllowance ∧ Conserves t) ∧
      AllowanceLasts (Run.trace (step w) s requests)) ↔
    ∀ t ∈ Run.trace (step w) s requests, t.before.guild.KeepsAllowance t.input := by
  have allowed := Run.good_iff (step w) (fun s r => s.guild.KeepsAllowance r)
    (fun s => s.guild.Kempt) (fun t => t.after.guild.WithinAllowance)
    (fun s r kempt => Guild.withinAllowance_iff.trans
      (step_allFit_iff w r kempt.unique kempt.few kempt.fits))
    (fun s r kempt keeps => step_kempt w s r kempt keeps) s requests kempt
  have conserved : ∀ t ∈ Run.trace (step w) s requests, Conserves t := by
    intro t here
    have wallets := Run.invariant (step w) (fun s _ => s.guild.bankMoney ≤ Player.maxMoneyAmount)
      State.WalletsWithin (fun s r within bank => (step_conserves w r within bank).2) s
      within bank t here
    rw [Run.taken_of_mem (step w) s requests t here]
    exact (step_conserves w t.input wallets (bank t here)).1
  constructor
  · intro ⟨good, _⟩
    exact allowed.mp fun t here => (good t here).1
  · intro keeps
    exact ⟨fun t here => ⟨allowed.mpr keeps t here, conserved t here⟩,
      allowance_lasts w s requests kempt keeps⟩

theorem newGuild_kempt (leaderGuid : Nat) (wallets : Nat → Nat) :
    (newGuild leaderGuid wallets).guild.Kempt where
  unique := nodup_nil
  few := by
    rw [show (newGuild leaderGuid wallets).guild = Guild.create leaderGuid from rfl,
      (Guild.create_consistent leaderGuid).2]
    decide
  fits := fun member here => by cases here

/-- A member of a new guild puts 100 into the bank and takes 30 of the 50 that his rank allows. -/
def modestRun : List Request :=
  [.addMember 1 grGuildmaster true, .setRankInfo 1 4 0x00080000 50 [], .addMember 2 4 true,
    .depositMoney 2 100, .withdrawMoney 2 30 false]

theorem allowance_kept_modest :
    AllowanceLasts (Run.trace (step World.inOrder) (newGuild 1 fun _ => 1000) modestRun) := by
  refine ((allowance_kept_iff World.inOrder (newGuild 1 fun _ => 1000) modestRun
    (newGuild_kempt 1 _) (fun _ => show 1000 ≤ 9999999999 by decide) ?_).mpr ?_).2
  · unfold modestRun
    simp only [Run.trace, forall_mem_cons, Run.take_before]
    exact ⟨by decide, by decide, by decide, by decide, by decide, fun _ none_ => by cases none_⟩
  · unfold modestRun
    simp only [Run.trace, forall_mem_cons, Run.take_before, Run.take_input]
    refine ⟨trivial, ?_, trivial, trivial, trivial, fun _ none_ => by cases none_⟩
    intro _ _ info _ member here rank
    obtain rfl := mem_singleton.mp here
    cases rank

/-- A guild master takes gold out of the bank until his counter wraps, and is made an officer. -/
theorem demoted_master_not_within :
    ¬ ∀ (w : World) (s : State) (requests : List Request), s.guild.Kempt → s.WalletsWithin →
      (∀ t ∈ Run.trace (step w) s requests, t.before.guild.bankMoney ≤ Player.maxMoneyAmount) →
      (∀ t ∈ Run.trace (step w) s requests, t.after.guild.WithinAllowance ∧ Conserves t) ∧
        AllowanceLasts (Run.trace (step w) s requests) := by
  intro all
  have run := (all World.inOrder (newGuild 1 fun player => if player = 2 then 3000000000 else 0)
    [.addMember 1 grGuildmaster true, .depositMoney 2 3000000000,
      .withdrawMoney 1 3000000000 false, .changeMemberRank 1 1]
    (newGuild_kempt 1 _) (fun player => by dsimp only [newGuild]; split <;> decide) (by
      simp only [Run.trace, forall_mem_cons, Run.take_before]
      exact ⟨by decide, by decide, by decide, by decide, fun _ none_ => by cases none_⟩)).1
  simp only [Run.trace, forall_mem_cons, Run.take_after] at run
  have officer := run.2.2.2.1.1 _ mem_cons_self (by decide)
  exact absurd officer (by decide)

end OpenWoW.Guilds
