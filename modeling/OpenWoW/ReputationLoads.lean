import OpenWoW.ReputationBalance

/-! The reputations of a login: the initial ones and the saved rows. -/
namespace OpenWoW.Reputation

open List Option

open Checked (Exact exact_bind exact_pure)

section

variable {store : FactionStore} {player : Player}

namespace ReputationMgr

variable {mgr : ReputationMgr}

/-- A new faction counts with its base reputation. -/
theorem initializeFaction_ok (level : Level store player mgr) {entry : FactionEntry}
    (known : entry ∈ store.listed) (fresh : mgr.factions[entry.repListID]? = none) :
    ∃ after, Exact (initializeFaction player mgr entry) after ∧ Level store player after ∧
      ∀ k, after.standing? k = if entry.repListID = k then some 0 else mgr.standing? k := by
  let new : FactionState :=
    { id := entry.id
      reputationListID := entry.repListID
      standing := 0
      flags := (player.getDefaultStateFlags entry).setWidth 8
      needSend := true
      needSave := true }
  have counts (situation : FactionEntry → FactionState → Bool) :
      situated store (mgr.put entry.repListID new) situation =
        situated store mgr situation + (situation entry new).toNat := by
    have change := situated_put mgr known new situation
    rw [fresh] at change
    exact change
  have base (tier : Tier) : ((reached player tier.rank entry new).toNat : Int) =
      share (player.getBaseRank entry) tier := by
    rw [reached_eq]
    unfold held Player.getBaseRank
    dsimp only [new]
    rw [Int.add_zero]
  have seen : ∃ visible, Exact (bump new.visible mgr.visibleFactionCount 1) visible ∧
      visible = situated store (mgr.put entry.repListID new) shown := by
    refine ⟨_, exact_bump.mpr ⟨?_, fun _ => ?_⟩, rfl⟩
    · rw [counts, level.visible]
      unfold shown
      cases new.visible <;> simp
    · have bound := situated_le store (mgr.put entry.repListID new) shown
      omega
  obtain ⟨visible, bumped, isVisible⟩ := seen
  obtain ⟨after, moved⟩ : ∃ after,
      Exact ({ mgr with visibleFactionCount := visible }.updateRankCounters .hostile
        (player.getBaseRank entry)) after := by
    refine exists_updateRankCounters _ mgr.rankCount
      (fun tier => situated store (mgr.put entry.repListID new) (reached player tier.rank))
      (fun tier => ?_) (fun tier => ?_) fun tier => ?_
    · rw [share_hostile, Int.sub_zero]
      rfl
    · have before := level.ranks tier
      have gain := base tier
      rw [counts]
      omega
    · have before := level.ranks tier
      have bound := situated_le store mgr (reached player tier.rank)
      have later := situated_le store (mgr.put entry.repListID new) (reached player tier.rank)
      exact ⟨by omega, by omega⟩
  obtain ⟨factions, same, ranks⟩ := of_updateRankCounters moved
  have map : (after.put entry.repListID new).factions =
      (mgr.put entry.repListID new).factions := by
    unfold put
    rw [factions]
  refine ⟨after.put entry.repListID new, ?_, ⟨?_, fun tier => ?_, ?_⟩, fun k => ?_⟩
  · unfold initializeFaction
    rw [if_pos ((store.mem_listed).mp known).2]
    exact exact_bind.mpr ⟨visible, bumped, exact_bind.mpr ⟨after, moved, exact_pure.mpr rfl⟩⟩
  · rw [visible_put, same]
    change visible = _
    rw [isVisible]
    unfold situated
    rw [map]
  · have now := ranks tier
    have gain := base tier
    have before := level.ranks tier
    rw [share_hostile] at now
    change (after.rankCount tier : Int) = mgr.rankCount tier - 0 + _ at now
    have count := counts (reached player tier.rank)
    have final : situated store (after.put entry.repListID new) (reached player tier.rank) =
        situated store (mgr.put entry.repListID new) (reached player tier.rank) := by
      unfold situated
      rw [map]
    rw [rankCount_put, final]
    omega
  · rw [map]
    exact level.keys_put known
  · have final : (after.put entry.repListID new).standing? k =
        (mgr.put entry.repListID new).standing? k := by
      unfold standing?
      rw [map]
    rw [final, standing?_put]

theorem foldlM_initializeFaction {entries : List FactionEntry} (level : Level store player mgr)
    (distinct : entries.Nodup) (known : ∀ entry ∈ entries, entry ∈ store.entries)
    (fresh : ∀ entry ∈ entries, entry ∈ store.listed → mgr.factions[entry.repListID]? = none) :
    ∃ after, Exact (entries.foldlM (initializeFaction player) mgr) after ∧
      Level store player after ∧
      ∀ entry ∈ store.listed, after.standing? entry.repListID =
        if entry ∈ entries then some 0 else mgr.standing? entry.repListID := by
  induction entries generalizing mgr with
  | nil => exact ⟨mgr, exact_pure.mpr rfl, level, fun entry _ => by simp⟩
  | cons first rest ih =>
    rw [nodup_cons] at distinct
    have inStore := fun entry later => known entry (mem_cons_of_mem first later)
    by_cases listed : first ∈ store.listed
    · obtain ⟨next, run, later, standings⟩ := initializeFaction_ok level listed
        (fresh first mem_cons_self listed)
      have still : ∀ entry ∈ rest, entry ∈ store.listed →
          next.factions[entry.repListID]? = none := by
        intro entry there isListed
        have other : ¬ first.repListID = entry.repListID := fun same =>
          distinct.1 (store.entry_of_repListID listed isListed same ▸ there)
        have standing := standings entry.repListID
        rw [if_neg other] at standing
        unfold standing? at standing
        rw [fresh entry (mem_cons_of_mem first there) isListed] at standing
        exact map_eq_none_iff.mp standing
      obtain ⟨after, runs, done, final⟩ := ih later distinct.2 inStore still
      refine ⟨after, exact_bind.mpr ⟨next, run, runs⟩, done, fun entry isListed => ?_⟩
      rw [final entry isListed, standings]
      by_cases same : entry = first
      · subst same
        simp
      have other : ¬ first.repListID = entry.repListID := fun eq =>
        same (store.entry_of_repListID listed isListed eq).symm
      simp [same, other]
    · have run : Exact (initializeFaction player mgr first) mgr := by
        unfold initializeFaction
        rw [if_neg fun can => listed (store.mem_listed.mpr ⟨known first mem_cons_self, can⟩)]
        exact exact_pure.mpr rfl
      obtain ⟨after, runs, done, final⟩ := ih level distinct.2 inStore fun entry there =>
        fresh entry (mem_cons_of_mem first there)
      refine ⟨after, exact_bind.mpr ⟨mgr, run, runs⟩, done, fun entry isListed => ?_⟩
      rw [final entry isListed]
      have other : entry ≠ first := fun same => listed (same ▸ isListed)
      simp [other]

theorem level_empty (store : FactionStore) (player : Player) : Level store player {} where
  visible := by
    unfold situated
    simp
  ranks tier := by
    unfold situated
    cases tier <;> simp [rankCount]
  keys key state here := by simp at here

variable (store player)

theorem initializeFactions_ok :
    ∃ mgr, Exact (initializeFactions store player) mgr ∧ Level store player mgr ∧
      ∀ entry ∈ store.listed,
        mgr.standing? entry.repListID = if 1 ≤ entry.id then some 0 else none := by
  obtain ⟨mgr, run, level, standings⟩ := foldlM_initializeFaction (level_empty store player)
    (store.nodup_entries.filter _)
    (fun entry there => (mem_filter.mp there).1) fun entry _ _ => by simp
  refine ⟨mgr, run, level, fun entry known => ?_⟩
  rw [standings entry known]
  have inStore := (store.mem_listed.mp known).1
  simp [inStore, standing?]

variable {store player}

/-- The flags of a row change no standing. -/
theorem loadFlags_ok {off : Tier → Int}
    (balanced : Balanced store player mgr off) {entry : FactionEntry} (flags : BitVec 16)
    {standing : Int} (here : mgr.standing? entry.repListID = some standing)
    (fits : Fits (player.getBaseReputation entry + standing)) :
    ∃ after, Exact (mgr.loadFlags player entry flags) after ∧
      Balanced store player after off ∧ ∀ k, after.standing? k = mgr.standing? k := by
  let key := entry.repListID
  let has (flag : BitVec 8) : Bool := flags &&& flag.setWidth 16 ≠ 0#16
  obtain ⟨mgr₁, run₁, balanced₁, same₁⟩ : ∃ after,
      Exact (if has factionFlagVisible then mgr.setVisibleAt key else pure mgr) after ∧
        Balanced store player after off ∧ ∀ k, after.standing? k = mgr.standing? k := by
    split
    · exact balanced.setVisibleAt key
    · exact ⟨mgr, exact_pure.mpr rfl, balanced, fun _ => rfl⟩
  let mgr₂ := if has factionFlagInactive then mgr₁.change key (·.setInactive true) else mgr₁
  obtain ⟨balanced₂, same₂⟩ : Balanced store player mgr₂ off ∧
      ∀ k, mgr₂.standing? k = mgr₁.standing? k := by
    dsimp only [mgr₂]
    split
    · exact balanced₁.change_same key (fun state => state.standing_setInactive true)
        fun state => state.visible_setInactive true
    · exact ⟨balanced₁, fun _ => rfl⟩
  let mgr₃ :=
    if has factionFlagAtWar then mgr₂.change key (·.setAtWar true)
    else mgr₂.change key fun state => if state.visible then state.setAtWar false else state
  obtain ⟨balanced₃, same₃⟩ : Balanced store player mgr₃ off ∧
      ∀ k, mgr₃.standing? k = mgr₂.standing? k := by
    dsimp only [mgr₃]
    split
    · exact balanced₂.change_same key (fun state => state.standing_setAtWar true)
        fun state => state.visible_setAtWar true
    have standing (state : FactionState) :
        (if state.visible then state.setAtWar false else state).standing = state.standing := by
      split <;> simp
    have visible (state : FactionState) :
        (if state.visible then state.setAtWar false else state).visible = state.visible := by
      split <;> simp
    exact balanced₂.change_same key standing visible
  obtain ⟨rank, ranked⟩ : ∃ rank, Exact (mgr₃.getRank player entry) rank := by
    have still : mgr₃.standing? key = some standing := by rw [same₃, same₂, same₁, here]
    obtain ⟨state, found, rfl⟩ := map_eq_some_iff.mp still
    unfold getRank
    rw [show mgr₃.factions[entry.repListID]? = some state from found]
    exact ⟨_, exact_bind.mpr ⟨_, exact_int.mpr ⟨fits, rfl⟩, exact_pure.mpr rfl⟩⟩
  let mgr₄ := if rank ≤ .hostile then mgr₃.change key (·.setAtWar true) else mgr₃
  obtain ⟨balanced₄, same₄⟩ : Balanced store player mgr₄ off ∧
      ∀ k, mgr₄.standing? k = mgr₃.standing? k := by
    dsimp only [mgr₄]
    split
    · exact balanced₃.change_same key (fun state => state.standing_setAtWar true)
        fun state => state.visible_setAtWar true
    · exact ⟨balanced₃, fun _ => rfl⟩
  refine ⟨mgr₄.change key (·.loaded flags), ?_, ?_, fun k => ?_⟩
  · unfold loadFlags
    refine exact_bind.mpr ⟨mgr₁, run₁, ?_⟩
    refine exact_bind.mpr ⟨rank, ranked, ?_⟩
    exact exact_pure.mpr rfl
  · exact balanced₄.change key (fun state => state.standing_loaded flags)
      fun state => state.visible_loaded flags
  · rw [mgr₄.standing?_change key (fun state => state.standing_loaded flags), same₄, same₃, same₂,
      same₁]

end ReputationMgr

theorem le_situated (mgr : ReputationMgr) {entry : FactionEntry} (known : entry ∈ store.listed)
    (situation : FactionEntry → FactionState → Bool) :
    (mgr.factions[entry.repListID]?.any (situation entry)).toNat ≤
      situated store mgr situation := by
  cases holds : mgr.factions[entry.repListID]?.any (situation entry) with
  | false => exact Nat.zero_le _
  | true => exact countP_pos_iff.mpr ⟨entry, known, holds⟩

variable (store player)

/-- A row whose sum with the base reputation fits, and that is not of an honored faction of
row 0. -/
def Loadable (row : ReputationRow) : Prop :=
  ∀ entry, store.lookupEntry row.faction.toNat = some entry → entry.canHaveReputation →
    Fits (player.getBaseReputation entry + row.standing.toInt) ∧
      (entry.id = 0 → ¬ .honored ≤ player.getBaseRank entry)

/-- The base reputation alone. -/
def Untouched (mgr : ReputationMgr) (row : ReputationRow) : Prop :=
  ∀ entry, store.lookupEntry row.faction.toNat = some entry → entry ∈ store.listed →
    mgr.standing? entry.repListID = if 1 ≤ entry.id then some 0 else none

/-- Every total fits into 32 bits. -/
def Fitting (mgr : ReputationMgr) : Prop :=
  ∀ entry ∈ store.listed, ∀ standing, mgr.standing? entry.repListID = some standing →
    Fits (player.getBaseReputation entry + standing)

variable {store player}

namespace ReputationMgr

/-- What a loaded faction of row 0 leaves in no counter. -/
def missed (player : Player) (entry : FactionEntry) (tier : Tier) : Int :=
  if 1 ≤ entry.id then 0 else share (player.getBaseRank entry) tier

theorem missed_nonneg (player : Player) (entry : FactionEntry) (tier : Tier) :
    0 ≤ missed player entry tier := by
  unfold missed
  split
  · exact Int.le_refl 0
  · exact share_nonneg _ _

variable {mgr : ReputationMgr} {entry : FactionEntry}

theorem put_row {off : Tier → Int} (balanced : Balanced store player mgr off)
    (known : entry ∈ store.listed)
    (fresh : mgr.standing? entry.repListID = if 1 ≤ entry.id then some 0 else none)
    (standing : Int) :
    Balanced store player
      (mgr.put entry.repListID { mgr.factions[entry.repListID]?.getD {} with standing })
      fun tier => off tier + missed player entry tier +
        share (reputationToRank (player.getBaseReputation entry + standing)) tier -
        share (player.getBaseRank entry) tier := by
  have visible : (mgr.factions[entry.repListID]?.getD {}).visible =
      mgr.factions[entry.repListID]?.any (·.visible) := by
    cases mgr.factions[entry.repListID]? with
    | none => decide
    | some state => rfl
  have moved := balanced.put known { mgr.factions[entry.repListID]?.getD {} with standing } visible
  refine ⟨moved.visible, fun tier => ?_, moved.keys⟩
  have count := moved.ranks tier
  dsimp only at count ⊢
  rw [fresh] at count
  unfold missed
  by_cases first : 1 ≤ entry.id
  · rw [if_pos first, held_some, held_some, Int.add_zero] at count
    rw [if_pos first]
    unfold Player.getBaseRank
    omega
  rw [if_neg first, held_some, held_none] at count
  rw [if_neg first]
  omega

variable {after : ReputationMgr} {row : ReputationRow}

theorem of_loadRow {off : Tier → Int} (balanced : Balanced store player mgr off)
    (found : store.lookupEntry row.faction.toNat = some entry) (known : entry ∈ store.listed)
    (fresh : mgr.standing? entry.repListID = if 1 ≤ entry.id then some 0 else none)
    (run : Exact (loadRow store player mgr row) after) :
    Fits (player.getBaseReputation entry + row.standing.toInt) ∧
      Balanced store player after (fun tier => off tier + missed player entry tier) ∧
      ∀ k, after.standing? k =
        if entry.repListID = k then some row.standing.toInt else mgr.standing? k := by
  unfold loadRow at run
  rw [found] at run
  dsimp only at run
  rw [if_pos (store.mem_listed.mp known).2] at run
  obtain ⟨sum, added, run⟩ := exact_bind.mp run
  obtain ⟨fits, rfl⟩ := exact_int.mp added
  obtain ⟨moved, counted, run⟩ := exact_bind.mp run
  have put := put_row balanced known fresh row.standing.toInt
  have level := put.updateRankCounters counted
  obtain ⟨factions, -, -⟩ := of_updateRankCounters counted
  have standings (k : Nat) : moved.standing? k =
      if entry.repListID = k then some row.standing.toInt else mgr.standing? k := by
    unfold standing?
    rw [factions]
    exact standing?_put mgr _ _ k
  have here : moved.standing? entry.repListID = some row.standing.toInt := by
    rw [standings, if_pos rfl]
  obtain ⟨last, runs, done, same⟩ := loadFlags_ok level row.flags here fits
  obtain rfl : after = last := by
    have equal : some after = some last := run.value.symm.trans runs.value
    exact some.inj equal
  refine ⟨fits, ⟨done.visible, fun tier => ?_, done.keys⟩, fun k => (same k).trans (standings k)⟩
  have count := done.ranks tier
  unfold Player.getBaseRank at count
  omega

theorem loadRow_ok (level : Level store player mgr)
    (found : store.lookupEntry row.faction.toNat = some entry) (known : entry ∈ store.listed)
    (fresh : mgr.standing? entry.repListID = if 1 ≤ entry.id then some 0 else none)
    (loadable : Loadable store player row) :
    ∃ after, Exact (loadRow store player mgr row) after := by
  have can := (store.mem_listed.mp known).2
  obtain ⟨fits, low⟩ := loadable entry found can
  have put := put_row level known fresh row.standing.toInt
  have zero (tier : Tier) : missed player entry tier = 0 := by
    unfold missed
    split
    · rfl
    · next first => exact share_of_not_honored (low (by omega)) tier
  let new : FactionState :=
    { mgr.factions[entry.repListID]?.getD {} with standing := row.standing.toInt }
  obtain ⟨moved, counted⟩ : ∃ moved,
      Exact ((mgr.put entry.repListID new).updateRankCounters (player.getBaseRank entry)
        (reputationToRank (player.getBaseReputation entry + row.standing.toInt))) moved := by
    refine put.exists_updateRankCounters (fun tier => ?_) fun tier => ?_
    · have nothing := zero tier
      omega
    · have counts := le_situated (mgr.put entry.repListID new) known (reached player tier.rank)
      rw [mgr.put_getElem?, if_pos rfl, any_some] at counts
      have count : ((reached player tier.rank entry new).toNat : Int) =
          share (reputationToRank (player.getBaseReputation entry + row.standing.toInt)) tier :=
        reached_eq player entry new tier
      change share (reputationToRank (player.getBaseReputation entry + row.standing.toInt)) tier ≤
        (situated store (mgr.put entry.repListID new) (reached player tier.rank) : Int)
      omega
  obtain ⟨factions, -, -⟩ := of_updateRankCounters counted
  have here : moved.standing? entry.repListID = some row.standing.toInt := by
    unfold standing?
    rw [factions, mgr.put_getElem?, if_pos rfl]
    rfl
  obtain ⟨last, runs, -, -⟩ :=
    loadFlags_ok (put.updateRankCounters counted) row.flags here fits
  refine ⟨last, ?_⟩
  unfold loadRow
  rw [found]
  dsimp only
  rw [if_pos can]
  refine exact_bind.mpr ⟨_, exact_int.mpr ⟨fits, rfl⟩, ?_⟩
  exact exact_bind.mpr ⟨moved, counted, runs⟩

theorem loadRow_none (mgr : ReputationMgr)
    (unknown : ∀ entry, store.lookupEntry row.faction.toNat = some entry →
      entry ∉ store.listed) : loadRow store player mgr row = pure mgr := by
  unfold loadRow
  cases found : store.lookupEntry row.faction.toNat with
  | none => rfl
  | some entry =>
    have known := (store.lookupEntry_eq_some.mp found).1
    dsimp only
    rw [if_neg fun can => unknown entry found (store.mem_listed.mpr ⟨known, can⟩)]

theorem untouched_after {other : ReputationRow}
    (differ : row.faction ≠ other.faction)
    (found : store.lookupEntry row.faction.toNat = some entry) (known : entry ∈ store.listed)
    (standings : ∀ k, after.standing? k =
      if entry.repListID = k then some row.standing.toInt else mgr.standing? k)
    (untouched : Untouched store mgr other) : Untouched store after other := by
  intro next foundNext knownNext
  have ne : ¬ entry.repListID = next.repListID := by
    intro same
    have equal := store.entry_of_repListID known knownNext same
    have first := (store.lookupEntry_eq_some.mp found).2
    have second := (store.lookupEntry_eq_some.mp foundNext).2
    rw [equal, second] at first
    exact differ (UInt16.toNat_inj.mp first.symm)
  rw [standings, if_neg ne]
  exact untouched next foundNext knownNext

/-- Loaded rows leave the counters behind or as they were, and behind where a row could not be
loaded. -/
theorem of_loadRows {rows : List ReputationRow} {off : Tier → Int}
    (once : (rows.map (·.faction)).Nodup) (balanced : Balanced store player mgr off)
    (untouched : ∀ row ∈ rows, Untouched store mgr row)
    (run : Exact (rows.foldlM (loadRow store player) mgr) after) :
    ∃ later, Balanced store player after later ∧ (∀ tier, off tier ≤ later tier) ∧
      (later .honored = off .honored → ∀ row ∈ rows, Loadable store player row) := by
  induction rows generalizing mgr off with
  | nil =>
    obtain rfl : mgr = after := exact_pure.mp run
    exact ⟨off, balanced, fun _ => Int.le_refl _, fun _ row there => nomatch there⟩
  | cons row rows ih =>
    rw [map_cons, nodup_cons] at once
    obtain ⟨next, first, runs⟩ := exact_bind.mp run
    have apart : ∀ other ∈ rows, row.faction ≠ other.faction := fun other there same =>
      once.1 (same ▸ mem_map_of_mem there)
    by_cases known : ∃ entry, store.lookupEntry row.faction.toNat = some entry ∧
      entry ∈ store.listed
    · obtain ⟨entry, found, listed⟩ := known
      obtain ⟨fits, behind, standings⟩ := of_loadRow balanced found listed
        (untouched row mem_cons_self entry found listed) first
      obtain ⟨later, done, grows, loadable⟩ := ih once.2 behind (fun other there =>
        untouched_after (apart other there) found listed standings
          (untouched other (mem_cons_of_mem row there))) runs
      refine ⟨later, done, fun tier => ?_, fun same => ?_⟩
      · have positive := missed_nonneg player entry tier
        have step := grows tier
        omega
      · have positive := missed_nonneg player entry .honored
        have step := grows .honored
        refine forall_mem_cons.mpr ⟨?_, loadable (by omega)⟩
        intro other foundOther _
        obtain rfl : other = entry := by
          rw [found] at foundOther
          exact (some.inj foundOther).symm
        refine ⟨fits, fun zero high => ?_⟩
        have one : missed player other .honored = 1 := by
          unfold missed
          rw [if_neg (by omega)]
          exact if_pos high
        omega
    · have unknown : ∀ entry, store.lookupEntry row.faction.toNat = some entry →
          entry ∉ store.listed := fun entry found listed => known ⟨entry, found, listed⟩
      rw [loadRow_none mgr unknown] at first
      obtain rfl : mgr = next := exact_pure.mp first
      obtain ⟨later, done, grows, loadable⟩ := ih once.2 balanced (fun other there =>
        untouched other (mem_cons_of_mem row there)) runs
      refine ⟨later, done, grows, fun same => forall_mem_cons.mpr ⟨?_, loadable same⟩⟩
      intro entry found can
      exact absurd (store.mem_listed.mpr ⟨(store.lookupEntry_eq_some.mp found).1, can⟩)
        (unknown entry found)

theorem loadRows_ok {rows : List ReputationRow}
    (once : (rows.map (·.faction)).Nodup) (level : Level store player mgr)
    (fitting : Fitting store player mgr) (untouched : ∀ row ∈ rows, Untouched store mgr row)
    (loadable : ∀ row ∈ rows, Loadable store player row) :
    ∃ after, Exact (rows.foldlM (loadRow store player) mgr) after ∧
      Level store player after ∧ Fitting store player after := by
  induction rows generalizing mgr with
  | nil => exact ⟨mgr, exact_pure.mpr rfl, level, fitting⟩
  | cons row rows ih =>
    rw [map_cons, nodup_cons] at once
    have apart : ∀ other ∈ rows, row.faction ≠ other.faction := fun other there same =>
      once.1 (same ▸ mem_map_of_mem there)
    obtain ⟨canLoad, rest⟩ := forall_mem_cons.mp loadable
    by_cases known : ∃ entry, store.lookupEntry row.faction.toNat = some entry ∧
      entry ∈ store.listed
    · obtain ⟨entry, found, listed⟩ := known
      have fresh := untouched row mem_cons_self entry found listed
      obtain ⟨next, first⟩ := loadRow_ok level found listed fresh canLoad
      obtain ⟨fits, behind, standings⟩ := of_loadRow level found listed fresh first
      have zero (tier : Tier) : missed player entry tier = 0 := by
        have low := (canLoad entry found (store.mem_listed.mp listed).2).2
        unfold missed
        split
        · rfl
        · exact share_of_not_honored (low (by omega)) tier
      have still : Level store player next := by
        refine ⟨behind.visible, fun tier => ?_, behind.keys⟩
        have count := behind.ranks tier
        have nothing := zero tier
        omega
      have all : Fitting store player next := by
        intro other knownOther standing here
        rw [standings] at here
        split at here
        · rename_i same
          obtain rfl := store.entry_of_repListID listed knownOther same
          obtain rfl := some.inj here
          exact fits
        · exact fitting other knownOther standing here
      obtain ⟨after, runs, done⟩ := ih once.2 still all (fun other there =>
        untouched_after (apart other there) found listed standings
          (untouched other (mem_cons_of_mem row there))) rest
      exact ⟨after, exact_bind.mpr ⟨next, first, runs⟩, done⟩
    · have first : Exact (loadRow store player mgr row) mgr := by
        rw [loadRow_none mgr fun entry found listed => known ⟨entry, found, listed⟩]
        exact exact_pure.mpr rfl
      obtain ⟨after, runs, done⟩ := ih once.2 level fitting (fun other there =>
        untouched other (mem_cons_of_mem row there)) rest
      exact ⟨after, exact_bind.mpr ⟨mgr, first, runs⟩, done⟩

end ReputationMgr

theorem Balanced.increased {mgr : ReputationMgr} {off : Tier → Int}
    (balanced : Balanced store player mgr off) (increased : Bool) :
    Balanced store player { mgr with sendFactionIncreased := increased } off where
  visible := balanced.visible
  ranks tier := by
    have count := balanced.ranks tier
    cases tier <;> exact count
  keys := balanced.keys

theorem fitting_initial {mgr : ReputationMgr}
    (standings : ∀ entry ∈ store.listed,
      mgr.standing? entry.repListID = if 1 ≤ entry.id then some 0 else none) :
    Fitting store player mgr := by
  intro entry known standing here
  rw [standings entry known] at here
  split at here
  · obtain rfl := some.inj here
    rw [Int.add_zero]
    unfold Player.getBaseReputation
    split
    · exact fits_toInt _
    · exact ⟨by decide, by decide⟩
  · cases here

namespace ReputationMgr

theorem loadFromDB_iff {rows : List ReputationRow} (once : (rows.map (·.faction)).Nodup) :
    (∃ after, Exact (loadFromDB store player rows) after ∧ Counted store player after) ↔
      ∀ row ∈ rows, Loadable store player row := by
  obtain ⟨start, began, level, standings⟩ := initializeFactions_ok store player
  have untouched : ∀ row ∈ rows, Untouched store start row :=
    fun _ _ entry _ known => standings entry known
  constructor
  · rintro ⟨after, run, counted⟩
    obtain ⟨mgr, first, rest⟩ := exact_bind.mp run
    obtain rfl : start = mgr := some.inj (began.value.symm.trans first.value)
    obtain ⟨later, done, -, loadable⟩ := of_loadRows once level untouched rest
    exact loadable ((level_iff done).mp counted .honored)
  · intro loadable
    obtain ⟨after, run, done, -⟩ :=
      loadRows_ok once level (fitting_initial standings) untouched loadable
    exact ⟨after, exact_bind.mpr ⟨start, began, run⟩, (level_iff done).mpr fun _ => rfl⟩

theorem loadFromDB_keeps {rows : List ReputationRow} (once : (rows.map (·.faction)).Nodup)
    (loadable : ∀ row ∈ rows, Loadable store player row) :
    ∃ after, Exact (loadFromDB store player rows) after ∧ Level store player after ∧
      Fitting store player after := by
  obtain ⟨start, began, level, standings⟩ := initializeFactions_ok store player
  obtain ⟨after, run, done⟩ := loadRows_ok once level (fitting_initial standings)
    (fun _ _ entry _ known => standings entry known) loadable
  exact ⟨after, exact_bind.mpr ⟨start, began, run⟩, done⟩

end ReputationMgr

end

end OpenWoW.Reputation
