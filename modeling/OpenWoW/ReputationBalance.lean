import OpenWoW.Lib.Counting
import OpenWoW.Reputation

/-! How far the counters of visible, honored, revered and exalted factions are off. -/
namespace OpenWoW.Reputation

open List Option

open Checked (Exact exact_bind exact_pure exact_unsigned)

/-- A value of 32 signed bits. -/
def Fits (x : Int) : Prop := -2 ^ 31 ≤ x ∧ x < 2 ^ 31

instance (x : Int) : Decidable (Fits x) := inferInstanceAs (Decidable (_ ∧ _))

theorem exact_int {x y : Int} : Exact (.int 32 x) y ↔ Fits x ∧ x = y := Checked.exact_int

theorem fits_toInt (x : Int32) : Fits x.toInt := ⟨x.le_toInt, x.toInt_lt⟩

namespace FactionStore

variable (store : FactionStore)

theorem entry_of_id {a b : FactionEntry} (left : a ∈ store.entries) (right : b ∈ store.entries)
    (same : a.id = b.id) : a = b := by
  by_contra other
  rcases pairwise_iff_getElem.mp store.ordered with ordered
  obtain ⟨i, hi, rfl⟩ := getElem_of_mem left
  obtain ⟨j, hj, rfl⟩ := getElem_of_mem right
  rcases Nat.lt_trichotomy i j with before | same' | after
  · have := ordered i j hi hj before
    omega
  · subst same'
    exact other rfl
  · have := ordered j i hj hi after
    omega

theorem nodup_entries : store.entries.Nodup :=
  store.ordered.imp fun less same => by
    subst same
    exact Nat.lt_irrefl _ less

theorem nodup_listed : store.listed.Nodup := store.nodup_entries.filter _

variable {entry : FactionEntry}

theorem mem_listed :
    entry ∈ store.listed ↔ entry ∈ store.entries ∧ entry.canHaveReputation = true :=
  mem_filter

theorem entry_of_repListID {a b : FactionEntry} (left : a ∈ store.listed)
    (right : b ∈ store.listed) (same : a.repListID = b.repListID) : a = b :=
  inj_on_of_nodup_map store.distinct left right same

theorem listed_of_repListID {other : FactionEntry} (known : entry ∈ store.entries)
    (listed : other ∈ store.listed) (same : other.repListID = entry.repListID) :
    entry ∈ store.listed := by
  refine store.mem_listed.mpr ⟨known, ?_⟩
  have can := (store.mem_listed.mp listed).2
  unfold FactionEntry.canHaveReputation at can ⊢
  have equal : other.reputationListID = entry.reputationListID := by
    have unsigned := UInt32.toNat_inj.mp same
    exact congrArg Int32.ofUInt32 unsigned
  rw [← equal]
  exact can

theorem lookupEntry_eq_some {id : Nat} :
    store.lookupEntry id = some entry ↔ entry ∈ store.entries ∧ entry.id = id := by
  constructor
  · intro found
    exact ⟨mem_of_find?_eq_some found, by simpa using find?_some found⟩
  · rintro ⟨mem, rfl⟩
    cases found : store.lookupEntry entry.id with
    | none =>
      have missing := find?_eq_none.mp found entry mem
      exact absurd (decide_eq_true rfl) missing
    | some other =>
      have same : other.id = entry.id := by simpa using find?_some found
      rw [store.entry_of_id (mem_of_find?_eq_some found) mem same]

end FactionStore

/-- The ranks with a counter of their own. -/
inductive Tier where
  | honored
  | revered
  | exalted

def Tier.rank : Tier → ReputationRank
  | honored => .honored
  | revered => .revered
  | exalted => .exalted

/-- A faction of a rank counts in the counters of this rank and those below. -/
def share (rank : ReputationRank) (tier : Tier) : Int := if tier.rank ≤ rank then 1 else 0

variable (rank : ReputationRank) (tier : Tier) (state : FactionState) (atWar inactive : Bool)
  (dbFactionFlags : BitVec 16)

theorem share_nonneg : 0 ≤ share rank tier := by
  unfold share
  split <;> omega

theorem share_hostile : share .hostile tier = 0 := by
  cases tier <;> decide

theorem share_of_not_honored {rank : ReputationRank} (low : ¬ .honored ≤ rank) (tier : Tier) :
    share rank tier = 0 := by
  refine if_neg fun reached => low ?_
  have least : ReputationRank.honored.toNat ≤ tier.rank.toNat := by cases tier <;> decide
  exact least.trans reached

namespace FactionState

@[simp] theorem standing_setAtWar :
    (state.setAtWar atWar).standing = state.standing := by
  unfold setAtWar
  split_ifs <;> rfl

@[simp] theorem standing_setInactive :
    (state.setInactive inactive).standing = state.standing := by
  unfold setInactive
  split_ifs <;> rfl

@[simp] theorem standing_loaded :
    (state.loaded dbFactionFlags).standing = state.standing := by
  unfold loaded
  split_ifs <;> rfl

theorem visible_or {flag : BitVec 8} (other : flag &&& 0x01#8 = 0#8) :
    (state.changed (state.flags ||| flag)).visible = state.visible := by
  have bits : ∀ flags : BitVec 8, (flags ||| flag) &&& 0x01#8 = flags &&& 0x01#8 := by
    intro flags
    rw [BitVec.and_comm, BitVec.and_or_distrib_left, BitVec.and_comm 0x01#8 flag, other,
      BitVec.or_zero, BitVec.and_comm]
  exact congrArg (fun masked => decide (masked ≠ 0#8)) (bits state.flags)

theorem visible_and_not {flag : BitVec 8}
    (other : ~~~ flag &&& 0x01#8 = 0x01#8) :
    (state.changed (state.flags &&& ~~~ flag)).visible = state.visible := by
  have bits : ∀ flags : BitVec 8, (flags &&& ~~~ flag) &&& 0x01#8 = flags &&& 0x01#8 := by
    intro flags
    rw [BitVec.and_assoc, other]
  exact congrArg (fun masked => decide (masked ≠ 0#8)) (bits state.flags)

@[simp] theorem visible_setAtWar :
    (state.setAtWar atWar).visible = state.visible := by
  unfold setAtWar
  split_ifs
  · rfl
  · rfl
  · exact visible_or state (by decide)
  · exact visible_and_not state (by decide)

@[simp] theorem visible_setInactive :
    (state.setInactive inactive).visible = state.visible := by
  unfold setInactive
  split_ifs
  · rfl
  · rfl
  · exact visible_or state (by decide)
  · exact visible_and_not state (by decide)

@[simp] theorem visible_loaded :
    (state.loaded dbFactionFlags).visible = state.visible := by
  unfold loaded
  split_ifs <;> rfl

theorem visible_shown :
    (state.changed (state.flags ||| factionFlagVisible)).visible = true := by
  have bits : ∀ flags : BitVec 8, decide ((flags ||| 0x01#8) &&& 0x01#8 ≠ 0#8) = true := by
    decide +kernel
  exact bits state.flags

end FactionState

namespace ReputationMgr

def rankCount (mgr : ReputationMgr) : Tier → Nat
  | .honored => mgr.honoredFactionCount
  | .revered => mgr.reveredFactionCount
  | .exalted => mgr.exaltedFactionCount

def standing? (mgr : ReputationMgr) (key : Nat) : Option Int :=
  mgr.factions[key]?.map (·.standing)

theorem put_getElem? (mgr : ReputationMgr) (key : Nat) (state : FactionState) (k : Nat) :
    (mgr.put key state).factions[k]? = if key = k then some state else mgr.factions[k]? := by
  unfold put
  simp only [Std.ExtTreeMap.getElem?_insert, Std.LawfulEqCmp.compare_eq_iff_eq]

@[simp] theorem rankCount_put (mgr : ReputationMgr) (key : Nat) (state : FactionState)
    (tier : Tier) : (mgr.put key state).rankCount tier = mgr.rankCount tier := by
  cases tier <;> rfl

@[simp] theorem visible_put (mgr : ReputationMgr) (key : Nat) (state : FactionState) :
    (mgr.put key state).visibleFactionCount = mgr.visibleFactionCount := rfl

end ReputationMgr

section

variable (store : FactionStore) (player : Player)

def situated (mgr : ReputationMgr) (situation : FactionEntry → FactionState → Bool) : Nat :=
  store.listed.countP fun entry => mgr.factions[entry.repListID]?.any (situation entry)

def shown : FactionEntry → FactionState → Bool := fun _ state => state.visible

def reached (rank : ReputationRank) : FactionEntry → FactionState → Bool :=
  fun entry state => rank ≤ reputationToRank (ReputationMgr.total player entry state)

structure Counted (mgr : ReputationMgr) : Prop where
  visible : mgr.visibleFactionCount = situated store mgr shown
  ranks : ∀ tier : Tier, mgr.rankCount tier = situated store mgr (reached player tier.rank)

/-- The rank counters are off by `off`. -/
structure Balanced (mgr : ReputationMgr) (off : Tier → Int) : Prop where
  visible : mgr.visibleFactionCount = situated store mgr shown
  ranks : ∀ tier : Tier,
    (mgr.rankCount tier : Int) + off tier = situated store mgr (reached player tier.rank)
  keys : ∀ key state, mgr.factions[key]? = some state →
    ∃ entry ∈ store.listed, entry.repListID = key

def held (entry : FactionEntry) (standing : Option Int) (tier : Tier) : Int :=
  match standing with
  | some standing => share (reputationToRank (player.getBaseReputation entry + standing)) tier
  | none => 0

variable {store player}

theorem held_some (entry : FactionEntry) (standing : Int) (tier : Tier) :
    held player entry (some standing) tier =
      share (reputationToRank (player.getBaseReputation entry + standing)) tier := rfl

theorem held_none (entry : FactionEntry) (tier : Tier) : held player entry none tier = 0 := rfl

theorem situated_le (store : FactionStore) (mgr : ReputationMgr)
    (situation : FactionEntry → FactionState → Bool) :
    situated store mgr situation ≤ 255 :=
  countP_le_length.trans store.few

theorem situated_put (mgr : ReputationMgr) {entry : FactionEntry} (known : entry ∈ store.listed)
    (state : FactionState) (situation : FactionEntry → FactionState → Bool) :
    situated store (mgr.put entry.repListID state) situation +
        (mgr.factions[entry.repListID]?.any (situation entry)).toNat =
      situated store mgr situation + (situation entry state).toNat := by
  have change := Counting.countP_change
    (fun entry : FactionEntry => mgr.factions[entry.repListID]?.any (situation entry))
    (fun other => (mgr.put entry.repListID state).factions[other.repListID]?.any (situation other))
    store.nodup_listed known fun other there ne => by
      have differ : ¬ entry.repListID = other.repListID :=
        fun same => ne (store.entry_of_repListID there known same.symm)
      rw [mgr.put_getElem?, if_neg differ]
  rw [mgr.put_getElem? entry.repListID state entry.repListID, if_pos rfl, any_some] at change
  exact change

theorem situated_change (mgr : ReputationMgr) (key : Nat) (f : FactionState → FactionState)
    (situation : FactionEntry → FactionState → Bool)
    (same : ∀ entry state, situation entry (f state) = situation entry state) :
    situated store (mgr.change key f) situation = situated store mgr situation := by
  refine countP_congr fun entry there => ?_
  unfold ReputationMgr.change
  cases here : mgr.factions[key]? with
  | none => rfl
  | some state =>
    rw [mgr.put_getElem?]
    split
    · next eq => rw [← eq, here, any_some, any_some, same]
    · rfl

theorem reached_eq (player : Player) (entry : FactionEntry) (state : FactionState) (tier : Tier) :
    ((reached player tier.rank entry state).toNat : Int) =
      held player entry (some state.standing) tier := by
  unfold reached held share ReputationMgr.total
  by_cases high : tier.rank ≤ reputationToRank (player.getBaseReputation entry + state.standing)
  · simp [high]
  · simp [high]

theorem any_reached_eq (player : Player) (mgr : ReputationMgr) (entry : FactionEntry)
    (tier : Tier) :
    ((mgr.factions[entry.repListID]?.any (reached player tier.rank entry)).toNat : Int) =
      held player entry (mgr.standing? entry.repListID) tier := by
  unfold ReputationMgr.standing?
  cases mgr.factions[entry.repListID]? with
  | none => rfl
  | some state => exact reached_eq player entry state tier

namespace ReputationMgr

theorem standing?_put (mgr : ReputationMgr) (key : Nat) (state : FactionState) (k : Nat) :
    (mgr.put key state).standing? k = if key = k then some state.standing else mgr.standing? k := by
  unfold standing?
  rw [mgr.put_getElem?]
  split <;> rfl

theorem standing?_change (mgr : ReputationMgr) (key : Nat) {f : FactionState → FactionState}
    (same : ∀ state, (f state).standing = state.standing) (k : Nat) :
    (mgr.change key f).standing? k = mgr.standing? k := by
  unfold change
  cases here : mgr.factions[key]? with
  | none => rfl
  | some state =>
    rw [standing?_put]
    split
    · rename_i eq
      unfold standing?
      rw [← eq, here, map_some, same]
    · rfl

theorem rankCount_change (mgr : ReputationMgr) (key : Nat) (f : FactionState → FactionState)
    (tier : Tier) : (mgr.change key f).rankCount tier = mgr.rankCount tier := by
  unfold change
  split
  · exact rankCount_put _ _ _ _
  · rfl

theorem visible_change (mgr : ReputationMgr) (key : Nat) (f : FactionState → FactionState) :
    (mgr.change key f).visibleFactionCount = mgr.visibleFactionCount := by
  unfold change
  split <;> rfl

end ReputationMgr

namespace Balanced

variable {mgr after : ReputationMgr} {off : Tier → Int}

theorem keys_put (balanced : Balanced store player mgr off) {entry : FactionEntry}
    (known : entry ∈ store.listed) {state : FactionState} (key : Nat) (other : FactionState)
    (here : (mgr.put entry.repListID state).factions[key]? = some other) :
    ∃ entry ∈ store.listed, entry.repListID = key := by
  rw [mgr.put_getElem?] at here
  split at here
  · next eq => exact ⟨entry, known, eq⟩
  · exact balanced.keys key other here

theorem change (balanced : Balanced store player mgr off) (key : Nat)
    {f : FactionState → FactionState} (standing : ∀ state, (f state).standing = state.standing)
    (visible : ∀ state, (f state).visible = state.visible) :
    Balanced store player (mgr.change key f) off where
  visible := by
    rw [mgr.visible_change, situated_change mgr key f shown fun _ => visible]
    exact balanced.visible
  ranks tier := by
    rw [mgr.rankCount_change, situated_change mgr key f]
    · exact balanced.ranks tier
    · intro entry state
      unfold reached ReputationMgr.total
      rw [standing]
  keys k state here := by
    unfold ReputationMgr.change at here
    cases there : mgr.factions[key]? with
    | none =>
      rw [there] at here
      exact balanced.keys k state here
    | some was =>
      rw [there] at here
      obtain ⟨entry, known, rfl⟩ := balanced.keys key was there
      exact balanced.keys_put known k state here

theorem change_same (balanced : Balanced store player mgr off) (key : Nat)
    {f : FactionState → FactionState} (standing : ∀ state, (f state).standing = state.standing)
    (visible : ∀ state, (f state).visible = state.visible) :
    Balanced store player (mgr.change key f) off ∧
      ∀ k, (mgr.change key f).standing? k = mgr.standing? k :=
  ⟨balanced.change key standing visible, mgr.standing?_change key standing⟩

theorem put (balanced : Balanced store player mgr off) {entry : FactionEntry}
    (known : entry ∈ store.listed) (state : FactionState)
    (visible : state.visible = mgr.factions[entry.repListID]?.any (·.visible)) :
    Balanced store player (mgr.put entry.repListID state) fun tier =>
      off tier + held player entry (some state.standing) tier -
        held player entry (mgr.standing? entry.repListID) tier where
  visible := by
    have counts := situated_put mgr known state shown
    have same : shown entry state = mgr.factions[entry.repListID]?.any (shown entry) := visible
    rw [same] at counts
    rw [mgr.visible_put, balanced.visible]
    omega
  ranks tier := by
    have counts := situated_put mgr known state (reached player tier.rank)
    have old := any_reached_eq player mgr entry tier
    have new := reached_eq player entry state tier
    have before := balanced.ranks tier
    rw [mgr.rankCount_put]
    omega
  keys := balanced.keys_put known

/-- Showing a faction counts it. -/
theorem setVisibleAt (balanced : Balanced store player mgr off) (key : Nat) :
    ∃ after, Exact (mgr.setVisibleAt key) after ∧ Balanced store player after off ∧
      ∀ k, after.standing? k = mgr.standing? k := by
  unfold ReputationMgr.setVisibleAt
  cases here : mgr.factions[key]? with
  | none => exact ⟨mgr, exact_pure.mpr rfl, balanced, fun _ => rfl⟩
  | some state =>
    dsimp only
    split_ifs with hidden already
    · exact ⟨mgr, exact_pure.mpr rfl, balanced, fun _ => rfl⟩
    · exact ⟨mgr, exact_pure.mpr rfl, balanced, fun _ => rfl⟩
    · obtain ⟨entry, known, rfl⟩ := balanced.keys key state here
      let new := state.changed (state.flags ||| factionFlagVisible)
      have counts := situated_put mgr known new shown
      have now : shown entry new = true := state.visible_shown
      have was : shown entry state = false := Bool.eq_false_iff.mpr already
      rw [here, any_some, was, now] at counts
      have bound := situated_le store (mgr.put entry.repListID new) shown
      have start := balanced.visible
      simp only [Bool.toNat_false, Bool.toNat_true] at counts
      refine ⟨{ mgr.put entry.repListID new with
        visibleFactionCount := mgr.visibleFactionCount + 1 }, ?_, ?_, ?_⟩
      · refine exact_bind.mpr ⟨mgr.visibleFactionCount + 1, ?_, exact_pure.mpr rfl⟩
        exact exact_unsigned.mpr ⟨by omega, by omega⟩
      · refine ⟨?_, fun tier => ?_, balanced.keys_put known⟩
        · change mgr.visibleFactionCount + 1 = situated store (mgr.put _ new) shown
          omega
        · have same := situated_put mgr known new (reached player tier.rank)
          have keeps : reached player tier.rank entry new =
              reached player tier.rank entry state := rfl
          rw [here, any_some, keeps] at same
          have before := balanced.ranks tier
          change ((mgr.put entry.repListID new).rankCount tier : Int) + off tier =
            situated store (mgr.put entry.repListID new) (reached player tier.rank)
          rw [mgr.rankCount_put]
          omega
      · intro k
        change (mgr.put entry.repListID new).standing? k = mgr.standing? k
        rw [mgr.standing?_put]
        split
        · rename_i eq
          unfold ReputationMgr.standing?
          rw [← eq, here]
          rfl
        · rfl

end Balanced

namespace ReputationMgr

theorem exact_bump {test : Prop} [Decidable test] {count n : Nat} {delta : Int} :
    Exact (bump test count delta) n ↔
      (n : Int) = count + (if test then delta else 0) ∧ (test → n < 2 ^ 8) := by
  unfold bump
  by_cases holds : test
  · rw [if_pos holds, if_pos holds, exact_unsigned]
    constructor
    · rintro ⟨same, small⟩
      exact ⟨same.symm, fun _ => by omega⟩
    · rintro ⟨same, small⟩
      have := small holds
      exact ⟨same.symm, by omega⟩
  · rw [if_neg holds, if_neg holds, exact_pure]
    constructor
    · rintro rfl
      exact ⟨by omega, fun yes => absurd yes holds⟩
    · rintro ⟨same, _⟩
      omega

theorem minus_share :
    (if tier.rank ≤ rank then (-1 : Int) else 0) = -share rank tier := by
  unfold share
  split <;> rfl

theorem of_updateRankCounters {mgr after : ReputationMgr} {oldRank newRank : ReputationRank}
    (run : Exact (mgr.updateRankCounters oldRank newRank) after) :
    after.factions = mgr.factions ∧ after.visibleFactionCount = mgr.visibleFactionCount ∧
      ∀ tier, (after.rankCount tier : Int) =
        mgr.rankCount tier - share oldRank tier + share newRank tier := by
  simp only [updateRankCounters, exact_bind, exact_pure, exact_bump] at run
  obtain ⟨exalted, ⟨lowExalted, _⟩, revered, ⟨lowRevered, _⟩, honored, ⟨lowHonored, _⟩, exalted',
    ⟨highExalted, _⟩, revered', ⟨highRevered, _⟩, honored', ⟨highHonored, _⟩, rfl⟩ := run
  refine ⟨rfl, rfl, fun tier => ?_⟩
  cases tier with
  | honored =>
    have low := minus_share oldRank .honored
    change (if ReputationRank.honored ≤ oldRank then (-1 : Int) else 0) = _ at low
    change (honored' : Int) = mgr.honoredFactionCount - _ + share newRank .honored
    rw [highHonored, lowHonored, low]
    rfl
  | revered =>
    have low := minus_share oldRank .revered
    change (if ReputationRank.revered ≤ oldRank then (-1 : Int) else 0) = _ at low
    change (revered' : Int) = mgr.reveredFactionCount - _ + share newRank .revered
    rw [highRevered, lowRevered, low]
    rfl
  | exalted =>
    have low := minus_share oldRank .exalted
    change (if ReputationRank.exalted ≤ oldRank then (-1 : Int) else 0) = _ at low
    change (exalted' : Int) = mgr.exaltedFactionCount - _ + share newRank .exalted
    rw [highExalted, lowExalted, low]
    rfl

theorem exists_updateRankCounters (mgr : ReputationMgr) {oldRank newRank : ReputationRank}
    (low high : Tier → Nat)
    (lowers : ∀ tier, (low tier : Int) = mgr.rankCount tier - share oldRank tier)
    (raises : ∀ tier, (high tier : Int) = low tier + share newRank tier)
    (small : ∀ tier, low tier < 2 ^ 8 ∧ high tier < 2 ^ 8) :
    ∃ after, Exact (mgr.updateRankCounters oldRank newRank) after := by
  have lower : ∀ tier : Tier,
      Exact (bump (tier.rank ≤ oldRank) (mgr.rankCount tier) (-1)) (low tier) := fun tier => by
    rw [exact_bump, minus_share]
    exact ⟨by rw [lowers]; rfl, fun _ => (small tier).1⟩
  have raise : ∀ tier : Tier,
      Exact (bump (tier.rank ≤ newRank) (low tier) 1) (high tier) := fun tier =>
    exact_bump.mpr ⟨raises tier, fun _ => (small tier).2⟩
  refine ⟨{ mgr with
    exaltedFactionCount := high .exalted
    reveredFactionCount := high .revered
    honoredFactionCount := high .honored }, ?_⟩
  refine exact_bind.mpr ⟨_, lower .exalted, exact_bind.mpr ⟨_, lower .revered,
    exact_bind.mpr ⟨_, lower .honored, exact_bind.mpr ⟨_, raise .exalted,
      exact_bind.mpr ⟨_, raise .revered, exact_bind.mpr ⟨_, raise .honored, ?_⟩⟩⟩⟩⟩⟩
  exact exact_pure.mpr rfl

end ReputationMgr

namespace Balanced

variable {mgr after : ReputationMgr} {off : Tier → Int}

theorem updateRankCounters (balanced : Balanced store player mgr off)
    {oldRank newRank : ReputationRank}
    (run : Exact (mgr.updateRankCounters oldRank newRank) after) :
    Balanced store player after fun tier =>
      off tier + share oldRank tier - share newRank tier := by
  obtain ⟨factions, visible, counts⟩ := ReputationMgr.of_updateRankCounters run
  have same (situation : FactionEntry → FactionState → Bool) :
      situated store after situation = situated store mgr situation := by
    unfold situated
    rw [factions]
  refine ⟨?_, fun tier => ?_, ?_⟩
  · rw [visible, same]
    exact balanced.visible
  · have before := balanced.ranks tier
    have now := counts tier
    rw [same]
    omega
  · rw [factions]
    exact balanced.keys

theorem exists_updateRankCounters (balanced : Balanced store player mgr off)
    {oldRank newRank : ReputationRank}
    (lag : ∀ tier, off tier = share newRank tier - share oldRank tier)
    (counts : ∀ tier : Tier, share newRank tier ≤ situated store mgr (reached player tier.rank)) :
    ∃ after, Exact (mgr.updateRankCounters oldRank newRank) after := by
  refine mgr.exists_updateRankCounters
    (fun tier => (situated store mgr (reached player tier.rank) - share newRank tier).toNat)
    (fun tier => situated store mgr (reached player tier.rank)) (fun tier => ?_) (fun tier => ?_)
    fun tier => ?_
  all_goals
    have before := balanced.ranks tier
    have late := lag tier
    have count := counts tier
    have bound := situated_le store mgr (reached player tier.rank)
    have positive := share_nonneg newRank tier
  · omega
  · omega
  · exact ⟨by omega, by omega⟩

end Balanced

variable (store player)

/-- All counters are right. -/
abbrev Level (mgr : ReputationMgr) : Prop := Balanced store player mgr fun _ => 0

variable {store player}

theorem level_iff {mgr : ReputationMgr} {off : Tier → Int}
    (balanced : Balanced store player mgr off) :
    Counted store player mgr ↔ ∀ tier, off tier = 0 := by
  constructor
  · intro counted tier
    have count := counted.ranks tier
    have lag := balanced.ranks tier
    omega
  · intro even
    refine ⟨balanced.visible, fun tier => ?_⟩
    have zero := even tier
    have lag := balanced.ranks tier
    omega

end

end OpenWoW.Reputation
