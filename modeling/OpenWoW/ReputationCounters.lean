import OpenWoW.Lib.Run
import OpenWoW.ReputationLoads

/-! Runs of reputation changes, and the counters after each of them. -/
namespace OpenWoW.Reputation

open Checked (Exact exact_bind exact_pure)

section

variable {store : FactionStore} {player : Player}

namespace ReputationMgr

/-- The total that is asked for, before it is cut to the limits. -/
def wanted (scaled : Int → Int) (own : Int) (standing : Int32) (incremental : Bool) : Int :=
  if incremental then scaled standing.toInt + own else standing.toInt

theorem clampStanding_mem (standing : Int) :
    reputationBottom ≤ clampStanding standing ∧ clampStanding standing ≤ reputationCap := by
  unfold clampStanding reputationBottom reputationCap
  split_ifs <;> omega

theorem fits_clampStanding (standing : Int) : Fits (clampStanding standing) := by
  obtain ⟨lower, upper⟩ := clampStanding_mem standing
  unfold reputationBottom at lower
  unfold reputationCap at upper
  exact ⟨by omega, by omega⟩

theorem exact_wantedStanding {scaled : Int → Int} {state : FactionState} {baseRep total : Int}
    {standing : Int32} {incremental : Bool} (own : Fits (state.standing + baseRep)) :
    Exact (wantedStanding scaled state baseRep standing incremental) total ↔
      (incremental → Fits (scaled standing.toInt) ∧
        Fits (scaled standing.toInt + (state.standing + baseRep))) ∧
      wanted scaled (state.standing + baseRep) standing incremental = total := by
  unfold wantedStanding wanted
  cases incremental with
  | false =>
    rw [if_neg (by decide), if_neg (by decide), exact_pure]
    simp
  | true =>
    rw [if_pos rfl, if_pos rfl]
    simp only [exact_bind, exact_int]
    constructor
    · rintro ⟨_, ⟨gain, rfl⟩, _, ⟨_, rfl⟩, sum, rfl⟩
      exact ⟨fun _ => ⟨gain, sum⟩, rfl⟩
    · rintro ⟨fits, rfl⟩
      obtain ⟨gain, sum⟩ := fits trivial
      exact ⟨_, ⟨gain, rfl⟩, _, ⟨own, rfl⟩, sum, rfl⟩

end ReputationMgr

/-- No sum of the change of a standing leaves 32 bits. -/
def Settable (player : Player) (scaled : Int → Int) (mgr : ReputationMgr) (entry : FactionEntry)
    (standing : Int32) (incremental : Bool) : Prop :=
  ∀ old, mgr.standing? entry.repListID = some old →
    let baseRep := player.getBaseReputation entry
    (incremental → Fits (scaled standing.toInt) ∧ Fits (scaled standing.toInt + (old + baseRep))) ∧
      Fits (ReputationMgr.clampStanding
        (ReputationMgr.wanted scaled (old + baseRep) standing incremental) - baseRep)

namespace ReputationMgr

variable {mgr : ReputationMgr}

/-- A change of a standing that stays within 32 bits sets the clamped total. -/
theorem setOneFactionReputation_ok {scaled : Int → Int} (level : Level store player mgr)
    (fitting : Fitting store player mgr) {entry : FactionEntry} (known : entry ∈ store.listed)
    {state : FactionState} (here : mgr.factions[entry.repListID]? = some state) {standing : Int32}
    {incremental : Bool} (settable : Settable player scaled mgr entry standing incremental) :
    ∃ after, Exact (mgr.setOneFactionReputation player scaled entry standing incremental) after ∧
      Level store player after ∧
      ∀ k, after.standing? k =
        if entry.repListID = k then
          some (clampStanding (wanted scaled (state.standing + player.getBaseReputation entry)
            standing incremental) - player.getBaseReputation entry)
        else mgr.standing? k := by
  let key := entry.repListID
  let baseRep := player.getBaseReputation entry
  have found : mgr.standing? key = some state.standing := by
    unfold standing?
    rw [here]
    rfl
  have own : Fits (state.standing + baseRep) := by
    rw [Int.add_comm]
    exact fitting entry known state.standing found
  obtain ⟨gains, rest⟩ := settable state.standing found
  let total := clampStanding (wanted scaled (state.standing + baseRep) standing incremental)
  let oldRank := reputationToRank (state.standing + baseRep)
  let newRank := reputationToRank total
  let new : FactionState :=
    { state with standing := total - baseRep, needSend := true, needSave := true }
  have put := level.put known new (by
    rw [here]
    rfl)
  obtain ⟨mgr₁, run₁, balanced₁, same₁⟩ := put.setVisibleAt key
  let mgr₂ := if newRank ≤ .hostile then mgr₁.change key (·.setAtWar true) else mgr₁
  obtain ⟨balanced₂, same₂⟩ : Balanced store player mgr₂ _ ∧
      ∀ k, mgr₂.standing? k = mgr₁.standing? k := by
    dsimp only [mgr₂]
    split
    · exact balanced₁.change_same key (fun state => state.standing_setAtWar true)
        fun state => state.visible_setAtWar true
    · exact ⟨balanced₁, fun _ => rfl⟩
  let mgr₃ := if newRank ≤ oldRank then mgr₂ else { mgr₂ with sendFactionIncreased := true }
  obtain ⟨balanced₃, same₃⟩ : Balanced store player mgr₃ _ ∧
      ∀ k, mgr₃.standing? k = mgr₂.standing? k := by
    dsimp only [mgr₃]
    split
    · exact ⟨balanced₂, fun _ => rfl⟩
    · exact ⟨balanced₂.increased true, fun _ => rfl⟩
  have standings (k : Nat) : mgr₃.standing? k =
      if key = k then some (total - baseRep) else mgr.standing? k := by
    rw [same₃, same₂, same₁, standing?_put]
  have lag (tier : Tier) : 0 + held player entry (some new.standing) tier -
      held player entry (mgr.standing? key) tier = share newRank tier - share oldRank tier := by
    rw [found, held_some, held_some]
    have sum : player.getBaseReputation entry + new.standing = total := by
      change baseRep + (total - baseRep) = total
      omega
    rw [sum, Int.add_comm _ state.standing, Int.zero_add]
  obtain ⟨after, moved⟩ : ∃ after, Exact (mgr₃.updateRankCounters oldRank newRank) after := by
    refine balanced₃.exists_updateRankCounters lag fun tier => ?_
    have count := any_reached_eq player mgr₃ entry tier
    have holds := le_situated mgr₃ known (reached player tier.rank)
    have sum : player.getBaseReputation entry + (total - baseRep) = total := by
      change baseRep + (total - baseRep) = total
      omega
    rw [standings, if_pos rfl, held_some, sum] at count
    change _ = share newRank tier at count
    omega
  obtain ⟨factions, -, -⟩ := of_updateRankCounters moved
  have final := balanced₃.updateRankCounters moved
  refine ⟨after, ?_, ⟨final.visible, fun tier => ?_, final.keys⟩, fun k => ?_⟩
  · unfold setOneFactionReputation
    dsimp only
    rw [here]
    refine exact_bind.mpr ⟨_, (exact_wantedStanding own).mpr ⟨gains, rfl⟩, ?_⟩
    refine exact_bind.mpr ⟨_, exact_int.mpr ⟨own, rfl⟩, ?_⟩
    refine exact_bind.mpr ⟨_, exact_int.mpr ⟨rest, rfl⟩, ?_⟩
    exact exact_bind.mpr ⟨mgr₁, run₁, moved⟩
  · have count := final.ranks tier
    have even := lag tier
    change 0 + held player entry (some new.standing) tier -
      held player entry (mgr.standing? entry.repListID) tier = _ at even
    omega
  · have unchanged : after.standing? k = mgr₃.standing? k := by
      unfold standing?
      rw [factions]
    rw [unchanged, standings]

theorem settable_of_setOneFactionReputation {scaled : Int → Int} {after : ReputationMgr}
    (fitting : Fitting store player mgr) {entry : FactionEntry} (known : entry ∈ store.listed)
    {standing : Int32} {incremental : Bool}
    (run : Exact (mgr.setOneFactionReputation player scaled entry standing incremental) after) :
    Settable player scaled mgr entry standing incremental := by
  intro old found
  obtain ⟨state, here, rfl⟩ := Option.map_eq_some_iff.mp found
  have own : Fits (state.standing + player.getBaseReputation entry) := by
    rw [Int.add_comm]
    exact fitting entry known state.standing found
  unfold setOneFactionReputation at run
  dsimp only at run
  rw [here] at run
  obtain ⟨total, asked, run⟩ := exact_bind.mp run
  obtain ⟨gains, rfl⟩ := (exact_wantedStanding own).mp asked
  obtain ⟨_, _, run⟩ := exact_bind.mp run
  obtain ⟨_, rest, _⟩ := exact_bind.mp run
  exact ⟨gains, (exact_int.mp rest).1⟩

theorem setVisible_ok (level : Level store player mgr) (entry : FactionEntry) :
    ∃ after, Exact (mgr.setVisible entry) after ∧ Level store player after ∧
      ∀ k, after.standing? k = mgr.standing? k := by
  unfold setVisible
  split
  · exact level.setVisibleAt _
  · exact ⟨mgr, exact_pure.mpr rfl, level, fun _ => rfl⟩

theorem setVisibleOf_ok (level : Level store player mgr) (faction : Nat) :
    ∃ after, Exact (mgr.setVisibleOf store player faction) after ∧ Level store player after ∧
      ∀ k, after.standing? k = mgr.standing? k := by
  unfold setVisibleOf
  split
  · exact ⟨mgr, exact_pure.mpr rfl, level, fun _ => rfl⟩
  split
  · exact ⟨mgr, exact_pure.mpr rfl, level, fun _ => rfl⟩
  split
  · exact ⟨mgr, exact_pure.mpr rfl, level, fun _ => rfl⟩
  · exact setVisible_ok level _

theorem setAtWar_ok (level : Level store player mgr) (repListID : Nat) (on : Bool) :
    Level store player (mgr.setAtWar repListID on) ∧
      ∀ k, (mgr.setAtWar repListID on).standing? k = mgr.standing? k := by
  unfold setAtWar
  split
  · exact ⟨level, fun _ => rfl⟩
  split
  · exact ⟨level, fun _ => rfl⟩
  · exact level.change_same repListID (fun state => state.standing_setAtWar on)
      fun state => state.visible_setAtWar on

theorem setInactive_ok (level : Level store player mgr) (repListID : Nat) (on : Bool) :
    Level store player (mgr.setInactive repListID on) ∧
      ∀ k, (mgr.setInactive repListID on).standing? k = mgr.standing? k :=
  level.change_same repListID (fun state => state.standing_setInactive on)
    fun state => state.visible_setInactive on

end ReputationMgr

end

variable (w : World)

/-- What a change of one standing sets lies within the limits. -/
def Bounded (act : Act w.store) (after : ReputationMgr) : Prop :=
  match act with
  | .setOneFactionReputation entry _ _ _ => ∀ state, after.factions[entry.repListID]? = some state →
      reputationBottom ≤ ReputationMgr.total w.player entry state ∧
        ReputationMgr.total w.player entry state ≤ reputationCap
  | _ => True

/-- A call is defined, wraps no counter and leaves counters that are what they count. -/
def Sound (taken : Run.Taken ReputationMgr (Act w.store) (Checked ReputationMgr)) : Prop :=
  ∃ after, Exact taken.out after ∧ Counted w.store w.player after ∧ Bounded w taken.input after

/-- The sums of the call stay within 32 bits, and no row names an honored faction of row 0. -/
def Careful (mgr : ReputationMgr) : Act w.store → Prop
  | .loadFromDB rows _ => ∀ row ∈ rows, Loadable w.store w.player row
  | .setOneFactionReputation entry _ standing incremental =>
    Settable w.player w.scaled mgr entry standing incremental
  | _ => True

/-- What careful calls keep. -/
structure Invariant (mgr : ReputationMgr) : Prop where
  level : Level w.store w.player mgr
  fitting : Fitting w.store w.player mgr

variable {w}

theorem Invariant.of_same {mgr after : ReputationMgr} (inv : Invariant w mgr)
    (level : Level w.store w.player after) (same : ∀ k, after.standing? k = mgr.standing? k) :
    Invariant w after where
  level := level
  fitting entry known standing here := inv.fitting entry known standing (same _ ▸ here)

section
variable {mgr : ReputationMgr} (inv : Invariant w mgr)
include inv

theorem Invariant.listed {entry : FactionEntry}
    (known : entry ∈ w.store.entries) {state : FactionState}
    (here : mgr.factions[entry.repListID]? = some state) : entry ∈ w.store.listed := by
  obtain ⟨other, listed, same⟩ := inv.level.keys _ state here
  exact w.store.listed_of_repListID known listed same

theorem careful_ok {act : Act w.store}
    (careful : Careful w mgr act) :
    ∃ after, Exact (mgr.perform w act) after ∧ Invariant w after ∧ Bounded w act after := by
  cases act with
  | initializeFactions =>
    obtain ⟨after, run, level, standings⟩ :=
      ReputationMgr.initializeFactions_ok w.store w.player
    exact ⟨after, run, ⟨level, fitting_initial standings⟩, trivial⟩
  | loadFromDB rows once =>
    obtain ⟨after, run, level, fitting⟩ := ReputationMgr.loadFromDB_keeps once careful
    exact ⟨after, run, ⟨level, fitting⟩, trivial⟩
  | setOneFactionReputation entry known standing incremental =>
    cases here : mgr.factions[entry.repListID]? with
    | none =>
      refine ⟨mgr, ?_, inv, fun state there => ?_⟩
      · unfold ReputationMgr.perform ReputationMgr.setOneFactionReputation
        dsimp only
        rw [here]
        exact exact_pure.mpr rfl
      · rw [here] at there
        cases there
    | some state =>
      have listed := inv.listed known here
      obtain ⟨after, run, level, standings⟩ :=
        ReputationMgr.setOneFactionReputation_ok inv.level inv.fitting listed here careful
      let total := ReputationMgr.clampStanding (ReputationMgr.wanted w.scaled
        (state.standing + w.player.getBaseReputation entry) standing incremental)
      have sum : w.player.getBaseReputation entry +
          (total - w.player.getBaseReputation entry) = total := by omega
      refine ⟨after, run, ⟨level, fun other knownOther now there => ?_⟩, fun new there => ?_⟩
      · rw [standings] at there
        split at there
        · rename_i same
          obtain rfl := w.store.entry_of_repListID listed knownOther same
          obtain rfl := Option.some.inj there
          exact sum ▸ ReputationMgr.fits_clampStanding _
        · exact inv.fitting other knownOther now there
      · have now := standings entry.repListID
        rw [if_pos rfl] at now
        unfold ReputationMgr.standing? at now
        rw [there] at now
        have rest : new.standing = _ := Option.some.inj now
        unfold ReputationMgr.total
        rw [rest]
        exact sum ▸ ReputationMgr.clampStanding_mem _
  | setVisible entry known =>
    obtain ⟨after, run, level, same⟩ := ReputationMgr.setVisible_ok inv.level entry
    exact ⟨after, run, inv.of_same level same, trivial⟩
  | setVisibleOf faction =>
    obtain ⟨after, run, level, same⟩ := ReputationMgr.setVisibleOf_ok inv.level faction
    exact ⟨after, run, inv.of_same level same, trivial⟩
  | setAtWar repListID on =>
    obtain ⟨level, same⟩ := ReputationMgr.setAtWar_ok inv.level repListID on
    exact ⟨_, exact_pure.mpr rfl, inv.of_same level same, trivial⟩
  | setInactive repListID on =>
    obtain ⟨level, same⟩ := ReputationMgr.setInactive_ok inv.level repListID on
    exact ⟨_, exact_pure.mpr rfl, inv.of_same level same, trivial⟩

theorem careful_of_sound {act : Act w.store}
    (sound : Sound w (Run.take (step w) mgr act)) : Careful w mgr act := by
  obtain ⟨after, run, counted, -⟩ := sound
  cases act with
  | loadFromDB rows once => exact (ReputationMgr.loadFromDB_iff once).mp ⟨after, run, counted⟩
  | setOneFactionReputation entry known standing incremental =>
    intro old found
    obtain ⟨state, here, _⟩ := Option.map_eq_some_iff.mp found
    exact ReputationMgr.settable_of_setOneFactionReputation inv.fitting
      (inv.listed known here) run old found
  | initializeFactions => trivial
  | setVisible entry known => trivial
  | setVisibleOf faction => trivial
  | setAtWar repListID on => trivial
  | setInactive repListID on => trivial

theorem sound_step_iff (act : Act w.store) :
    Sound w (Run.take (step w) mgr act) ↔ Careful w mgr act := by
  refine ⟨careful_of_sound inv, fun careful => ?_⟩
  obtain ⟨after, run, later, bounded⟩ := careful_ok inv careful
  exact ⟨after, run, (level_iff later.level).mpr fun _ => rfl, bounded⟩

end

theorem invariant_empty : Invariant w {} where
  level := ReputationMgr.level_empty w.store w.player
  fitting entry _ standing here := by simp [ReputationMgr.standing?] at here

variable (w)

/-- In a run from a new manager the counters are exact after every call exactly when every call
is careful. -/
theorem standings_sound_iff (acts : List (Act w.store)) :
    (∀ taken ∈ Run.trace (step w) {} acts, Sound w taken) ↔
      ∀ taken ∈ Run.trace (step w) {} acts, Careful w taken.before taken.input := by
  refine Run.good_iff (step w) (Careful w) (Invariant w) (Sound w)
    (fun mgr act inv => sound_step_iff inv act) (fun mgr act inv careful => ?_) {} acts
    invariant_empty
  obtain ⟨after, run, later, -⟩ := careful_ok inv careful
  change Invariant w ((mgr.perform w act).value.getD mgr)
  rw [run.value]
  exact later

section

attribute [local instance] ReputationMgr.four_neZero

/-- A city with a base reputation of 3000, and a saved standing that is as large as it can be. -/
def proudCity : World where
  store :=
    { entries :=
        [{ id := 72
           reputationListID := 19
           baseRepRaceMask := fun i => if i = 0 then 1 else 0
           baseRepClassMask := fun _ => 0
           baseRepValue := fun i => if i = 0 then 3000 else 0
           reputationFlags := fun i => if i = 0 then 17 else 0 }]
      ordered := by simp
      few := by decide
      distinct := by decide }
  player := ⟨1, 1⟩
  scaled := id

end

/-- The sum of the base reputation and the saved standing overflows. -/
theorem standings_sound_fails :
    ¬ ∀ taken ∈ Run.trace (step proudCity) {}
      [.loadFromDB [⟨72, 2147483647, 17⟩] (by decide)], Sound proudCity taken := by
  intro sound
  obtain ⟨after, run, _⟩ := sound _ List.mem_cons_self
  have value := run.value
  have undefined : ((step proudCity {} (.loadFromDB [⟨72, 2147483647, 17⟩]
      (by decide))).2).value = none := by decide
  exact absurd (value.symm.trans undefined) nofun

end OpenWoW.Reputation
