import OpenWoW.Lib.KeyedTable
import OpenWoW.Lib.Run
import OpenWoW.ReputationBalance

/-! Saving the reputation of a player, and loading it again. -/
namespace OpenWoW.Reputation

open List Option

variable (baseRep : Int) (saved : BitVec 8) (dbFactionFlags : BitVec 16)

namespace FactionState

def atWar (state : FactionState) : Bool := state.hasFlag factionFlagAtWar

def inactive (state : FactionState) : Bool := state.hasFlag factionFlagInactive

/-- The flag that is there for good: no war. -/
def peaceForced (state : FactionState) : Bool := state.hasFlag factionFlagPeaceForced

/-- Always invisible or hidden, whether special or not. -/
def hidden (state : FactionState) : Bool :=
  state.hasFlag (factionFlagInvisibleForced ||| factionFlagHidden)

/-- `SetVisible` of a faction, without the counter. -/
def show_ (state : FactionState) : FactionState :=
  if !state.canBeShown then state
  else if state.visible then state
  else state.changed (state.flags ||| factionFlagVisible)

/-- What the flags of a faction say. -/
structure Marks where
  visible : Bool
  atWar : Bool
  inactive : Bool
  peaceForced : Bool
  hidden : Bool
  canBeShown : Bool
  deriving DecidableEq

def marks (state : FactionState) : Marks where
  visible := state.visible
  atWar := state.atWar
  inactive := state.inactive
  peaceForced := state.peaceForced
  hidden := state.hidden
  canBeShown := state.canBeShown

def Marks.show_ (m : Marks) : Marks := { m with visible := m.visible || m.canBeShown }

def Marks.setAtWar (m : Marks) (atWar : Bool) : Marks :=
  if atWar && m.peaceForced then m else { m with atWar }

def Marks.setInactive (m : Marks) (inactive : Bool) : Marks :=
  if inactive && (m.hidden || !m.visible) then m else { m with inactive }

def marksOf (flags : BitVec 8) : Marks := marks { flags }

theorem marks_eq (state : FactionState) : state.marks = marksOf state.flags := rfl

theorem marksOf_changed (flags : BitVec 8) :
    marksOf (flags ||| factionFlagVisible) = { marksOf flags with visible := true } ∧
    marksOf (flags ||| factionFlagAtWar) = { marksOf flags with atWar := true } ∧
    marksOf (flags &&& ~~~ factionFlagAtWar) = { marksOf flags with atWar := false } ∧
    marksOf (flags ||| factionFlagInactive) = { marksOf flags with inactive := true } ∧
    marksOf (flags &&& ~~~ factionFlagInactive) = { marksOf flags with inactive := false } := by
  revert flags
  decide +kernel

theorem marks_show (state : FactionState) : state.show_.marks = state.marks.show_ := by
  unfold show_ Marks.show_
  by_cases can : state.canBeShown = true
  · by_cases already : state.visible = true
    · simp [can, already, marks]
    · rw [if_neg (by simp [can]), if_neg already, marks_eq]
      refine (marksOf_changed state.flags).1.trans ?_
      rw [← marks_eq]
      simp [marks, can]
  · simp [can, marks]

theorem marks_setAtWar (state : FactionState) (atWar : Bool) :
    (state.setAtWar atWar).marks = state.marks.setAtWar atWar := by
  have changes := marksOf_changed state.flags
  unfold setAtWar Marks.setAtWar
  by_cases refused : (atWar && state.hasFlag factionFlagPeaceForced) = true
  · rw [if_pos refused]
    exact (if_pos refused).symm
  rw [if_neg refused]
  refine Eq.trans ?_ (if_neg refused).symm
  by_cases already : state.hasFlag factionFlagAtWar = atWar
  · rw [if_pos already, ← already]
    rfl
  rw [if_neg already]
  cases atWar with
  | true => exact changes.2.1
  | false => exact changes.2.2.1

theorem marks_setInactive (state : FactionState) (inactive : Bool) :
    (state.setInactive inactive).marks = state.marks.setInactive inactive := by
  have changes := marksOf_changed state.flags
  unfold setInactive Marks.setInactive
  by_cases refused : (inactive && (state.hasFlag
      (factionFlagInvisibleForced ||| factionFlagHidden) || !state.visible)) = true
  · rw [if_pos refused]
    exact (if_pos refused).symm
  rw [if_neg refused]
  refine Eq.trans ?_ (if_neg refused).symm
  by_cases already : state.hasFlag factionFlagInactive = inactive
  · rw [if_pos already, ← already]
    rfl
  rw [if_neg already]
  cases inactive with
  | true => exact changes.2.2.2.1
  | false => exact changes.2.2.2.2

/-- What a row does to a faction, once the standing of the row is there. -/
def restore (baseRep : Int) (dbFactionFlags : BitVec 16) (state : FactionState) : FactionState :=
  let has (flag : BitVec 8) : Bool := dbFactionFlags &&& flag.setWidth 16 ≠ 0#16
  let state := if has factionFlagVisible then state.show_ else state
  let state := if has factionFlagInactive then state.setInactive true else state
  let state :=
    if has factionFlagAtWar then state.setAtWar true
    else if state.visible then state.setAtWar false else state
  let state :=
    if reputationToRank (baseRep + state.standing) ≤ .hostile then state.setAtWar true else state
  state.loaded dbFactionFlags

/-- What the flags of a row do to the marks of a faction. -/
def Marks.restore (m : Marks) (hostile : Bool) (saved : Marks) : Marks :=
  let m := if saved.visible then m.show_ else m
  let m := if saved.inactive then m.setInactive true else m
  let m := if saved.atWar then m.setAtWar true else if m.visible then m.setAtWar false else m
  if hostile then m.setAtWar true else m

theorem marks_loaded (state : FactionState) (dbFactionFlags : BitVec 16) :
    (state.loaded dbFactionFlags).marks = state.marks := by
  unfold loaded
  split <;> rfl

theorem standing_show (state : FactionState) : state.show_.standing = state.standing := by
  unfold show_
  split_ifs <;> rfl

theorem restore_standing (state : FactionState) :
    (state.restore baseRep dbFactionFlags).standing = state.standing := by
  unfold restore
  dsimp only
  split_ifs <;> simp [standing_show]

theorem has_saved :
    decide (saved.setWidth 16 &&& factionFlagVisible.setWidth 16 ≠ 0#16) = (marksOf saved).visible ∧
    decide (saved.setWidth 16 &&& factionFlagInactive.setWidth 16 ≠ 0#16) =
      (marksOf saved).inactive ∧
    decide (saved.setWidth 16 &&& factionFlagAtWar.setWidth 16 ≠ 0#16) = (marksOf saved).atWar := by
  revert saved
  decide +kernel

theorem marks_restore (state : FactionState) :
    (state.restore baseRep (saved.setWidth 16)).marks =
      state.marks.restore (reputationToRank (baseRep + state.standing) ≤ .hostile)
        (marksOf saved) := by
  obtain ⟨isVisible, isInactive, isAtWar⟩ := has_saved saved
  have shown : ∀ state : FactionState, state.visible = state.marks.visible := fun _ => rfl
  unfold restore Marks.restore
  simp only [isVisible, isInactive, isAtWar, marks_loaded, shown, apply_ite FactionState.marks,
    apply_ite FactionState.standing, marks_show, marks_setInactive, marks_setAtWar, standing_show,
    standing_setInactive, standing_setAtWar, ite_self, decide_eq_true_eq]

/-- What can become of the marks `m` of a new faction. -/
structure Marks.Grown (m grown : Marks) : Prop where
  peaceForced : grown.peaceForced = m.peaceForced
  hidden : grown.hidden = m.hidden
  canBeShown : grown.canBeShown = m.canBeShown
  stays : m.visible = true → grown.visible = true
  shown : grown.visible = true → m.visible = true ∨ m.canBeShown = true
  atWar : grown.atWar = true → m.atWar = true ∨ m.peaceForced = false
  inactive : grown.inactive = true → m.inactive = true ∨ m.hidden = false ∧ grown.visible = true

theorem Marks.Grown.refl (m : Marks) : m.Grown m where
  peaceForced := rfl
  hidden := rfl
  canBeShown := rfl
  stays := fun isVisible => isVisible
  shown := Or.inl
  atWar := Or.inl
  inactive := Or.inl

variable {grown : Marks}

theorem Marks.Grown.show_ {m : Marks} (h : m.Grown grown) : m.Grown grown.show_ where
  peaceForced := h.peaceForced
  hidden := h.hidden
  canBeShown := h.canBeShown
  stays isVisible := by simp [Marks.show_, h.stays isVisible]
  shown isVisible := by
    rcases Bool.or_eq_true_iff.mp isVisible with already | can
    · exact h.shown already
    · exact Or.inr (h.canBeShown ▸ can)
  atWar := h.atWar
  inactive isInactive := (h.inactive isInactive).imp_right fun given =>
    ⟨given.1, by simp [Marks.show_, given.2]⟩

theorem Marks.Grown.setAtWar {m : Marks} (h : m.Grown grown) (on : Bool) :
    m.Grown (grown.setAtWar on) := by
  unfold Marks.setAtWar
  split
  · exact h
  rename_i allowed
  refine ⟨h.peaceForced, h.hidden, h.canBeShown, h.stays, h.shown, fun isOn => Or.inr ?_,
    h.inactive⟩
  rw [← h.peaceForced]
  simpa [show on = true from isOn] using allowed

theorem Marks.Grown.setInactive {m : Marks} (h : m.Grown grown) (on : Bool) :
    m.Grown (grown.setInactive on) := by
  unfold Marks.setInactive
  split
  · exact h
  rename_i allowed
  refine ⟨h.peaceForced, h.hidden, h.canBeShown, h.stays, h.shown, h.atWar, fun isOn => Or.inr ?_⟩
  rw [← h.hidden]
  simpa [show on = true from isOn] using allowed

/-- The marks that come back from a save. -/
def Marks.Kept (m grown : Marks) (hostile : Bool) : Prop :=
  (grown.inactive = true ∨ m.inactive = false) ∧
    (grown.atWar = true ∨ (grown.visible = true ∨ m.atWar = false) ∧
      (hostile = false ∨ m.peaceForced = true))

theorem Marks.Grown.restore_iff {m : Marks} (h : m.Grown grown) (hostile : Bool) :
    ((m.restore hostile grown).visible = grown.visible ∧
      (m.restore hostile grown).atWar = grown.atWar ∧
      (m.restore hostile grown).inactive = grown.inactive) ↔ m.Kept grown hostile := by
  obtain ⟨peace, hidden, shown, stays, grows, atWar, inactive⟩ := h
  unfold Marks.restore Marks.Kept Marks.show_ Marks.setAtWar Marks.setInactive
  grind

end FactionState

namespace ReputationMgr

/-- Only the faction of a key changes, as `f` says. -/
def Changes (key : Nat) (f : FactionState → FactionState) (mgr after : ReputationMgr) : Prop :=
  ∀ k, after.factions[k]? = if key = k then mgr.factions[k]?.map f else mgr.factions[k]?

variable {key : Nat} {f g : FactionState → FactionState} {mgr next after : ReputationMgr}

theorem Changes.trans (first : Changes key f mgr next) (second : Changes key g next after) :
    Changes key (fun state => g (f state)) mgr after := by
  intro k
  rw [second, first]
  split
  · rw [Option.map_map]
    rfl
  · rfl

theorem Changes.of_factions (same : after.factions = mgr.factions) :
    Changes key (fun state => state) mgr after := by
  intro k
  rw [same, Option.map_id', ite_self]

theorem changes_change (mgr : ReputationMgr) (key : Nat) (f : FactionState → FactionState) :
    Changes key f mgr (mgr.change key f) := by
  intro k
  unfold change
  cases here : mgr.factions[key]? with
  | none =>
    dsimp only
    split
    · rename_i same
      rw [← same, here]
      rfl
    · rfl
  | some state =>
    rw [put_getElem?]
    split
    · rename_i same
      rw [← same, here]
      rfl
    · rfl

theorem bump_value (test : Prop) [Decidable test] (count : Nat) (delta : Int) :
    (bump test count delta).value =
      some (if test then ((count + delta) % 2 ^ 8).toNat else count) := by
  unfold bump
  split <;> rfl

theorem updateRankCounters_value (mgr : ReputationMgr) (oldRank newRank : ReputationRank) :
    ∃ after, (mgr.updateRankCounters oldRank newRank).value = some after ∧
      after.factions = mgr.factions := by
  unfold updateRankCounters
  simp only [Checked.value_bind, bump_value, bind_some, Checked.value_pure]
  exact ⟨_, rfl, rfl⟩

theorem setVisibleAt_value (mgr : ReputationMgr) (key : Nat) :
    ∃ after, (mgr.setVisibleAt key).value = some after ∧
      Changes key FactionState.show_ mgr after := by
  unfold setVisibleAt
  cases here : mgr.factions[key]? with
  | none =>
    refine ⟨mgr, rfl, fun k => ?_⟩
    split
    · rename_i same
      rw [← same, here]
      rfl
    · rfl
  | some state =>
    have same : (state.show_ = state) → Changes key FactionState.show_ mgr mgr := by
      intro stays k
      split
      · rename_i same
        rw [← same, here, map_some, stays]
      · rfl
    dsimp only
    by_cases can : (!state.canBeShown) = true
    · rw [if_pos can]
      exact ⟨mgr, rfl, same (if_pos can)⟩
    rw [if_neg can]
    by_cases already : state.visible = true
    · rw [if_pos already]
      exact ⟨mgr, rfl, same ((if_neg can).trans (if_pos already))⟩
    rw [if_neg already]
    simp only [Checked.value_bind, bump_value, bind_some, Checked.value_pure]
    refine ⟨_, rfl, fun k => ?_⟩
    have now : state.show_ = state.changed (state.flags ||| factionFlagVisible) :=
      (if_neg can).trans (if_neg already)
    show (mgr.put key _).factions[k]? = _
    rw [put_getElem?, ← now]
    split
    · rename_i same
      rw [← same, here]
      rfl
    · rfl

theorem Changes.ite {c : Prop} [Decidable c] {other : ReputationMgr}
    (changes : Changes key f mgr after) (same : Changes key g mgr other) :
    Changes key (fun state => if c then f state else g state) mgr (if c then after else other) := by
  by_cases holds : c
  · simp only [holds, if_true]
    exact changes
  · simp only [holds, if_false]
    exact same

theorem Changes.none (mgr : ReputationMgr) (key : Nat) :
    Changes key (fun state => state) mgr mgr := Changes.of_factions rfl

def Sets (key : Nat) (state : FactionState) (mgr after : ReputationMgr) : Prop :=
  ∀ k, after.factions[k]? = if key = k then some state else mgr.factions[k]?

variable {state : FactionState}

theorem Changes.sets (changes : Changes key f mgr after)
    (here : mgr.factions[key]? = some state) : Sets key (f state) mgr after := by
  intro k
  rw [changes]
  split
  · rename_i same
    rw [← same, here]
    rfl
  · rfl

theorem Sets.at (sets : Sets key state mgr after) : after.factions[key]? = some state := by
  rw [sets, if_pos rfl]

theorem Sets.trans {old new : FactionState} (first : Sets key old mgr next)
    (second : Sets key new next after) : Sets key new mgr after := by
  intro k
  rw [second]
  split
  · rfl
  · rename_i other
    rw [first, if_neg other]

theorem Sets.change (first : Sets key state mgr next)
    (changes : Changes key f next after) : Sets key (f state) mgr after := by
  intro k
  rw [changes]
  split
  · rename_i same
    rw [← same, first.at]
    rfl
  · rename_i other
    rw [first, if_neg other]

/-- A load of flags restores the faction, if its total fits. -/
theorem loadFlags_value {player : Player} {entry : FactionEntry}
    (here : mgr.factions[entry.repListID]? = some state)
    (fits : Fits (player.getBaseReputation entry + state.standing)) :
    ∃ after, (mgr.loadFlags player entry dbFactionFlags).value = some after ∧
      Sets entry.repListID (state.restore (player.getBaseReputation entry) dbFactionFlags) mgr
        after := by
  let key := entry.repListID
  let baseRep := player.getBaseReputation entry
  let has (flag : BitVec 8) : Bool := dbFactionFlags &&& flag.setWidth 16 ≠ 0#16
  obtain ⟨mgr₁, run₁, changes₁⟩ : ∃ after,
      (if has factionFlagVisible then mgr.setVisibleAt key else pure mgr).value = some after ∧
        Changes key (fun state => if has factionFlagVisible then state.show_ else state) mgr
          after := by
    by_cases shows : has factionFlagVisible = true
    · simp only [shows, if_true]
      exact setVisibleAt_value mgr key
    · simp only [shows]
      exact ⟨mgr, rfl, Changes.none mgr key⟩
  let state₁ := if has factionFlagVisible then state.show_ else state
  have sets₁ : Sets key state₁ mgr mgr₁ := changes₁.sets here
  let mgr₂ := if has factionFlagInactive then mgr₁.change key (·.setInactive true) else mgr₁
  let state₂ := if has factionFlagInactive then state₁.setInactive true else state₁
  have sets₂ : Sets key state₂ mgr mgr₂ := sets₁.change
    ((changes_change mgr₁ key (·.setInactive true)).ite (Changes.none mgr₁ key))
  let mgr₃ :=
    if has factionFlagAtWar then mgr₂.change key (·.setAtWar true)
    else mgr₂.change key fun state => if state.visible then state.setAtWar false else state
  let state₃ :=
    if has factionFlagAtWar then state₂.setAtWar true
    else if state₂.visible then state₂.setAtWar false else state₂
  have sets₃ : Sets key state₃ mgr mgr₃ := sets₂.change
    ((changes_change mgr₂ key (·.setAtWar true)).ite (changes_change mgr₂ key _))
  have standing : state₃.standing = state.standing := by
    simp only [state₃, state₂, state₁, apply_ite FactionState.standing,
      FactionState.standing_show, FactionState.standing_setInactive,
      FactionState.standing_setAtWar, ite_self]
  have ranked : (mgr₃.getRank player entry).value =
      some (reputationToRank (baseRep + state₃.standing)) := by
    have sum : (Checked.int 32 (total player entry state₃)).value =
        some (baseRep + state₃.standing) := by
      have exact_ : Checked.Exact (.int 32 (total player entry state₃))
          (baseRep + state₃.standing) := by
        refine exact_int.mpr ⟨?_, rfl⟩
        show Fits (baseRep + state₃.standing)
        rw [standing]
        exact fits
      rw [exact_]
    unfold getRank
    rw [sets₃.at]
    simp only [Checked.value_bind, sum, bind_some, Checked.value_pure]
  let mgr₄ := if reputationToRank (baseRep + state₃.standing) ≤ .hostile then
    mgr₃.change key (·.setAtWar true) else mgr₃
  let state₄ := if reputationToRank (baseRep + state₃.standing) ≤ .hostile then
    state₃.setAtWar true else state₃
  have sets₄ : Sets key state₄ mgr mgr₄ := sets₃.change
    ((changes_change mgr₃ key (·.setAtWar true)).ite (Changes.none mgr₃ key))
  refine ⟨mgr₄.change key (·.loaded dbFactionFlags), ?_,
    sets₄.change (changes_change mgr₄ key (·.loaded dbFactionFlags))⟩
  unfold loadFlags
  rw [Checked.value_bind, run₁, bind_some, Checked.value_bind]
  exact congrArg (Option.bind · _) ranked

variable {store : FactionStore} {player : Player}

theorem loadRow_value {row : ReputationRow} {entry : FactionEntry}
    (found : store.lookupEntry row.faction.toNat = some entry)
    (can : entry.canHaveReputation = true)
    (fits : Fits (player.getBaseReputation entry + row.standing.toInt)) (mgr : ReputationMgr) :
    ∃ after, (loadRow store player mgr row).value = some after ∧
      Sets entry.repListID (({ mgr.factions[entry.repListID]?.getD {} with
        standing := row.standing.toInt }).restore (player.getBaseReputation entry) row.flags) mgr
        after := by
  let key := entry.repListID
  let baseRep := player.getBaseReputation entry
  let state : FactionState :=
    { mgr.factions[key]?.getD {} with standing := row.standing.toInt }
  obtain ⟨counted, moved, same⟩ := updateRankCounters_value (mgr.put key state)
    (reputationToRank baseRep) (reputationToRank (baseRep + row.standing.toInt))
  have put : Sets key state mgr counted := by
    intro k
    rw [same, put_getElem?]
  obtain ⟨after, run, sets⟩ := loadFlags_value row.flags put.at fits
  have sum : (Checked.int 32 (baseRep + row.standing.toInt)).value =
      some (baseRep + row.standing.toInt) := by
    have exact_ : Checked.Exact (.int 32 (baseRep + row.standing.toInt))
      (baseRep + row.standing.toInt) := exact_int.mpr ⟨fits, rfl⟩
    rw [exact_]
  refine ⟨after, ?_, put.trans sets⟩
  unfold loadRow
  rw [found]
  dsimp only
  rw [if_pos can, Checked.value_bind, sum, bind_some, Checked.value_bind, moved, bind_some, run]

theorem foldlM_value {α : Type} {run : ReputationMgr → α → Checked ReputationMgr}
    {target : α → Option Nat} {become : α → Option FactionState → FactionState}
    (elements : List α)
    (apart : elements.Pairwise fun a b => ∀ key, target a = some key → target b ≠ some key)
    (one : ∀ a ∈ elements, ∀ mgr : ReputationMgr, ∃ after, (run mgr a).value = some after ∧
      ∀ k, after.factions[k]? =
        if target a = some k then some (become a mgr.factions[k]?) else mgr.factions[k]?)
    (mgr : ReputationMgr) :
    ∃ after, (elements.foldlM run mgr).value = some after ∧
      (∀ a ∈ elements, ∀ key, target a = some key →
        after.factions[key]? = some (become a mgr.factions[key]?)) ∧
      ∀ key, (∀ a ∈ elements, target a ≠ some key) → after.factions[key]? = mgr.factions[key]? := by
  induction elements generalizing mgr with
  | nil => exact ⟨mgr, rfl, by simp, fun _ _ => rfl⟩
  | cons first rest ih =>
    rw [pairwise_cons] at apart
    obtain ⟨next, ran, now⟩ := one first mem_cons_self mgr
    obtain ⟨after, runs, sets, keeps⟩ := ih apart.2
      (fun a there => one a (mem_cons_of_mem first there)) next
    refine ⟨after, ?_, forall_mem_cons.mpr ⟨fun key here => ?_, fun a there key here => ?_⟩,
      fun key none => ?_⟩
    · rw [foldlM_cons, Checked.value_bind, ran, bind_some, runs]
    · rw [keeps key fun a there => apart.1 a there key here, now, if_pos here]
    · rw [sets a there key here, now, if_neg fun same => apart.1 a there key same here]
    · obtain ⟨notFirst, notRest⟩ := forall_mem_cons.mp none
      rw [keeps key notRest, now, if_neg notFirst]

end ReputationMgr

def Player.initial (player : Player) (entry : FactionEntry) : FactionState where
  id := entry.id
  reputationListID := entry.repListID
  standing := 0
  flags := (player.getDefaultStateFlags entry).setWidth 8
  needSend := true
  needSave := true

namespace ReputationMgr

theorem initializeFactions_value (store : FactionStore) (player : Player) :
    ∃ mgr, (initializeFactions store player).value = some mgr ∧
      (∀ entry ∈ store.listed, 1 ≤ entry.id →
        mgr.factions[entry.repListID]? = some (player.initial entry)) ∧
      ∀ key, (∀ entry ∈ store.listed, 1 ≤ entry.id → entry.repListID ≠ key) →
        mgr.factions[key]? = none := by
  let target (entry : FactionEntry) : Option Nat :=
    if entry.canHaveReputation then some entry.repListID else none
  have targets {entry : FactionEntry} {key : Nat} :
      target entry = some key ↔ entry.canHaveReputation = true ∧ entry.repListID = key := by
    dsimp only [target]
    split
    · rename_i can
      simp [can]
    · rename_i cannot
      simp [cannot]
  have inStore {entry : FactionEntry}
      (there : entry ∈ store.entries.filter fun entry => 1 ≤ entry.id) :
      entry ∈ store.entries ∧ 1 ≤ entry.id := by
    simpa using mem_filter.mp there
  have apart : (store.entries.filter fun entry => 1 ≤ entry.id).Pairwise fun a b =>
      ∀ key, target a = some key → target b ≠ some key := by
    refine (store.nodup_entries.filter _).imp_of_mem fun left right differ key hit same => ?_
    obtain ⟨canLeft, isLeft⟩ := targets.mp hit
    obtain ⟨canRight, isRight⟩ := targets.mp same
    exact differ (store.entry_of_repListID (store.mem_listed.mpr ⟨(inStore left).1, canLeft⟩)
      (store.mem_listed.mpr ⟨(inStore right).1, canRight⟩) (isLeft.trans isRight.symm))
  have one : ∀ entry ∈ store.entries.filter fun entry => 1 ≤ entry.id, ∀ mgr : ReputationMgr,
      ∃ after, (initializeFaction player mgr entry).value = some after ∧ ∀ k, after.factions[k]? =
        if target entry = some k then some (player.initial entry) else mgr.factions[k]? := by
    intro entry _ mgr
    unfold initializeFaction
    by_cases can : entry.canHaveReputation = true
    · obtain ⟨after, moved, same⟩ := updateRankCounters_value { mgr with
        visibleFactionCount := if (player.initial entry).visible then
          ((mgr.visibleFactionCount + 1 : Int) % 2 ^ 8).toNat else mgr.visibleFactionCount }
        .hostile (player.getBaseRank entry)
      refine ⟨after.put entry.repListID (player.initial entry), ?_, fun k => ?_⟩
      · rw [if_pos can]
        simp only [Checked.value_bind, bump_value, bind_some, Checked.value_pure]
        exact congrArg (Option.bind · _) moved
      · rw [put_getElem?, same]
        simp [target, can]
    · refine ⟨mgr, by rw [if_neg can]; rfl, fun k => ?_⟩
      simp [target, can]
  obtain ⟨mgr, run, sets, keeps⟩ :=
    @foldlM_value _ _ _ (fun entry _ => player.initial entry) _ apart one {}
  refine ⟨mgr, run, fun entry known first => ?_, fun key none => ?_⟩
  · obtain ⟨there, can⟩ := store.mem_listed.mp known
    exact sets entry (mem_filter.mpr ⟨there, by simpa using first⟩) _ (targets.mpr ⟨can, rfl⟩)
  · rw [keeps key fun entry there hit => ?_]
    · simp
    · obtain ⟨known, first⟩ := inStore there
      obtain ⟨can, same⟩ := targets.mp hit
      exact none entry (store.mem_listed.mpr ⟨known, can⟩) first same

/-- The rows of a save are loaded one by one, each into its faction. -/
theorem loadFromDB_value {store : FactionStore} {player : Player} {rows : List ReputationRow}
    (once : (rows.map (·.faction)).Nodup)
    (known : ∀ row ∈ rows, ∃ entry ∈ store.listed, 1 ≤ entry.id ∧ entry.id = row.faction.toNat ∧
      Fits (player.getBaseReputation entry + row.standing.toInt)) :
    ∃ after, (loadFromDB store player rows).value = some after ∧
      (∀ row ∈ rows, ∀ entry ∈ store.listed, entry.id = row.faction.toNat →
        after.factions[entry.repListID]? = some
          ({ player.initial entry with standing := row.standing.toInt }.restore
            (player.getBaseReputation entry) row.flags)) ∧
      (∀ entry ∈ store.listed, 1 ≤ entry.id → (∀ row ∈ rows, entry.id ≠ row.faction.toNat) →
        after.factions[entry.repListID]? = some (player.initial entry)) ∧
      ∀ key, (∀ entry ∈ store.listed, 1 ≤ entry.id → entry.repListID ≠ key) →
        after.factions[key]? = none := by
  obtain ⟨start, began, initial, others⟩ := initializeFactions_value store player
  let target (row : ReputationRow) : Option Nat :=
    (store.lookupEntry row.faction.toNat).map FactionEntry.repListID
  have found {entry : FactionEntry} (listed : entry ∈ store.listed) {row : ReputationRow}
      (same : entry.id = row.faction.toNat) : store.lookupEntry row.faction.toNat = some entry :=
    store.lookupEntry_eq_some.mpr ⟨(store.mem_listed.mp listed).1, same⟩
  let become (row : ReputationRow) (old : Option FactionState) : FactionState :=
    ({ old.getD {} with standing := row.standing.toInt }).restore
      (((store.lookupEntry row.faction.toNat).map player.getBaseReputation).getD 0) row.flags
  have apart : rows.Pairwise fun a b => ∀ key, target a = some key → target b ≠ some key := by
    rw [List.Nodup, pairwise_map] at once
    refine once.imp_of_mem fun {left right} leftMem rightMem differ key hit same => differ ?_
    obtain ⟨a, isA, -, isLeft, -⟩ := known left leftMem
    obtain ⟨b, isB, -, isRight, -⟩ := known right rightMem
    dsimp only [target] at hit same
    rw [found isA isLeft] at hit
    rw [found isB isRight] at same
    have equal := store.entry_of_repListID isA isB ((some.inj hit).trans (some.inj same).symm)
    exact UInt16.toNat_inj.mp (isLeft.symm.trans (equal ▸ isRight))
  have one : ∀ row ∈ rows, ∀ mgr : ReputationMgr,
      ∃ after, (loadRow store player mgr row).value = some after ∧ ∀ k, after.factions[k]? =
        if target row = some k then some (become row mgr.factions[k]?) else mgr.factions[k]? := by
    intro row there mgr
    obtain ⟨entry, listed, -, same, fits⟩ := known row there
    obtain ⟨after, run, sets⟩ := loadRow_value (found listed same) (store.mem_listed.mp listed).2
      fits mgr
    refine ⟨after, run, fun k => ?_⟩
    have isTarget : target row = some entry.repListID :=
      congrArg (Option.map FactionEntry.repListID) (found listed same)
    have isBase : ((store.lookupEntry row.faction.toNat).map player.getBaseReputation).getD 0 =
        player.getBaseReputation entry := by
      rw [found listed same]
      rfl
    rw [sets, isTarget]
    by_cases here : entry.repListID = k
    · rw [if_pos here, if_pos (congrArg some here)]
      dsimp only [become]
      rw [isBase, here]
    · rw [if_neg here, if_neg fun same => here (some.inj same)]
  obtain ⟨after, run, sets, keeps⟩ := foldlM_value _ apart one start
  have ran : (loadFromDB store player rows).value = some after := by
    unfold loadFromDB
    rw [Checked.value_bind, began, bind_some, run]
  have misses (key : Nat) (none : ∀ row ∈ rows, ∀ entry ∈ store.listed,
      entry.id = row.faction.toNat → entry.repListID ≠ key) :
      after.factions[key]? = start.factions[key]? := by
    refine keeps key fun row there hit => ?_
    obtain ⟨entry, listed, -, same, -⟩ := known row there
    dsimp only [target] at hit
    rw [found listed same] at hit
    exact none row there entry listed same (some.inj hit)
  refine ⟨after, ran, fun row there entry listed same => ?_, fun entry listed first none => ?_,
    fun key none => ?_⟩
  · have hit : target row = some entry.repListID := by
      dsimp only [target]
      rw [found listed same]
      rfl
    have first : 1 ≤ entry.id := by
      obtain ⟨other, known, first, isOther, -⟩ := known row there
      omega
    rw [sets row there _ hit, initial entry listed first]
    dsimp only [become]
    rw [found listed same]
    rfl
  · rw [misses _ fun row there other known same key => ?_, initial entry listed first]
    exact none row there (store.entry_of_repListID known listed key ▸ same)
  · rw [misses key fun row there entry listed same => ?_, others key none]
    obtain ⟨other, known, first, isOther, -⟩ := known row there
    exact none entry listed (by omega)

end ReputationMgr

end OpenWoW.Reputation
