import OpenWoW.Lib.KeyedTable
import OpenWoW.Lib.Run
import OpenWoW.ReputationCounters
import OpenWoW.ReputationSaves

/-! Which factions come back from a save as they were. -/
namespace OpenWoW.Reputation

open List

def ReputationRow.key (row : ReputationRow) : UInt16 := row.faction

/-- The rows of a player in `character_reputation`. -/
abbrev ReputationTable := KeyedTable ReputationRow.key

namespace FactionState

def row (state : FactionState) : ReputationRow where
  faction := UInt16.ofNat state.id
  standing := Int32.ofInt state.standing
  flags := state.flags.setWidth 16

/-- What a player sees of a faction. -/
def told (state : FactionState) : Int × Bool × Bool × Bool :=
  (state.standing, state.visible, state.atWar, state.inactive)

end FactionState

namespace ReputationMgr

/-- The factions with a change since the last save, in the order of the map. -/
def unsaved (mgr : ReputationMgr) : List FactionState :=
  (mgr.factions.toList.map Prod.snd).filter (·.needSave)

/-- The row of each changed faction is deleted and inserted again. -/
def saveToDB (mgr : ReputationMgr) (table : ReputationTable) : ReputationMgr × ReputationTable :=
  ({ mgr with factions := mgr.factions.map fun _ state => { state with needSave := false } },
    table.replaceAll (mgr.unsaved.map FactionState.row))

end ReputationMgr

/-- A player in the world, and the saved rows. -/
structure Record where
  mgr : ReputationMgr
  table : ReputationTable

/-- What happens to the reputation of a player. A login reads the rows of the last save. -/
inductive Deed (store : FactionStore) where
  | setOneFactionReputation (entry : FactionEntry) (known : entry ∈ store.entries)
      (standing : Int32) (incremental : Bool)
  | setVisible (entry : FactionEntry) (known : entry ∈ store.entries)
  | setVisibleOf (faction : Nat)
  | setAtWar (repListID : Nat) (on : Bool)
  | setInactive (repListID : Nat) (on : Bool)
  | saveToDB
  | login

variable (w : World)

def Record.perform (record : Record) : Deed w.store → Record
  | .setOneFactionReputation entry known standing incremental =>
    { record with mgr := (step w record.mgr
        (.setOneFactionReputation entry known standing incremental)).1 }
  | .setVisible entry known =>
    { record with mgr := (step w record.mgr (.setVisible entry known)).1 }
  | .setVisibleOf faction => { record with mgr := (step w record.mgr (.setVisibleOf faction)).1 }
  | .setAtWar repListID on => { record with mgr := (step w record.mgr (.setAtWar repListID on)).1 }
  | .setInactive repListID on =>
    { record with mgr := (step w record.mgr (.setInactive repListID on)).1 }
  | .saveToDB => ⟨(record.mgr.saveToDB record.table).1, (record.mgr.saveToDB record.table).2⟩
  | .login => { record with mgr :=
      (step w record.mgr (.loadFromDB record.table.rows record.table.distinct)).1 }

def play (record : Record) (deed : Deed w.store) : Record × Unit := (record.perform w deed, ())

/-- The first login of a new character. -/
def Record.first : Record where
  mgr := (step w {} (.loadFromDB [] List.nodup_nil)).1
  table := KeyedTable.empty _

/-- A save and a load into a fresh manager give back what the player sees. -/
def Record.Survives (record : Record) : Prop :=
  let saved := (record.mgr.saveToDB record.table).2
  ∃ after : ReputationMgr,
    (ReputationMgr.loadFromDB w.store w.player saved.rows).value = some after ∧
      ∀ key : Nat, (after.factions[key]?).map FactionState.told =
        (record.mgr.factions[key]?).map FactionState.told

/-- The ids of the factions of a store fit into the rows. -/
def FactionStore.Narrow (store : FactionStore) : Prop :=
  ∀ entry ∈ store.entries, entry.id < 2 ^ 16

/-- Inactivity and war of a faction do not come back on their own. -/
def Record.Kept (record : Record) : Prop :=
  ∀ entry ∈ w.store.listed, ∀ state, record.mgr.factions[entry.repListID]? = some state →
    (FactionState.marksOf ((w.player.getDefaultStateFlags entry).setWidth 8)).Kept state.marks
      (reputationToRank (w.player.getBaseReputation entry + state.standing) ≤ .hostile)

namespace FactionState

/-- What a call may do to a faction with a base reputation: nothing, or a change that is to be
saved, with marks that can grow so. -/
structure Moved (baseRep : Int) (state next : FactionState) : Prop where
  id : next.id = state.id
  saved : next.needSave = true ∨ next = state
  grows : ∀ m : Marks, m.Grown state.marks → m.Grown next.marks
  fits : Fits state.standing → Fits next.standing
  total : Fits (baseRep + state.standing) → Fits (baseRep + next.standing)

variable {baseRep : Int} {state next last : FactionState}

theorem Moved.refl (baseRep : Int) (state : FactionState) : Moved baseRep state state where
  id := rfl
  saved := Or.inr rfl
  grows _ grown := grown
  fits fits := fits
  total fits := fits

theorem Moved.trans (first : Moved baseRep state next) (second : Moved baseRep next last) :
    Moved baseRep state last where
  id := second.id.trans first.id
  saved := by
    rcases second.saved with changed | rfl
    · exact Or.inl changed
    · exact first.saved
  grows m grown := second.grows m (first.grows m grown)
  fits fits := second.fits (first.fits fits)
  total fits := second.total (first.total fits)

theorem Moved.ite {c : Prop} [Decidable c] (yes : c → Moved baseRep state next)
    (no : ¬ c → Moved baseRep state last) : Moved baseRep state (if c then next else last) := by
  split
  · rename_i holds
    exact yes holds
  · rename_i fails
    exact no fails

theorem show_cases (state : FactionState) :
    state.show_ = state ∨ state.show_ = state.changed (state.flags ||| factionFlagVisible) := by
  unfold show_
  split_ifs <;> simp

theorem setAtWar_cases (state : FactionState) (on : Bool) :
    state.setAtWar on = state ∨ ∃ flags, state.setAtWar on = state.changed flags := by
  unfold setAtWar
  split_ifs <;> simp

theorem setInactive_cases (state : FactionState) (on : Bool) :
    state.setInactive on = state ∨ ∃ flags, state.setInactive on = state.changed flags := by
  unfold setInactive
  split_ifs <;> simp

theorem Moved.of_flags (baseRep : Int) (flags : next = state ∨ ∃ flags, next = state.changed flags)
    (grows : ∀ m : Marks, m.Grown state.marks → m.Grown next.marks) : Moved baseRep state next := by
  rcases flags with rfl | ⟨flags, rfl⟩
  · exact Moved.refl baseRep next
  · exact ⟨rfl, Or.inl rfl, grows, fun fits => fits, fun fits => fits⟩

theorem moved_show (baseRep : Int) (state : FactionState) : Moved baseRep state state.show_ :=
  Moved.of_flags baseRep (state.show_cases.imp_right fun same => ⟨_, same⟩) fun m grown => by
    rw [marks_show]
    exact grown.show_

theorem moved_setAtWar (baseRep : Int) (state : FactionState) (on : Bool) :
    Moved baseRep state (state.setAtWar on) :=
  Moved.of_flags baseRep (state.setAtWar_cases on) fun m grown => by
    rw [marks_setAtWar]
    exact grown.setAtWar on

theorem moved_setInactive (baseRep : Int) (state : FactionState) (on : Bool) :
    Moved baseRep state (state.setInactive on) :=
  Moved.of_flags baseRep (state.setInactive_cases on) fun m grown => by
    rw [marks_setInactive]
    exact grown.setInactive on

theorem moved_standing {standing : Int} (fits : Fits standing) (total : Fits (baseRep + standing)) :
    Moved baseRep state { state with standing, needSend := true, needSave := true } where
  id := rfl
  saved := Or.inl rfl
  grows _ grown := grown
  fits _ := fits
  total _ := total

end FactionState

/-- Each faction stays what it is or moves. -/
def Moves (mgr after : ReputationMgr) : Prop :=
  ∀ key : Nat, (mgr.factions[key]? = none ∧ after.factions[key]? = none) ∨
    ∃ state next, mgr.factions[key]? = some state ∧ after.factions[key]? = some next ∧
      ∀ entry ∈ w.store.listed, entry.repListID = key →
        FactionState.Moved (w.player.getBaseReputation entry) state next

variable {w} {mgr after : ReputationMgr}

namespace ReputationMgr

theorem Changes.moves {key : Nat} {f : FactionState → FactionState}
    (changes : Changes key f mgr after) (moved : ∀ state, mgr.factions[key]? = some state →
      ∀ entry ∈ w.store.listed, entry.repListID = key →
        FactionState.Moved (w.player.getBaseReputation entry) state (f state)) :
    Moves w mgr after := by
  intro k
  rw [changes]
  cases here : mgr.factions[k]? with
  | none => exact Or.inl ⟨rfl, by split <;> rfl⟩
  | some state =>
    by_cases same : key = k
    · subst same
      exact Or.inr ⟨state, f state, rfl, if_pos rfl, moved state here⟩
    · exact Or.inr ⟨state, state, rfl, if_neg same, fun _ _ _ => .refl _ state⟩

theorem moves_refl (w : World) (mgr : ReputationMgr) : Moves w mgr mgr :=
  (Changes.none mgr 0).moves fun state _ _ _ _ => .refl _ state

theorem moves_setVisibleAt (w : World) (mgr : ReputationMgr) (key : Nat) :
    ∃ after, (mgr.setVisibleAt key).value = some after ∧ Moves w mgr after := by
  obtain ⟨after, run, changes⟩ := setVisibleAt_value mgr key
  exact ⟨after, run, changes.moves fun state _ _ _ _ => FactionState.moved_show _ state⟩

theorem moves_setVisible (w : World) (mgr : ReputationMgr) (entry : FactionEntry) :
    ∃ after, (mgr.setVisible entry).value = some after ∧ Moves w mgr after := by
  unfold setVisible
  split
  · exact moves_setVisibleAt w mgr entry.repListID
  · exact ⟨mgr, rfl, moves_refl w mgr⟩

theorem moves_setVisibleOf (w : World) (mgr : ReputationMgr) (faction : Nat) :
    ∃ after, (mgr.setVisibleOf w.store w.player faction).value = some after ∧
      Moves w mgr after := by
  unfold setVisibleOf
  split
  · exact ⟨mgr, rfl, moves_refl w mgr⟩
  split
  · exact ⟨mgr, rfl, moves_refl w mgr⟩
  split
  · exact ⟨mgr, rfl, moves_refl w mgr⟩
  · exact moves_setVisible w mgr _

theorem moves_setAtWar (w : World) (mgr : ReputationMgr) (repListID : Nat) (on : Bool) :
    Moves w mgr (mgr.setAtWar repListID on) := by
  unfold setAtWar
  split
  · exact moves_refl w mgr
  split
  · exact moves_refl w mgr
  · exact (changes_change mgr repListID _).moves fun state _ _ _ _ =>
      state.moved_setAtWar _ on

theorem moves_setInactive (w : World) (mgr : ReputationMgr) (repListID : Nat) (on : Bool) :
    Moves w mgr (mgr.setInactive repListID on) :=
  (changes_change mgr repListID _).moves fun state _ _ _ _ => state.moved_setInactive _ on

theorem of_int_value {x y : Int} (value : (Checked.int 32 x).value = some y) : Fits x ∧ x = y := by
  obtain ⟨fits, same⟩ := Option.ite_none_right_eq_some.mp value
  exact ⟨fits, Option.some.inj same⟩

/-- A standing that is set gives a total between the limits. -/
theorem moves_setOneFactionReputation {mgr : ReputationMgr} {entry : FactionEntry}
    (known : entry ∈ w.store.entries) {standing : Int32} {incremental : Bool}
    (run : (mgr.setOneFactionReputation w.player w.scaled entry standing incremental).value =
      some after) : Moves w mgr after := by
  unfold setOneFactionReputation at run
  dsimp only at run
  cases here : mgr.factions[entry.repListID]? with
  | none =>
    rw [here] at run
    obtain rfl := Option.some.inj run
    exact moves_refl w mgr
  | some state =>
    rw [here] at run
    simp only [Checked.value_bind, Option.bind_eq_some_iff] at run
    obtain ⟨wanted, -, own, -, rest, difference, shown, visible, run⟩ := run
    obtain ⟨fits, rfl⟩ := of_int_value difference
    let key := entry.repListID
    let new (state : FactionState) : FactionState :=
      { state with
        standing := clampStanding wanted - w.player.getBaseReputation entry
        needSend := true
        needSave := true }
    have put : Changes key new mgr (mgr.put key (new state)) := by
      intro k
      rw [put_getElem?]
      split
      · rename_i same
        rw [← same, here]
        rfl
      · rfl
    obtain ⟨next, shows, showing⟩ := setVisibleAt_value (mgr.put key (new state)) key
    obtain rfl : shown = next := Option.some.inj (visible.symm.trans shows)
    let hostile : Prop := reputationToRank (clampStanding wanted) ≤ .hostile
    have warring : Changes key (fun state => if hostile then state.setAtWar true else state) shown
        (if hostile then shown.change key (·.setAtWar true) else shown) :=
      (changes_change shown key _).ite (Changes.none shown key)
    obtain ⟨last, counted, same⟩ := updateRankCounters_value
      (if reputationToRank (clampStanding wanted) ≤ reputationToRank own then
        if hostile then shown.change key (·.setAtWar true) else shown
      else { (if hostile then shown.change key (·.setAtWar true) else shown) with
        sendFactionIncreased := true })
      (reputationToRank own) (reputationToRank (clampStanding wanted))
    obtain rfl : after = last := Option.some.inj (run.symm.trans counted)
    have factions : after.factions =
        (if hostile then shown.change key (·.setAtWar true) else shown).factions := by
      rw [same]
      split <;> rfl
    have last : Changes key (fun state => state)
        (if hostile then shown.change key (·.setAtWar true) else shown) after :=
      Changes.of_factions factions
    refine (((put.trans showing).trans warring).trans last).moves
      fun now found other listed is => ?_
    have isEntry : entry = other := w.store.entry_of_repListID
      (w.store.listed_of_repListID known listed is) listed is.symm
    have total : Fits (w.player.getBaseReputation other +
        (clampStanding wanted - w.player.getBaseReputation entry)) := by
      rw [isEntry]
      have sum : w.player.getBaseReputation other +
          (clampStanding wanted - w.player.getBaseReputation other) = clampStanding wanted := by
        omega
      rw [sum]
      exact fits_clampStanding wanted
    have set := @FactionState.moved_standing _ now _ fits total
    refine (set.trans (FactionState.moved_show _ _)).trans ?_
    exact FactionState.Moved.ite (fun _ => FactionState.moved_setAtWar _ _ true) fun _ =>
      FactionState.Moved.refl _ _

end ReputationMgr

namespace FactionState

theorem restore_moved (baseRep : Int) (dbFactionFlags : BitVec 16) (state : FactionState) :
    ∃ before, state.restore baseRep dbFactionFlags = before.loaded dbFactionFlags ∧
      Moved baseRep state before := by
  refine ⟨_, rfl, ?_⟩
  refine Moved.trans ?_ (Moved.ite (fun _ => moved_setAtWar _ _ true) fun _ => .refl _ _)
  refine Moved.trans ?_ (Moved.ite (fun _ => moved_setAtWar _ _ true) fun _ =>
    Moved.ite (fun _ => moved_setAtWar _ _ false) fun _ => .refl _ _)
  refine Moved.trans ?_ (Moved.ite (fun _ => moved_setInactive _ _ true) fun _ => .refl _ _)
  exact Moved.ite (fun _ => moved_show _ _) fun _ => .refl _ _

theorem loaded_id (state : FactionState) (dbFactionFlags : BitVec 16) :
    (state.loaded dbFactionFlags).id = state.id := by
  unfold loaded
  split <;> rfl

theorem loaded_saved {state : FactionState} {dbFactionFlags : BitVec 16}
    (unsaved : state.needSave = true) (saved : (state.loaded dbFactionFlags).needSave = false) :
    (state.loaded dbFactionFlags).flags.setWidth 16 = dbFactionFlags := by
  unfold loaded at saved ⊢
  split
  · rename_i same
    have narrow := congrArg (BitVec.setWidth 16) same
    simpa using narrow
  rename_i differ
  rw [if_neg differ, unsaved] at saved
  cases saved

end FactionState

variable (w) in
/-- A faction as play leaves it. -/
structure Right (entry : FactionEntry) (state : FactionState) : Prop where
  id : state.id = entry.id
  grown : (FactionState.marksOf ((w.player.getDefaultStateFlags entry).setWidth 8)).Grown
    state.marks
  fits : Fits state.standing
  total : Fits (w.player.getBaseReputation entry + state.standing)

theorem Right.moved {entry : FactionEntry} {state next : FactionState} (right : Right w entry state)
    (moved : FactionState.Moved (w.player.getBaseReputation entry) state next) :
    Right w entry next where
  id := moved.id.trans right.id
  grown := moved.grows _ right.grown
  fits := moved.fits right.fits
  total := moved.total right.total

theorem fits_zero : Fits 0 := ⟨by decide, by decide⟩

theorem fits_getBaseReputation (player : Player) (entry : FactionEntry) :
    Fits (player.getBaseReputation entry) := by
  unfold Player.getBaseReputation
  split
  · exact fits_toInt _
  · exact fits_zero

theorem right_initial (w : World) (entry : FactionEntry) :
    Right w entry (w.player.initial entry) where
  id := rfl
  grown := FactionState.Marks.Grown.refl _
  fits := fits_zero
  total := by
    have fits := fits_getBaseReputation w.player entry
    rwa [← Int.add_zero (w.player.getBaseReputation entry)] at fits

theorem right_restore {entry : FactionEntry} {standing : Int32}
    (total : Fits (w.player.getBaseReputation entry + standing.toInt))
    (dbFactionFlags : BitVec 16) :
    Right w entry ({ w.player.initial entry with standing := standing.toInt }.restore
      (w.player.getBaseReputation entry) dbFactionFlags) := by
  obtain ⟨before, same, moved⟩ := FactionState.restore_moved (w.player.getBaseReputation entry)
    dbFactionFlags { w.player.initial entry with standing := standing.toInt }
  have start : Right w entry { w.player.initial entry with standing := standing.toInt } :=
    ⟨rfl, FactionState.Marks.Grown.refl _, fits_toInt standing, total⟩
  have right := start.moved moved
  rw [same]
  refine ⟨(before.loaded_id _).trans right.id, ?_, ?_, ?_⟩
  · rw [FactionState.marks_loaded]
    exact right.grown
  · rw [FactionState.standing_loaded]
    exact right.fits
  · rw [FactionState.standing_loaded]
    exact right.total

variable (w) in
/-- What play keeps: the factions of the store are there, and what needs no save is saved. -/
structure Record.Good (record : Record) : Prop where
  known : ∀ (key : Nat) (state : FactionState), record.mgr.factions[key]? = some state →
    ∃ entry ∈ w.store.listed, 1 ≤ entry.id ∧ entry.repListID = key ∧ Right w entry state
  all : ∀ entry ∈ w.store.listed, 1 ≤ entry.id →
    ∃ state, record.mgr.factions[entry.repListID]? = some state
  stored : ∀ row ∈ record.table, ∃ entry ∈ w.store.listed, 1 ≤ entry.id ∧
    entry.id = row.faction.toNat ∧ Fits (w.player.getBaseReputation entry + row.standing.toInt)
  saved : ∀ (key : Nat) (state : FactionState), record.mgr.factions[key]? = some state →
    state.needSave = false → state.row ∈ record.table

variable {record : Record}

theorem Record.Good.moves (good : record.Good w) (moves : Moves w record.mgr after) :
    Record.Good w { record with mgr := after } where
  known key state here := by
    rcases moves key with ⟨-, gone⟩ | ⟨old, next, there, now, moved⟩
    · rw [gone] at here
      cases here
    obtain ⟨entry, listed, first, is, right⟩ := good.known key old there
    obtain rfl : next = state := Option.some.inj (now.symm.trans here)
    exact ⟨entry, listed, first, is, right.moved (moved entry listed is)⟩
  all entry listed first := by
    obtain ⟨state, there⟩ := good.all entry listed first
    rcases moves entry.repListID with ⟨none, -⟩ | ⟨old, next, -, now, -⟩
    · rw [there] at none
      cases none
    · exact ⟨next, now⟩
  stored := good.stored
  saved key state here unsaved := by
    rcases moves key with ⟨-, gone⟩ | ⟨old, next, there, now, moved⟩
    · rw [gone] at here
      cases here
    obtain rfl : next = state := Option.some.inj (now.symm.trans here)
    obtain ⟨entry, listed, -, is, -⟩ := good.known key old there
    rcases (moved entry listed is).saved with changed | rfl
    · rw [changed] at unsaved
      cases unsaved
    · exact good.saved key next there unsaved

theorem row_eq {state : FactionState} {row : ReputationRow}
    (faction : state.id = row.faction.toNat) (standing : state.standing = row.standing.toInt)
    (flags : state.flags.setWidth 16 = row.flags) : state.row = row := by
  unfold FactionState.row
  rw [faction, standing, flags, UInt16.ofNat_toNat, Int32.ofInt_toInt]

theorem good_loadFromDB {table : ReputationTable}
    (stored : ∀ row ∈ table, ∃ entry ∈ w.store.listed, 1 ≤ entry.id ∧
      entry.id = row.faction.toNat ∧ Fits (w.player.getBaseReputation entry + row.standing.toInt)) :
    Record.Good w ⟨(step w mgr (.loadFromDB table.rows table.distinct)).1, table⟩ := by
  obtain ⟨after, run, fromRow, fresh, others⟩ :=
    @ReputationMgr.loadFromDB_value w.store w.player _ table.distinct stored
  have is : (step w mgr (.loadFromDB table.rows table.distinct)).1 = after := by
    change ((ReputationMgr.loadFromDB w.store w.player table.rows).value).getD mgr = after
    rw [run]
    rfl
  rw [is]
  -- a faction of the store was read from its row, or is new
  have either : ∀ entry ∈ w.store.listed, 1 ≤ entry.id →
      (∃ row ∈ table, entry.id = row.faction.toNat ∧ after.factions[entry.repListID]? = some
        ({ w.player.initial entry with standing := row.standing.toInt }.restore
          (w.player.getBaseReputation entry) row.flags)) ∨
      after.factions[entry.repListID]? = some (w.player.initial entry) := by
    intro entry listed first
    by_cases there : ∃ row ∈ table, entry.id = row.faction.toNat
    · obtain ⟨row, mem, same⟩ := there
      exact Or.inl ⟨row, mem, same, fromRow row mem entry listed same⟩
    · exact Or.inr (fresh entry listed first fun row mem same => there ⟨row, mem, same⟩)
  have keyed (key : Nat) (state : FactionState) (here : after.factions[key]? = some state) :
      ∃ entry ∈ w.store.listed, 1 ≤ entry.id ∧ entry.repListID = key := by
    by_contra none
    rw [others key fun entry listed first same => none ⟨entry, listed, first, same⟩] at here
    cases here
  constructor
  · intro key state here
    obtain ⟨entry, listed, first, rfl⟩ := keyed key state here
    refine ⟨entry, listed, first, rfl, ?_⟩
    rcases either entry listed first with ⟨row, mem, same, now⟩ | now
    · obtain rfl := Option.some.inj (now.symm.trans here)
      obtain ⟨other, known, -, isOther, fits⟩ := stored row mem
      have equal : other = entry := w.store.entry_of_id (w.store.mem_listed.mp known).1
        (w.store.mem_listed.mp listed).1 (isOther.trans same.symm)
      exact right_restore (equal ▸ fits) row.flags
    · obtain rfl := Option.some.inj (now.symm.trans here)
      exact right_initial w entry
  · intro entry listed first
    rcases either entry listed first with ⟨row, -, -, now⟩ | now
    · exact ⟨_, now⟩
    · exact ⟨_, now⟩
  · exact stored
  · intro key state here saved
    obtain ⟨entry, listed, first, rfl⟩ := keyed key state here
    rcases either entry listed first with ⟨row, mem, same, now⟩ | now
    · obtain rfl := Option.some.inj (now.symm.trans here)
      obtain ⟨before, isBefore, moved⟩ := FactionState.restore_moved
        (w.player.getBaseReputation entry) row.flags
        { w.player.initial entry with standing := row.standing.toInt }
      have unsaved : before.needSave = true := by
        rcases moved.saved with changed | rfl
        · exact changed
        · rfl
      rw [isBefore] at saved ⊢
      have flags := FactionState.loaded_saved unsaved saved
      rw [← isBefore] at flags ⊢
      rw [row_eq _ (FactionState.restore_standing _ _ _) flags]
      · exact mem
      · rw [isBefore, FactionState.loaded_id, moved.id]
        exact same
    · obtain rfl := Option.some.inj (now.symm.trans here)
      cases saved

namespace Record.Good

theorem row_faction {entry : FactionEntry} (narrow : entry.id < 2 ^ 16) {state : FactionState}
    (right : Right w entry state) : entry.id = state.row.faction.toNat := by
  unfold FactionState.row
  rw [right.id, UInt16.toNat_ofNat', Nat.mod_eq_of_lt narrow]

theorem row_standing {entry : FactionEntry} {state : FactionState} (right : Right w entry state) :
    state.row.standing.toInt = state.standing :=
  Int32.toInt_ofInt_of_le right.fits.1 right.fits.2

theorem mem_unsaved {mgr : ReputationMgr} {state : FactionState} :
    state ∈ mgr.unsaved ↔ ∃ key : Nat, mgr.factions[key]? = some state ∧ state.needSave = true := by
  unfold ReputationMgr.unsaved
  simp only [mem_filter, mem_map, Prod.exists, exists_eq_right,
    Std.ExtTreeMap.mem_toList_iff_getElem?_eq_some, exists_and_right]

theorem key_of_row (good : record.Good w) (narrow : w.store.Narrow) {key other : Nat}
    {state next : FactionState} (here : record.mgr.factions[key]? = some state)
    (there : record.mgr.factions[other]? = some next) (same : state.row.key = next.row.key) :
    key = other := by
  obtain ⟨entry, listed, -, rfl, right⟩ := good.known key state here
  obtain ⟨entry', listed', -, rfl, right'⟩ := good.known other next there
  have known := (w.store.mem_listed.mp listed).1
  have known' := (w.store.mem_listed.mp listed').1
  have id := row_faction (narrow entry known) right
  have id' := row_faction (narrow entry' known') right'
  rw [w.store.entry_of_id known known' (id.trans ((congrArg UInt16.toNat same).trans id'.symm))]

theorem unsaved_keys (good : record.Good w) (narrow : w.store.Narrow) :
    ((record.mgr.unsaved.map FactionState.row).map ReputationRow.key).Nodup := by
  have distinct := @Std.ExtTreeMap.distinct_keys_toList _ _ _ record.mgr.factions _
  have apart : (record.mgr.factions.toList.map fun entry => entry.2.row.key).Nodup := by
    rw [List.Nodup, pairwise_map]
    refine distinct.imp_of_mem fun {a b} left right differ same => differ ?_
    have here := Std.ExtTreeMap.mem_toList_iff_getElem?_eq_some.mp left
    have there := Std.ExtTreeMap.mem_toList_iff_getElem?_eq_some.mp right
    exact Std.LawfulEqCmp.compare_eq_iff_eq.mpr (good.key_of_row narrow here there same)
  refine apart.sublist ?_
  rw [map_map]
  refine (filter_sublist.map _).trans ?_
  rw [map_map]
  exact List.Sublist.refl _

theorem row_mem (good : record.Good w) (narrow : w.store.Narrow) {key : Nat} {state : FactionState}
    (here : record.mgr.factions[key]? = some state) :
    state.row ∈ (record.mgr.saveToDB record.table).2 := by
  refine (KeyedTable.mem_replaceAll (good.unsaved_keys narrow)).mpr ?_
  cases unsaved : state.needSave with
  | true => exact Or.inl (mem_map_of_mem (mem_unsaved.mpr ⟨key, here, unsaved⟩))
  | false =>
    refine Or.inr ⟨good.saved key state here unsaved, fun row there same => ?_⟩
    obtain ⟨next, mem, rfl⟩ := mem_map.mp there
    obtain ⟨other, found, changed⟩ := mem_unsaved.mp mem
    obtain rfl := good.key_of_row narrow here found same
    obtain rfl : state = next := Option.some.inj (here.symm.trans found)
    rw [unsaved] at changed
    cases changed

theorem saveToDB (good : record.Good w) (narrow : w.store.Narrow) :
    Record.Good w ⟨(record.mgr.saveToDB record.table).1, (record.mgr.saveToDB record.table).2⟩ := by
  have saved (key : Nat) : (record.mgr.saveToDB record.table).1.factions[key]? =
      (record.mgr.factions[key]?).map fun state => { state with needSave := false } :=
    Std.ExtTreeMap.getElem?_map
  constructor
  · intro key state here
    obtain ⟨old, there, rfl⟩ := Option.map_eq_some_iff.mp ((saved key).symm.trans here)
    obtain ⟨entry, listed, first, is, right⟩ := good.known key old there
    exact ⟨entry, listed, first, is, ⟨right.id, right.grown, right.fits, right.total⟩⟩
  · intro entry listed first
    obtain ⟨state, there⟩ := good.all entry listed first
    exact ⟨_, (saved _).trans (congrArg _ there)⟩
  · intro row mem
    rcases (KeyedTable.mem_replaceAll (good.unsaved_keys narrow)).mp mem with new | ⟨old, -⟩
    · obtain ⟨state, unsaved, rfl⟩ := mem_map.mp new
      obtain ⟨key, here, -⟩ := mem_unsaved.mp unsaved
      obtain ⟨entry, listed, first, -, right⟩ := good.known key state here
      refine ⟨entry, listed, first,
        row_faction (narrow entry (w.store.mem_listed.mp listed).1) right, ?_⟩
      rw [row_standing right]
      exact right.total
    · exact good.stored row old
  · intro key state here _
    obtain ⟨old, there, rfl⟩ := Option.map_eq_some_iff.mp ((saved key).symm.trans here)
    have mem := good.row_mem narrow there
    exact mem

end Record.Good

theorem told_eq_iff {state next : FactionState} (standing : state.standing = next.standing) :
    state.told = next.told ↔ state.visible = next.visible ∧ state.atWar = next.atWar ∧
      state.inactive = next.inactive := by
  unfold FactionState.told
  rw [standing]
  simp

theorem told_restore_iff {entry : FactionEntry} {state : FactionState}
    (right : Right w entry state) :
    ({ w.player.initial entry with standing := state.row.standing.toInt }.restore
        (w.player.getBaseReputation entry) state.row.flags).told = state.told ↔
      (FactionState.marksOf ((w.player.getDefaultStateFlags entry).setWidth 8)).Kept state.marks
        (reputationToRank (w.player.getBaseReputation entry + state.standing) ≤ .hostile) := by
  let fresh : FactionState := { w.player.initial entry with standing := state.row.standing.toInt }
  have standing : fresh.standing = state.standing := Record.Good.row_standing right
  have marks : (fresh.restore (w.player.getBaseReputation entry) state.row.flags).marks =
      fresh.marks.restore
        (reputationToRank (w.player.getBaseReputation entry + state.standing) ≤ .hostile)
        state.marks := by
    have read := FactionState.marks_restore (w.player.getBaseReputation entry) state.flags fresh
    rw [standing] at read
    exact read
  rw [told_eq_iff ((FactionState.restore_standing _ _ fresh).trans standing)]
  refine Iff.trans ?_ (right.grown.restore_iff
    (reputationToRank (w.player.getBaseReputation entry + state.standing) ≤ .hostile))
  have visible := congrArg FactionState.Marks.visible marks
  have atWar := congrArg FactionState.Marks.atWar marks
  have inactive := congrArg FactionState.Marks.inactive marks
  constructor
  · rintro ⟨sameVisible, sameWar, sameInactive⟩
    exact ⟨visible.symm.trans sameVisible, atWar.symm.trans sameWar,
      inactive.symm.trans sameInactive⟩
  · rintro ⟨sameVisible, sameWar, sameInactive⟩
    exact ⟨visible.trans sameVisible, atWar.trans sameWar, inactive.trans sameInactive⟩

theorem Record.Good.survives_iff_kept (good : record.Good w) (narrow : w.store.Narrow) :
    record.Survives w ↔ record.Kept w := by
  have saved := good.saveToDB narrow
  obtain ⟨after, run, fromRow, fresh, others⟩ := @ReputationMgr.loadFromDB_value w.store w.player _
    (record.mgr.saveToDB record.table).2.distinct saved.stored
  have loads : record.Survives w ↔ ∀ key : Nat, (after.factions[key]?).map FactionState.told =
      (record.mgr.factions[key]?).map FactionState.told := by
    constructor
    · rintro ⟨other, ran, same⟩
      obtain rfl : after = other := Option.some.inj (run.symm.trans ran)
      exact same
    · exact fun same => ⟨after, run, same⟩
  have loaded {entry : FactionEntry} (listed : entry ∈ w.store.listed) {state : FactionState}
      (here : record.mgr.factions[entry.repListID]? = some state)
      (right : Right w entry state) : after.factions[entry.repListID]? = some
        ({ w.player.initial entry with standing := state.row.standing.toInt }.restore
          (w.player.getBaseReputation entry) state.row.flags) :=
    fromRow state.row (good.row_mem narrow here) entry listed
      (row_faction (narrow entry (w.store.mem_listed.mp listed).1) right)
  have right {entry : FactionEntry} (listed : entry ∈ w.store.listed) {state : FactionState}
      (here : record.mgr.factions[entry.repListID]? = some state) : Right w entry state := by
    obtain ⟨other, known, -, same, right⟩ := good.known _ state here
    exact w.store.entry_of_repListID known listed same ▸ right
  rw [loads]
  constructor
  · intro same entry listed state here
    have now := same entry.repListID
    rw [loaded listed here (right listed here), here] at now
    exact (told_restore_iff (right listed here)).mp (Option.some.inj now)
  · intro kept key
    by_cases there : ∃ state, record.mgr.factions[key]? = some state
    · obtain ⟨state, here⟩ := there
      obtain ⟨entry, listed, -, rfl, right⟩ := good.known key state here
      rw [loaded listed here right, here]
      exact congrArg some ((told_restore_iff right).mpr (kept entry listed state here))
    have gone : record.mgr.factions[key]? = none :=
      Option.eq_none_iff_forall_ne_some.mpr fun state here => there ⟨state, here⟩
    rw [gone, others key fun entry listed first same => ?_]
    obtain ⟨state, here⟩ := good.all entry listed first
    exact there ⟨state, same ▸ here⟩

theorem moves_getD {call : Checked ReputationMgr}
    (moves : ∀ after, call.value = some after → Moves w mgr after) :
    Moves w mgr (call.value.getD mgr) := by
  cases run : call.value with
  | none => exact ReputationMgr.moves_refl w mgr
  | some after => exact moves after run

theorem moves_of_exists {call : Checked ReputationMgr}
    (moves : ∃ after, call.value = some after ∧ Moves w mgr after) :
    Moves w mgr (call.value.getD mgr) := by
  obtain ⟨after, run, moved⟩ := moves
  rw [run]
  exact moved

theorem Record.Good.perform (good : record.Good w) (narrow : w.store.Narrow)
    (deed : Deed w.store) : Record.Good w (record.perform w deed) := by
  cases deed with
  | setOneFactionReputation entry known standing incremental =>
    exact good.moves (moves_getD fun after run =>
      ReputationMgr.moves_setOneFactionReputation known run)
  | setVisible entry known =>
    exact good.moves (moves_of_exists (ReputationMgr.moves_setVisible w record.mgr entry))
  | setVisibleOf faction =>
    exact good.moves (moves_of_exists (ReputationMgr.moves_setVisibleOf w record.mgr faction))
  | setAtWar repListID on =>
    exact good.moves (ReputationMgr.moves_setAtWar w record.mgr repListID on)
  | setInactive repListID on =>
    exact good.moves (ReputationMgr.moves_setInactive w record.mgr repListID on)
  | saveToDB => exact good.saveToDB narrow
  | login => exact good_loadFromDB good.stored

theorem good_first (w : World) : Record.Good w (Record.first w) :=
  @good_loadFromDB w {} (KeyedTable.empty ReputationRow.key) fun row there =>
    absurd there (KeyedTable.notMem_empty row)

theorem good_final (narrow : w.store.Narrow) (deeds : List (Deed w.store)) :
    Record.Good w (Run.final (play w) (Record.first w) deeds) := by
  suffices keeps : ∀ record : Record, Record.Good w record →
      Record.Good w (Run.final (play w) record deeds) from keeps _ (good_first w)
  induction deeds with
  | nil => exact fun _ good => good
  | cons deed deeds ih => exact fun record good => ih _ (good.perform narrow deed)

variable (w)

/-- After every run of a character a save and a load give back the standings and the flags
exactly when inactivity and war do not come back on their own in any faction. -/
theorem reputation_survives_iff (narrow : w.store.Narrow) (deeds : List (Deed w.store)) :
    (Run.final (play w) (Record.first w) deeds).Survives w ↔
      (Run.final (play w) (Record.first w) deeds).Kept w :=
  (good_final narrow deeds).survives_iff_kept narrow

section

attribute [local instance] ReputationMgr.four_neZero

/-- A tribe that every player is at war with, and does not see. -/
def unseenTribe : World where
  store :=
    { entries :=
        [{ id := 70
           reputationListID := 21
           baseRepRaceMask := fun i => if i = 0 then 1 else 0
           baseRepClassMask := fun _ => 0
           baseRepValue := fun _ => 0
           reputationFlags := fun i => if i = 0 then 2 else 0 }]
      ordered := by simp
      few := by decide
      distinct := by decide }
  player := ⟨1, 1⟩
  scaled := id

end

theorem unseenTribe_narrow : unseenTribe.store.Narrow := by
  intro entry there
  obtain rfl := mem_singleton.mp there
  decide

/-- The tribe keeps its war as long as nobody touches it. -/
theorem reputation_survives_iff_tribe :
    (Run.final (play unseenTribe) (Record.first unseenTribe) [.saveToDB, .login]).Survives
        unseenTribe ↔
      (Run.final (play unseenTribe) (Record.first unseenTribe) [.saveToDB, .login]).Kept
        unseenTribe :=
  reputation_survives_iff unseenTribe unseenTribe_narrow [.saveToDB, .login]

/-- Every faction that the client knows has its state, whose sums fit 32 bits; and a state that
needs no save has its row. -/
theorem saved_states_have_rows (narrow : w.store.Narrow) (deeds : List (Deed w.store)) :
    let record := Run.final (play w) (Record.first w) deeds
    (∀ entry ∈ w.store.listed, 1 ≤ entry.id →
      ∃ state, record.mgr.factions[entry.repListID]? = some state ∧ Right w entry state) ∧
    ∀ (key : Nat) (state : FactionState), record.mgr.factions[key]? = some state →
      state.needSave = false → state.row ∈ record.table := by
  have good := good_final narrow deeds
  refine ⟨fun entry listed positive => ?_, good.saved⟩
  obtain ⟨state, there⟩ := good.all entry listed positive
  obtain ⟨other, known, _, same, right⟩ := good.known entry.repListID state there
  obtain rfl := inj_on_of_nodup_map w.store.distinct known listed same
  exact ⟨state, there, right⟩

theorem saved_states_have_rows_tribe :
    ∃ state : FactionState, state.row ∈ (Run.final (play unseenTribe) (Record.first unseenTribe)
      [.setAtWar 21 false, .saveToDB]).table :=
  ⟨_, (saved_states_have_rows unseenTribe unseenTribe_narrow [.setAtWar 21 false, .saveToDB]).2 21
    _ rfl (by decide)⟩

/-- Peace with the tribe is saved, and a load brings the war back. -/
theorem peace_is_lost : ¬ ∀ deeds : List (Deed unseenTribe.store),
    (Run.final (play unseenTribe) (Record.first unseenTribe) deeds).Survives unseenTribe := by
  intro survives
  obtain ⟨after, run, same⟩ := survives [.setAtWar 21 false]
  have now := same 21
  have peace : ((Run.final (play unseenTribe) (Record.first unseenTribe)
      [.setAtWar 21 false]).mgr.factions[21]?).map FactionState.told =
        some (0, false, false, false) := by decide
  have war : ((ReputationMgr.loadFromDB unseenTribe.store unseenTribe.player
      ((Run.final (play unseenTribe) (Record.first unseenTribe) [.setAtWar 21 false]).mgr.saveToDB
        (Run.final (play unseenTribe) (Record.first unseenTribe)
          [.setAtWar 21 false]).table).2.rows).value.bind fun mgr => mgr.factions[21]?).map
        FactionState.told = some (0, false, true, false) := by decide
  rw [run] at war
  have equal := (war.symm.trans now).trans peace
  cases equal

end OpenWoW.Reputation
