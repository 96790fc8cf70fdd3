import OpenWoW.AccountRoles

/-! The access level of an account, and the groups that come and go with it. -/
namespace OpenWoW.RBAC

open List Option

/-- A row of `account_access`. -/
structure AccessRow where
  accountId : Nat
  gmlevel : UInt8
  realmId : Int
  deriving DecidableEq, Repr

def AccessRow.key (row : AccessRow) : Nat × Int := (row.accountId, row.realmId)

structure AccessTables where
  tables : Tables
  access : KeyedTable AccessRow.key

/-- `_defaultSecGroups`: the groups of each security level. -/
abbrev SecGroups : Type := UInt8 → Finset Nat

/-- `LOGIN_SEL_ACCOUNT_ACCESS_BY_ID`, with the highest level first. Equal levels come in the order of
the table. -/
def Account.selectAccess (account : Account) (access : KeyedTable AccessRow.key) : List AccessRow :=
  (access.rows.filter fun row => account.affects row.accountId row.realmId).insertionSort
    fun row other => other.gmlevel ≤ row.gmlevel

section

variable (mgr : AccountMgr) (secGroups : SecGroups) (account : Account)

def removeGroups (s : State) (row : AccessRow) : State :=
  ((secGroups row.gmlevel).sort (· ≤ ·)).foldl
    (fun s groupId => (s.removeGroup mgr account groupId row.realmId).1) s

def addGroups (s : State) (securityLevel : UInt8) (realmId : Int) : State :=
  ((secGroups securityLevel).sort (· ≤ ·)).foldl
    (fun s groupId => (s.addGroup mgr account groupId realmId).1) s

/-- `LOGIN_DEL_ACCOUNT_ACCESS` or `LOGIN_DEL_ACCOUNT_ACCESS_BY_REALM`, and
`LOGIN_INS_ACCOUNT_ACCESS`. -/
def replaceAccess (access : KeyedTable AccessRow.key) (securityLevel : UInt8) (realmId : Int) :
    KeyedTable AccessRow.key :=
  let left := access.delete fun row => row.accountId = account.id ∧
    (realmId = -1 ∨ row.realmId = realmId ∨ row.realmId = -1)
  if securityLevel = 0 then left else left.replace ⟨account.id, securityLevel, realmId⟩

end

/-- `UpdateAccountAccess` without an `RBACData`, on a server with a realm id of its own. -/
def updateAccountAccess (mgr : AccountMgr) (secGroups : SecGroups) (ownRealmId : Int)
    (accountId : Nat) (securityLevel : UInt8) (realmId : Int) (db : AccessTables) : AccessTables :=
  let account : Account := ⟨accountId, if realmId ≠ -1 then realmId else ownRealmId⟩
  let rbac : State := ⟨loadFromDB mgr account db.tables, db.tables⟩
  let rbac := (account.selectAccess db.access).foldl (removeGroups mgr secGroups account) rbac
  let rbac := addGroups mgr secGroups account rbac securityLevel realmId
  ⟨rbac.tables, replaceAccess account db.access securityLevel realmId⟩

section

variable {mgr : AccountMgr} {secGroups : SecGroups} {account : Account}

def removals (secGroups : SecGroups) (rows : List AccessRow) : List (Nat × Int) :=
  rows.flatMap fun row => ((secGroups row.gmlevel).sort (· ≤ ·)).map (·, row.realmId)

def removeAll (mgr : AccountMgr) (account : Account) (s : State) (pairs : List (Nat × Int)) :
    State :=
  pairs.foldl (fun s removal => (s.removeGroup mgr account removal.1 removal.2).1) s

variable (scope : Scope) (securityLevel : UInt8) (rows : List AccessRow) (group : Nat)

theorem foldl_removeGroups (s : State) :
    rows.foldl (removeGroups mgr secGroups account) s =
      removeAll mgr account s (removals secGroups rows) := by
  unfold removeAll removals removeGroups
  rw [foldl_flatMap]
  simp only [foldl_map]

theorem mem_removeGroup {s : State} {removal : Nat × Int} (saved : removal.2 ≠ 0) :
    group ∈ (s.removeGroup mgr account removal.1 removal.2).1.data.groups ↔
      group ≠ removal.1 ∧ group ∈ s.data.groups := by
  unfold State.removeGroup State.save
  by_cases held : removal.1 ∈ s.data.groups
  · rw [if_neg (not_not.mpr held), if_neg saved]
    exact Finset.mem_erase
  rw [if_pos held]
  refine (and_iff_right_of_imp fun there same => held ?_).symm
  rw [← same]
  exact there

variable {row : GroupRow}

theorem row_removeGroup {s : State} {removal : Nat × Int} (saved : removal.2 ≠ 0)
    (own : row.accountId = account.id) :
    row ∈ (s.removeGroup mgr account removal.1 removal.2).1.tables.groups ↔
      row ∈ s.tables.groups ∧ ¬ (removal.1 ∈ s.data.groups ∧ row.groupId = removal.1 ∧
        (row.realmId = removal.2 ∨ row.realmId = -1)) := by
  unfold State.removeGroup State.save
  by_cases held : removal.1 ∈ s.data.groups
  · rw [if_neg (not_not.mpr held), if_neg saved]
    show row ∈ s.tables.groups.delete _ ↔ _
    rw [KeyedTable.mem_delete, decide_eq_false_iff_not]
    simp only [own, held, true_and]
  · rw [if_pos held]
    exact (and_iff_left fun taken => held taken.1).symm

theorem mem_removeAll {pairs : List (Nat × Int)} (saved : ∀ removal ∈ pairs, removal.2 ≠ 0)
    (s : State) (group : Nat) :
    group ∈ (removeAll mgr account s pairs).data.groups ↔
      group ∈ s.data.groups ∧ ∀ removal ∈ pairs, removal.1 ≠ group := by
  induction pairs generalizing s with
  | nil => simp [removeAll]
  | cons removal pairs ih =>
    have later := ih (fun other there => saved other (mem_cons_of_mem _ there))
      (s.removeGroup mgr account removal.1 removal.2).1
    rw [mem_removeGroup group (saved removal mem_cons_self)] at later
    refine Iff.trans later ?_
    rw [forall_mem_cons, ne_comm]
    exact ⟨fun ⟨⟨other, held⟩, rest⟩ => ⟨held, other, rest⟩,
      fun ⟨held, other, rest⟩ => ⟨⟨other, held⟩, rest⟩⟩

theorem row_removeAll {pairs : List (Nat × Int)} (saved : ∀ removal ∈ pairs, removal.2 ≠ 0)
    (s : State) (own : row.accountId = account.id) :
    row ∈ (removeAll mgr account s pairs).tables.groups ↔
      row ∈ s.tables.groups ∧ ¬ (row.groupId ∈ s.data.groups ∧ ∃ removal,
        pairs.find? (fun removal => removal.1 = row.groupId) = some removal ∧
          (row.realmId = removal.2 ∨ row.realmId = -1)) := by
  induction pairs generalizing s with
  | nil => simp [removeAll]
  | cons removal pairs ih =>
    have later := ih (fun other there => saved other (mem_cons_of_mem _ there))
      (s.removeGroup mgr account removal.1 removal.2).1
    have now := saved removal mem_cons_self
    rw [mem_removeGroup _ now, row_removeGroup now own] at later
    refine Iff.trans later ?_
    rw [find?_cons]
    by_cases same : row.groupId = removal.1
    · simp [same]
    · simp [same, Ne.symm same]

theorem mem_addGroup {s : State} {id : Nat} {realmId : Int} (saved : realmId ≠ 0) :
    group ∈ (s.addGroup mgr account id realmId).1.data.groups ↔
      group ∈ s.data.groups ∨ group = id ∧ mgr.groups id ≠ none := by
  unfold State.addGroup addGroup
  by_cases unknown : (mgr.groups id).isNone
  · rw [if_pos unknown]
    exact (or_iff_left fun new => new.2 (isNone_iff_eq_none.mp unknown)).symm
  have known : mgr.groups id ≠ none := fun none_ => unknown (isNone_iff_eq_none.mpr none_)
  rw [if_neg unknown]
  by_cases held : id ∈ s.data.groups
  · rw [if_pos held]
    exact (or_iff_left_of_imp fun new => new.1 ▸ held).symm
  rw [if_neg held]
  simp only [State.save, if_neg saved]
  show group ∈ insert id s.data.groups ↔ _
  rw [Finset.mem_insert, or_comm, and_iff_left known]

theorem mem_insertGroup {tables : Tables} {other : GroupRow} :
    other ∈ (tables.insertGroup row).groups ↔ other ∈ tables.groups ∨ other = row := by
  unfold Tables.insertGroup
  by_cases there : row ∈ tables.groups.rows
  · rw [if_pos there]
    exact (or_iff_left_of_imp fun same => same ▸ there).symm
  rw [if_neg there, KeyedTable.mem_replace]
  constructor
  · exact fun either => either.symm.imp_left And.left
  · rintro (old | same)
    · exact Or.inr ⟨old, fun keys => there (GroupRow.key_injective keys ▸ old)⟩
    · exact Or.inl same

theorem row_addGroup {s : State} {id : Nat} {realmId : Int} (saved : realmId ≠ 0) :
    row ∈ (s.addGroup mgr account id realmId).1.tables.groups ↔
      row ∈ s.tables.groups ∨
        row = ⟨account.id, id, realmId⟩ ∧ mgr.groups id ≠ none ∧ id ∉ s.data.groups := by
  unfold State.addGroup addGroup
  by_cases unknown : (mgr.groups id).isNone
  · rw [if_pos unknown]
    exact (or_iff_left fun new => new.2.1 (isNone_iff_eq_none.mp unknown)).symm
  have known : mgr.groups id ≠ none := fun none_ => unknown (isNone_iff_eq_none.mpr none_)
  rw [if_neg unknown]
  by_cases held : id ∈ s.data.groups
  · rw [if_pos held]
    exact (or_iff_left fun new => new.2.2 held).symm
  rw [if_neg held]
  simp only [State.save, if_neg saved, mem_insertGroup, known, held, ne_eq, not_false_eq_true,
    and_true]

def addAll (mgr : AccountMgr) (account : Account) (realmId : Int) (s : State) (ids : List Nat) :
    State :=
  ids.foldl (fun s groupId => (s.addGroup mgr account groupId realmId).1) s

theorem row_addAll {realmId : Int} (saved : realmId ≠ 0) (ids : List Nat)
    (s : State) : row ∈ (addAll mgr account realmId s ids).tables.groups ↔
      row ∈ s.tables.groups ∨ row.accountId = account.id ∧ row.realmId = realmId ∧
        row.groupId ∈ ids ∧ mgr.groups row.groupId ≠ none ∧ row.groupId ∉ s.data.groups := by
  induction ids generalizing s with
  | nil => simp [addAll]
  | cons id ids ih =>
    have later := ih (s.addGroup mgr account id realmId).1
    rw [mem_addGroup _ saved, row_addGroup saved] at later
    refine Iff.trans later ?_
    obtain ⟨accountId, groupId, rowRealm⟩ := row
    simp only [GroupRow.mk.injEq, mem_cons]
    by_cases same : groupId = id
    · subst same
      grind
    · grind

theorem find_removals :
    (removals secGroups rows).find? (fun removal => removal.1 = group) =
      (rows.find? fun row => group ∈ secGroups row.gmlevel).map
        fun row => (group, row.realmId) := by
  induction rows with
  | nil => rfl
  | cons row rows ih =>
    unfold removals at ih ⊢
    rw [flatMap_cons, find?_append, ih, find?_cons, find?_map]
    by_cases here : group ∈ secGroups row.gmlevel
    · have found : ((secGroups row.gmlevel).sort (· ≤ ·)).find?
          ((fun removal : Nat × Int => decide (removal.1 = group)) ∘ (·, row.realmId)) =
          some group := by
        cases first : ((secGroups row.gmlevel).sort (· ≤ ·)).find?
            ((fun removal : Nat × Int => decide (removal.1 = group)) ∘ (·, row.realmId)) with
        | none =>
          exact absurd (decide_eq_true rfl)
            (find?_eq_none.mp first group ((Finset.mem_sort _).mpr here))
        | some other =>
          have holds := find?_some first
          rw [Function.comp_apply, decide_eq_true_eq] at holds
          exact congrArg some holds
      rw [found, Option.map_some, Option.some_or]
      simp [here]
    · have none_ : ((secGroups row.gmlevel).sort (· ≤ ·)).find?
          ((fun removal : Nat × Int => decide (removal.1 = group)) ∘ (·, row.realmId)) =
          none := by
        rw [find?_eq_none]
        intro other there same
        rw [← of_decide_eq_true same] at here
        exact here ((Finset.mem_sort _).mp there)
      rw [none_, Option.map_none, Option.none_or]
      simp [here]

theorem selectAccess_mem {access : KeyedTable AccessRow.key} {row : AccessRow} :
    row ∈ account.selectAccess access ↔
      row ∈ access ∧ account.affects row.accountId row.realmId = true := by
  unfold Account.selectAccess
  rw [mem_insertionSort, mem_filter, KeyedTable.mem_rows]

theorem removals_saved (named : account.realmId ≠ 0) {access : KeyedTable AccessRow.key} :
    ∀ removal ∈ removals secGroups (account.selectAccess access), removal.2 ≠ 0 := by
  intro removal there
  obtain ⟨row, selected, inRow⟩ := mem_flatMap.mp there
  obtain ⟨_, _, rfl⟩ := mem_map.mp inRow
  obtain ⟨_, either⟩ := account.affects_iff.mp (selectAccess_mem.mp selected).2
  rcases either with own | all
  · exact own ▸ named
  show row.realmId ≠ 0
  rw [all]
  decide

structure Updated (mgr : AccountMgr) (secGroups : SecGroups) (account : Account)
    (securityLevel : UInt8) (realmId : Int) (before after : AccessTables) : Prop where
  granted : ∀ group ∈ secGroups securityLevel, group ∈ (loadFromDB mgr account after.tables).groups
  revoked : ∀ row ∈ before.access, account.affects row.accountId row.realmId = true →
    ∀ group ∈ secGroups row.gmlevel, group ∈ (loadFromDB mgr account after.tables).groups →
      group ∈ secGroups securityLevel ∨ group ∈ mgr.defaultGroups
  access : ∀ row, row ∈ after.access ∧ account.affects row.accountId row.realmId = true ↔
    securityLevel ≠ 0 ∧ row = ⟨account.id, securityLevel, realmId⟩

def Reached (secGroups : SecGroups) (account : Account) (db : AccessTables) (group : Nat) : Prop :=
  (⟨account.id, group, account.realmId⟩ : GroupRow) ∈ db.tables.groups → ∀ row,
    (account.selectAccess db.access).find? (fun row => group ∈ secGroups row.gmlevel) = some row →
    row.realmId = account.realmId

theorem updateAccountAccess_eq (db : AccessTables) :
    updateAccountAccess mgr secGroups account.realmId account.id securityLevel
        (scope.realmId account) db =
      ⟨(addAll mgr account (scope.realmId account) (removeAll mgr account
          ⟨loadFromDB mgr account db.tables, db.tables⟩
          (removals secGroups (account.selectAccess db.access)))
          ((secGroups securityLevel).sort (· ≤ ·))).tables,
        replaceAccess account db.access securityLevel (scope.realmId account)⟩ := by
  have same : (⟨account.id, if scope.realmId account ≠ -1 then scope.realmId account
      else account.realmId⟩ : Account) = account := by
    rcases scope.realmId_cases account with own | all
    · rw [own, ite_self]
    · rw [all]
      rfl
  unfold updateAccountAccess
  simp only [same, foldl_removeGroups]
  rfl

theorem access_updated (access : KeyedTable AccessRow.key)
    (row : AccessRow) :
    row ∈ replaceAccess account access securityLevel (scope.realmId account) ∧
        account.affects row.accountId row.realmId = true ↔
      securityLevel ≠ 0 ∧ row = ⟨account.id, securityLevel, scope.realmId account⟩ := by
  have affected : account.affects account.id (scope.realmId account) = true :=
    account.affects_iff.mpr ⟨rfl, scope.realmId_cases account⟩
  -- nothing of the account for its realm is left before the insertion
  have gone : ∀ other : AccessRow, account.affects other.accountId other.realmId = true →
      other ∉ access.delete fun row => row.accountId = account.id ∧
        (scope.realmId account = -1 ∨ row.realmId = scope.realmId account ∨ row.realmId = -1) := by
    intro other affects left
    obtain ⟨_, kept⟩ := KeyedTable.mem_delete.mp left
    obtain ⟨own, either⟩ := account.affects_iff.mp affects
    refine of_decide_eq_false kept ⟨own, ?_⟩
    rcases scope.realmId_cases account with realm | all
    · rw [realm]
      exact Or.inr either
    · exact Or.inl all
  unfold replaceAccess
  split
  · rename_i none_
    exact iff_of_false (fun ⟨left, affects⟩ => gone row affects left) fun level => level.1 none_
  rename_i level
  rw [KeyedTable.mem_replace]
  constructor
  · rintro ⟨rfl | ⟨left, _⟩, affects⟩
    · exact ⟨level, rfl⟩
    · exact absurd left (gone row affects)
  · rintro ⟨_, rfl⟩
    exact ⟨Or.inl rfl, affected⟩

theorem row_updated (named : account.realmId ≠ 0) (scope : Scope) (securityLevel : UInt8)
    (db : AccessTables) {row : GroupRow} (own : row.accountId = account.id) :
    row ∈ (updateAccountAccess mgr secGroups account.realmId account.id securityLevel
        (scope.realmId account) db).tables.groups ↔
      (row ∈ db.tables.groups ∧ ¬ (row.groupId ∈ account.loadGroups mgr db.tables.groups ∧
        ∃ first, (account.selectAccess db.access).find?
          (fun access => row.groupId ∈ secGroups access.gmlevel) = some first ∧
            (row.realmId = first.realmId ∨ row.realmId = -1))) ∨
      (row.realmId = scope.realmId account ∧ row.groupId ∈ secGroups securityLevel ∧
        mgr.groups row.groupId ≠ none ∧
        ¬ (row.groupId ∈ account.loadGroups mgr db.tables.groups ∧
          (account.selectAccess db.access).find?
            (fun access => row.groupId ∈ secGroups access.gmlevel) = none)) := by
  have saved : ∀ removal ∈ removals secGroups (account.selectAccess db.access), removal.2 ≠ 0 :=
    removals_saved named
  have untouched : (∀ removal ∈ removals secGroups (account.selectAccess db.access),
      removal.1 ≠ row.groupId) ↔ (account.selectAccess db.access).find?
        (fun access => row.groupId ∈ secGroups access.gmlevel) = none := by
    rw [← map_eq_none_iff (f := fun access : AccessRow => (row.groupId, access.realmId)),
      ← find_removals, find?_eq_none]
    simp
  rw [updateAccountAccess_eq, row_addAll (scope.realmId_ne_zero named), row_removeAll saved _ own,
    mem_removeAll saved, find_removals, untouched, Finset.mem_sort]
  simp only [map_eq_some_iff, own, true_and, exists_exists_and_eq_and]
  rfl

/-- After a change of the level an account has all groups of the new level, and none of the former
ones that it should not have, exactly when the groups exist and the rows of the former ones are
reached. -/
theorem old_powers_removed_iff (mgr : AccountMgr) (secGroups : SecGroups) (account : Account)
    (named : account.realmId ≠ 0) (securityLevel : UInt8) (scope : Scope) (db : AccessTables) :
    Updated mgr secGroups account securityLevel (scope.realmId account) db
        (updateAccountAccess mgr secGroups account.realmId account.id securityLevel
          (scope.realmId account) db) ↔
      (∀ group ∈ secGroups securityLevel, mgr.groups group ≠ none) ∧
      ∀ group, group ∉ secGroups securityLevel → group ∉ mgr.defaultGroups →
        mgr.groups group ≠ none → Reached secGroups account db group := by
  have rows := fun group realmId => @row_updated mgr secGroups account named scope securityLevel db
    ⟨account.id, group, realmId⟩ rfl
  have affected : ∀ {realmId : Int}, realmId = account.realmId ∨ realmId = -1 →
      ∀ (tables : Tables) (group : Nat), mgr.groups group ≠ none →
        (⟨account.id, group, realmId⟩ : GroupRow) ∈ tables.groups →
        group ∈ (loadFromDB mgr account tables).groups := by
    intro realmId either tables group known there
    exact (account.mem_loadGroups mgr tables.groups group).mpr
      ⟨known, Or.inl ⟨_, there, account.affects_iff.mpr ⟨rfl, either⟩, rfl⟩⟩
  constructor
  · rintro ⟨granted, revoked, _⟩
    refine ⟨fun group new => ((account.mem_loadGroups mgr _ group).mp (granted group new)).1, ?_⟩
    intro group old optional known there first found
    by_contra differ
    have selected := selectAccess_mem.mp (mem_of_find?_eq_some found)
    have stays := (rows group account.realmId).mpr (Or.inl ⟨there, ?_⟩)
    · have given : group ∈ secGroups first.gmlevel := by simpa using find?_some found
      exact (revoked first selected.1 selected.2 group given
        (affected (Or.inl rfl) _ group known stays)).elim old optional
    · rintro ⟨_, other, same, reached⟩
      rw [found] at same
      rw [← some.inj same] at reached
      obtain ⟨_, either⟩ := account.affects_iff.mp selected.2
      rcases reached with own | all
      · exact differ own.symm
      · rw [← all, or_self_iff] at either
        exact differ either
  · rintro ⟨known, reached⟩
    refine ⟨fun group new => ?_, fun access there affects group given member => ?_, ?_⟩
    · by_cases kept : group ∈ account.loadGroups mgr db.tables.groups ∧
          (account.selectAccess db.access).find?
            (fun access => group ∈ secGroups access.gmlevel) = none
      · obtain ⟨member, nobody⟩ := kept
        obtain ⟨_, ⟨row, there, also, rfl⟩ | optional⟩ :=
          (account.mem_loadGroups mgr db.tables.groups group).mp member
        · obtain ⟨own, either⟩ := account.affects_iff.mp also
          apply affected either _ _ (known _ new)
          apply (rows _ _).mpr
          refine Or.inl ⟨own ▸ there, ?_⟩
          rintro ⟨_, first, found, _⟩
          rw [nobody] at found
          cases found
        · exact (account.mem_loadGroups mgr _ group).mpr ⟨known group new, Or.inr optional⟩
      · exact affected (scope.realmId_cases account) _ group (known group new)
          ((rows group _).mpr (Or.inr ⟨rfl, new, known group new, kept⟩))
    · by_contra neither
      rw [not_or] at neither
      obtain ⟨old, optional⟩ := neither
      obtain ⟨known, ⟨row, after, also, rfl⟩ | default_⟩ :=
        (account.mem_loadGroups mgr _ group).mp member
      · obtain ⟨own, either⟩ := account.affects_iff.mp also
        rcases (row_updated named scope securityLevel db own).mp after with ⟨before, kept⟩ | new
        · have nonempty : (account.selectAccess db.access).find?
              (fun access => row.groupId ∈ secGroups access.gmlevel) ≠ none := by
            rw [ne_eq, find?_eq_none]
            exact fun nobody => nobody access (selectAccess_mem.mpr ⟨there, affects⟩)
              (decide_eq_true given)
          obtain ⟨first, found⟩ := ne_none_iff_exists'.mp nonempty
          refine kept ⟨(account.mem_loadGroups mgr _ _).mpr
            ⟨known, Or.inl ⟨row, before, also, rfl⟩⟩, first, found, either.imp_left fun realm => ?_⟩
          have ownRow : (⟨account.id, row.groupId, account.realmId⟩ : GroupRow) ∈
              db.tables.groups := by
            rw [← own, ← realm]
            exact before
          rw [realm]
          exact (reached row.groupId old optional known ownRow first found).symm
        · exact old new.2.1
      · exact optional default_
    · rw [updateAccountAccess_eq]
      exact access_updated scope securityLevel db.access

def moderators : SecGroups := fun level => if level = 1 then {3} else ∅

def moderated (realmId : Int) : AccessTables where
  tables := { noRows with groups := (KeyedTable.empty _).replace ⟨1, 3, 1⟩ }
  access := (KeyedTable.empty _).replace ⟨1, 1, realmId⟩

/-- A level for the own realm only is taken back. -/
theorem old_powers_removed_iff_realm :
    Updated officers moderators ⟨1, 1⟩ 0 1 (moderated 1)
      (updateAccountAccess officers moderators 1 1 0 1 (moderated 1)) := by
  refine (old_powers_removed_iff officers moderators ⟨1, 1⟩ (by decide) 0 .realm (moderated 1)).mpr
    ⟨by decide, fun group _ _ _ _ row found => ?_⟩
  have only : ∀ row ∈ Account.selectAccess ⟨1, 1⟩ (moderated 1).access, row.realmId = 1 := by decide
  exact only row (mem_of_find?_eq_some found)

/-- A level for all realms is taken back, and the group of the own realm stays. -/
theorem old_group_stays :
    ¬ ∀ (mgr : AccountMgr) (secGroups : SecGroups) (account : Account), account.realmId ≠ 0 →
      ∀ (securityLevel : UInt8) (scope : Scope) (db : AccessTables),
        Updated mgr secGroups account securityLevel (scope.realmId account) db
          (updateAccountAccess mgr secGroups account.realmId account.id securityLevel
            (scope.realmId account) db) := by
  intro claimed
  have updated := claimed officers moderators ⟨1, 1⟩ (by decide) 0 .realm (moderated (-1))
  have stays : (⟨1, 3, 1⟩ : GroupRow) ∈ (updateAccountAccess officers moderators 1 1 0 1
      (moderated (-1))).tables.groups := by
    refine (@row_updated officers moderators ⟨1, 1⟩ (by decide) .realm 0 (moderated (-1)) ⟨1, 3, 1⟩
      rfl).mpr (Or.inl ⟨mem_cons_self, ?_⟩)
    rintro ⟨_, first, found, either⟩
    have only : ∀ row ∈ Account.selectAccess ⟨1, 1⟩ (moderated (-1)).access, row.realmId = -1 := by
      decide
    rw [only first (mem_of_find?_eq_some found)] at either
    revert either
    decide
  have member := (Account.mem_loadGroups ⟨1, 1⟩ officers _ 3).mpr
    ⟨by decide, Or.inl ⟨_, stays, by decide, rfl⟩⟩
  have allowed := updated.revoked ⟨1, 1, -1⟩ mem_cons_self (by decide) 3 (by decide) member
  revert allowed
  decide

end

end OpenWoW.RBAC
