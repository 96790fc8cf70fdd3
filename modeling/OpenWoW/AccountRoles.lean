import Mathlib.Data.Finset.Sort
import Mathlib.Data.Finset.Union
import Mathlib.Data.List.Sort
import OpenWoW.Lib.KeyedTable
import OpenWoW.Lib.Run

/-! Role based access control: groups, roles and permissions, in memory and in the database. -/
namespace OpenWoW.RBAC

open List Function

def rbacPermMax : Nat := 49

inductive RBACCommandResult where
  | ok
  | cantAddAlreadyAdded
  | cantRevokeNotInList
  | inGrantedList
  | inDeniedList
  | idDoesNotExists
  deriving DecidableEq, Repr

/-- What an account has granted and denied. -/
inductive Kind where
  | role
  | permission
  deriving DecidableEq, Repr

/-- The definitions of `AccountMgr`: a role has permissions, a group has roles. -/
structure AccountMgr where
  permissions : Finset Nat
  roles : Nat → Option (Finset Nat)
  groups : Nat → Option (Finset Nat)
  defaultGroups : Finset Nat
  permissions_lt : ∀ id ∈ permissions, id < rbacPermMax
  roles_lt : ∀ role permissions, roles role = some permissions →
    ∀ id ∈ permissions, id < rbacPermMax

def AccountMgr.known (mgr : AccountMgr) : Kind → Nat → Bool
  | .role, id => (mgr.roles id).isSome
  | .permission, id => id ∈ mgr.permissions

/-- The granted (`true`) and the denied ids of a kind. -/
abbrev Powers : Type := Bool → Finset Nat

/-- The account and the realm that `RBACData` is for. -/
structure Account where
  id : Nat
  realmId : Int

structure RBACData where
  groups : Finset Nat
  powers : Kind → Powers
  globalPerms : Finset Nat

/-- A row of `rbac_account_groups`. -/
structure GroupRow where
  accountId : Nat
  groupId : Nat
  realmId : Int
  deriving DecidableEq, Repr

/-- A row of `rbac_account_roles` or `rbac_account_permissions`. -/
structure PowerRow where
  accountId : Nat
  id : Nat
  granted : Bool
  realmId : Int
  deriving DecidableEq, Repr

def GroupRow.key (row : GroupRow) : Nat × Nat × Int := (row.accountId, row.groupId, row.realmId)

def PowerRow.key (row : PowerRow) : Nat × Nat × Int := (row.accountId, row.id, row.realmId)

structure Tables where
  groups : KeyedTable GroupRow.key
  powers : Kind → KeyedTable PowerRow.key

def addGroup (mgr : AccountMgr) (groups : Finset Nat) (groupId : Nat) :
    RBACCommandResult × Finset Nat :=
  if (mgr.groups groupId).isNone then (.idDoesNotExists, groups)
  else if groupId ∈ groups then (.cantAddAlreadyAdded, groups)
  else (.ok, insert groupId groups)

/-- `GrantRole`, `DenyRole`, `GrantPermission` and `DenyPermission`. -/
def Powers.assign (known : Nat → Bool) (powers : Powers) (granted : Bool) (id : Nat) :
    RBACCommandResult × Powers :=
  if ¬ known id then (.idDoesNotExists, powers)
  else if id ∈ powers (!granted) then
    (if granted then .inDeniedList else .inGrantedList, powers)
  else if id ∈ powers granted then (.cantAddAlreadyAdded, powers)
  else (.ok, Function.update powers granted (insert id (powers granted)))

/-- `RevokeRole` and `RevokePermission`. -/
def Powers.revoke (powers : Powers) (id : Nat) : RBACCommandResult × Powers :=
  if id ∉ powers true ∧ id ∉ powers false then (.cantRevokeNotInList, powers)
  else (.ok, fun granted => (powers granted).erase id)

def rolePermissions (mgr : AccountMgr) (roles : Finset Nat) : Finset Nat :=
  roles.biUnion fun role => (mgr.roles role).getD ∅

def calculateNewPermissions (mgr : AccountMgr) (data : RBACData) : RBACData :=
  let granted := data.powers .role true ∪
    data.groups.biUnion fun group => (mgr.groups group).getD ∅
  { data with
    globalPerms := ((data.powers .permission true ∪ rolePermissions mgr granted) \
      data.powers .permission false) \ rolePermissions mgr (data.powers .role false) }

namespace Account

def affects (account : Account) (accountId : Nat) (realmId : Int) : Bool :=
  accountId = account.id ∧ (realmId = account.realmId ∨ realmId = -1)

/-- `LOGIN_SEL_RBAC_ACCOUNT_GROUPS`. -/
def selectGroups (account : Account) (table : KeyedTable GroupRow.key) : List Nat :=
  ((table.rows.filter fun row => account.affects row.accountId row.realmId).map
    GroupRow.groupId).dedup

/-- `ORDER BY roleId, realmId`. -/
def inOrder (row other : PowerRow) : Prop :=
  row.id < other.id ∨ row.id = other.id ∧ row.realmId ≤ other.realmId

instance : DecidableRel inOrder := fun _ _ => inferInstanceAs (Decidable (_ ∨ _))

/-- `LOGIN_SEL_RBAC_ACCOUNT_ROLES` and `LOGIN_SEL_RBAC_ACCOUNT_PERMISSIONS`. -/
def selectPowers (account : Account) (table : KeyedTable PowerRow.key) : List PowerRow :=
  (table.rows.filter fun row => account.affects row.accountId row.realmId).insertionSort inOrder

def loadGroups (mgr : AccountMgr) (account : Account) (table : KeyedTable GroupRow.key) :
    Finset Nat :=
  (account.selectGroups table ++ mgr.defaultGroups.sort (· ≤ ·)).foldl
    (fun groups id => (addGroup mgr groups id).2) ∅

def loadPowers (known : Nat → Bool) (account : Account) (table : KeyedTable PowerRow.key) :
    Powers :=
  (account.selectPowers table).foldl
    (fun powers row => (powers.assign known row.granted row.id).2) fun _ => ∅

end Account

def loadFromDB (mgr : AccountMgr) (account : Account) (tables : Tables) : RBACData :=
  calculateNewPermissions mgr
    { groups := account.loadGroups mgr tables.groups
      powers := fun kind => account.loadPowers (mgr.known kind) (tables.powers kind)
      globalPerms := ∅ }

structure State where
  data : RBACData
  tables : Tables

/-- `LOGIN_INS_RBAC_ACCOUNT_GROUP`: a row that is there already is an error. -/
def Tables.insertGroup (tables : Tables) (row : GroupRow) : Tables :=
  if row ∈ tables.groups.rows then tables
  else { tables with groups := tables.groups.replace row }

/-- `LOGIN_DEL_RBAC_ACCOUNT_GROUP`. -/
def Tables.deleteGroup (tables : Tables) (account : Account) (groupId : Nat) (realmId : Int) :
    Tables :=
  { tables with
    groups := tables.groups.delete fun row =>
      row.accountId = account.id ∧ row.groupId = groupId ∧
        (row.realmId = realmId ∨ row.realmId = -1) }

/-- `LOGIN_INS_RBAC_ACCOUNT_ROLE` and `LOGIN_INS_RBAC_ACCOUNT_PERMISSION`. -/
def Tables.savePower (tables : Tables) (kind : Kind) (row : PowerRow) : Tables :=
  { tables with
    powers := Function.update tables.powers kind ((tables.powers kind).replace row) }

/-- `LOGIN_DEL_RBAC_ACCOUNT_ROLE` and `LOGIN_DEL_RBAC_ACCOUNT_PERMISSION`. -/
def Tables.deletePower (tables : Tables) (account : Account) (kind : Kind) (id : Nat)
    (realmId : Int) : Tables :=
  { tables with
    powers := Function.update tables.powers kind ((tables.powers kind).delete fun row =>
      row.accountId = account.id ∧ row.id = id ∧ (row.realmId = realmId ∨ row.realmId = -1)) }

namespace State

def save (mgr : AccountMgr) (data : RBACData) (tables saved : Tables) (realmId : Int) : State :=
  if realmId = 0 then ⟨data, tables⟩ else ⟨calculateNewPermissions mgr data, saved⟩

def addGroup (mgr : AccountMgr) (account : Account) (s : State) (groupId : Nat)
    (realmId : Int) : State × RBACCommandResult :=
  match RBAC.addGroup mgr s.data.groups groupId with
  | (.ok, groups) =>
    (save mgr { s.data with groups := groups } s.tables
      (s.tables.insertGroup ⟨account.id, groupId, realmId⟩) realmId, .ok)
  | (result, _) => (s, result)

def removeGroup (mgr : AccountMgr) (account : Account) (s : State) (groupId : Nat)
    (realmId : Int) : State × RBACCommandResult :=
  if groupId ∉ s.data.groups then (s, .cantRevokeNotInList)
  else
    (save mgr { s.data with groups := s.data.groups.erase groupId } s.tables
      (s.tables.deleteGroup account groupId realmId) realmId, .ok)

def assign (mgr : AccountMgr) (account : Account) (s : State) (kind : Kind) (granted : Bool)
    (id : Nat) (realmId : Int) : State × RBACCommandResult :=
  match (s.data.powers kind).assign (mgr.known kind) granted id with
  | (.ok, powers) =>
    (save mgr { s.data with powers := Function.update s.data.powers kind powers } s.tables
      (s.tables.savePower kind ⟨account.id, id, granted, realmId⟩) realmId, .ok)
  | (result, _) => (s, result)

def revoke (mgr : AccountMgr) (account : Account) (s : State) (kind : Kind) (id : Nat)
    (realmId : Int) : State × RBACCommandResult :=
  match (s.data.powers kind).revoke id with
  | (.ok, powers) =>
    (save mgr { s.data with powers := Function.update s.data.powers kind powers } s.tables
      (s.tables.deletePower account kind id realmId) realmId, .ok)
  | (result, _) => (s, result)

end State

/-- A command is for the account's realm or for all realms. -/
inductive Scope where
  | realm
  | allRealms
  deriving DecidableEq, Repr

def Scope.realmId (account : Account) : Scope → Int
  | .realm => account.realmId
  | .allRealms => -1

inductive Command where
  | addGroup (groupId : Nat) (scope : Scope)
  | removeGroup (groupId : Nat) (scope : Scope)
  | grantRole (roleId : Nat) (scope : Scope)
  | denyRole (roleId : Nat) (scope : Scope)
  | revokeRole (roleId : Nat) (scope : Scope)
  | grantPermission (permissionId : Nat) (scope : Scope)
  | denyPermission (permissionId : Nat) (scope : Scope)
  /-- The bit is tested before anything else. -/
  | revokePermission (permissionId : Fin rbacPermMax) (scope : Scope)
  deriving DecidableEq, Repr

def step (mgr : AccountMgr) (account : Account) (s : State) :
    Command → State × RBACCommandResult
  | .addGroup id scope => s.addGroup mgr account id (scope.realmId account)
  | .removeGroup id scope => s.removeGroup mgr account id (scope.realmId account)
  | .grantRole id scope => s.assign mgr account .role true id (scope.realmId account)
  | .denyRole id scope => s.assign mgr account .role false id (scope.realmId account)
  | .revokeRole id scope => s.revoke mgr account .role id (scope.realmId account)
  | .grantPermission id scope => s.assign mgr account .permission true id (scope.realmId account)
  | .denyPermission id scope => s.assign mgr account .permission false id (scope.realmId account)
  | .revokePermission id scope => s.revoke mgr account .permission id (scope.realmId account)

theorem Powers.assign_cases (known : Nat → Bool) (powers : Powers) (granted : Bool) (id : Nat) :
    (known id = true ∧ (∀ side, id ∉ powers side) ∧ powers.assign known granted id =
      (.ok, Function.update powers granted (insert id (powers granted)))) ∨
    (¬ (known id = true ∧ ∀ side, id ∉ powers side) ∧
      (powers.assign known granted id).1 ≠ .ok ∧ (powers.assign known granted id).2 = powers) := by
  unfold assign
  by_cases unknown : known id = true
  · rw [if_neg (not_not.mpr unknown)]
    by_cases other : id ∈ powers (!granted)
    · rw [if_pos other]
      refine .inr ⟨fun fresh => fresh.2 _ other, ?_, rfl⟩
      cases granted <;> nofun
    rw [if_neg other]
    by_cases own : id ∈ powers granted
    · rw [if_pos own]
      exact .inr ⟨fun fresh => fresh.2 _ own, nofun, rfl⟩
    rw [if_neg own]
    refine .inl ⟨unknown, fun side => ?_, rfl⟩
    by_cases same : side = granted
    · exact same ▸ own
    · exact (Bool.eq_not_of_ne same) ▸ other
  · rw [if_pos unknown]
    exact .inr ⟨fun fresh => unknown fresh.1, nofun, rfl⟩

/-- The first row of an id decides, where nothing was assigned before. -/
theorem Powers.mem_foldl_assign (known : Nat → Bool) (rows : List PowerRow) (powers : Powers)
    (granted : Bool) (id : Nat) :
    id ∈ rows.foldl (fun powers row => (powers.assign known row.granted row.id).2) powers
        granted ↔
      id ∈ powers granted ∨ (∀ side, id ∉ powers side) ∧ known id = true ∧
        ∃ row, rows.find? (fun row => row.id = id) = some row ∧ row.granted = granted := by
  induction rows generalizing powers with
  | nil => simp
  | cons row rows ih =>
    rw [foldl_cons, ih, find?_cons]
    rcases powers.assign_cases known row.granted row.id with
      ⟨there, fresh, assigned⟩ | ⟨refused, _, same⟩
    · rw [assigned]
      dsimp only
      by_cases own : row.id = id
      · subst own
        rw [decide_eq_true rfl]
        by_cases side : granted = row.granted
        · subst side
          simp [there, fresh]
        have taken : ¬ ∀ side, row.id ∉ Function.update powers row.granted
            (insert row.id (powers row.granted)) side := by
          intro none
          have absent := none row.granted
          simp at absent
        rw [update_of_ne side]
        constructor
        · rintro (mem | ⟨none, _⟩)
          · exact .inl mem
          · exact absurd none taken
        · rintro (mem | ⟨_, _, first, here, flag⟩)
          · exact .inl mem
          · cases here
            exact absurd flag.symm side
      · have kept : ∀ side, id ∈ Function.update powers row.granted
            (insert row.id (powers row.granted)) side ↔ id ∈ powers side := by
          intro side
          by_cases same : side = row.granted
          · subst same
            rw [update_self, Finset.mem_insert, or_iff_right (Ne.symm own)]
          · rw [update_of_ne same]
        simp only [kept, decide_eq_false own]
    · rw [same]
      by_cases own : row.id = id
      · subst own
        constructor
        · rintro (mem | ⟨none, there, _⟩)
          · exact .inl mem
          · exact absurd ⟨there, none⟩ refused
        · rintro (mem | ⟨none, there, _⟩)
          · exact .inl mem
          · exact absurd ⟨there, none⟩ refused
      · rw [decide_eq_false own]

namespace Account

variable (account : Account)

theorem affects_iff {accountId : Nat} {realmId : Int} :
    account.affects accountId realmId = true ↔
      accountId = account.id ∧ (realmId = account.realmId ∨ realmId = -1) := decide_eq_true_iff

/-- The row of an id that affects the account with the least realm. -/
structure Decisive (table : KeyedTable PowerRow.key) (row : PowerRow) : Prop where
  mem : row ∈ table
  affects : account.affects row.accountId row.realmId = true
  least : ∀ other ∈ table, account.affects other.accountId other.realmId = true →
    other.id = row.id → row.realmId ≤ other.realmId

variable {table : KeyedTable PowerRow.key} {row : PowerRow}

theorem mem_selectPowers :
    row ∈ account.selectPowers table ↔
      row ∈ table ∧ account.affects row.accountId row.realmId = true := by
  unfold selectPowers
  rw [mem_insertionSort, mem_filter, KeyedTable.mem_rows]

instance : Std.Total inOrder := ⟨by
  intro row other
  unfold inOrder
  omega⟩

instance : IsTrans PowerRow inOrder := ⟨by
  intro row other third
  unfold inOrder
  omega⟩

theorem decisive_of_find {id : Nat}
    (found : (account.selectPowers table).find? (fun row => row.id = id) = some row) :
    account.Decisive table row ∧ row.id = id := by
  have own : row.id = id := by simpa using find?_some found
  have mem := (account.mem_selectPowers).mp (mem_of_find?_eq_some found)
  refine ⟨⟨mem.1, mem.2, fun other there affects same => ?_⟩, own⟩
  obtain ⟨_, before, after, split, earlier⟩ := find?_eq_some_iff_append.mp found
  have listed := (account.mem_selectPowers).mpr ⟨there, affects⟩
  have sorted := pairwise_insertionSort inOrder
    (table.rows.filter fun row => account.affects row.accountId row.realmId)
  change List.Pairwise inOrder (account.selectPowers table) at sorted
  rw [split] at listed sorted
  rcases mem_append.mp listed with early | late
  · have differ := earlier other early
    rw [same, own] at differ
    simp at differ
  rcases mem_cons.mp late with rfl | late
  · exact le_refl _
  have order := rel_of_pairwise_cons (pairwise_append.mp sorted).2.1 late
  unfold inOrder at order
  omega

theorem exists_decisive (mem : row ∈ table)
    (affects : account.affects row.accountId row.realmId = true) :
    ∃ first, account.Decisive table first ∧ first.id = row.id ∧
      (account.selectPowers table).find? (fun other => other.id = row.id) = some first := by
  have some : ((account.selectPowers table).find? fun other => other.id = row.id).isSome := by
    rw [find?_isSome]
    exact ⟨row, (account.mem_selectPowers).mpr ⟨mem, affects⟩, decide_eq_true rfl⟩
  obtain ⟨first, found⟩ := Option.isSome_iff_exists.mp some
  obtain ⟨decisive, same⟩ := account.decisive_of_find found
  exact ⟨first, decisive, same, found⟩

theorem decisive_unique {other : PowerRow} (decisive : account.Decisive table row)
    (also : account.Decisive table other) (same : row.id = other.id) : row = other := by
  have realms := le_antisymm (decisive.least other also.mem also.affects same.symm)
    (also.least row decisive.mem decisive.affects same)
  have accounts := ((account.affects_iff).mp decisive.affects).1.trans
    ((account.affects_iff).mp also.affects).1.symm
  exact KeyedTable.eq_of_key decisive.mem also.mem (Prod.ext accounts (Prod.ext same realms))

theorem mem_loadPowers (known : Nat → Bool) (table : KeyedTable PowerRow.key) (granted : Bool)
    (id : Nat) :
    id ∈ account.loadPowers known table granted ↔
      known id = true ∧ ∃ row, account.Decisive table row ∧ row.id = id ∧
        row.granted = granted := by
  unfold loadPowers
  rw [Powers.mem_foldl_assign]
  simp only [Finset.notMem_empty, not_false_eq_true, implies_true, true_and, false_or]
  refine and_congr_right fun _ => ?_
  constructor
  · rintro ⟨row, found, rfl⟩
    obtain ⟨decisive, own⟩ := account.decisive_of_find found
    exact ⟨row, decisive, own, rfl⟩
  · rintro ⟨row, decisive, rfl, rfl⟩
    obtain ⟨first, also, same, found⟩ := account.exists_decisive decisive.mem decisive.affects
    exact ⟨first, found, congrArg PowerRow.granted (account.decisive_unique also decisive same)⟩

theorem mem_loadGroups (mgr : AccountMgr) (table : KeyedTable GroupRow.key) (group : Nat) :
    group ∈ account.loadGroups mgr table ↔ mgr.groups group ≠ none ∧
      ((∃ row ∈ table, account.affects row.accountId row.realmId = true ∧ row.groupId = group) ∨
        group ∈ mgr.defaultGroups) := by
  have added : ∀ (ids : List Nat) (groups : Finset Nat),
      group ∈ ids.foldl (fun groups id => (addGroup mgr groups id).2) groups ↔
        group ∈ groups ∨ mgr.groups group ≠ none ∧ group ∈ ids := by
    intro ids
    induction ids with
    | nil => simp
    | cons id ids ih =>
      intro groups
      rw [foldl_cons, ih, mem_cons]
      unfold addGroup
      split
      · rename_i unknown
        rw [Option.isNone_iff_eq_none] at unknown
        by_cases same : group = id
        · subst same
          simp [unknown]
        · simp [same]
      · rename_i known
        rw [Option.isNone_iff_eq_none] at known
        split
        · by_cases same : group = id
          · subst same
            simp_all
          · simp [same]
        rw [Finset.mem_insert]
        by_cases same : group = id
        · subst same
          simp [known]
        · simp [same]
  unfold loadGroups
  rw [added, mem_append, Finset.mem_sort]
  simp only [Finset.notMem_empty, false_or]
  refine and_congr_right fun _ => or_congr_left ?_
  unfold selectGroups
  rw [mem_dedup, mem_map]
  simp only [mem_filter, KeyedTable.mem_rows, and_assoc]

end Account

/-- A fresh load gives what is in memory. -/
structure Reloads (mgr : AccountMgr) (account : Account) (s : State) : Prop where
  groups : account.loadGroups mgr s.tables.groups = s.data.groups
  powers : ∀ kind, account.loadPowers (mgr.known kind) (s.tables.powers kind) = s.data.powers kind
  globalPerms : (calculateNewPermissions mgr s.data).globalPerms = s.data.globalPerms

theorem reloads_iff (mgr : AccountMgr) (account : Account) (s : State) :
    loadFromDB mgr account s.tables = s.data ↔ Reloads mgr account s := by
  constructor
  · intro same
    refine ⟨congrArg RBACData.groups same, fun kind => congrArg (RBACData.powers · kind) same, ?_⟩
    rw [← same]
    rfl
  · rintro ⟨groups, powers, globalPerms⟩
    have lists : (fun kind => account.loadPowers (mgr.known kind) (s.tables.powers kind)) =
        s.data.powers := funext powers
    rw [loadFromDB, groups, lists]
    change { s.data with globalPerms := (calculateNewPermissions mgr s.data).globalPerms } = s.data
    rw [globalPerms]

theorem reloads_start (mgr : AccountMgr) (account : Account) (tables : Tables) :
    Reloads mgr account ⟨loadFromDB mgr account tables, tables⟩ :=
  (reloads_iff mgr account _).mp rfl

/-- The granted permissions and those of the granted roles and of the roles of the groups,
without the denied ones and those of the denied roles. -/
def Combined (mgr : AccountMgr) (data : RBACData) : Prop :=
  ∀ permission, permission ∈ data.globalPerms ↔
    (permission ∈ data.powers .permission true ∨
      ∃ role permissions, mgr.roles role = some permissions ∧ permission ∈ permissions ∧
        (role ∈ data.powers .role true ∨
          ∃ group ∈ data.groups, ∃ roles, mgr.groups group = some roles ∧ role ∈ roles)) ∧
    permission ∉ data.powers .permission false ∧
    ¬ ∃ role ∈ data.powers .role false, ∃ permissions, mgr.roles role = some permissions ∧
      permission ∈ permissions

theorem mem_getD {set : Option (Finset Nat)} {id : Nat} :
    id ∈ set.getD ∅ ↔ ∃ ids, set = some ids ∧ id ∈ ids := by
  cases set <;> simp

theorem combined_of_reloads {mgr : AccountMgr} {account : Account} {s : State}
    (reloads : Reloads mgr account s) : Combined mgr s.data := by
  intro permission
  rw [← reloads.globalPerms]
  unfold calculateNewPermissions rolePermissions
  simp only [Finset.mem_sdiff, Finset.mem_union, Finset.mem_biUnion, mem_getD, and_assoc]
  refine and_congr_left fun _ => or_congr_right ?_
  constructor
  · rintro ⟨role, granted, permissions, found, mem⟩
    exact ⟨role, permissions, found, mem, granted⟩
  · rintro ⟨role, permissions, found, mem, granted⟩
    exact ⟨role, granted, permissions, found, mem⟩

namespace Account

variable (account : Account) (known : Nat → Bool)

variable {table : KeyedTable PowerRow.key}

theorem loadPowers_congr {other : KeyedTable PowerRow.key} {id : Nat}
    (same : ∀ row : PowerRow, row.id = id → account.affects row.accountId row.realmId = true →
      (row ∈ table ↔ row ∈ other)) (granted : Bool) :
    id ∈ account.loadPowers known table granted ↔ id ∈ account.loadPowers known other granted := by
  rw [mem_loadPowers, mem_loadPowers]
  refine and_congr_right fun _ => exists_congr fun row => ?_
  constructor
  · rintro ⟨decisive, rfl, flag⟩
    refine ⟨⟨(same row rfl decisive.affects).mp decisive.mem, decisive.affects, ?_⟩, rfl, flag⟩
    exact fun next mem affects ids =>
      decisive.least next ((same next ids affects).mpr mem) affects ids
  · rintro ⟨decisive, rfl, flag⟩
    refine ⟨⟨(same row rfl decisive.affects).mpr decisive.mem, decisive.affects, ?_⟩, rfl, flag⟩
    exact fun next mem affects ids =>
      decisive.least next ((same next ids affects).mp mem) affects ids

theorem fresh_of_notMem {id : Nat} (there : known id = true)
    (absent : ∀ granted, id ∉ account.loadPowers known table granted) (row : PowerRow)
    (mem : row ∈ table) (own : row.id = id) :
    account.affects row.accountId row.realmId = false := by
  by_contra affects
  rw [Bool.not_eq_false] at affects
  obtain ⟨first, decisive, same, _⟩ := account.exists_decisive mem affects
  exact absent first.granted ((account.mem_loadPowers known table first.granted id).mpr
    ⟨there, first, decisive, same.trans own, rfl⟩)

/-- The first row of an id that affects the account is saved. -/
theorem loadPowers_replace (table : KeyedTable PowerRow.key) (row : PowerRow)
    (there : known row.id = true) (affects : account.affects row.accountId row.realmId = true)
    (absent : ∀ granted, row.id ∉ account.loadPowers known table granted) :
    account.loadPowers known (table.replace row) =
      Function.update (account.loadPowers known table) row.granted
        (insert row.id (account.loadPowers known table row.granted)) := by
  have fresh := account.fresh_of_notMem known there absent
  funext granted
  ext id
  by_cases own : id = row.id
  · subst own
    have decisive : account.Decisive (table.replace row) row := by
      refine ⟨KeyedTable.mem_replace.mpr (.inl rfl), affects, fun other mem also same => ?_⟩
      rcases KeyedTable.mem_replace.mp mem with rfl | ⟨mem, _⟩
      · exact le_refl _
      · rw [fresh other mem same] at also
        cases also
    rw [mem_loadPowers]
    by_cases side : granted = row.granted
    · subst side
      rw [update_self]
      exact iff_of_true ⟨there, row, decisive, rfl, rfl⟩ (Finset.mem_insert_self _ _)
    rw [update_of_ne side]
    refine iff_of_false ?_ (absent granted)
    rintro ⟨_, other, also, same, flag⟩
    rw [account.decisive_unique also decisive same] at flag
    exact side flag.symm
  · have kept : id ∈ account.loadPowers known (table.replace row) granted ↔
        id ∈ account.loadPowers known table granted := by
      refine account.loadPowers_congr known (fun other same _ => ?_) granted
      rw [KeyedTable.mem_replace]
      constructor
      · rintro (rfl | ⟨mem, _⟩)
        · exact absurd same.symm own
        · exact mem
      · intro mem
        refine .inr ⟨mem, fun keys => own ?_⟩
        exact same.symm.trans (congrArg (fun key : Nat × Nat × Int => key.2.1) keys)
    rw [kept]
    by_cases side : granted = row.granted
    · subst side
      rw [update_self, Finset.mem_insert, or_iff_right own]
    · rw [update_of_ne side]

theorem loadPowers_delete (gone : PowerRow → Bool) {id : Nat}
    (own : ∀ row, gone row = true → row.id = id)
    (all : ∀ row ∈ table, row.id = id → account.affects row.accountId row.realmId = true →
      gone row = true) :
    account.loadPowers known (table.delete gone) =
      fun granted => (account.loadPowers known table granted).erase id := by
  funext granted
  ext other
  by_cases same : other = id
  · subst same
    refine iff_of_false ?_ (Finset.notMem_erase _ _)
    rw [mem_loadPowers]
    rintro ⟨_, row, decisive, ids, _⟩
    obtain ⟨mem, kept⟩ := KeyedTable.mem_delete.mp decisive.mem
    rw [all row mem ids decisive.affects] at kept
    cases kept
  · rw [Finset.mem_erase, and_iff_right same]
    refine account.loadPowers_congr known (fun row ids _ => ?_) granted
    rw [KeyedTable.mem_delete]
    refine and_iff_left_of_imp fun _ => ?_
    by_contra taken
    exact same (ids.symm.trans (own row (by simpa using taken)))

end Account

section

variable {mgr : AccountMgr} {account : Account} {s : State}

/-- A deletion for all realms does not reach the row of the realm. -/
def LeavesPower (account : Account) (s : State) (kind : Kind) (id : Nat) (realmId : Int) : Prop :=
  realmId ≠ account.realmId ∧ ∃ row ∈ s.tables.powers kind,
    row.accountId = account.id ∧ row.id = id ∧ row.realmId = account.realmId

def LeavesGroup (account : Account) (s : State) (groupId : Nat) (realmId : Int) : Prop :=
  realmId ≠ account.realmId ∧ (⟨account.id, groupId, account.realmId⟩ : GroupRow) ∈ s.tables.groups

theorem Scope.realmId_cases (account : Account) (scope : Scope) :
    scope.realmId account = account.realmId ∨ scope.realmId account = -1 := by
  cases scope
  · exact .inl rfl
  · exact .inr rfl

theorem Scope.realmId_ne_zero {account : Account} (named : account.realmId ≠ 0) (scope : Scope) :
    scope.realmId account ≠ 0 := by
  cases scope
  · exact named
  · nofun

theorem assign_reloads (reloads : Reloads mgr account s) (named : account.realmId ≠ 0)
    (kind : Kind) (granted : Bool) (id : Nat) (scope : Scope) :
    Reloads mgr account (s.assign mgr account kind granted id (scope.realmId account)).1 := by
  unfold State.assign
  rcases (s.data.powers kind).assign_cases (mgr.known kind) granted id with
    ⟨there, fresh, assigned⟩ | ⟨_, failed, _⟩
  · rw [assigned]
    dsimp only
    rw [State.save, if_neg (Scope.realmId_ne_zero named scope)]
    refine ⟨reloads.groups, fun other => ?_, rfl⟩
    by_cases same : other = kind
    · subst same
      have load := reloads.powers other
      have affects : account.affects account.id (scope.realmId account) = true :=
        (account.affects_iff).mpr ⟨rfl, scope.realmId_cases account⟩
      have saved := account.loadPowers_replace (mgr.known other) (s.tables.powers other)
        ⟨account.id, id, granted, scope.realmId account⟩ there affects (by rw [load]; exact fresh)
      change account.loadPowers _ (Function.update s.tables.powers other _ other) =
        Function.update s.data.powers other _ other
      rw [update_self, update_self, saved, load]
    · change account.loadPowers _ (Function.update s.tables.powers kind _ other) =
        Function.update s.data.powers kind _ other
      rw [update_of_ne same, update_of_ne same]
      exact reloads.powers other
  · split
    · rename_i ok
      rw [ok] at failed
      exact absurd rfl failed
    · exact reloads

theorem revoke_reloads (reloads : Reloads mgr account s) (named : account.realmId ≠ 0)
    (kind : Kind) (id : Nat) (scope : Scope) :
    Reloads mgr account (s.revoke mgr account kind id (scope.realmId account)).1 ↔
      ((∃ granted, id ∈ s.data.powers kind granted) →
        ¬ LeavesPower account s kind id (scope.realmId account)) := by
  unfold State.revoke Powers.revoke
  by_cases absent : id ∉ s.data.powers kind true ∧ id ∉ s.data.powers kind false
  · rw [if_pos absent]
    refine iff_of_true reloads fun ⟨granted, mem⟩ => ?_
    cases granted
    · exact absurd mem absent.2
    · exact absurd mem absent.1
  · rw [if_neg absent]
    dsimp only
    rw [State.save, if_neg (Scope.realmId_ne_zero named scope)]
    have held : ∃ granted, id ∈ s.data.powers kind granted := by
      by_contra none
      exact absurd ⟨fun mem => none ⟨true, mem⟩, fun mem => none ⟨false, mem⟩⟩ absent
    have load := reloads.powers kind
    constructor
    · rintro after - ⟨differ, row, mem, accounts, own, realms⟩
      have gone := after.powers kind
      change account.loadPowers _ (Function.update s.tables.powers kind _ kind) =
        Function.update s.data.powers kind _ kind at gone
      rw [update_self, update_self] at gone
      have there : mgr.known kind id = true := by
        obtain ⟨granted, mem⟩ := held
        rw [← load, Account.mem_loadPowers] at mem
        exact mem.1
      have affects : account.affects row.accountId row.realmId = true :=
        (account.affects_iff).mpr ⟨accounts, .inl realms⟩
      have everywhere : scope.realmId account = -1 :=
        (scope.realmId_cases account).resolve_left differ
      have left : row ∈ (s.tables.powers kind).delete fun row =>
          row.accountId = account.id ∧ row.id = id ∧
            (row.realmId = scope.realmId account ∨ row.realmId = -1) := by
        refine KeyedTable.mem_delete.mpr ⟨mem, decide_eq_false ?_⟩
        rintro ⟨_, _, taken⟩
        rw [everywhere, or_self_iff, realms] at taken
        exact differ (everywhere.trans taken.symm)
      have hidden := account.fresh_of_notMem (mgr.known kind) there
        (fun granted => by rw [gone]; exact Finset.notMem_erase _ _) row left own
      rw [affects] at hidden
      cases hidden
    · intro reached
      refine ⟨reloads.groups, fun other => ?_, rfl⟩
      by_cases same : other = kind
      · subst same
        change account.loadPowers _ (Function.update s.tables.powers other _ other) =
          Function.update s.data.powers other _ other
        rw [update_self, update_self, account.loadPowers_delete (mgr.known other) _, load]
        · intro row taken
          exact (of_decide_eq_true taken).2.1
        · intro row mem own affects
          obtain ⟨accounts, realms⟩ := (account.affects_iff).mp affects
          refine decide_eq_true ⟨accounts, own, realms.imp_left fun realm => ?_⟩
          by_contra differ
          exact reached held ⟨fun same => differ (realm.trans same.symm), row, mem, accounts, own,
            realm⟩
      · change account.loadPowers _ (Function.update s.tables.powers kind _ other) =
          Function.update s.data.powers kind _ other
        rw [update_of_ne same, update_of_ne same]
        exact reloads.powers other

theorem GroupRow.key_injective {row other : GroupRow} (same : row.key = other.key) :
    row = other := by
  cases row
  cases other
  simpa [GroupRow.key] using same

theorem addGroup_reloads (reloads : Reloads mgr account s) (named : account.realmId ≠ 0)
    (groupId : Nat) (scope : Scope) :
    Reloads mgr account (s.addGroup mgr account groupId (scope.realmId account)).1 := by
  unfold State.addGroup addGroup
  by_cases unknown : (mgr.groups groupId).isNone = true
  · rw [if_pos unknown]
    exact reloads
  rw [if_neg unknown]
  by_cases added : groupId ∈ s.data.groups
  · rw [if_pos added]
    exact reloads
  rw [if_neg added]
  dsimp only
  rw [State.save, if_neg (Scope.realmId_ne_zero named scope)]
  have known : mgr.groups groupId ≠ none := fun idle => unknown (by rw [idle]; rfl)
  have affects : account.affects account.id (scope.realmId account) = true :=
    (account.affects_iff).mpr ⟨rfl, scope.realmId_cases account⟩
  have fresh : (⟨account.id, groupId, scope.realmId account⟩ : GroupRow) ∉
      s.tables.groups.rows := by
    intro mem
    refine added ?_
    rw [← reloads.groups, Account.mem_loadGroups]
    exact ⟨known, .inl ⟨_, mem, affects, rfl⟩⟩
  rw [Tables.insertGroup, if_neg fresh]
  refine ⟨?_, reloads.powers, rfl⟩
  ext other
  change _ ↔ other ∈ insert groupId s.data.groups
  rw [Finset.mem_insert, ← reloads.groups, Account.mem_loadGroups, Account.mem_loadGroups]
  constructor
  · rintro ⟨there, ⟨row, mem, also, own⟩ | listed⟩
    · rcases KeyedTable.mem_replace.mp mem with rfl | ⟨mem, _⟩
      · exact .inl own.symm
      · exact .inr ⟨there, .inl ⟨row, mem, also, own⟩⟩
    · exact .inr ⟨there, .inr listed⟩
  · rintro (rfl | ⟨there, ⟨row, mem, also, own⟩ | listed⟩)
    · exact ⟨known, .inl ⟨_, KeyedTable.mem_replace.mpr (.inl rfl), affects, rfl⟩⟩
    · refine ⟨there, .inl ⟨row, KeyedTable.mem_replace.mpr (.inr ⟨mem, fun keys => ?_⟩), also,
        own⟩⟩
      rw [GroupRow.key_injective keys] at mem
      exact fresh mem
    · exact ⟨there, .inr listed⟩

theorem removeGroup_reloads (reloads : Reloads mgr account s) (named : account.realmId ≠ 0)
    (groupId : Nat) (scope : Scope) :
    Reloads mgr account (s.removeGroup mgr account groupId (scope.realmId account)).1 ↔
      (groupId ∈ s.data.groups → groupId ∉ mgr.defaultGroups ∧
        ¬ LeavesGroup account s groupId (scope.realmId account)) := by
  unfold State.removeGroup
  by_cases held : groupId ∈ s.data.groups
  · rw [if_neg (not_not.mpr held), State.save, if_neg (Scope.realmId_ne_zero named scope),
      imp_iff_right held]
    have load := reloads.groups
    have known : mgr.groups groupId ≠ none := by
      rw [← load, Account.mem_loadGroups] at held
      exact held.1
    constructor
    · intro after
      have gone : groupId ∉ account.loadGroups mgr
          (s.tables.deleteGroup account groupId (scope.realmId account)).groups := by
        rw [after.groups]
        exact Finset.notMem_erase _ _
      rw [Account.mem_loadGroups] at gone
      refine ⟨fun listed => gone ⟨known, .inr listed⟩, fun ⟨differ, mem⟩ => ?_⟩
      have everywhere : scope.realmId account = -1 :=
        (scope.realmId_cases account).resolve_left differ
      refine gone ⟨known, .inl ⟨⟨account.id, groupId, account.realmId⟩, ?_,
        (account.affects_iff).mpr ⟨rfl, .inl rfl⟩, rfl⟩⟩
      refine KeyedTable.mem_delete.mpr ⟨mem, decide_eq_false ?_⟩
      rintro ⟨_, _, taken⟩
      rw [everywhere, or_self_iff] at taken
      exact differ (everywhere.trans taken.symm)
    · rintro ⟨optional, reached⟩
      refine ⟨?_, reloads.powers, rfl⟩
      ext other
      change _ ↔ other ∈ s.data.groups.erase groupId
      rw [Finset.mem_erase, ← load, Account.mem_loadGroups, Account.mem_loadGroups]
      constructor
      · rintro ⟨there, ⟨row, mem, also, rfl⟩ | listed⟩
        · obtain ⟨mem, kept⟩ := KeyedTable.mem_delete.mp mem
          refine ⟨fun same => ?_, there, .inl ⟨row, mem, also, rfl⟩⟩
          obtain ⟨accounts, realms⟩ := (account.affects_iff).mp also
          refine of_decide_eq_false kept ⟨accounts, same, realms.imp_left fun realm => ?_⟩
          by_contra differ
          refine reached ⟨fun same => differ (realm.trans same.symm), ?_⟩
          rw [← accounts, ← same, ← realm]
          exact mem
        · exact ⟨fun same => optional (same ▸ listed), there, .inr listed⟩
      · rintro ⟨differ, there, ⟨row, mem, also, rfl⟩ | listed⟩
        · refine ⟨there, .inl ⟨row, KeyedTable.mem_delete.mpr ⟨mem, decide_eq_false ?_⟩, also, rfl⟩⟩
          exact fun taken => differ taken.2.1
        · exact ⟨there, .inr listed⟩
  · rw [if_pos held]
    exact iff_of_true reloads fun mem => absurd mem held

end

theorem step_refused {mgr : AccountMgr} {account : Account} {s : State} {command : Command}
    (refused : (step mgr account s command).2 ≠ .ok) : (step mgr account s command).1 = s := by
  have assign : ∀ kind granted id realmId, (s.assign mgr account kind granted id realmId).2 ≠ .ok →
      (s.assign mgr account kind granted id realmId).1 = s := by
    intro kind granted id realmId
    unfold State.assign
    split
    · exact absurd rfl
    · exact fun _ => rfl
  have revoke : ∀ kind id realmId, (s.revoke mgr account kind id realmId).2 ≠ .ok →
      (s.revoke mgr account kind id realmId).1 = s := by
    intro kind id realmId
    unfold State.revoke
    split
    · exact absurd rfl
    · exact fun _ => rfl
  cases command with
  | addGroup id scope =>
    unfold step State.addGroup at refused ⊢
    dsimp only at refused ⊢
    split at refused
    · exact absurd rfl refused
    · rfl
  | removeGroup id scope =>
    unfold step State.removeGroup at refused ⊢
    dsimp only at refused ⊢
    split at refused
    · rename_i absent
      rw [if_pos absent]
    · exact absurd rfl refused
  | grantRole id scope => exact assign .role true id _ refused
  | denyRole id scope => exact assign .role false id _ refused
  | revokeRole id scope => exact revoke .role id _ refused
  | grantPermission id scope => exact assign .permission true id _ refused
  | denyPermission id scope => exact assign .permission false id _ refused
  | revokePermission id scope => exact revoke .permission id _ refused

/-- What is taken away is no default group, and the deletion reaches the realm's row. -/
def Careful (mgr : AccountMgr) (account : Account) (s : State) : Command → Prop
  | .removeGroup id scope => id ∈ s.data.groups →
      id ∉ mgr.defaultGroups ∧ ¬ LeavesGroup account s id (scope.realmId account)
  | .revokeRole id scope => (∃ granted, id ∈ s.data.powers .role granted) →
      ¬ LeavesPower account s .role id (scope.realmId account)
  | .revokePermission id scope => (∃ granted, id.val ∈ s.data.powers .permission granted) →
      ¬ LeavesPower account s .permission id (scope.realmId account)
  | _ => True

theorem step_reloads {mgr : AccountMgr} {account : Account} {s : State}
    (reloads : Reloads mgr account s) (named : account.realmId ≠ 0) (command : Command) :
    Reloads mgr account (step mgr account s command).1 ↔ Careful mgr account s command := by
  cases command with
  | addGroup id scope => exact iff_of_true (addGroup_reloads reloads named id scope) trivial
  | removeGroup id scope => exact removeGroup_reloads reloads named id scope
  | grantRole id scope =>
    exact iff_of_true (assign_reloads reloads named .role true id scope) trivial
  | denyRole id scope =>
    exact iff_of_true (assign_reloads reloads named .role false id scope) trivial
  | revokeRole id scope => exact revoke_reloads reloads named .role id scope
  | grantPermission id scope =>
    exact iff_of_true (assign_reloads reloads named .permission true id scope) trivial
  | denyPermission id scope =>
    exact iff_of_true (assign_reloads reloads named .permission false id scope) trivial
  | revokePermission id scope => exact revoke_reloads reloads named .permission id scope

structure Consistent (mgr : AccountMgr) (account : Account)
    (t : Run.Taken State Command RBACCommandResult) : Prop where
  reload : loadFromDB mgr account t.after.tables = t.after.data
  combined : Combined mgr t.after.data
  refused : t.out ≠ .ok → t.after = t.before

/-- A run of commands from a fresh load keeps memory and tables consistent exactly when every
command is careful. -/
theorem consistent_iff (mgr : AccountMgr) (account : Account) (named : account.realmId ≠ 0)
    (tables : Tables) (commands : List Command) :
    (∀ t ∈ Run.trace (step mgr account) ⟨loadFromDB mgr account tables, tables⟩ commands,
      Consistent mgr account t) ↔
    ∀ t ∈ Run.trace (step mgr account) ⟨loadFromDB mgr account tables, tables⟩ commands,
      Careful mgr account t.before t.input := by
  refine Run.good_iff (step mgr account) (Careful mgr account) (Reloads mgr account)
    (Consistent mgr account) (fun s command reloads => ?_)
    (fun s command reloads careful => (step_reloads reloads named command).mpr careful) _ _
    (reloads_start mgr account tables)
  rw [← step_reloads reloads named command]
  constructor
  · exact fun consistent => (reloads_iff mgr account _).mp consistent.reload
  · exact fun after => ⟨(reloads_iff mgr account _).mpr after, combined_of_reloads after,
      step_refused⟩

/-- Role 2 has permission 5, and group 3 has role 2. -/
def officers : AccountMgr where
  permissions := {5}
  roles := fun id => if id = 2 then some {5} else none
  groups := fun id => if id = 3 then some {2} else none
  defaultGroups := ∅
  permissions_lt := by decide
  roles_lt := by
    intro role permissions found
    split at found
    · cases found
      decide
    · cases found

def noRows : Tables := ⟨.empty _, fun _ => .empty _⟩

/-- A group is added and removed in the realm. -/
theorem consistent_iff_realm :
    (∀ t ∈ Run.trace (step officers ⟨1, 1⟩) ⟨loadFromDB officers ⟨1, 1⟩ noRows, noRows⟩
        [.addGroup 3 .realm, .removeGroup 3 .realm], Consistent officers ⟨1, 1⟩ t) ↔
      ∀ t ∈ Run.trace (step officers ⟨1, 1⟩) ⟨loadFromDB officers ⟨1, 1⟩ noRows, noRows⟩
        [.addGroup 3 .realm, .removeGroup 3 .realm], Careful officers ⟨1, 1⟩ t.before t.input :=
  consistent_iff officers ⟨1, 1⟩ (by decide) noRows _

/-- A role that was granted in the realm and revoked for all realms comes back. -/
theorem consistent_fails :
    ¬ ∀ (mgr : AccountMgr) (account : Account), account.realmId ≠ 0 →
      ∀ (tables : Tables) (commands : List Command),
        ∀ t ∈ Run.trace (step mgr account) ⟨loadFromDB mgr account tables, tables⟩ commands,
          Consistent mgr account t := by
  intro claim
  have reload := (claim officers ⟨1, 1⟩ (by decide) noRows
    [.grantRole 2 .realm, .revokeRole 2 .allRealms] _ (.tail _ (.head _))).reload
  have roles := congrArg (fun data => decide (2 ∈ data.powers .role true)) reload
  revert roles
  decide

end OpenWoW.RBAC
