import OpenWoW.BigNumber

/-! The tables of the login database that the two servers consult, and their prepared statements. -/
namespace OpenWoW

structure Account where
  id : UInt32
  username : Bytes
  shaPassHash : Bytes
  sessionkey : Bytes
  lastIp : Bytes
  locked : UInt8
  expansion : UInt8
  mutetime : Int
  locale : UInt8
  recruiter : UInt32
  os : Bytes
  v : Bytes
  s : Bytes
  failedLogins : Nat
  deriving DecidableEq, Repr

structure AccountAccess where
  id : UInt32
  gmlevel : UInt8
  /-- Minus one stands for every realm. -/
  realmId : Int
  deriving DecidableEq, Repr

structure AccountBanned where
  id : UInt32
  bandate : UInt32
  unbandate : UInt32
  active : UInt8
  deriving DecidableEq, Repr

structure RealmCharacters where
  realmid : UInt32
  acctid : UInt32
  numchars : UInt8
  deriving DecidableEq, Repr

structure LoginDatabase where
  account : List Account
  accountAccess : List AccountAccess
  accountBanned : List AccountBanned
  ipBanned : List Bytes
  realmcharacters : List RealmCharacters
  deriving DecidableEq, Repr

namespace LoginDatabase

section

variable (collate : Bytes → Bytes)

/-- The row of `WHERE username = ?`. -/
def accountByName (db : LoginDatabase) (username : Bytes) : Option Account :=
  db.account.find? fun row => collate row.username = collate username

/-- `LOGIN_GET_GMLEVEL_BY_REALMID`. -/
def gmlevelByRealmid (db : LoginDatabase) (id : UInt32) (realmId : Int) : Option UInt8 :=
  (db.accountAccess.find? fun row =>
    row.id = id ∧ (row.realmId = realmId ∨ row.realmId = -1)).map (·.gmlevel)

/-- `LOGIN_SEL_BANS` has a row. -/
def bans (db : LoginDatabase) (id : UInt32) (ip : Bytes) : Bool :=
  db.accountBanned.any (fun row => row.id = id ∧ row.active = 1) ||
    db.ipBanned.any fun banned => collate banned = collate ip

/-- `LOGIN_SEL_ACCOUNT_RECRUITER` has a row. -/
def accountRecruiter (db : LoginDatabase) (id : UInt32) : Bool :=
  db.account.any fun row => row.recruiter = id

/-- `LOGIN_SEL_IP_BANNED` has a row. -/
def selIpBanned (db : LoginDatabase) (ip : Bytes) : Bool :=
  db.ipBanned.any fun banned => collate banned = collate ip

/-- The joined `aa.gmlevel` of an account, zero where the join finds none. -/
def gmlevel (db : LoginDatabase) (id : UInt32) : UInt8 :=
  ((db.accountAccess.find? fun row => row.id = id).map (·.gmlevel)).getD 0

/-- `LOGIN_SEL_ACCOUNT_BANNED`. -/
def selAccountBanned (db : LoginDatabase) (id : UInt32) : Option AccountBanned :=
  db.accountBanned.find? fun row => row.id = id ∧ row.active = 1

/-- `LOGIN_SEL_NUM_CHARS_ON_REALM`. -/
def selNumCharsOnRealm (db : LoginDatabase) (realmid acctid : UInt32) : Option UInt8 :=
  (db.realmcharacters.find? fun row => row.realmid = realmid ∧ row.acctid = acctid).map (·.numchars)

end

end LoginDatabase

end OpenWoW
