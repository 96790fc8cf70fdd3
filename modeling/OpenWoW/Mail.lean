import Mathlib.Logic.Function.Basic
import OpenWoW.Item

/-! Mails in memory and in the tables. -/
namespace OpenWoW.Mails

inductive MailState
  | unchanged
  | changed
  | deleted
  deriving DecidableEq, Repr

inductive MessageType
  | normal
  | auction
  | creature
  | gameObject
  | calendar
  deriving DecidableEq, Repr

structure MailItemInfo where
  itemGuid : Nat
  itemTemplate : Nat
  deriving DecidableEq, Repr

structure Mail where
  messageID : Nat
  messageType : MessageType
  sender : Nat
  receiver : Nat
  items : List MailItemInfo
  removedItems : List Nat
  expireTime : Nat
  deliverTime : Nat
  money : Nat
  cod : Nat
  checked : Nat
  state : MailState
  deriving DecidableEq, Repr

namespace Mail

/-- `RemoveItem`: the first entry with the guid goes. -/
def removeItem (m : Mail) (guid : Nat) : Mail :=
  { m with items := m.items.eraseP fun info => info.itemGuid = guid }

def hasItems (m : Mail) : Bool := !m.items.isEmpty

end Mail

def maskRead : Nat := 1
def maskReturned : Nat := 2
def maskCopied : Nat := 4
def maskCodPayment : Nat := 8
def maskHasBody : Nat := 16

/-- A row of `mail`. -/
structure MailRow where
  id : Nat
  messageType : MessageType
  sender : Nat
  receiver : Nat
  hasItems : Bool
  expireTime : Nat
  deliverTime : Nat
  money : Nat
  cod : Nat
  checked : Nat
  deriving DecidableEq, Repr

/-- A row of `mail_items`. -/
structure MailItemRow where
  mailId : Nat
  itemGuid : Nat
  receiver : Nat
  deriving DecidableEq, Repr

inductive Statement
  | insMail (row : MailRow)
  | insMailItem (row : MailItemRow)
  | updMail (id : Nat) (hasItems : Bool) (expireTime deliverTime money cod checked : Nat)
  | delMailById (id : Nat)
  | delMailItemById (id : Nat)
  | delMailItem (guid : Nat)
  | delItemInstance (guid : Nat)
  | delInventoryItem (guid : Nat)
  | saveItem (item : Item) (owner : Nat)
  | updItemOwner (owner guid : Nat)
  | saveInventoryAndGold (player : Nat)
  | saveGold (player : Nat)
  deriving DecidableEq, Repr

structure Tables where
  mail : List MailRow
  mailItems : List MailItemRow
  itemInstance : Nat → Option Item

def Tables.execute (tables : Tables) : Statement → Tables
  | .insMail row => { tables with mail := row :: tables.mail }
  | .insMailItem row => { tables with mailItems := row :: tables.mailItems }
  | .updMail id hasItems expireTime deliverTime money cod checked =>
    { tables with
      mail := tables.mail.map fun row =>
        if row.id = id then
          { row with hasItems, expireTime, deliverTime, money, cod, checked }
        else row }
  | .delMailById id => { tables with mail := tables.mail.filter fun row => row.id ≠ id }
  | .delMailItemById id =>
    { tables with mailItems := tables.mailItems.filter fun row => row.mailId ≠ id }
  | .delMailItem guid =>
    { tables with mailItems := tables.mailItems.filter fun row => row.itemGuid ≠ guid }
  | .delItemInstance guid =>
    { tables with itemInstance := Function.update tables.itemInstance guid none }
  | .saveItem item _ =>
    { tables with itemInstance := Function.update tables.itemInstance item.guid (some item) }
  | .delInventoryItem _ => tables
  | .updItemOwner _ _ => tables
  | .saveInventoryAndGold _ => tables
  | .saveGold _ => tables

def Tables.commit (tables : Tables) (statements : List Statement) : Tables :=
  statements.foldl Tables.execute tables

/-- The mail part of a player object. -/
structure Mailbox where
  mailsLoaded : Bool
  mailsUpdated : Bool
  unReadMails : Nat
  mails : List Mail
  mItems : Nat → Option Item

def Mailbox.unloaded : Mailbox where
  mailsLoaded := false
  mailsUpdated := false
  unReadMails := 0
  mails := []
  mItems := fun _ => none

structure World where
  /-- `GetPlayerAccountIdByGUID`, zero for characters that do not exist. -/
  account : Nat → Nat
  /-- `FindPlayer` finds the character. -/
  online : Nat → Bool
  gameMaster : Nat → Bool
  money : Nat → Nat
  inventory : Nat → List Item
  box : Nat → Mailbox
  tables : Tables
  nextMailId : Nat

namespace World

def setBox (w : World) (player : Nat) (box : Mailbox) : World :=
  { w with box := Function.update w.box player box }

def setInventory (w : World) (player : Nat) (items : List Item) : World :=
  { w with inventory := Function.update w.inventory player items }

def setMoney (w : World) (player money : Nat) : World :=
  { w with money := Function.update w.money player money }

def commit (w : World) (statements : List Statement) : World :=
  { w with tables := w.tables.commit statements }

section

variable (w : World) (player money : Nat) (box : Mailbox) (items : List Item)
  (statements : List Statement)

@[simp] theorem setBox_account : (w.setBox player box).account = w.account := rfl
@[simp] theorem setBox_online : (w.setBox player box).online = w.online := rfl
@[simp] theorem setBox_gameMaster : (w.setBox player box).gameMaster = w.gameMaster := rfl
@[simp] theorem setBox_money : (w.setBox player box).money = w.money := rfl
@[simp] theorem setBox_inventory : (w.setBox player box).inventory = w.inventory := rfl
@[simp] theorem setBox_tables : (w.setBox player box).tables = w.tables := rfl
@[simp] theorem setBox_nextMailId : (w.setBox player box).nextMailId = w.nextMailId := rfl

@[simp] theorem setInventory_account : (w.setInventory player items).account = w.account := rfl
@[simp] theorem setInventory_online : (w.setInventory player items).online = w.online := rfl
@[simp] theorem setInventory_gameMaster :
    (w.setInventory player items).gameMaster = w.gameMaster := rfl
@[simp] theorem setInventory_money : (w.setInventory player items).money = w.money := rfl
@[simp] theorem setInventory_box : (w.setInventory player items).box = w.box := rfl
@[simp] theorem setInventory_tables : (w.setInventory player items).tables = w.tables := rfl
@[simp] theorem setInventory_nextMailId :
    (w.setInventory player items).nextMailId = w.nextMailId := rfl

@[simp] theorem setMoney_account : (w.setMoney player money).account = w.account := rfl
@[simp] theorem setMoney_online : (w.setMoney player money).online = w.online := rfl
@[simp] theorem setMoney_gameMaster : (w.setMoney player money).gameMaster = w.gameMaster := rfl
@[simp] theorem setMoney_inventory : (w.setMoney player money).inventory = w.inventory := rfl
@[simp] theorem setMoney_box : (w.setMoney player money).box = w.box := rfl
@[simp] theorem setMoney_tables : (w.setMoney player money).tables = w.tables := rfl
@[simp] theorem setMoney_nextMailId : (w.setMoney player money).nextMailId = w.nextMailId := rfl

@[simp] theorem commit_account : (w.commit statements).account = w.account := rfl
@[simp] theorem commit_online : (w.commit statements).online = w.online := rfl
@[simp] theorem commit_gameMaster : (w.commit statements).gameMaster = w.gameMaster := rfl
@[simp] theorem commit_money : (w.commit statements).money = w.money := rfl
@[simp] theorem commit_inventory : (w.commit statements).inventory = w.inventory := rfl
@[simp] theorem commit_box : (w.commit statements).box = w.box := rfl
@[simp] theorem commit_nextMailId : (w.commit statements).nextMailId = w.nextMailId := rfl

@[simp] theorem commit_tables :
    (w.commit statements).tables = w.tables.commit statements := rfl

theorem box_setBox (player' : Nat) :
    (w.setBox player box).box player' = if player' = player then box else w.box player' := by
  simp [setBox, Function.update_apply]

theorem money_setMoney (player' : Nat) :
    (w.setMoney player money).money player' =
      if player' = player then money else w.money player' := by
  simp [setMoney, Function.update_apply]

end

end World

def getMail (box : Mailbox) (id : Nat) : Option Mail :=
  box.mails.find? fun m => m.messageID = id

/-- A change to the mail that `GetMail` finds. -/
def modifyMail (id : Nat) (change : Mail → Mail) : List Mail → List Mail
  | [] => []
  | m :: mails => if m.messageID = id then change m :: mails else m :: modifyMail id change mails

structure MailDraft where
  /-- A map by guid. -/
  items : List Item
  money : Nat
  cod : Nat

namespace MailDraft

def empty : MailDraft := ⟨[], 0, 0⟩

/-- Insertion into a map that is ordered by guid. -/
def insertItem (item : Item) : List Item → List Item
  | [] => [item]
  | head :: rest =>
    if item.guid < head.guid then item :: head :: rest
    else if item.guid = head.guid then item :: rest
    else head :: insertItem item rest

def addItem (draft : MailDraft) (item : Item) : MailDraft :=
  { draft with items := insertItem item draft.items }

def addMoney (draft : MailDraft) (money : Nat) : MailDraft := { draft with money := money }

/-- The parameter is a `uint32`. -/
def addCOD (draft : MailDraft) (cod : Nat) : MailDraft := { draft with cod := toUInt32 cod }

end MailDraft

def day : Nat := 86400

/-- The mail that `SendMailTo` makes of a draft between players. -/
def newMail (w : World) (draft : MailDraft) (receiver sender checked deliverDelay time : Nat) :
    Mail :=
  let deliverTime := time + deliverDelay
  let expireDelay := if draft.cod ≠ 0 then 3 * day
    else if w.online sender ∧ w.gameMaster sender then 90 * day else 30 * day
  { messageID := w.nextMailId
    messageType := .normal
    sender := sender
    receiver := receiver
    items := draft.items.map fun item => ⟨item.guid, item.entry⟩
    removedItems := []
    expireTime := deliverTime + expireDelay
    deliverTime := deliverTime
    money := draft.money
    cod := draft.cod
    checked := checked
    state := .unchanged }

/-- The row it inserts. The amounts are bound as `uint32`. -/
def Mail.toRow (m : Mail) : MailRow where
  id := m.messageID
  messageType := m.messageType
  sender := m.sender
  receiver := m.receiver
  hasItems := m.hasItems
  expireTime := m.expireTime
  deliverTime := m.deliverTime
  money := toUInt32 m.money
  cod := toUInt32 m.cod
  checked := m.checked

def addMItems (items : List Item) (mItems : Nat → Option Item) : Nat → Option Item :=
  items.foldl (fun mItems item => Function.update mItems item.guid (some item)) mItems

/-- `SendMailTo`: the statements, and for an online receiver whose mails are loaded the mail
and its items in memory. -/
def sendMailTo (w : World) (draft : MailDraft) (receiver sender checked deliverDelay time : Nat) :
    World × List Statement :=
  let mail := newMail w draft receiver sender checked deliverDelay time
  let box := w.box receiver
  let w' : World := { w with nextMailId := w.nextMailId + 1 }
  (if w.online receiver ∧ box.mailsLoaded then
      w'.setBox receiver
        { box with mails := mail :: box.mails, mItems := addMItems draft.items box.mItems }
    else w',
   .insMail mail.toRow ::
    draft.items.map fun item => .insMailItem ⟨mail.messageID, item.guid, receiver⟩)

section

variable (w : World) (draft : MailDraft) (receiver sender checked deliverDelay time : Nat)

@[simp] theorem sendMailTo_account :
    (sendMailTo w draft receiver sender checked deliverDelay time).1.account = w.account := by
  unfold sendMailTo
  dsimp only
  split <;> rfl

@[simp] theorem sendMailTo_online :
    (sendMailTo w draft receiver sender checked deliverDelay time).1.online = w.online := by
  unfold sendMailTo
  dsimp only
  split <;> rfl

@[simp] theorem sendMailTo_money :
    (sendMailTo w draft receiver sender checked deliverDelay time).1.money = w.money := by
  unfold sendMailTo
  dsimp only
  split <;> rfl

@[simp] theorem sendMailTo_inventory :
    (sendMailTo w draft receiver sender checked deliverDelay time).1.inventory = w.inventory := by
  unfold sendMailTo
  dsimp only
  split <;> rfl

@[simp] theorem sendMailTo_tables :
    (sendMailTo w draft receiver sender checked deliverDelay time).1.tables = w.tables := by
  unfold sendMailTo
  dsimp only
  split <;> rfl

@[simp] theorem sendMailTo_nextMailId :
    (sendMailTo w draft receiver sender checked deliverDelay time).1.nextMailId =
      w.nextMailId + 1 := by
  unfold sendMailTo
  dsimp only
  split <;> rfl

theorem box_sendMailTo (player : Nat) :
    (sendMailTo w draft receiver sender checked deliverDelay time).1.box player =
      if player = receiver ∧ w.online receiver ∧ (w.box receiver).mailsLoaded then
        { w.box receiver with
          mails := newMail w draft receiver sender checked deliverDelay time ::
            (w.box receiver).mails
          mItems := addMItems draft.items (w.box receiver).mItems }
      else w.box player := by
  unfold sendMailTo
  dsimp only
  by_cases loaded : w.online receiver ∧ (w.box receiver).mailsLoaded
  · rw [if_pos loaded, World.box_setBox]
    by_cases same : player = receiver
    · rw [if_pos same, if_pos ⟨same, loaded⟩]
    · rw [if_neg same, if_neg (fun both => same both.1)]
  · rw [if_neg loaded, if_neg (fun both => loaded both.2)]

end

def sendReturnToSender (w : World) (draft : MailDraft) (senderAccount sender receiver delay time : Nat) :
    World × List Statement :=
  if ¬ w.online receiver ∧ w.account receiver = 0 then
    (w, draft.items.map fun item => .delItemInstance item.guid)
  else
    let rcAccount := if w.online receiver then 0 else w.account receiver
    let needItemDelay : Bool := !draft.items.isEmpty && senderAccount != rcAccount
    let owners := draft.items.flatMap fun item =>
      [.saveItem item receiver, .updItemOwner receiver item.guid]
    let sent := sendMailTo w draft receiver sender maskReturned (if needItemDelay then delay else 0)
      time
    (sent.1, owners ++ sent.2)

/-- What `_SaveMail` appends for one mail. -/
def saveStatements (m : Mail) : List Statement :=
  match m.state with
  | .unchanged => []
  | .changed =>
    .updMail m.messageID m.hasItems (toUInt32 m.expireTime) (toUInt32 m.deliverTime)
      (toUInt32 m.money) (toUInt32 m.cod) (toUInt8 m.checked) :: m.removedItems.map .delMailItem
  | .deleted =>
    m.items.map (fun info => .delItemInstance info.itemGuid) ++
      [.delMailById m.messageID, .delMailItemById m.messageID]

def saved (m : Mail) : Mail :=
  match m.state with
  | .changed => { m with removedItems := [], state := .unchanged }
  | _ => m

/-- `_SaveMail`. Deleted mails leave the list; their items stay in the item map. -/
def saveMail (box : Mailbox) : Mailbox × List Statement :=
  if box.mailsLoaded then
    ({ box with
      mails := (box.mails.filter fun m => m.state ≠ .deleted).map saved
      mailsUpdated := false },
     box.mails.flatMap saveStatements)
  else (box, [])

/-- `_LoadMailedItems`. -/
def mailedItems (tables : Tables) (row : MailRow) : List Item :=
  if row.hasItems then
    (tables.mailItems.filter fun item => item.mailId = row.id).filterMap fun item =>
      tables.itemInstance item.itemGuid
  else []

def loadRow (tables : Tables) (row : MailRow) : Mail where
  messageID := row.id
  messageType := row.messageType
  sender := row.sender
  receiver := row.receiver
  items := (mailedItems tables row).map fun item => ⟨item.guid, item.entry⟩
  removedItems := []
  expireTime := row.expireTime
  deliverTime := row.deliverTime
  money := row.money
  cod := row.cod
  checked := row.checked
  state := .unchanged

/-- `ORDER BY id DESC`. -/
def sortRows (rows : List MailRow) : List MailRow :=
  rows.mergeSort fun a b => b.id ≤ a.id

def loadMail (tables : Tables) (player : Nat) (box : Mailbox) : Mailbox :=
  let rows := sortRows (tables.mail.filter fun row => row.receiver = player)
  { box with
    mailsLoaded := true
    mails := rows.map (loadRow tables)
    mItems := addMItems (rows.flatMap (mailedItems tables)) box.mItems }

end OpenWoW.Mails
