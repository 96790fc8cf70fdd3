import OpenWoW.Lib.Run
import OpenWoW.Mail

/-! The requests of a player at a mailbox. -/
namespace OpenWoW.Mails

inductive EquipError
  | mailBoundItem
  | notSameAccount
  | destroyNonEmptyBag
  | tooMuchGold
  | itemNotFound
  /-- Any other answer of `CanStoreItem`. -/
  | cannotStore (code : Nat)
  deriving DecidableEq, Repr

inductive MailAction
  | send
  | moneyTaken
  | itemTaken
  | returnedToSender
  | deleted
  deriving DecidableEq, Repr

inductive MailError
  | ok
  | equipError (error : EquipError)
  | cannotSendToSelf
  | notEnoughMoney
  | recipientNotFound
  | notYourTeam
  | internalError
  | recipientCapReached
  | cantSendWrappedCod
  | tooManyAttachments
  | mailAttachmentInvalid
  deriving DecidableEq, Repr

inductive Event
  | mailResult (player mailId : Nat) (action : MailAction) (error : MailError)
  /-- The answer to a successful take, with the item and its count. -/
  | itemTaken (player mailId itemGuid count : Nat)
  | notification (player : Nat)
  | commit (statements : List Statement)
  deriving DecidableEq, Repr

/-- What the handlers read about the characters and the configuration, and how an item is put
into an inventory. -/
structure Rules where
  mailLevelReq : Nat
  mailDeliveryDelay : Nat
  level : Nat → Nat
  team : Nat → Nat
  /-- `RBAC_PERM_TWO_SIDE_INTERACTION_MAIL`. -/
  twoSideMail : Nat → Bool
  /-- `CanStoreItem` anywhere in the inventory, and `MoveItemToInventory` if it can be. -/
  storeItem : List Item → Item → Except EquipError (List Item)

def maxMailItems : Nat := 12

structure SendRequest where
  /-- The mailbox is there and can be used. -/
  mailbox : Bool
  emptyName : Bool
  /-- The character that the receiver's name belongs to. -/
  receiver : Option Nat
  items : List Nat
  money : Nat
  cod : Nat
  hasBody : Bool
  /-- The guild perk that delivers mails at once applies. -/
  guildMail : Bool
  time : Nat
  deriving Repr

namespace SendRequest

/-- The postage. -/
def cost (r : SendRequest) : Nat := if r.items.isEmpty then 30 else 30 * r.items.length

def reqmoney (r : SendRequest) : Nat := toUInt64 (r.cost + r.money)

end SendRequest

def getItemByGuid (items : List Item) (guid : Nat) : Option Item :=
  items.find? fun item => item.guid = guid

section

variable (rules : Rules) (w : World) (player : Nat)

/-- The loop over the attachments. -/
def checkAttachments (cod : Nat) (receiver : Nat) : List Nat → Except MailError (List Item)
  | [] => .ok []
  | guid :: guids =>
    if guid = 0 then .error .mailAttachmentInvalid
    else
      match getItemByGuid (w.inventory player) guid with
      | none => .error .mailAttachmentInvalid
      | some item =>
        if ¬ item.canBeTraded true false then .error (.equipError .mailBoundItem)
        else if item.isBoundAccountWide ∧ item.soulBound ∧
            w.account player ≠ w.account receiver then .error (.equipError .notSameAccount)
        else if item.proto.conjured ∨ item.duration ≠ 0 then .error (.equipError .mailBoundItem)
        else if cod ≠ 0 ∧ item.wrapped then .error .cantSendWrappedCod
        else if item.notEmptyBag then .error (.equipError .destroyNonEmptyBag)
        else (item :: ·) <$> checkAttachments cod receiver guids

def accountBound (guids : List Nat) : Bool :=
  !guids.isEmpty && guids.all fun guid =>
    (getItemByGuid (w.inventory player) guid).all (·.proto.bindToAccount)

/-- The number of mails the receiver has, as a `uint8`. -/
def mailsCount (receiver : Nat) : Nat :=
  if w.online receiver then toUInt8 (w.box receiver).mails.length
  else toUInt8 (w.tables.mail.filter fun row => row.receiver = receiver).length

/-- The checks of `HandleSendMail`: the receiver and the attachments. -/
def checkSend (r : SendRequest) : Except (List Event) (Nat × List Item) :=
  let refuse (error : MailError) : Except (List Event) (Nat × List Item) :=
    .error [.mailResult player 0 .send error]
  if maxMailItems < r.items.length then refuse .tooManyAttachments
  else if ¬ r.mailbox ∨ r.emptyName then .error []
  else if rules.level player < rules.mailLevelReq then .error [.notification player]
  else
    match r.receiver with
    | none => refuse .recipientNotFound
    | some receiver =>
      if player = receiver then refuse .cannotSendToSelf
      else if w.money player < r.reqmoney ∧ ¬ w.gameMaster player then refuse .notEnoughMoney
      else if 100 < mailsCount w receiver then refuse .recipientCapReached
      else if ¬ accountBound w player r.items ∧ rules.team player ≠ rules.team receiver ∧
          ¬ rules.twoSideMail player then refuse .notYourTeam
      else if rules.level receiver < rules.mailLevelReq then .error [.notification player]
      else
        match checkAttachments w player r.cod receiver r.items with
        | .error error => refuse error
        | .ok items => .ok (receiver, items)

def payPostage (r : SendRequest) : World :=
  w.setMoney player (Player.modifyMoney (w.money player) (-toInt64 r.reqmoney)).1

def draftOf (r : SendRequest) (items : List Item) : MailDraft :=
  ((items.foldl MailDraft.addItem MailDraft.empty).addMoney r.money).addCOD r.cod

/-- The accepting end of the handler. -/
def dispatchMail (r : SendRequest) (receiver : Nat) (items : List Item) : World × List Event :=
  let left := (w.inventory player).filter fun item => item.guid ∉ items.map (·.guid)
  let w₁ := (payPostage w player r).setInventory player left
  let moved := items.flatMap fun item =>
    [Statement.delInventoryItem item.guid, .saveItem item receiver]
  let needItemDelay : Bool := !items.isEmpty && w.account player != w.account receiver
  let deliverDelay := if needItemDelay ∧ ¬ r.guildMail then rules.mailDeliveryDelay else 0
  let sent := sendMailTo w₁ (draftOf r items) receiver player
    (if r.hasBody then maskHasBody else maskCopied) deliverDelay r.time
  let statements := moved ++ sent.2 ++ [.saveInventoryAndGold player]
  (sent.1.commit statements, [.mailResult player 0 .send .ok, .commit statements])

def handleSendMail (r : SendRequest) : World × List Event :=
  match checkSend rules w player r with
  | .error out => (w, out)
  | .ok (receiver, items) => dispatchMail rules w player r receiver items

def handleMailMarkAsRead (mailId : Nat) : World × List Event :=
  let box := w.box player
  match getMail box mailId with
  | none => (w, [])
  | some _ =>
    (w.setBox player
      { box with
        unReadMails := box.unReadMails - 1
        mails := modifyMail mailId
          (fun m => { m with checked := m.checked ||| maskRead, state := .changed }) box.mails
        mailsUpdated := true }, [])

def handleMailDelete (mailId : Nat) : World × List Event :=
  let box := { w.box player with mailsUpdated := true }
  match getMail box mailId with
  | none => (w.setBox player box, [.mailResult player mailId .deleted .ok])
  | some m =>
    if m.cod ≠ 0 then
      (w.setBox player box, [.mailResult player mailId .deleted .internalError])
    else
      (w.setBox player
        { box with mails := modifyMail mailId (fun m => { m with state := .deleted }) box.mails },
       [.mailResult player mailId .deleted .ok])

/-- The mail can be used: it is there, not deleted and delivered. -/
def usableMail (mailId time : Nat) : Option Mail :=
  (getMail (w.box player) mailId).filter fun m => m.state ≠ .deleted ∧ m.deliverTime ≤ time

def returnDraft (box : Mailbox) (m : Mail) : MailDraft :=
  (m.items.foldl (fun draft info =>
    match box.mItems info.itemGuid with
    | none => draft
    | some item => draft.addItem item) MailDraft.empty).addMoney m.money

theorem returnDraft_eq (box : Mailbox) (m : Mail) :
    returnDraft box m = (m.items.foldl (fun draft info =>
      (box.mItems info.itemGuid).elim draft draft.addItem) MailDraft.empty).addMoney m.money := by
  unfold returnDraft
  congr
  funext draft info
  cases box.mItems info.itemGuid <;> rfl

def handleMailReturnToSender (mailId time : Nat) : World × List Event :=
  match usableMail w player mailId time with
  | none => (w, [.mailResult player mailId .returnedToSender .internalError])
  | some m =>
    let box := w.box player
    let removed := { box with mails := box.mails.eraseP fun m => m.messageID = mailId }
    let deleted := [Statement.delMailById mailId, .delMailItemById mailId]
    if m.messageType = .normal ∧ m.sender ≠ 0 then
      let emptied := { removed with
        mItems := fun guid =>
          if m.items.any (fun info => info.itemGuid = guid) then none else removed.mItems guid }
      let sent := sendReturnToSender (w.setBox player emptied) (returnDraft box m)
        (w.account player) m.receiver m.sender rules.mailDeliveryDelay time
      (sent.1.commit (deleted ++ sent.2),
       [.commit (deleted ++ sent.2), .mailResult player mailId .returnedToSender .ok])
    else
      ((w.setBox player removed).commit deleted,
       [.commit deleted, .mailResult player mailId .returnedToSender .ok])

/-- The checks of `HandleMailTakeItem`: the mail, the item and the inventory with the item. The
item is looked up in the item map of the whole mailbox. -/
def checkTakeItem (mailId itemId time : Nat) : Except MailError (Mail × Item × List Item) :=
  match usableMail w player mailId time with
  | none => .error .internalError
  | some m =>
    if w.money player < m.cod then .error .notEnoughMoney
    else
      match (w.box player).mItems itemId with
      | none => .error (.equipError .itemNotFound)
      | some item =>
        match rules.storeItem (w.inventory player) item with
        | .error error => .error (.equipError error)
        | .ok items => .ok (m, item, items)

/-- The payment of a mail that is cash on delivery: a mail to its sender, and the charge as an
`int32`. -/
def payCOD (m : Mail) (time : Nat) : World × List Statement :=
  if 0 < m.cod then
    let sent := if w.online m.sender ∨ w.account m.sender ≠ 0 then
        sendMailTo w (MailDraft.empty.addMoney m.cod) m.sender m.receiver maskCodPayment 0 time
      else (w, [])
    (sent.1.setMoney player
      (Player.modifyMoney (w.money player) (toInt32 (-toInt32 m.cod))).1, sent.2)
  else (w, [])

def takenFrom (itemId : Nat) (m : Mail) : Mail :=
  { m.removeItem itemId with
    removedItems := m.removedItems ++ [itemId]
    cod := 0
    state := .changed }

def takeFromBox (box : Mailbox) (mailId itemId guid : Nat) : Mailbox :=
  { box with
    mails := modifyMail mailId (takenFrom itemId) box.mails
    mItems := Function.update box.mItems guid none
    mailsUpdated := true }

def handleMailTakeItem (mailId itemId time : Nat) : World × List Event :=
  match checkTakeItem rules w player mailId itemId time with
  | .error error => (w, [.mailResult player mailId .itemTaken error])
  | .ok (m, item, items) =>
    let paid := payCOD w player m time
    let taken := saveMail (takeFromBox (paid.1.box player) mailId itemId item.guid)
    let statements := paid.2 ++ [.saveInventoryAndGold player] ++ taken.2
    (((paid.1.setBox player taken.1).setInventory player items).commit statements,
     [.commit statements, .itemTaken player mailId itemId item.count])

def handleMailTakeMoney (mailId money time : Nat) : World × List Event :=
  let refuse (error : MailError) := (w, [Event.mailResult player mailId .moneyTaken error])
  match usableMail w player mailId time with
  | none => refuse .internalError
  | some m =>
    if 0 < money ∧ m.money ≠ money then refuse .internalError
    else
      let wallet := Player.modifyMoney (w.money player) (toInt64 m.money)
      if ¬ wallet.2 then refuse (.equipError .tooMuchGold)
      else
        let box := w.box player
        let taken := saveMail
          { box with
            mails := modifyMail mailId (fun m => { m with money := 0, state := .changed }) box.mails
            mailsUpdated := true }
        let statements := .saveGold player :: taken.2
        (((w.setBox player taken.1).setMoney player wallet.1).commit statements,
         [.mailResult player mailId .moneyTaken .ok, .commit statements])

/-- `HandleGetMailList` loads the mails if that was not done yet. -/
def handleGetMailList : World :=
  let box := w.box player
  if box.mailsLoaded then w else w.setBox player (loadMail w.tables player box)

/-- The player object is saved and goes away. -/
def logout : World :=
  let box := w.box player
  let saved := if box.mailsUpdated then saveMail box else (box, [])
  let w' := (w.setBox player .unloaded).commit saved.2
  { w' with online := Function.update w'.online player false }

def login : World :=
  let w' := w.setBox player .unloaded
  { w' with online := Function.update w'.online player true }

end

inductive Input
  | sendMail (player : Nat) (request : SendRequest)
  | markAsRead (player mailId : Nat)
  | delete (player mailId : Nat)
  | returnToSender (player mailId time : Nat)
  | takeItem (player mailId itemId time : Nat)
  | takeMoney (player mailId money time : Nat)
  | getMailList (player : Nat)
  | login (player : Nat)
  | logout (player : Nat)
  deriving Repr

/-- Requests come from players who are in the world and can use a mailbox; characters that
exist come and go. -/
def step (rules : Rules) (w : World) (input : Input) : World × List Event :=
  match input with
  | .login player => if w.account player ≠ 0 ∧ ¬ w.online player then (login w player, []) else (w, [])
  | .logout player => if w.online player then (logout w player, []) else (w, [])
  | .sendMail player r => if w.online player then handleSendMail rules w player r else (w, [])
  | .markAsRead player mailId =>
    if w.online player then handleMailMarkAsRead w player mailId else (w, [])
  | .delete player mailId => if w.online player then handleMailDelete w player mailId else (w, [])
  | .returnToSender player mailId time =>
    if w.online player then handleMailReturnToSender rules w player mailId time else (w, [])
  | .takeItem player mailId itemId time =>
    if w.online player then handleMailTakeItem rules w player mailId itemId time else (w, [])
  | .takeMoney player mailId money time =>
    if w.online player then handleMailTakeMoney w player mailId money time else (w, [])
  | .getMailList player => if w.online player then (handleGetMailList w player, []) else (w, [])

end OpenWoW.Mails
