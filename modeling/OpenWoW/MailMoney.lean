import OpenWoW.MailBook

/-! Gold in the mail, within the casts on its way. -/
namespace OpenWoW.Mails

open List

/-- The rows that a transaction inserts into `mail`. -/
def mailRows (statements : List Statement) : List MailRow :=
  statements.filterMap fun statement => match statement with
    | .insMail row => some row
    | _ => none

def insertedMails (out : List Event) : List MailRow :=
  out.flatMap fun event => match event with
    | .commit statements => mailRows statements
    | _ => []

/-- The mail that a row stands for is in the mailbox of its receiver, if that is loaded. -/
def InMemory (before after : World) (row : MailRow) : Prop :=
  before.online row.receiver = true → (before.box row.receiver).mailsLoaded = true →
    ∃ m ∈ (after.box row.receiver).mails, m.messageID = row.id ∧ m.sender = row.sender ∧
      m.money = row.money ∧ m.cod = row.cod

structure GoldExact (t : Step) : Prop where
  sent : ∀ player r, t.input = .sendMail player r → .mailResult player 0 .send .ok ∈ t.out →
    t.before.gameMaster player = false →
    t.after.money player + (r.cost + r.money) = t.before.money player ∧
    ∃ row, insertedMails t.out = [row] ∧ row.sender = player ∧ r.receiver = some row.receiver ∧
      row.money = r.money ∧ row.cod = r.cod ∧ InMemory t.before t.after row
  codTaken : ∀ player mailId itemId time count, t.input = .takeItem player mailId itemId time →
    .itemTaken player mailId itemId count ∈ t.out →
    ∀ m ∈ getMail (t.before.box player) mailId, 0 < m.cod →
    t.after.money player + m.cod = t.before.money player ∧
    ∃ row, insertedMails t.out = [row] ∧ row.receiver = m.sender ∧ row.money = m.cod ∧
      row.cod = 0 ∧ InMemory t.before t.after row
  moneyTaken : ∀ player mailId money time, t.input = .takeMoney player mailId money time →
    .mailResult player mailId .moneyTaken .ok ∈ t.out →
    ∀ m ∈ getMail (t.before.box player) mailId,
    t.after.money player = t.before.money player + m.money ∧
    ∃ m', getMail (t.after.box player) mailId = some m' ∧ m'.money = 0
  capped : ∀ player, t.after.money player ≤ Player.maxMoneyAmount

/-- The amounts of an accepted request fit the casts: those of a player's mail 32 bits, those
of a game master's 63, the COD of a mail from which an item is taken 31, and gold that is
taken the largest wallet. -/
def Narrow (rules : Rules) (w : World) : Input → Prop
  | .sendMail player r => ∀ receiver items, checkSend rules w player r = .ok (receiver, items) →
      if w.gameMaster player then r.reqmoney < 2 ^ 63 else r.money < 2 ^ 32 ∧ r.cod < 2 ^ 32
  | .takeItem player mailId itemId time => ∀ m item items,
      checkTakeItem rules w player mailId itemId time = .ok (m, item, items) → m.cod < 2 ^ 31
  | .takeMoney player mailId _ time =>
    ∀ m ∈ usableMail w player mailId time, m.money ≤ Player.maxMoneyAmount
  | _ => True

theorem mailRows_append (a b : List Statement) : mailRows (a ++ b) = mailRows a ++ mailRows b :=
  filterMap_append

@[simp] theorem mailRows_sendMailTo (w : World) (draft : MailDraft)
    (receiver sender checked deliverDelay time : Nat) :
    mailRows (sendMailTo w draft receiver sender checked deliverDelay time).2 =
      [(newMail w draft receiver sender checked deliverDelay time).toRow] := by
  unfold sendMailTo mailRows
  simp

theorem mailRows_saveMail (box : Mailbox) : mailRows (saveMail box).2 = [] := by
  rw [mailRows, filterMap_eq_nil_iff]
  intro statement here
  rcases of_mem_saveStatements here with ⟨m, _, rfl⟩ | ⟨guid, rfl | rfl⟩ | ⟨id, rfl | rfl⟩
  all_goals rfl

section

variable (rules : Rules) (w : World) (player : Nat)

theorem cost_le {r : SendRequest} (few : r.items.length ≤ maxMailItems) : r.cost ≤ 360 := by
  unfold SendRequest.cost
  unfold maxMailItems at few
  split <;> omega

theorem money_dispatchMail (r : SendRequest) (receiver : Nat) (items : List Item) (player' : Nat) :
    (dispatchMail rules w player r receiver items).1.money player' =
      if player' = player then (Player.modifyMoney (w.money player) (-toInt64 r.reqmoney)).1
      else w.money player' := by
  simp [dispatchMail, payPostage, World.money_setMoney]

theorem mem_box_sendMailTo (draft : MailDraft) (receiver sender checked deliverDelay time : Nat)
    (online : w.online receiver = true) (loaded : (w.box receiver).mailsLoaded = true) :
    newMail w draft receiver sender checked deliverDelay time ∈
      ((sendMailTo w draft receiver sender checked deliverDelay time).1.box receiver).mails := by
  rw [box_sendMailTo, if_pos ⟨rfl, online, loaded⟩]
  exact mem_cons_self

theorem dispatchMail_exact {r : SendRequest} {receiver : Nat} {items : List Item}
    (ok : checkSend rules w player r = .ok (receiver, items))
    (plain : w.gameMaster player = false) (within : w.money player ≤ Player.maxMoneyAmount)
    (money : r.money < 2 ^ 32) (cod : r.cod < 2 ^ 32) :
    (dispatchMail rules w player r receiver items).1.money player + (r.cost + r.money) =
      w.money player ∧
    ∃ row, insertedMails (dispatchMail rules w player r receiver items).2 = [row] ∧
      row.sender = player ∧ r.receiver = some row.receiver ∧ row.money = r.money ∧
      row.cod = r.cod ∧ InMemory w (dispatchMail rules w player r receiver items).1 row := by
  obtain ⟨few, named, _, covered⟩ := checkSend_ok rules w player ok
  have postage := cost_le few
  have whole : r.reqmoney = r.cost + r.money := toUInt64_of_lt (by omega)
  have enough := covered plain
  unfold Player.maxMoneyAmount at within
  refine ⟨?_, ?_⟩
  · rw [money_dispatchMail, if_pos rfl, toInt64_of_lt r.reqmoney (by omega),
      Player.modifyMoney_charge (by omega) enough]
    omega
  · obtain ⟨w₁, checked, deliverDelay, moved, same, quiet, result⟩ :=
      dispatchMail_eq rules w player r receiver items
    have none : mailRows moved = [] := by
      rw [mailRows, filterMap_eq_nil_iff]
      intro statement here
      obtain ⟨item, rfl | rfl⟩ := quiet statement here
      · rfl
      · rfl
    have small : toUInt32 r.money = r.money := toUInt32_of_lt r.money money
    have once : toUInt32 r.cod = r.cod := toUInt32_of_lt r.cod cod
    have twice : toUInt32 (toUInt32 r.cod : Nat) = toUInt32 r.cod := by rw [once, once]
    rw [result]
    refine ⟨(newMail w₁ (draftOf r items) receiver player checked deliverDelay r.time).toRow, ?_,
      rfl, named, small, twice.trans once, ?_⟩
    · simp only [insertedMails, flatMap_cons, flatMap_nil, nil_append,
        append_nil, mailRows_append, none, mailRows_sendMailTo]
      rfl
    · intro there loaded
      exact ⟨_, mem_box_sendMailTo w₁ _ receiver player checked deliverDelay r.time
        (by rw [same.online]; exact there) (by rw [same.box]; exact loaded), rfl,
        rfl, small.symm, twice.symm⟩

theorem mem_takeFromBox (box : Mailbox) (mailId itemId guid : Nat) (m : Mail) (here : m ∈ box.mails)
    (live : m.state ≠ .deleted) :
    ∃ m' ∈ (saveMail (takeFromBox box mailId itemId guid)).1.mails, m'.messageID = m.messageID ∧
      m'.sender = m.sender ∧ m'.money = m.money ∧ (m.cod = 0 → m'.cod = 0) := by
  have changed : ∃ m' ∈ (takeFromBox box mailId itemId guid).mails, m'.state ≠ .deleted ∧
      m'.messageID = m.messageID ∧ m'.sender = m.sender ∧ m'.money = m.money ∧
      (m.cod = 0 → m'.cod = 0) := by
    rcases mem_modifyMail mailId (takenFrom itemId) here with same | taken
    · exact ⟨m, same, live, rfl, rfl, rfl, fun zero => zero⟩
    · exact ⟨_, taken, by simp [takenFrom], rfl, rfl, rfl, fun _ => rfl⟩
  obtain ⟨m', mem, live', id, origin, money, cod⟩ := changed
  rcases mem_saveMail mem live' with same | kept
  · exact ⟨m', same, id, origin, money, cod⟩
  obtain ⟨id', origin', money', cod', _⟩ := saved_same m'
  exact ⟨_, kept, id'.trans id, origin'.trans origin, money'.trans money,
    fun zero => cod'.trans (cod zero)⟩

/-- A mail that is cash on delivery is paid for in full, to its sender. -/
theorem takeItem_exact (mailId itemId time : Nat) (m : Mail) (item : Item) (items : List Item)
    (ok : checkTakeItem rules w player mailId itemId time = .ok (m, item, items))
    (within : w.money player ≤ Player.maxMoneyAmount) (cod : 0 < m.cod) (narrow : m.cod < 2 ^ 31)
    (sender : w.account m.sender ≠ 0) :
    (handleMailTakeItem rules w player mailId itemId time).1.money player + m.cod = w.money player ∧
    ∃ row, insertedMails (handleMailTakeItem rules w player mailId itemId time).2 = [row] ∧
      row.receiver = m.sender ∧ row.money = m.cod ∧ row.cod = 0 ∧
      InMemory w (handleMailTakeItem rules w player mailId itemId time).1 row := by
  refine ⟨?_, ?_⟩
  · unfold Player.maxMoneyAmount at within
    exact takeItem_charge rules w player mailId itemId time m item items ok (by omega) narrow
  · have small : toUInt32 m.cod = m.cod := toUInt32_of_lt m.cod (by omega)
    have paid : payCOD w player m time =
        ((sendMailTo w (MailDraft.empty.addMoney m.cod) m.sender m.receiver maskCodPayment 0
          time).1.setMoney player (Player.modifyMoney (w.money player) (toInt32 (-toInt32 m.cod))).1,
         (sendMailTo w (MailDraft.empty.addMoney m.cod) m.sender m.receiver maskCodPayment 0
          time).2) := by
      unfold payCOD
      rw [if_pos cod]
      rw [if_pos (.inr sender)]
    refine ⟨(newMail w (MailDraft.empty.addMoney m.cod) m.sender m.receiver maskCodPayment 0
      time).toRow, ?_, rfl, small, rfl, ?_⟩
    · unfold handleMailTakeItem
      rw [ok]
      simp only [insertedMails, flatMap_cons, flatMap_nil, append_nil,
        mailRows_append, mailRows_saveMail, paid, mailRows_sendMailTo]
      rfl
    · intro online loaded
      have here := mem_box_sendMailTo w (MailDraft.empty.addMoney m.cod) m.sender m.receiver
        maskCodPayment 0 time online loaded
      generalize sent : newMail w (MailDraft.empty.addMoney m.cod) m.sender m.receiver
        maskCodPayment 0 time = payment at here ⊢
      have amounts : payment.money = m.cod ∧ payment.cod = 0 ∧ payment.state = .unchanged := by
        rw [← sent]
        exact ⟨rfl, rfl, rfl⟩
      have receiver : payment.toRow.receiver = m.sender := by
        rw [← sent]
        rfl
      have row : payment.toRow.money = m.cod ∧ payment.toRow.cod = 0 := by
        change toUInt32 payment.money = m.cod ∧ toUInt32 payment.cod = 0
        rw [amounts.1, amounts.2.1]
        exact ⟨small, rfl⟩
      rw [receiver, row.1, row.2]
      unfold handleMailTakeItem
      rw [ok]
      simp only [World.commit_box, World.setInventory_box, World.box_setBox, paid, World.setMoney_box]
      by_cases self : m.sender = player
      · subst self
        rw [if_pos rfl]
        obtain ⟨m', mem, id, origin, money, cod⟩ := mem_takeFromBox _ mailId itemId item.guid payment
          here (by rw [amounts.2.2]; decide)
        exact ⟨m', mem, id, origin, money.trans amounts.1, cod amounts.2.1⟩
      · rw [if_neg self]
        exact ⟨payment, here, rfl, rfl, amounts.1, amounts.2.1⟩

theorem takeMoney_cases (mailId money time : Nat) :
    (∃ error, error ≠ .ok ∧ handleMailTakeMoney w player mailId money time =
      (w, [.mailResult player mailId .moneyTaken error])) ∨
    ∃ m, usableMail w player mailId time = some m ∧
      (Player.modifyMoney (w.money player) (toInt64 m.money)).2 = true ∧
      ∃ statements, handleMailTakeMoney w player mailId money time =
        (((w.setBox player (saveMail { w.box player with
            mails := modifyMail mailId (fun m => { m with money := 0, state := .changed })
              (w.box player).mails
            mailsUpdated := true }).1).setMoney player
          (Player.modifyMoney (w.money player) (toInt64 m.money)).1).commit statements,
         [.mailResult player mailId .moneyTaken .ok, .commit statements]) := by
  unfold handleMailTakeMoney
  dsimp only
  split
  · exact .inl ⟨_, by decide, rfl⟩
  next m usable =>
  split
  · exact .inl ⟨_, by decide, rfl⟩
  split
  · exact .inl ⟨_, by decide, rfl⟩
  next room => exact .inr ⟨m, usable, by simpa using room, _, rfl⟩

theorem takeMoney_exact (mailId money time : Nat) (within : w.money player ≤ Player.maxMoneyAmount)
    (narrow : ∀ m ∈ usableMail w player mailId time, m.money ≤ Player.maxMoneyAmount)
    (ok : .mailResult player mailId .moneyTaken .ok ∈
      (handleMailTakeMoney w player mailId money time).2)
    (m : Mail) (found : getMail (w.box player) mailId = some m) :
    (handleMailTakeMoney w player mailId money time).1.money player = w.money player + m.money ∧
    ∃ m', getMail ((handleMailTakeMoney w player mailId money time).1.box player) mailId = some m' ∧
      m'.money = 0 := by
  rcases takeMoney_cases w player mailId money time with
    ⟨error, wrong, result⟩ | ⟨m₁, usable, room, statements, result⟩
  · rw [result] at ok
    simp [wrong.symm] at ok
  obtain ⟨there, live, _⟩ := usableMail_some w player mailId time m₁ usable
  rw [found] at there
  cases there
  have fits := narrow m usable
  have small : toInt64 m.money = m.money := by
    unfold Player.maxMoneyAmount at fits
    exact toInt64_of_lt m.money (by omega)
  rw [small] at room
  rw [result]
  refine ⟨?_, ?_⟩
  · rw [World.commit_money, World.money_setMoney, if_pos rfl, small]
    exact (Player.modifyMoney_gain _ _ within fits room).1
  · rw [World.commit_box, World.setMoney_box, World.box_setBox, if_pos rfl]
    have changed := find_modifyMail (w.box player).mails mailId
      (fun m => { m with money := 0, state := .changed }) m (fun _ => rfl) found
    obtain ⟨m', again, same⟩ := getMail_saveMail
      { w.box player with
        mails := modifyMail mailId (fun m => { m with money := 0, state := .changed })
          (w.box player).mails
        mailsUpdated := true } mailId _ changed (by simp)
    refine ⟨m', again, ?_⟩
    rcases same with rfl | rfl
    · rfl
    · exact (saved_same _).2.2.1

@[simp] theorem sendReturnToSender_money (draft : MailDraft)
    (senderAccount sender receiver delay time : Nat) :
    (sendReturnToSender w draft senderAccount sender receiver delay time).1.money = w.money := by
  unfold sendReturnToSender
  split
  · rfl
  · simp

/-- Only mails that are sent and gold and items that are taken change wallets. -/
theorem money_step {input : Input} (player' : Nat) (sends : ∀ player r, input ≠ .sendMail player r)
    (items : ∀ player mailId itemId time, input ≠ .takeItem player mailId itemId time)
    (gold : ∀ player mailId money time, input ≠ .takeMoney player mailId money time) :
    (step rules w input).1.money player' = w.money player' := by
  cases input with
  | sendMail player r => exact absurd rfl (sends player r)
  | takeItem player mailId itemId time => exact absurd rfl (items player mailId itemId time)
  | takeMoney player mailId money time => exact absurd rfl (gold player mailId money time)
  | markAsRead player mailId =>
    simp only [step]
    split
    · unfold handleMailMarkAsRead
      dsimp only
      split <;> rfl
    · rfl
  | delete player mailId =>
    simp only [step]
    split
    · unfold handleMailDelete
      dsimp only
      split
      · rfl
      · split <;> rfl
    · rfl
  | returnToSender player mailId time =>
    simp only [step]
    split
    · unfold handleMailReturnToSender
      split
      · rfl
      · dsimp only
        split <;> simp
    · rfl
  | getMailList player =>
    simp only [step]
    split
    · unfold handleGetMailList
      dsimp only
      split <;> rfl
    · rfl
  | login player =>
    simp only [step]
    split <;> rfl
  | logout player =>
    simp only [step]
    split <;> rfl

/-- No wallet grows beyond the limit. -/
theorem capped_step {input : Input} (narrow : Narrow rules w input)
    (within : ∀ player, w.money player ≤ Player.maxMoneyAmount) (player' : Nat) :
    (step rules w input).1.money player' ≤ Player.maxMoneyAmount := by
  cases input with
  | sendMail player r =>
    simp only [step]
    split
    · unfold handleSendMail
      cases check : checkSend rules w player r with
      | error out => exact within player'
      | ok found =>
        obtain ⟨receiver, items⟩ := found
        rw [money_dispatchMail]
        split
        · obtain ⟨few, _, _, covered⟩ := checkSend_ok rules w player check
          have bound := within player
          have small : r.reqmoney < 2 ^ 63 := by
            have allowed := narrow receiver items check
            split at allowed
            · exact allowed
            next plain =>
            have := covered (by simpa using plain)
            unfold Player.maxMoneyAmount at bound
            omega
          rw [toInt64_of_lt _ small]
          exact Player.modifyMoney_le (by decide) bound (by omega) (by omega)
        · exact within player'
    · exact within player'
  | takeItem player mailId itemId time =>
    simp only [step]
    split
    · rcases takeItem_cases rules w player mailId itemId time with
        ⟨error, result⟩ | ⟨m, item, items, ok⟩
      · rw [result]
        exact within player'
      · rw [money_takeItem rules w player ok, money_payCOD]
        split
        · obtain ⟨_, _, covered, _⟩ :=
            checkTakeItem_ok rules w player mailId itemId time m item items ok
          have wallet := within player
          have : w.money player < 2 ^ 64 := by
            unfold Player.maxMoneyAmount at wallet
            omega
          rw [modifyMoney_cod this covered (narrow m item items ok)]
          omega
        · exact within player'
    · exact within player'
  | takeMoney player mailId money time =>
    simp only [step]
    split
    · rcases takeMoney_cases w player mailId money time with
        ⟨error, _, result⟩ | ⟨m, usable, room, statements, result⟩
      · rw [result]
        exact within player'
      · rw [result, World.commit_money, World.money_setMoney]
        split
        · have fits := narrow m usable
          have small : toInt64 m.money = m.money := by
            unfold Player.maxMoneyAmount at fits
            exact toInt64_of_lt m.money (by omega)
          rw [small] at room ⊢
          obtain ⟨exact', limit⟩ := Player.modifyMoney_gain _ _ (within player) fits room
          rw [exact']
          exact limit
        · exact within player'
    · exact within player'
  | _ =>
    rw [money_step rules w player' (by simp) (by simp) (by simp)]
    exact within player'

end

/-- What has been there before the run: wallets within the limit, and mails that are cash on
delivery sent by characters that exist. -/
structure Started (w : World) : Prop where
  wallets : ∀ player, w.money player ≤ Player.maxMoneyAmount
  players : ∀ player, w.online player = true → w.account player ≠ 0
  book : Book (fun sender _ cod => cod ≠ 0 → w.account sender ≠ 0) w

theorem account_payCOD (w : World) (player : Nat) (m : Mail) (time : Nat) :
    (payCOD w player m time).1.account = w.account ∧ (payCOD w player m time).1.online = w.online := by
  unfold payCOD
  split
  · dsimp only
    split
    · exact ⟨sendMailTo_account _ _ _ _ _ _ _, sendMailTo_online _ _ _ _ _ _ _⟩
    · exact ⟨rfl, rfl⟩
  · exact ⟨rfl, rfl⟩

theorem account_sendReturnToSender (w : World) (draft : MailDraft)
    (account sender receiver delay time : Nat) :
    (sendReturnToSender w draft account sender receiver delay time).1.account = w.account ∧
    (sendReturnToSender w draft account sender receiver delay time).1.online = w.online := by
  unfold sendReturnToSender
  split
  · exact ⟨rfl, rfl⟩
  · exact ⟨sendMailTo_account _ _ _ _ _ _ _, sendMailTo_online _ _ _ _ _ _ _⟩

/-- No request makes or deletes a character, and only existing ones come online. -/
theorem account_step (rules : Rules) (w : World) (input : Input) :
    (step rules w input).1.account = w.account ∧
    ∀ player, (step rules w input).1.online player = true →
      w.online player = true ∨ w.account player ≠ 0 := by
  have same : ∀ w' : World, w'.account = w.account ∧ w'.online = w.online →
      w'.account = w.account ∧ ∀ player, w'.online player = true →
        w.online player = true ∨ w.account player ≠ 0 := by
    rintro w' ⟨account, online⟩
    refine ⟨account, ?_⟩
    intro player here
    rw [online] at here
    exact .inl here
  cases input with
  | sendMail player r =>
    simp only [step]
    split
    · unfold handleSendMail
      split
      · exact same w ⟨rfl, rfl⟩
      next receiver items _ =>
      obtain ⟨w₁, checked, deliverDelay, moved, same₁, _, result⟩ :=
        dispatchMail_eq rules w player r receiver items
      rw [result]
      apply same
      rw [World.commit_account, World.commit_online, sendMailTo_account, sendMailTo_online]
      exact ⟨same₁.account, same₁.online⟩
    · exact same w ⟨rfl, rfl⟩
  | takeItem player mailId itemId time =>
    simp only [step]
    split
    · unfold handleMailTakeItem
      split
      · exact same w ⟨rfl, rfl⟩
      · exact same _ (account_payCOD w player _ time)
    · exact same w ⟨rfl, rfl⟩
  | takeMoney player mailId money time =>
    simp only [step]
    split
    · rcases takeMoney_cases w player mailId money time with ⟨_, _, result⟩ | ⟨_, _, _, _, result⟩
      · rw [result]
        exact same w ⟨rfl, rfl⟩
      · rw [result]
        exact same _ ⟨rfl, rfl⟩
    · exact same w ⟨rfl, rfl⟩
  | returnToSender player mailId time =>
    simp only [step]
    split
    · unfold handleMailReturnToSender
      split
      · exact same w ⟨rfl, rfl⟩
      split
      · exact same _ (account_sendReturnToSender (w.setBox player _) _ _ _ _ _ _)
      · exact same _ ⟨rfl, rfl⟩
    · exact same w ⟨rfl, rfl⟩
  | markAsRead player mailId =>
    simp only [step]
    split
    · unfold handleMailMarkAsRead
      dsimp only
      split
      · exact same w ⟨rfl, rfl⟩
      · exact same _ ⟨rfl, rfl⟩
    · exact same w ⟨rfl, rfl⟩
  | delete player mailId =>
    simp only [step]
    split
    · unfold handleMailDelete
      dsimp only
      split
      · exact same _ ⟨rfl, rfl⟩
      split
      · exact same _ ⟨rfl, rfl⟩
      · exact same _ ⟨rfl, rfl⟩
    · exact same w ⟨rfl, rfl⟩
  | getMailList player =>
    simp only [step]
    split
    · unfold handleGetMailList
      dsimp only
      split
      · exact same w ⟨rfl, rfl⟩
      · exact same _ ⟨rfl, rfl⟩
    · exact same w ⟨rfl, rfl⟩
  | login player =>
    simp only [step]
    split
    · rename_i fine
      refine ⟨rfl, ?_⟩
      intro player' here
      change Function.update w.online player true player' = true at here
      rw [Function.update_apply] at here
      split at here
      · rename_i this
        rw [this]
        exact .inr fine.1
      · exact .inl here
    · exact same w ⟨rfl, rfl⟩
  | logout player =>
    simp only [step]
    split
    · refine ⟨rfl, ?_⟩
      intro player' here
      change Function.update w.online player false player' = true at here
      rw [Function.update_apply] at here
      split at here
      · cases here
      · exact .inl here
    · exact same w ⟨rfl, rfl⟩

theorem lasting_sender (account : Nat → Nat) :
    Lasting (fun sender _ cod => cod ≠ 0 → account sender ≠ 0) := by
  refine ⟨?_, ?_, ?_⟩
  · intro sender money cod money' cod' fine _ cut nonzero
    apply fine
    rintro rfl
    rcases cut with rfl | rfl | rfl
    · exact nonzero rfl
    · exact nonzero rfl
    · exact nonzero rfl
  · exact fun _ _ _ _ _ zero => absurd rfl zero
  · exact fun _ _ _ _ _ zero => absurd rfl zero

theorem Started.step {rules : Rules} {w : World} {input : Input} (started : Started w)
    (narrow : Narrow rules w input) : Started (step rules w input).1 := by
  obtain ⟨account, online⟩ := account_step rules w input
  refine ⟨capped_step rules w narrow started.wallets, ?_, ?_⟩
  · intro player here
    rw [account]
    rcases online player here with before | known
    · exact started.players player before
    · exact known
  · rw [account]
    apply book_step _ rules w (lasting_sender w.account) started.book
    intro player r receiver items _ here _ _
    exact started.players player here

theorem goldExact_step {rules : Rules} {w : World} {input : Input} (started : Started w)
    (narrow : Narrow rules w input) : GoldExact (Run.take (step rules) w input) := by
  refine ⟨?_, ?_, ?_, capped_step rules w narrow started.wallets⟩
  · rintro player r rfl ok plain
    simp only [Run.take_out, Run.take_after, Run.take_before, Mails.step] at ok plain ⊢
    split at ok
    · rename_i online
      rw [if_pos online]
      unfold handleSendMail at ok ⊢
      cases check : checkSend rules w player r with
      | error out =>
        rw [check] at ok
        exact absurd ok (checkSend_error rules w player check).1
      | ok found =>
        have fits := narrow found.1 found.2 check
        rw [if_neg (by simp [plain])] at fits
        exact dispatchMail_exact rules w player check plain (started.wallets player) fits.1 fits.2
    · cases ok
  · rintro player mailId itemId time count rfl ok m found cod
    simp only [Run.take_out, Run.take_after, Run.take_before, Mails.step] at ok found ⊢
    split at ok
    · rename_i online
      rw [if_pos online]
      rcases takeItem_cases rules w player mailId itemId time with
        ⟨error, result⟩ | ⟨m₁, item, items, check⟩
      · rw [result] at ok
        simp at ok
      obtain ⟨there, _⟩ := checkTakeItem_ok rules w player mailId itemId time m₁ item items check
      rw [Option.mem_def.mp found] at there
      cases there
      have exists' := started.book.holds m.entry
        (.inl ⟨player, m, mem_of_find?_eq_some (Option.mem_def.mp found), rfl⟩)
      exact takeItem_exact rules w player mailId itemId time m item items check
        (started.wallets player) cod (narrow m item items check)
        (exists' (Nat.pos_iff_ne_zero.mp cod))
    · cases ok
  · rintro player mailId money time rfl ok m found
    simp only [Run.take_out, Run.take_after, Run.take_before, Mails.step] at ok found ⊢
    split at ok
    · rename_i online
      rw [if_pos online]
      exact takeMoney_exact w player mailId money time (started.wallets player) narrow ok m found
    · cases ok

/-- In every run whose amounts fit the casts on their way, mail neither creates nor destroys
gold. -/
theorem goldExact_of_narrow (rules : Rules) (w : World) (inputs : List Input) (started : Started w)
    (narrow : ∀ t ∈ Run.trace (step rules) w inputs, Narrow rules t.before t.input) :
    ∀ t ∈ Run.trace (step rules) w inputs, GoldExact t := by
  intro t here
  have before : Started t.before :=
    Run.invariant (step rules) (Narrow rules) Started
      (fun w input started narrow => started.step narrow) w started narrow t here
  rw [Run.taken_of_mem (step rules) w inputs t here]
  exact goldExact_step before (narrow t here)

/-- The amounts on the mails come from the requests: where those that are accepted fit the
casts, all later amounts do. -/
theorem narrow_of_small {rules : Rules} {w : World} {inputs : List Input}
    (book : Book (fun _ money cod => money < 2 ^ 32 ∧ cod < 2 ^ 31) w)
    (small : ∀ t ∈ Run.trace (step rules) w inputs, ∀ player r receiver items,
      t.input = .sendMail player r → checkSend rules t.before player r = .ok (receiver, items) →
      r.money < 2 ^ 32 ∧ r.cod < 2 ^ 31) :
    ∀ t ∈ Run.trace (step rules) w inputs, Narrow rules t.before t.input := by
  have lasting : Lasting (fun _ money cod => money < 2 ^ 32 ∧ cod < 2 ^ 31) := by
    refine ⟨?_, ?_, ?_⟩
    · intro _ money cod money' cod' fine cut cut'
      have smaller : ∀ n n', Cut n n' → n < 2 ^ 32 → n' ≤ n := by
        intro n n' cut less
        rcases cut with rfl | rfl | rfl
        · exact Nat.le_refl _
        · exact Nat.zero_le _
        · rw [toUInt32_of_lt n less]
      have := smaller money money' cut fine.1
      have := smaller cod cod' cut' (by omega)
      omega
    · exact fun _ _ _ _ fine => ⟨by omega, by decide⟩
    · exact fun _ _ _ _ fine => ⟨fine.1, by decide⟩
  intro t here
  have before : Book (fun _ money cod => money < 2 ^ 32 ∧ cod < 2 ^ 31) t.before := by
    refine Run.invariant (step rules) (fun w input => ∀ player r receiver items,
      input = .sendMail player r → checkSend rules w player r = .ok (receiver, items) →
      r.money < 2 ^ 32 ∧ r.cod < 2 ^ 31) _ ?_ w book small t here
    intro w input book allowed
    apply book_step _ rules w lasting book
    intro player r receiver items same _ check
    have fits := allowed player r receiver items same check
    rw [toUInt32_of_lt r.cod (by omega)]
    exact fits
  have written : ∀ player mailId m, getMail (t.before.box player) mailId = some m →
      m.money < 2 ^ 32 ∧ m.cod < 2 ^ 31 :=
    fun player mailId m found => before.holds m.entry
      (.inl ⟨player, m, mem_of_find?_eq_some found, rfl⟩)
  cases kind : t.input with
  | sendMail player r =>
    intro receiver items check
    have fits := small t here player r receiver items kind check
    have few := (checkSend_ok rules t.before player check).1
    have postage := cost_le few
    split
    · rw [SendRequest.reqmoney]
      unfold toUInt64
      omega
    · omega
  | takeItem player mailId itemId time =>
    intro m item items check
    exact (written player mailId m
      (checkTakeItem_ok rules t.before player mailId itemId time m item items check).1).2
  | takeMoney player mailId money time =>
    intro m usable
    have := (written player mailId m (usableMail_some t.before player mailId time m usable).1).1
    unfold Player.maxMoneyAmount
    omega
  | _ => trivial

/-- All characters are rich and in the world, and the first one has an item. -/
def plainWorld : World where
  account := id
  online := fun player => player != 0
  gameMaster := fun _ => false
  money := fun _ => 9000000000
  inventory := fun player => if player = 1 then [plainItem 5 10] else []
  box := fun _ => .unloaded
  tables := ⟨[], [], fun _ => none⟩
  nextMailId := 1

/-- A mail from the first player to the second. -/
def plainSend (items : List Nat) (money cod : Nat) : Input :=
  .sendMail 1
    { mailbox := true, emptyName := false, receiver := some 2, items := items, money := money,
      cod := cod, hasBody := false, guildMail := false, time := 0 }

theorem plainWorld_started : Started plainWorld := by
  refine ⟨?_, ?_, Book.empty _ (fun _ => rfl) rfl⟩
  · intro player
    simp [plainWorld, Player.maxMoneyAmount]
  · intro player
    simp [plainWorld]

/-- An item is sent, paid for and taken, and so is gold. -/
theorem cod_mail_goldExact :
    List.Forall GoldExact (Run.trace (step plainRules) plainWorld
      [plainSend [5] 100 700, .getMailList 2, .takeItem 2 1 5 4000, .takeMoney 2 1 100 4000]) := by
  rw [forall_iff_forall_mem]
  apply goldExact_of_narrow plainRules plainWorld _ plainWorld_started
  apply narrow_of_small (Book.empty _ (fun _ => rfl) rfl)
  intro t here player r receiver items kind _
  have mem := Run.input_mem (step plainRules) plainWorld here
  rw [kind] at mem
  simp only [plainSend, mem_cons, Input.sendMail.injEq, reduceCtorEq, not_mem_nil, or_false] at mem
  rw [mem.2]
  decide

/-- The row of a mail with more than 2^32 copper holds what is left of it in 32 bits. -/
theorem wide_mail_not_goldExact :
    ¬ ∀ t ∈ Run.trace (step plainRules) plainWorld [plainSend [] (2 ^ 32 + 5) 0], GoldExact t := by
  intro all
  obtain ⟨_, row, inserted, _, _, money, _⟩ :=
    (all _ mem_cons_self).sent 1 _ rfl (by decide +kernel) rfl
  have written : (insertedMails (step plainRules plainWorld (plainSend [] (2 ^ 32 + 5) 0)).2).map
      (·.money) = [2 ^ 32 + 5] := by
    rw [Run.take_out] at inserted
    rw [inserted, map_singleton, money]
  revert written
  decide +kernel

end OpenWoW.Mails
