import OpenWoW.MailSteps

/-! The amounts that are written on mails, and properties of them that no request breaks. -/
namespace OpenWoW.Mails

open List

structure Entry where
  id : Nat
  sender : Nat
  money : Nat
  cod : Nat

def Mail.entry (m : Mail) : Entry := ⟨m.messageID, m.sender, m.money, m.cod⟩

def MailRow.entry (row : MailRow) : Entry := ⟨row.id, row.sender, row.money, row.cod⟩

/-- The entry is on a mail in some mailbox or in the table. -/
def Written (w : World) (e : Entry) : Prop :=
  (∃ player, ∃ m ∈ (w.box player).mails, m.entry = e) ∨ ∃ row ∈ w.tables.mail, row.entry = e

/-- An amount that was kept, taken or cut to 32 bits. -/
def Cut (n n' : Nat) : Prop := n' = n ∨ n' = 0 ∨ n' = toUInt32 n

def Less (e e' : Entry) : Prop :=
  e'.id = e.id ∧ e'.sender = e.sender ∧ Cut e.money e'.money ∧ Cut e.cod e'.cod

theorem Less.refl (e : Entry) : Less e e := ⟨rfl, rfl, .inl rfl, .inl rfl⟩

theorem toUInt32_toUInt32 (n : Nat) : toUInt32 (toUInt32 n : Nat) = toUInt32 n := by
  unfold toUInt32
  omega

theorem Cut.narrow (n n' : Nat) (cut : Cut n n') : Cut n (toUInt32 n') := by
  rcases cut with rfl | rfl | rfl
  · exact .inr (.inr rfl)
  · exact .inr (.inl rfl)
  · exact .inr (.inr (toUInt32_toUInt32 n))

theorem Cut.trans {n n' n'' : Nat} (first : Cut n n') (second : Cut n' n'') : Cut n n'' := by
  rcases second with rfl | rfl | rfl
  · exact first
  · exact .inr (.inl rfl)
  · exact first.narrow

theorem Less.trans {e e' e'' : Entry} (first : Less e e') (second : Less e' e'') : Less e e'' :=
  ⟨second.1.trans first.1, second.2.1.trans first.2.1, first.2.2.1.trans second.2.2.1,
    first.2.2.2.trans second.2.2.2⟩

/-- A property of a sender and the amounts on his mail that survives cuts, and that the mails
which are made of one mail inherit: the payment of its COD, and the mail that returns it. -/
structure Lasting (P : Nat → Nat → Nat → Prop) : Prop where
  cut : ∀ sender money cod money' cod', P sender money cod → Cut money money' → Cut cod cod' →
    P sender money' cod'
  payment : ∀ sender money cod sender', P sender money cod → P sender' cod 0
  returned : ∀ sender money cod sender', P sender money cod → P sender' money 0

/-- All entries have the property, and the number of a mail tells its sender. -/
structure Book (P : Nat → Nat → Nat → Prop) (w : World) : Prop where
  one : ∀ e e', Written w e → Written w e' → e.id = e'.id → e.sender = e'.sender
  old : ∀ e, Written w e → e.id < w.nextMailId
  holds : ∀ e, Written w e → P e.sender e.money e.cod

theorem Book.empty (P : Nat → Nat → Nat → Prop) {w : World}
    (mails : ∀ player, (w.box player).mails = []) (rows : w.tables.mail = []) : Book P w := by
  have none : ∀ e, ¬ Written w e := by
    rintro e (⟨player, m, here, _⟩ | ⟨row, here, _⟩)
    · rw [mails player] at here
      cases here
    · rw [rows] at here
      cases here
  exact ⟨fun e _ here => absurd here (none e), fun e here => absurd here (none e),
    fun e here => absurd here (none e)⟩

section

variable (P : Nat → Nat → Nat → Prop) (w w' : World) (sender : Nat)

/-- The entry comes from one that was there, or is that of a new mail. -/
def Known (e' : Entry) : Prop :=
  (∃ e, Written w e ∧ Less e e') ∨
    e'.id = w.nextMailId ∧ e'.sender = sender ∧ P sender e'.money e'.cod ∧
      w.nextMailId < w'.nextMailId

/-- A row after the step: an old or new one, perhaps with the amounts of a mail in memory. -/
def KnownRow (row' : MailRow) : Prop :=
  ∃ row, (row ∈ w.tables.mail ∨ Known P w w' sender row.entry) ∧ row'.id = row.id ∧
    row'.sender = row.sender ∧
    (row'.money = row.money ∧ row'.cod = row.cod ∨
      ∃ m : Mail, Known P w w' sender m.entry ∧ m.messageID = row.id ∧
        row'.money = toUInt32 m.money ∧ row'.cod = toUInt32 m.cod)

theorem Known.of_less {e e' : Entry} (lasting : Lasting P) (known : Known P w w' sender e)
    (less : Less e e') : Known P w w' sender e' := by
  rcases known with ⟨e₀, there, first⟩ | ⟨id, origin, fine, more⟩
  · exact .inl ⟨e₀, there, first.trans less⟩
  · exact .inr ⟨less.1.trans id, less.2.1.trans origin,
      lasting.cut _ _ _ _ _ fine less.2.2.1 less.2.2.2, more⟩

theorem Known.one {e e' : Entry} (book : Book P w) (known : Known P w w' sender e)
    (known' : Known P w w' sender e') (same : e.id = e'.id) : e.sender = e'.sender := by
  rcases known with ⟨e₀, there, less⟩ | ⟨id, origin, _⟩
  · rcases known' with ⟨e₁, there', less'⟩ | ⟨id', _⟩
    · rw [less.2.1, less'.2.1]
      exact book.one e₀ e₁ there there' (less.1.symm.trans (same.trans less'.1))
    · have := book.old e₀ there
      rw [← less.1, same, id'] at this
      omega
  · rcases known' with ⟨e₁, there', less'⟩ | ⟨_, origin', _⟩
    · have := book.old e₁ there'
      rw [← less'.1, ← same, id] at this
      omega
    · exact origin.trans origin'.symm

theorem KnownRow.known {row' : MailRow} (lasting : Lasting P) (book : Book P w)
    (knownRow : KnownRow P w w' sender row') : Known P w w' sender row'.entry := by
  obtain ⟨row, source, id, origin, amounts⟩ := knownRow
  have base : Known P w w' sender row.entry := by
    rcases source with there | known
    · exact .inl ⟨row.entry, .inr ⟨row, there, rfl⟩, Less.refl _⟩
    · exact known
  rcases amounts with ⟨money, cod⟩ | ⟨m, known, number, money, cod⟩
  · have same : row'.entry = row.entry := by
      unfold MailRow.entry
      rw [id, origin, money, cod]
    rw [same]
    exact base
  · have senders := Known.one P w w' sender book known base number
    refine known.of_less P w w' sender lasting ⟨id.trans number.symm, ?_, ?_, ?_⟩
    · exact origin.trans senders.symm
    · exact .inr (.inr money)
    · exact .inr (.inr cod)

theorem Book.step (lasting : Lasting P) (book : Book P w) (next : w.nextMailId ≤ w'.nextMailId)
    (mails : ∀ player, ∀ m ∈ (w'.box player).mails, Known P w w' sender m.entry)
    (rows : ∀ row ∈ w'.tables.mail, KnownRow P w w' sender row) : Book P w' := by
  have known : ∀ e, Written w' e → Known P w w' sender e := by
    rintro e (⟨player, m, here, rfl⟩ | ⟨row, here, rfl⟩)
    · exact mails player m here
    · exact (rows row here).known P w w' sender lasting book
  refine ⟨?_, ?_, ?_⟩
  · intro e e' here here'
    exact Known.one P w w' sender book (known e here) (known e' here')
  · intro e here
    rcases known e here with ⟨e₀, there, less⟩ | ⟨id, _, _, more⟩
    · have := book.old e₀ there
      rw [less.1]
      omega
    · omega
  · intro e here
    rcases known e here with ⟨e₀, there, less⟩ | ⟨_, origin, fine, _⟩
    · rw [less.2.1]
      exact lasting.cut _ _ _ _ _ (book.holds e₀ there) less.2.2.1 less.2.2.2
    · rw [origin]
      exact fine

end

section

variable (P : Nat → Nat → Nat → Prop) (w w' : World) (sender : Nat)

theorem Known.of_mem (player : Nat) (m : Mail) (here : m ∈ (w.box player).mails) :
    Known P w w' sender m.entry :=
  .inl ⟨m.entry, .inl ⟨player, m, here, rfl⟩, Less.refl _⟩

theorem less_saved (m : Mail) : Less m.entry (saved m).entry := by
  obtain ⟨id, origin, money, cod, _⟩ := saved_same m
  exact ⟨id, origin, .inl money, .inl cod⟩

theorem known_saveMail (lasting : Lasting P) {box : Mailbox}
    (known : ∀ m ∈ box.mails, Known P w w' sender m.entry) :
    ∀ m ∈ (saveMail box).1.mails, Known P w w' sender m.entry := by
  intro m' here
  obtain ⟨m, mem, same | after⟩ := of_mem_saveMail here
  · rw [same]
    exact known m mem
  · rw [after]
    exact (known m mem).of_less P w w' sender lasting (less_saved m)

theorem known_modifyMail (lasting : Lasting P) {mails : List Mail} {id : Nat} (change : Mail → Mail)
    (less : ∀ m, Less m.entry (change m).entry) (known : ∀ m ∈ mails, Known P w w' sender m.entry) :
    ∀ m ∈ modifyMail id change mails, Known P w w' sender m.entry := by
  intro m' here
  rcases of_mem_modifyMail change here with same | ⟨m, found, rfl⟩
  · exact known m' same
  · exact (known m (mem_of_find?_eq_some found)).of_less P w w' sender lasting (less m)

theorem knownRow_commit (tables : Tables) (statements : List Statement) (box : Mailbox)
    (same : tables = w.tables)
    (inserted : ∀ row, .insMail row ∈ statements → Known P w w' sender row.entry)
    (updated : ∀ id hasItems expireTime deliverTime money cod checked,
      .updMail id hasItems expireTime deliverTime money cod checked ∈ statements →
      .updMail id hasItems expireTime deliverTime money cod checked ∈ (saveMail box).2)
    (known : ∀ m ∈ box.mails, Known P w w' sender m.entry) :
    ∀ row ∈ (tables.commit statements).mail, KnownRow P w w' sender row := by
  intro row' here
  obtain ⟨row, source, id, origin, amounts⟩ := mem_commit tables here
  refine ⟨row, ?_, id, origin, ?_⟩
  · rcases source with there | new
    · rw [same] at there
      exact .inl there
    · exact .inr (inserted row new)
  · rcases amounts with equal | ⟨hasItems, expireTime, deliverTime, checked, update⟩
    · exact .inl equal
    · refine .inr ?_
      have there := updated _ _ _ _ _ _ _ update
      rcases of_mem_saveStatements there with ⟨m, mem, eq⟩ | ⟨_, eq | eq⟩ | ⟨_, eq | eq⟩
      · rw [Statement.updMail.injEq] at eq
        obtain ⟨number, _, _, _, money, cod, _⟩ := eq
        exact ⟨m, known m mem, number.symm, money, cod⟩
      all_goals cases eq

theorem known_newMail (lasting : Lasting P) (w₁ : World) (draft : MailDraft)
    (receiver checked deliverDelay time : Nat) (next : w₁.nextMailId = w.nextMailId)
    (more : w.nextMailId < w'.nextMailId) (fine : P sender draft.money draft.cod) :
    Known P w w' sender (newMail w₁ draft receiver sender checked deliverDelay time).entry ∧
    Known P w w' sender (newMail w₁ draft receiver sender checked deliverDelay time).toRow.entry := by
  have mail : Known P w w' sender
      (newMail w₁ draft receiver sender checked deliverDelay time).entry :=
    .inr ⟨next, rfl, fine, more⟩
  exact ⟨mail, mail.of_less P w w' sender lasting ⟨rfl, rfl, .inr (.inr rfl), .inr (.inr rfl)⟩⟩

theorem known_sendMailTo {w₁ : World} {draft : MailDraft} {receiver checked deliverDelay time : Nat}
    (known : ∀ player, ∀ m ∈ (w₁.box player).mails, Known P w w' sender m.entry)
    (new : Known P w w' sender (newMail w₁ draft receiver sender checked deliverDelay time).entry) :
    ∀ player, ∀ m ∈ ((sendMailTo w₁ draft receiver sender checked deliverDelay time).1.box
      player).mails, Known P w w' sender m.entry := by
  intro player m here
  rw [box_sendMailTo] at here
  split at here
  · rcases mem_cons.mp here with rfl | old
    · exact new
    · exact known receiver m old
  · exact known player m here

theorem insMail_sendMailTo {w₁ : World} {draft : MailDraft}
    {receiver sender checked deliverDelay time : Nat} {statement : Statement}
    (here : statement ∈ (sendMailTo w₁ draft receiver sender checked deliverDelay time).2) :
    statement = .insMail (newMail w₁ draft receiver sender checked deliverDelay time).toRow ∨
      ∃ row, statement = .insMailItem row := by
  rcases mem_cons.mp here with rfl | items
  · exact .inl rfl
  · obtain ⟨item, _, rfl⟩ := mem_map.mp items
    exact .inr ⟨_, rfl⟩

end

section

variable (P : Nat → Nat → Nat → Prop) (rules : Rules) (w : World) (player : Nat)

theorem knownRow_same {w' : World} (sender : Nat) (same : w'.tables = w.tables) :
    ∀ row ∈ w'.tables.mail, KnownRow P w w' sender row := by
  intro row here
  rw [same] at here
  exact ⟨row, .inl here, rfl, rfl, .inl ⟨rfl, rfl⟩⟩

section
variable (lasting : Lasting P)
include lasting

theorem Book.setBox (book : Book P w) (box : Mailbox)
    (known : ∀ m ∈ box.mails, Known P w (w.setBox player box) 0 m.entry) :
    Book P (w.setBox player box) := by
  refine book.step P w _ 0 lasting (Nat.le_refl _) ?_ (knownRow_same P w 0 rfl)
  intro player' m here
  rw [World.box_setBox] at here
  split at here
  · exact known m here
  · exact Known.of_mem P w _ 0 player' m here

theorem book_dispatchMail (book : Book P w) {r : SendRequest}
    (receiver : Nat) (items : List Item) (fine : P player r.money (toUInt32 r.cod)) :
    Book P (dispatchMail rules w player r receiver items).1 := by
  obtain ⟨w₁, checked, deliverDelay, moved, same, quiet, result⟩ :=
    dispatchMail_eq rules w player r receiver items
  rw [result]
  have next : (sendMailTo w₁ (draftOf r items) receiver player checked deliverDelay
      r.time).1.nextMailId = w.nextMailId + 1 := by
    rw [sendMailTo_nextMailId, same.nextMailId]
  generalize after : (sendMailTo w₁ (draftOf r items) receiver player checked deliverDelay
    r.time).1.commit (moved ++ (sendMailTo w₁ (draftOf r items) receiver player checked
      deliverDelay r.time).2 ++ [.saveInventoryAndGold player]) = w'
  have more : w.nextMailId < w'.nextMailId := by
    rw [← after, World.commit_nextMailId, next]
    omega
  obtain ⟨mail, row⟩ := known_newMail P w w' player lasting w₁ (draftOf r items) receiver checked
    deliverDelay r.time same.nextMailId more fine
  have statement_of : ∀ statement ∈ moved ++ (sendMailTo w₁ (draftOf r items) receiver player checked
      deliverDelay r.time).2 ++ [.saveInventoryAndGold player],
      (∃ item : Item, statement = .delInventoryItem item.guid ∨ statement = .saveItem item receiver) ∨
      (statement = .insMail (newMail w₁ (draftOf r items) receiver player checked deliverDelay
        r.time).toRow ∨ ∃ row, statement = .insMailItem row) ∨
      statement = .saveInventoryAndGold player := by
    intro statement here
    rcases mem_append.mp here with first | last
    · rcases mem_append.mp first with early | sent
      · exact .inl (quiet statement early)
      · exact .inr (.inl (insMail_sendMailTo sent))
    · exact .inr (.inr (mem_singleton.mp last))
  refine book.step P w w' player lasting (Nat.le_of_lt more) ?_ ?_
  · rw [← after]
    refine known_sendMailTo P w _ player ?_ (after ▸ mail)
    intro player' m here
    rw [same.box] at here
    exact Known.of_mem P w _ player player' m here
  · rw [← after, World.commit_tables, sendMailTo_tables]
    refine knownRow_commit P w _ player w₁.tables _ .unloaded same.tables ?_ ?_
      (fun _ none => by cases none)
    · intro row' here
      rcases statement_of _ here with ⟨_, eq | eq⟩ | (eq | ⟨_, eq⟩) | eq
      · cases eq
      · cases eq
      · cases eq
        exact after ▸ row
      · cases eq
      · cases eq
    · intro id hasItems expireTime deliverTime money cod checked' here
      rcases statement_of _ here with ⟨_, eq | eq⟩ | (eq | ⟨_, eq⟩) | eq
      all_goals cases eq

theorem known_sent (w₁ w' : World) (draft : MailDraft)
    (receiver sender checked deliverDelay time : Nat) (next : w₁.nextMailId = w.nextMailId)
    (more : w.nextMailId < w'.nextMailId) (fine : P sender draft.money draft.cod)
    (known : ∀ player, ∀ m ∈ (w₁.box player).mails, Known P w w' sender m.entry) :
    (∀ player, ∀ m ∈ ((sendMailTo w₁ draft receiver sender checked deliverDelay time).1.box
      player).mails, Known P w w' sender m.entry) ∧
    ∀ statement ∈ (sendMailTo w₁ draft receiver sender checked deliverDelay time).2,
      (∃ row, statement = .insMail row ∧ Known P w w' sender row.entry) ∨
        ∃ row, statement = .insMailItem row := by
  obtain ⟨mail, row⟩ := known_newMail P w w' sender lasting w₁ draft receiver checked deliverDelay
    time next more fine
  refine ⟨known_sendMailTo P w w' sender known mail, ?_⟩
  intro statement here
  rcases insMail_sendMailTo here with
    rfl | item
  · exact .inl ⟨_, rfl, row⟩
  · exact .inr item

theorem payCOD_known {w' : World} {m : Mail} {time : Nat}
    (fine : P m.sender m.money m.cod)
    (next : w'.nextMailId = (payCOD w player m time).1.nextMailId) :
    w.nextMailId ≤ w'.nextMailId ∧ (payCOD w player m time).1.tables = w.tables ∧
    (∀ player', ∀ m' ∈ ((payCOD w player m time).1.box player').mails,
      Known P w w' m.receiver m'.entry) ∧
    ∀ statement ∈ (payCOD w player m time).2,
      (∃ row, statement = .insMail row ∧ Known P w w' m.receiver row.entry) ∨
        ∃ row, statement = .insMailItem row := by
  unfold payCOD at next ⊢
  by_cases cod : 0 < m.cod
  · rw [if_pos cod] at next ⊢
    by_cases there : w.online m.sender ∨ w.account m.sender ≠ 0
    · rw [if_pos there] at next ⊢
      rw [World.setMoney_nextMailId, sendMailTo_nextMailId] at next
      obtain ⟨boxes, statements⟩ := known_sent P w lasting w w' (MailDraft.empty.addMoney m.cod)
        m.sender m.receiver maskCodPayment 0 time rfl (by omega)
        (lasting.payment _ _ _ m.receiver fine)
        (fun player' m' here => Known.of_mem P w w' m.receiver player' m' here)
      exact ⟨by omega, sendMailTo_tables _ _ _ _ _ _ _, boxes, statements⟩
    · rw [if_neg there] at next ⊢
      exact ⟨Nat.le_of_eq next.symm, rfl,
        fun player' m' here => Known.of_mem P w w' m.receiver player' m' here,
        fun _ none => by cases none⟩
  · rw [if_neg cod] at next ⊢
    exact ⟨Nat.le_of_eq next.symm, rfl,
      fun player' m' here => Known.of_mem P w w' m.receiver player' m' here,
      fun _ none => by cases none⟩

theorem book_takeItem (book : Book P w) (mailId itemId time : Nat) :
    Book P (handleMailTakeItem rules w player mailId itemId time).1 := by
  unfold handleMailTakeItem
  cases check : checkTakeItem rules w player mailId itemId time with
  | error error => exact book
  | ok found =>
    obtain ⟨m, item, items⟩ := found
    obtain ⟨there, _⟩ := checkTakeItem_ok rules w player mailId itemId time m item items check
    have fine := book.holds m.entry (.inl ⟨player, m, mem_of_find?_eq_some there, rfl⟩)
    dsimp only
    generalize box' : takeFromBox ((payCOD w player m time).1.box player) mailId itemId item.guid =
      box
    generalize after : (((payCOD w player m time).1.setBox player (saveMail box).1).setInventory
      player items).commit ((payCOD w player m time).2 ++ [.saveInventoryAndGold player] ++
        (saveMail box).2) = w'
    have next : w'.nextMailId = (payCOD w player m time).1.nextMailId := by
      rw [← after]
      rfl
    obtain ⟨more, tables, boxes, statements⟩ := payCOD_known P w player lasting fine next
    have known : ∀ m' ∈ box.mails, Known P w w' m.receiver m'.entry := by
      rw [← box']
      exact known_modifyMail P w w' m.receiver lasting (takenFrom itemId)
        (fun _ => ⟨rfl, rfl, .inl rfl, .inr (.inl rfl)⟩) (boxes player)
    refine book.step P w w' m.receiver lasting more ?_ ?_
    · intro player' m' here
      rw [← after, World.commit_box, World.setInventory_box, World.box_setBox] at here
      split at here
      · exact known_saveMail P w w' m.receiver lasting known m' here
      · exact boxes player' m' here
    · have committed : w'.tables = ((payCOD w player m time).1.tables).commit
          ((payCOD w player m time).2 ++ [.saveInventoryAndGold player] ++ (saveMail box).2) := by
        rw [← after]
        rfl
      rw [committed]
      refine knownRow_commit P w w' m.receiver _ _ box tables ?_ ?_ known
      · intro row here
        rcases mem_append.mp here with first | saved
        · rcases mem_append.mp first with paid | last
          · rcases statements _ paid with ⟨row', eq, fine'⟩ | ⟨_, eq⟩
            · cases eq
              exact fine'
            · cases eq
          · cases mem_singleton.mp last
        · rcases of_mem_saveStatements saved with ⟨_, _, eq⟩ | ⟨_, eq | eq⟩ | ⟨_, eq | eq⟩
          all_goals cases eq
      · intro id hasItems expireTime deliverTime money cod checked here
        rcases mem_append.mp here with first | saved
        · rcases mem_append.mp first with paid | last
          · rcases statements _ paid with ⟨row', eq, _⟩ | ⟨_, eq⟩
            · cases eq
            · cases eq
          · cases mem_singleton.mp last
        · exact saved

theorem book_takeMoney (book : Book P w) (mailId money time : Nat) :
    Book P (handleMailTakeMoney w player mailId money time).1 := by
  unfold handleMailTakeMoney
  dsimp only
  split
  · exact book
  split
  · exact book
  split
  · exact book
  generalize box' : ({ w.box player with
    mails := modifyMail mailId (fun m => { m with money := 0, state := .changed }) (w.box player).mails
    mailsUpdated := true } : Mailbox) = box
  generalize after : ((w.setBox player (saveMail box).1).setMoney player _).commit
    (.saveGold player :: (saveMail box).2) = w'
  have known : ∀ m' ∈ box.mails, Known P w w' 0 m'.entry := by
    rw [← box']
    exact known_modifyMail P w w' 0 lasting _ (fun _ => ⟨rfl, rfl, .inr (.inl rfl), .inl rfl⟩)
      (fun m here => Known.of_mem P w w' 0 player m here)
  refine book.step P w w' 0 lasting (by rw [← after]; exact Nat.le_refl _) ?_ ?_
  · intro player' m' here
    rw [← after, World.commit_box, World.setMoney_box, World.box_setBox] at here
    split at here
    · exact known_saveMail P w w' 0 lasting known m' here
    · exact Known.of_mem P w w' 0 player' m' here
  · have committed : w'.tables = w.tables.commit (.saveGold player :: (saveMail box).2) := by
      rw [← after]
      rfl
    rw [committed]
    refine knownRow_commit P w w' 0 _ _ box rfl ?_ ?_ known
    · intro row here
      rcases mem_cons.mp here with eq | saved
      · cases eq
      · rcases of_mem_saveStatements saved with ⟨_, _, eq⟩ | ⟨_, eq | eq⟩ | ⟨_, eq | eq⟩
        all_goals cases eq
    · intro id hasItems expireTime deliverTime money' cod checked here
      rcases mem_cons.mp here with eq | saved
      · cases eq
      · exact saved

end

theorem returnDraft_amounts (box : Mailbox) (m : Mail) :
    (returnDraft box m).money = m.money ∧ (returnDraft box m).cod = 0 := by
  refine ⟨rfl, ?_⟩
  have keep : ∀ (infos : List MailItemInfo) (draft : MailDraft), draft.cod = 0 →
      (infos.foldl (fun draft info => (box.mItems info.itemGuid).elim draft draft.addItem) draft).cod =
        0 := by
    intro infos
    induction infos with
    | nil => exact fun draft zero => zero
    | cons info infos ih =>
      intro draft zero
      rw [foldl_cons]
      apply ih
      cases box.mItems info.itemGuid <;> exact zero
  rw [returnDraft_eq]
  exact keep m.items MailDraft.empty rfl

theorem sendReturnToSender_known (lasting : Lasting P) {w₁ w' : World} {draft : MailDraft}
    {account sender receiver delay time : Nat} (fine : P sender draft.money draft.cod)
    (start : w₁.nextMailId = w.nextMailId)
    (next : w'.nextMailId = (sendReturnToSender w₁ draft account sender receiver delay
      time).1.nextMailId)
    (known : ∀ player, ∀ m ∈ (w₁.box player).mails, Known P w w' sender m.entry) :
    w.nextMailId ≤ w'.nextMailId ∧
    (sendReturnToSender w₁ draft account sender receiver delay time).1.tables = w₁.tables ∧
    (∀ player', ∀ m' ∈ ((sendReturnToSender w₁ draft account sender receiver delay time).1.box
      player').mails, Known P w w' sender m'.entry) ∧
    ∀ statement ∈ (sendReturnToSender w₁ draft account sender receiver delay time).2,
      (∀ row, statement = .insMail row → Known P w w' sender row.entry) ∧
      ∀ id hasItems expireTime deliverTime money cod checked,
        statement ≠ .updMail id hasItems expireTime deliverTime money cod checked := by
  unfold sendReturnToSender at next ⊢
  by_cases gone : ¬ w₁.online receiver ∧ w₁.account receiver = 0
  · rw [if_pos gone] at next ⊢
    refine ⟨Nat.le_of_eq (start.symm.trans next.symm), rfl, known, ?_⟩
    intro statement here
    obtain ⟨item, _, rfl⟩ := mem_map.mp here
    exact ⟨(fun _ eq => by cases eq), (fun _ _ _ _ _ _ _ => by simp)⟩
  · rw [if_neg gone] at next ⊢
    rw [sendMailTo_nextMailId] at next
    obtain ⟨boxes, statements⟩ := known_sent P w lasting w₁ w' draft receiver sender maskReturned _
      time start (by omega) fine known
    refine ⟨by omega, sendMailTo_tables _ _ _ _ _ _ _, boxes, ?_⟩
    intro statement here
    rcases mem_append.mp here with owner | sent
    · obtain ⟨item, _, there⟩ := mem_flatMap.mp owner
      rcases mem_cons.mp there with rfl | last
      · exact ⟨(fun _ eq => by cases eq), (fun _ _ _ _ _ _ _ => by simp)⟩
      · rw [mem_singleton.mp last]
        exact ⟨(fun _ eq => by cases eq), (fun _ _ _ _ _ _ _ => by simp)⟩
    · rcases statements statement sent with ⟨row, rfl, fine'⟩ | ⟨row, rfl⟩
      · refine ⟨?_, fun _ _ _ _ _ _ _ => by simp⟩
        intro row' eq
        cases eq
        exact fine'
      · exact ⟨(fun _ eq => by cases eq), (fun _ _ _ _ _ _ _ => by simp)⟩

section
variable (lasting : Lasting P) (book : Book P w)
include lasting book

theorem book_returnToSender (mailId time : Nat) :
    Book P (handleMailReturnToSender rules w player mailId time).1 := by
  unfold handleMailReturnToSender
  split
  · exact book
  next m usable =>
  obtain ⟨there, _⟩ := usableMail_some w player mailId time m usable
  have fine := book.holds m.entry (.inl ⟨player, m, mem_of_find?_eq_some there, rfl⟩)
  have delete_of : ∀ statement ∈ [Statement.delMailById mailId, .delMailItemById mailId],
      statement = .delMailById mailId ∨ statement = .delMailItemById mailId := by
    intro statement here
    rcases mem_cons.mp here with first | last
    · exact .inl first
    · exact .inr (mem_singleton.mp last)
  dsimp only
  split
  · generalize start : w.setBox player _ = w₁
    have boxes₁ : ∀ w' player', ∀ m' ∈ (w₁.box player').mails, Known P w w' m.receiver m'.entry := by
      intro w' player' m' here
      rw [← start, World.box_setBox] at here
      split at here
      · exact Known.of_mem P w w' m.receiver player m' (mem_of_mem_eraseP here)
      · exact Known.of_mem P w w' m.receiver player' m' here
    have tables₁ : w₁.tables = w.tables := by
      rw [← start]
      rfl
    have next₁ : w₁.nextMailId = w.nextMailId := by
      rw [← start]
      rfl
    generalize after : (sendReturnToSender w₁ (returnDraft (w.box player) m) (w.account player)
      m.receiver m.sender rules.mailDeliveryDelay time).1.commit _ = w'
    obtain ⟨money, cod⟩ := returnDraft_amounts (w.box player) m
    obtain ⟨more, tables, boxes, statements⟩ :=
      sendReturnToSender_known P w lasting (by rw [money, cod]; exact lasting.returned _ _ _ m.receiver fine)
      next₁ (by rw [← after]; rfl) (boxes₁ w')
    refine book.step P w w' m.receiver lasting more ?_ ?_
    · intro player' m' here
      rw [← after] at here
      exact boxes player' m' here
    · rw [← after, World.commit_tables, tables, tables₁]
      refine knownRow_commit P w _ m.receiver _ _ .unloaded rfl ?_ ?_ (fun _ none => by cases none)
      · intro row here
        rcases mem_append.mp here with deleted | sent
        · rcases delete_of _ deleted with eq | eq
          · cases eq
          · cases eq
        · exact after ▸ (statements _ sent).1 row rfl
      · intro id hasItems expireTime deliverTime money' cod' checked here
        rcases mem_append.mp here with deleted | sent
        · rcases delete_of _ deleted with eq | eq
          · cases eq
          · cases eq
        · exact absurd rfl ((statements _ sent).2 _ _ _ _ _ _ _)
  · refine book.step P w _ 0 lasting (Nat.le_refl _) ?_ ?_
    · intro player' m' here
      rw [World.commit_box, World.box_setBox] at here
      split at here
      · exact Known.of_mem P w _ 0 player m' (mem_of_mem_eraseP here)
      · exact Known.of_mem P w _ 0 player' m' here
    · rw [World.commit_tables]
      refine knownRow_commit P w _ 0 _ _ .unloaded rfl ?_ ?_ (fun _ none => by cases none)
      · intro row here
        rcases delete_of _ here with eq | eq
        · cases eq
        · cases eq
      · intro id hasItems expireTime deliverTime money' cod' checked here
        rcases delete_of _ here with eq | eq
        · cases eq
        · cases eq

theorem book_getMailList :
    Book P (handleGetMailList w player) := by
  unfold handleGetMailList
  dsimp only
  split
  · exact book
  apply book.setBox P w player lasting
  intro m here
  obtain ⟨row, mem, rfl⟩ := mem_map.mp here
  have there : row ∈ w.tables.mail :=
    mem_of_mem_filter ((mergeSort_perm _ _).mem_iff.mp mem)
  exact .inl ⟨row.entry, .inr ⟨row, there, rfl⟩, Less.refl _⟩

theorem book_logout : Book P (logout w player) := by
  refine book.step P w _ 0 lasting (Nat.le_refl _) ?_ ?_
  · intro player' m here
    change m ∈ ((w.setBox player .unloaded).box player').mails at here
    rw [World.box_setBox] at here
    split at here
    · cases here
    · exact Known.of_mem P w _ 0 player' m here
  · refine knownRow_commit P w _ 0 w.tables _ (w.box player) rfl ?_ ?_
      (fun m here => Known.of_mem P w _ 0 player m here)
    · intro row here
      split at here
      · rcases of_mem_saveStatements here with ⟨_, _, eq⟩ | ⟨_, eq | eq⟩ | ⟨_, eq | eq⟩
        all_goals cases eq
      · cases here
    · intro id hasItems expireTime deliverTime money cod checked here
      split at here
      · exact here
      · cases here

/-- Every request keeps the book, if the new mails of players fit it. -/
theorem book_step {input : Input}
    (fine : ∀ player r receiver items, input = .sendMail player r → w.online player = true →
      checkSend rules w player r = .ok (receiver, items) → P player r.money (toUInt32 r.cod)) :
    Book P (step rules w input).1 := by
  cases input with
  | sendMail player r =>
    simp only [step]
    split
    · rename_i online
      unfold handleSendMail
      cases check : checkSend rules w player r with
      | error out => exact book
      | ok found =>
        exact book_dispatchMail P rules w player lasting book found.1 found.2
          (fine player r found.1 found.2 rfl online check)
    · exact book
  | takeItem player mailId itemId time =>
    simp only [step]
    split
    · exact book_takeItem P rules w player lasting book mailId itemId time
    · exact book
  | takeMoney player mailId money time =>
    simp only [step]
    split
    · exact book_takeMoney P w player lasting book mailId money time
    · exact book
  | returnToSender player mailId time =>
    simp only [step]
    split
    · exact book_returnToSender P rules w player lasting book mailId time
    · exact book
  | markAsRead player mailId =>
    simp only [step]
    split
    · unfold handleMailMarkAsRead
      dsimp only
      split
      · exact book
      apply book.setBox P w player lasting
      exact known_modifyMail P w _ 0 lasting _ (fun m => Less.refl m.entry)
        (fun m here => Known.of_mem P w _ 0 player m here)
    · exact book
  | delete player mailId =>
    have same : ∀ m ∈ (w.box player).mails, ∀ w', Known P w w' 0 m.entry :=
      fun m here w' => Known.of_mem P w w' 0 player m here
    simp only [step]
    split
    · unfold handleMailDelete
      dsimp only
      split
      · exact book.setBox P w player lasting _ (fun m here => same m here _)
      split
      · exact book.setBox P w player lasting _ (fun m here => same m here _)
      apply book.setBox P w player lasting
      exact known_modifyMail P w _ 0 lasting _ (fun m => Less.refl m.entry)
        (fun m here => same m here _)
    · exact book
  | getMailList player =>
    simp only [step]
    split
    · exact book_getMailList P w player lasting book
    · exact book
  | login player =>
    simp only [step]
    split
    · have emptied := book.setBox P w player lasting .unloaded (fun _ none => by cases none)
      exact ⟨emptied.one, emptied.old, emptied.holds⟩
    · exact book
  | logout player =>
    simp only [step]
    split
    · exact book_logout P w player lasting book
    · exact book

end

end

end OpenWoW.Mails
