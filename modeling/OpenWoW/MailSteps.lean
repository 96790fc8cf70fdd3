import OpenWoW.MailHandler

/-! What each request at a mailbox can do. -/
namespace OpenWoW.Mails

open List

abbrev Step := Run.Taken World Input (List Event)

section

variable (rules : Rules) (w : World) (player : Nat)

theorem checkSend_ok {r : SendRequest} {receiver : Nat} {items : List Item}
    (ok : checkSend rules w player r = .ok (receiver, items)) :
    r.items.length ≤ maxMailItems ∧ r.receiver = some receiver ∧ player ≠ receiver ∧
      (w.gameMaster player = false → r.reqmoney ≤ w.money player) := by
  unfold checkSend at ok
  split at ok
  · cases ok
  next few =>
  split at ok
  · cases ok
  split at ok
  · cases ok
  split at ok
  · cases ok
  next found named =>
  split at ok
  · cases ok
  next other =>
  split at ok
  · cases ok
  next covered =>
  split at ok
  · cases ok
  split at ok
  · cases ok
  split at ok
  · cases ok
  split at ok
  · cases ok
  cases ok
  refine ⟨by omega, named, other, ?_⟩
  intro plain
  rw [plain] at covered
  simpa using covered

theorem checkAttachments_not_ok {cod receiver : Nat} {guids : List Nat}
    (refused : checkAttachments w player cod receiver guids = .error .ok) : False := by
  induction guids with
  | nil => cases refused
  | cons guid guids ih =>
    unfold checkAttachments at refused
    split at refused
    · cases refused
    split at refused
    · cases refused
    split at refused
    · cases refused
    split at refused
    · cases refused
    split at refused
    · cases refused
    split at refused
    · cases refused
    split at refused
    · cases refused
    cases tail : checkAttachments w player cod receiver guids with
    | error error =>
      rw [tail] at refused
      cases refused
      exact ih tail
    | ok items =>
      rw [tail] at refused
      cases refused

theorem checkSend_error {r : SendRequest} {out : List Event}
    (refused : checkSend rules w player r = .error out) :
    .mailResult player 0 .send .ok ∉ out ∧ ∀ statements, .commit statements ∉ out := by
  have answer : ∀ error : MailError, error ≠ .ok → [.mailResult player 0 .send error] = out →
      .mailResult player 0 .send .ok ∉ out ∧ ∀ statements, Event.commit statements ∉ out := by
    rintro error wrong rfl
    simp [wrong.symm]
  have quiet : ∀ events : List Event, events = [] ∨ events = [.notification player] →
      events = out → .mailResult player 0 .send .ok ∉ out ∧
        ∀ statements, Event.commit statements ∉ out := by
    rintro events (rfl | rfl) rfl <;> simp
  unfold checkSend at refused
  split at refused
  · exact answer _ (by decide) (Except.error.inj refused)
  split at refused
  · exact quiet _ (.inl rfl) (Except.error.inj refused)
  split at refused
  · exact quiet _ (.inr rfl) (Except.error.inj refused)
  split at refused
  · exact answer _ (by decide) (Except.error.inj refused)
  split at refused
  · exact answer _ (by decide) (Except.error.inj refused)
  split at refused
  · exact answer _ (by decide) (Except.error.inj refused)
  split at refused
  · exact answer _ (by decide) (Except.error.inj refused)
  split at refused
  · exact answer _ (by decide) (Except.error.inj refused)
  split at refused
  · exact quiet _ (.inr rfl) (Except.error.inj refused)
  split at refused
  · rename_i error attachments
    refine answer error ?_ (Except.error.inj refused)
    rintro rfl
    exact checkAttachments_not_ok w player attachments
  · cases refused

theorem usableMail_some (mailId time : Nat) (m : Mail)
    (usable : usableMail w player mailId time = some m) :
    getMail (w.box player) mailId = some m ∧ m.state ≠ .deleted ∧ m.deliverTime ≤ time := by
  obtain ⟨found, fine⟩ := Option.filter_eq_some_iff.mp usable
  exact ⟨found, by simpa using fine⟩

theorem checkTakeItem_ok (mailId itemId time : Nat) (m : Mail) (item : Item) (items : List Item)
    (ok : checkTakeItem rules w player mailId itemId time = .ok (m, item, items)) :
    getMail (w.box player) mailId = some m ∧ m.state ≠ .deleted ∧ m.cod ≤ w.money player ∧
      (w.box player).mItems itemId = some item ∧
      rules.storeItem (w.inventory player) item = .ok items := by
  unfold checkTakeItem at ok
  split at ok
  · cases ok
  next m usable =>
  split at ok
  · cases ok
  next covered =>
  split at ok
  · cases ok
  next item found =>
  split at ok
  · cases ok
  next items stored =>
  cases ok
  obtain ⟨there, live, _⟩ := usableMail_some w player mailId time m usable
  exact ⟨there, live, by omega, found, stored⟩

theorem money_payCOD (m : Mail) (time player' : Nat) :
    (payCOD w player m time).1.money player' =
      if player' = player ∧ 0 < m.cod then
        (Player.modifyMoney (w.money player) (toInt32 (-toInt32 m.cod))).1
      else w.money player' := by
  unfold payCOD
  by_cases cod : 0 < m.cod
  · rw [if_pos cod, World.money_setMoney]
    by_cases same : player' = player
    · rw [if_pos same, if_pos ⟨same, cod⟩]
    have other : ¬ (player' = player ∧ 0 < m.cod) := fun both => same both.1
    rw [if_neg same, if_neg other]
    split <;> simp
  · rw [if_neg cod, if_neg (fun both => cod both.2)]

theorem modifyMoney_cod {money cod : Nat} (small : money < 2 ^ 64)
    (covered : cod ≤ money) (narrow : cod < 2 ^ 31) :
    (Player.modifyMoney money (toInt32 (-toInt32 cod))).1 = money - cod := by
  rw [toInt32_of_lt narrow, toInt32_neg narrow, Player.modifyMoney_charge small covered]

theorem takeItem_cases (mailId itemId time : Nat) :
    (∃ error, handleMailTakeItem rules w player mailId itemId time =
      (w, [.mailResult player mailId .itemTaken error])) ∨
    ∃ m item items, checkTakeItem rules w player mailId itemId time = .ok (m, item, items) := by
  unfold handleMailTakeItem
  cases check : checkTakeItem rules w player mailId itemId time with
  | error error => exact .inl ⟨error, rfl⟩
  | ok found => exact .inr ⟨found.1, found.2.1, found.2.2, rfl⟩

theorem money_takeItem {mailId itemId time : Nat} {m : Mail} {item : Item} {items : List Item}
    (ok : checkTakeItem rules w player mailId itemId time = .ok (m, item, items)) (player' : Nat) :
    (handleMailTakeItem rules w player mailId itemId time).1.money player' =
      (payCOD w player m time).1.money player' := by
  unfold handleMailTakeItem
  rw [ok]
  rfl

theorem takeItem_charge (mailId itemId time : Nat) (m : Mail) (item : Item) (items : List Item)
    (ok : checkTakeItem rules w player mailId itemId time = .ok (m, item, items))
    (small : w.money player < 2 ^ 64) (narrow : m.cod < 2 ^ 31) :
    (handleMailTakeItem rules w player mailId itemId time).1.money player + m.cod =
      w.money player := by
  obtain ⟨_, _, covered, _⟩ := checkTakeItem_ok rules w player mailId itemId time m item items ok
  rw [money_takeItem rules w player ok, money_payCOD]
  split
  · rw [modifyMoney_cod small covered narrow]
    omega
  · omega

structure SameMails (w w₁ : World) : Prop where
  online : w₁.online = w.online
  account : w₁.account = w.account
  box : w₁.box = w.box
  tables : w₁.tables = w.tables
  nextMailId : w₁.nextMailId = w.nextMailId

theorem dispatchMail_eq (r : SendRequest) (receiver : Nat) (items : List Item) :
    ∃ w₁ checked deliverDelay moved, SameMails w w₁ ∧
      (∀ statement ∈ moved, ∃ item : Item, statement = .delInventoryItem item.guid ∨
        statement = .saveItem item receiver) ∧
      dispatchMail rules w player r receiver items =
        ((sendMailTo w₁ (draftOf r items) receiver player checked deliverDelay r.time).1.commit
          (moved ++ (sendMailTo w₁ (draftOf r items) receiver player checked deliverDelay r.time).2
            ++ [.saveInventoryAndGold player]),
         [.mailResult player 0 .send .ok,
          .commit (moved ++
            (sendMailTo w₁ (draftOf r items) receiver player checked deliverDelay r.time).2 ++
            [.saveInventoryAndGold player])]) := by
  refine ⟨_, _, _, _, ?_, ?_, rfl⟩
  · exact ⟨rfl, rfl, rfl, rfl, rfl⟩
  · intro statement here
    obtain ⟨item, _, there⟩ := mem_flatMap.mp here
    rcases mem_cons.mp there with rfl | last
    · exact ⟨item, .inl rfl⟩
    · exact ⟨item, .inr (mem_singleton.mp last)⟩

end

theorem find_modifyMail (mails : List Mail) (id : Nat) (change : Mail → Mail) (m : Mail)
    (keeps : ∀ m, (change m).messageID = m.messageID)
    (found : mails.find? (fun m => m.messageID = id) = some m) :
    (modifyMail id change mails).find? (fun m => m.messageID = id) = some (change m) := by
  induction mails with
  | nil => cases found
  | cons first mails ih =>
    unfold modifyMail
    by_cases same : first.messageID = id
    · have here : first = m := by simpa [same] using found
      simp [here.symm, same, keeps]
    · have later : mails.find? (fun m => m.messageID = id) = some m := by simpa [same] using found
      simp [same, ih later]

theorem mem_modifyMail {mails : List Mail} (id : Nat) (change : Mail → Mail) {m : Mail}
    (here : m ∈ mails) :
    m ∈ modifyMail id change mails ∨ change m ∈ modifyMail id change mails := by
  induction mails with
  | nil => cases here
  | cons first mails ih =>
    unfold modifyMail
    rcases mem_cons.mp here with rfl | later
    · split
      · exact .inr mem_cons_self
      · exact .inl mem_cons_self
    split
    · exact .inl (mem_cons_of_mem _ later)
    rcases ih later with same | changed
    · exact .inl (mem_cons_of_mem _ same)
    · exact .inr (mem_cons_of_mem _ changed)

theorem of_mem_modifyMail {mails : List Mail} {id : Nat} (change : Mail → Mail) {m' : Mail}
    (here : m' ∈ modifyMail id change mails) :
    m' ∈ mails ∨ ∃ m, mails.find? (fun m => m.messageID = id) = some m ∧ m' = change m := by
  induction mails with
  | nil => cases here
  | cons first mails ih =>
    unfold modifyMail at here
    split at here
    · rename_i same
      rcases mem_cons.mp here with rfl | later
      · exact .inr ⟨first, by simp [same], rfl⟩
      · exact .inl (mem_cons_of_mem _ later)
    next other =>
    rcases mem_cons.mp here with rfl | later
    · exact .inl mem_cons_self
    rcases ih later with same | ⟨m, found, changed⟩
    · exact .inl (mem_cons_of_mem _ same)
    · exact .inr ⟨m, by simp [other, found], changed⟩

theorem saved_same (m : Mail) : (saved m).messageID = m.messageID ∧ (saved m).sender = m.sender ∧
    (saved m).money = m.money ∧ (saved m).cod = m.cod ∧ (saved m).items = m.items := by
  unfold saved
  split <;> exact ⟨rfl, rfl, rfl, rfl, rfl⟩

theorem mem_saveMail {box : Mailbox} {m : Mail} (here : m ∈ box.mails) (live : m.state ≠ .deleted) :
    m ∈ (saveMail box).1.mails ∨ saved m ∈ (saveMail box).1.mails := by
  unfold saveMail
  split
  · refine .inr (mem_map.mpr ⟨m, mem_filter.mpr ⟨here, by simpa using live⟩, rfl⟩)
  · exact .inl here

theorem of_mem_saveMail {box : Mailbox} {m' : Mail} (here : m' ∈ (saveMail box).1.mails) :
    ∃ m ∈ box.mails, m' = m ∨ m' = saved m := by
  unfold saveMail at here
  split at here
  · obtain ⟨m, mem, rfl⟩ := mem_map.mp here
    exact ⟨m, mem_of_mem_filter mem, .inr rfl⟩
  · exact ⟨m', here, .inl rfl⟩

theorem of_mem_saveStatements {box : Mailbox} {statement : Statement}
    (here : statement ∈ (saveMail box).2) :
    (∃ m ∈ box.mails, statement = .updMail m.messageID m.hasItems (toUInt32 m.expireTime)
      (toUInt32 m.deliverTime) (toUInt32 m.money) (toUInt32 m.cod) (toUInt8 m.checked)) ∨
    (∃ guid, statement = .delMailItem guid ∨ statement = .delItemInstance guid) ∨
    ∃ id, statement = .delMailById id ∨ statement = .delMailItemById id := by
  unfold saveMail at here
  split at here
  · obtain ⟨m, mem, there⟩ := mem_flatMap.mp here
    unfold saveStatements at there
    split at there
    · cases there
    · rcases mem_cons.mp there with rfl | removed
      · exact .inl ⟨m, mem, rfl⟩
      · obtain ⟨guid, _, rfl⟩ := mem_map.mp removed
        exact .inr (.inl ⟨guid, .inl rfl⟩)
    rcases mem_append.mp there with items | deleted
    · obtain ⟨info, _, rfl⟩ := mem_map.mp items
      exact .inr (.inl ⟨_, .inr rfl⟩)
    rcases mem_cons.mp deleted with rfl | last
    · exact .inr (.inr ⟨_, .inl rfl⟩)
    · rw [mem_singleton.mp last]
      exact .inr (.inr ⟨_, .inr rfl⟩)
  · cases here

/-- Where a row of `mail` can come from, and its amounts. -/
theorem mem_commit (tables : Tables) {statements : List Statement} {row' : MailRow}
    (here : row' ∈ (tables.commit statements).mail) :
    ∃ row, (row ∈ tables.mail ∨ .insMail row ∈ statements) ∧ row'.id = row.id ∧
      row'.sender = row.sender ∧
      (row'.money = row.money ∧ row'.cod = row.cod ∨
        ∃ hasItems expireTime deliverTime checked,
          .updMail row.id hasItems expireTime deliverTime row'.money row'.cod checked ∈ statements) := by
  induction statements generalizing tables with
  | nil => exact ⟨row', .inl here, rfl, rfl, .inl ⟨rfl, rfl⟩⟩
  | cons statement statements ih =>
    obtain ⟨row, source, id, sender, amounts⟩ := ih (tables.execute statement) here
    have later : ∀ row₀ : MailRow, row₀.id = row.id →
        (∃ hasItems expireTime deliverTime checked,
          .updMail row.id hasItems expireTime deliverTime row'.money row'.cod checked ∈ statements) →
        ∃ hasItems expireTime deliverTime checked,
          .updMail row₀.id hasItems expireTime deliverTime row'.money row'.cod checked ∈
            statement :: statements := by
      rintro row₀ same ⟨hasItems, expireTime, deliverTime, checked, mem⟩
      exact ⟨hasItems, expireTime, deliverTime, checked, by rw [same]; exact mem_cons_of_mem _ mem⟩
    have plain : (row ∈ tables.mail ∨ .insMail row ∈ statement :: statements) →
        ∃ row, (row ∈ tables.mail ∨ .insMail row ∈ statement :: statements) ∧ row'.id = row.id ∧
          row'.sender = row.sender ∧
          (row'.money = row.money ∧ row'.cod = row.cod ∨
            ∃ hasItems expireTime deliverTime checked,
              .updMail row.id hasItems expireTime deliverTime row'.money row'.cod checked ∈
                statement :: statements) := by
      intro source
      exact ⟨row, source, id, sender, amounts.imp_right (later row rfl)⟩
    rcases source with there | inserted
    · cases statement with
      | insMail new =>
        rcases mem_cons.mp there with rfl | old
        · exact plain (.inr mem_cons_self)
        · exact plain (.inl old)
      | updMail number hasItems expireTime deliverTime money cod checked =>
        obtain ⟨row₀, mem, rfl⟩ := mem_map.mp there
        by_cases same : row₀.id = number
        · rw [if_pos same] at id sender amounts
          refine ⟨row₀, .inl mem, id, sender, .inr ?_⟩
          rcases amounts with ⟨money', cod'⟩ | updated
          · refine ⟨hasItems, expireTime, deliverTime, checked, ?_⟩
            rw [money', cod', same]
            exact mem_cons_self
          · rw [if_pos same] at later
            exact later row₀ rfl updated
        · rw [if_neg same] at plain
          exact plain (.inl mem)
      | delMailById number => exact plain (.inl (mem_of_mem_filter there))
      | _ => exact plain (.inl there)
    · exact plain (.inr (mem_cons_of_mem _ inserted))

theorem getMail_saveMail (box : Mailbox) (id : Nat) (m : Mail) (found : getMail box id = some m)
    (live : m.state ≠ .deleted) :
    ∃ m', getMail (saveMail box).1 id = some m' ∧ (m' = m ∨ m' = saved m) := by
  unfold saveMail
  split
  · refine ⟨saved m, ?_, .inr rfl⟩
    unfold getMail at found ⊢
    generalize box.mails = mails at found
    induction mails with
    | nil => cases found
    | cons first mails ih =>
      by_cases same : first.messageID = id
      · have here : first = m := by simpa [same] using found
        subst here
        rw [filter_cons_of_pos (by simpa using live), map_cons,
          find?_cons_of_pos (by simp [(saved_same _).1, same])]
      have later : mails.find? (fun m => m.messageID = id) = some m := by simpa [same] using found
      by_cases dead : first.state = .deleted
      · simpa [dead] using ih later
      · simpa [dead, (saved_same first).1, same] using ih later
  · exact ⟨m, found, .inl rfl⟩

def plainRules : Rules where
  mailLevelReq := 1
  mailDeliveryDelay := 3600
  level := fun _ => 10
  team := fun _ => 469
  twoSideMail := fun _ => false
  storeItem := fun items item => .ok (item :: items)

end OpenWoW.Mails
