import Mathlib.Data.List.Nodup
import OpenWoW.MailSteps

/-! Items in a mailbox: each is listed by one mail until it is taken. -/
namespace OpenWoW.Mails

open List Function

def Mail.guids (m : Mail) : List Nat := m.items.map (·.itemGuid)

def listed (mails : List Mail) : List Nat := mails.flatMap Mail.guids

def live (mails : List Mail) : List Mail := mails.filter fun m => m.state ≠ .deleted

/-- What is asked of a run. -/
structure ItemsKept (rules : Rules) (steps : List Step) : Prop where
  one : ∀ t ∈ steps, ∀ player guid, ((t.after.box player).mItems guid).isSome →
    guid ∈ listed (live (t.after.box player).mails) →
    (listed (live (t.after.box player).mails)).count guid = 1
  entered : ∀ t ∈ steps, ∀ player, t.after.inventory player ≠ t.before.inventory player →
    ∃ mailId guid item, .itemTaken player mailId guid item.count ∈ t.out ∧
      (t.before.box player).mItems guid = some item ∧ item.guid = guid ∧
      rules.storeItem (t.before.inventory player) item = .ok (t.after.inventory player)
  paid : ∀ t ∈ steps, ∀ player mailId guid count, .itemTaken player mailId guid count ∈ t.out →
    ∀ m ∈ live (t.before.box player).mails, guid ∈ m.guids → 0 < m.cod →
    t.after.money player + m.cod = t.before.money player
  taken : ∀ pre t post, steps = pre ++ t :: post → ∀ player mailId guid count,
    .itemTaken player mailId guid count ∈ t.out →
    ∀ t' ∈ t :: post, ∀ player', guid ∉ listed (t'.after.box player').mails
  deleted : ∀ t ∈ steps, ∀ player, ∀ m ∈ (t.before.box player).mails, m.state = .deleted →
    ∀ m' ∈ (t.after.box player).mails, m'.messageID = m.messageID → m'.state = .deleted

/-- An item that is taken is listed by the mail it is taken through, whose COD fits 31 bits, and
a mail that is marked as read is not deleted. -/
def Paired (rules : Rules) (w : World) : Input → Prop
  | .takeItem player mailId itemId time => ∀ m item items,
      checkTakeItem rules w player mailId itemId time = .ok (m, item, items) →
      itemId ∈ m.guids ∧ m.cod < 2 ^ 31
  | .markAsRead player mailId =>
    ∀ m ∈ getMail (w.box player) mailId, m.state ≠ .deleted
  | _ => True

/-- The five requests about the mails in a mailbox. -/
def Input.atMailbox : Input → Bool
  | .takeItem _ _ _ _ => true
  | .takeMoney _ _ _ _ => true
  | .returnToSender _ _ _ => true
  | .delete _ _ => true
  | .markAsRead _ _ => true
  | _ => false

/-- Mailboxes as they are loaded: mails have their own numbers, no item is listed twice, and
the item map finds items under their guids. -/
structure Sound (w : World) : Prop where
  numbered : ∀ player, ((w.box player).mails.map (·.messageID)).Nodup
  fresh : ∀ player, ∀ m ∈ (w.box player).mails, m.messageID < w.nextMailId
  once : ∀ player guid, (listed (w.box player).mails).count guid ≤ 1
  apart : ∀ player player' guid, guid ∈ listed (w.box player).mails →
    guid ∈ listed (w.box player').mails → player = player'
  keys : ∀ player guid item, (w.box player).mItems guid = some item → item.guid = guid
  wallets : ∀ player, w.money player < 2 ^ 64

theorem mem_listed (mails : List Mail) (guid : Nat) :
    guid ∈ listed mails ↔ ∃ m ∈ mails, guid ∈ m.guids :=
  mem_flatMap

variable (guid : Nat) (change : Mail → Mail) (box : Mailbox) (m : Mail)

theorem count_listed_cons (mails : List Mail) (guid : Nat) :
    (listed (m :: mails)).count guid = m.guids.count guid + (listed mails).count guid := by
  simp [listed, count_append]

variable {mails : List Mail}

theorem listed_sublist {mails' : List Mail} (sub : List.Sublist mails mails') :
    List.Sublist (listed mails) (listed mails') := by
  induction sub with
  | slnil => exact List.Sublist.refl _
  | cons m _ ih => exact ih.trans (sublist_append_right _ _)
  | cons_cons m _ ih => exact ih.append_left _

theorem mail_unique {guid : Nat} (once : (listed mails).count guid ≤ 1)
    {m m' : Mail} (here : m ∈ mails) (here' : m' ∈ mails) (lists : guid ∈ m.guids)
    (lists' : guid ∈ m'.guids) : m = m' := by
  induction mails with
  | nil => cases here
  | cons first mails ih =>
    rw [count_listed_cons] at once
    have later : ∀ m ∈ mails, guid ∈ m.guids → 0 < (listed mails).count guid :=
      fun m mem lists => count_pos_iff.mpr ((mem_listed mails guid).mpr ⟨m, mem, lists⟩)
    rcases mem_cons.mp here with rfl | rest
    · rcases mem_cons.mp here' with rfl | rest'
      · rfl
      · have := count_pos_iff.mpr lists
        have := later m' rest' lists'
        omega
    · rcases mem_cons.mp here' with rfl | rest'
      · have := count_pos_iff.mpr lists'
        have := later m rest lists
        omega
      · exact ih (by omega) rest rest'

theorem count_listed_eraseP {id : Nat} {m : Mail}
    (found : mails.find? (fun m => m.messageID = id) = some m) :
    (listed (mails.eraseP fun m => m.messageID = id)).count guid + m.guids.count guid =
      (listed mails).count guid := by
  induction mails with
  | nil => cases found
  | cons first mails ih =>
    by_cases same : first.messageID = id
    · have here : first = m := by simpa [same] using found
      subst here
      rw [eraseP_cons_of_pos (by simpa using same), count_listed_cons]
      omega
    have later : mails.find? (fun m => m.messageID = id) = some m := by simpa [same] using found
    rw [eraseP_cons_of_neg (by simpa using same), count_listed_cons, count_listed_cons,
      ← ih later]
    omega

theorem count_listed_modifyMail {id : Nat} {m : Mail}
    (found : mails.find? (fun m => m.messageID = id) = some m) :
    (listed (modifyMail id change mails)).count guid + m.guids.count guid =
      (listed mails).count guid + (change m).guids.count guid := by
  induction mails with
  | nil => cases found
  | cons first mails ih =>
    unfold modifyMail
    by_cases same : first.messageID = id
    · have here : first = m := by simpa [same] using found
      subst here
      rw [if_pos same, count_listed_cons, count_listed_cons]
      omega
    have later : mails.find? (fun m => m.messageID = id) = some m := by simpa [same] using found
    rw [if_neg same, count_listed_cons, count_listed_cons]
    have := ih later
    omega

theorem map_messageID_modifyMail (mails : List Mail) (id : Nat) (change : Mail → Mail)
    (keeps : ∀ m, (change m).messageID = m.messageID) :
    (modifyMail id change mails).map (·.messageID) = mails.map (·.messageID) := by
  induction mails with
  | nil => rfl
  | cons first mails ih =>
    unfold modifyMail
    split
    · rw [map_cons, map_cons, keeps]
    · rw [map_cons, map_cons, ih]

theorem saved_guids : (saved m).guids = m.guids := by
  unfold Mail.guids
  rw [(saved_same m).2.2.2.2]

theorem listed_map_saved (mails : List Mail) : listed (mails.map saved) = listed mails := by
  unfold listed
  rw [flatMap_map]
  congr 1
  funext m
  exact saved_guids m

theorem saveMail_sublist :
    List.Sublist (listed (saveMail box).1.mails) (listed box.mails) ∧
    List.Sublist ((saveMail box).1.mails.map (·.messageID)) (box.mails.map (·.messageID)) := by
  unfold saveMail
  split
  · dsimp only
    rw [listed_map_saved, map_map]
    refine ⟨listed_sublist filter_sublist, ?_⟩
    have same : ((·.messageID) ∘ saved : Mail → Nat) = (·.messageID) := by
      funext m
      exact (saved_same m).1
    rw [same]
    exact filter_sublist.map _
  · exact ⟨List.Sublist.refl _, List.Sublist.refl _⟩

/-- No mail is new, nothing more is listed, and deleted mails stay so. -/
structure Shrinks (box box' : Mailbox) : Prop where
  numbers : List.Sublist (box'.mails.map (·.messageID)) (box.mails.map (·.messageID))
  items : ∀ guid, (listed box'.mails).count guid ≤ (listed box.mails).count guid
  keys : ∀ guid item, box'.mItems guid = some item → box.mItems guid = some item
  states : ∀ m' ∈ box'.mails, ∃ m ∈ box.mails, m.messageID = m'.messageID ∧
    (m.state = .deleted → m'.state = .deleted)

theorem Shrinks.trans {box box₁ box₂ : Mailbox} (first : Shrinks box box₁)
    (second : Shrinks box₁ box₂) : Shrinks box box₂ := by
  refine ⟨second.numbers.trans first.numbers,
    fun guid => Nat.le_trans (second.items guid) (first.items guid),
    fun guid item there => first.keys guid item (second.keys guid item there), ?_⟩
  intro m' here
  obtain ⟨m₁, mem₁, id₁, state₁⟩ := second.states m' here
  obtain ⟨m, mem, id, state⟩ := first.states m₁ mem₁
  exact ⟨m, mem, id.trans id₁, fun dead => state₁ (state dead)⟩

theorem shrinks_saveMail : Shrinks box (saveMail box).1 := by
  obtain ⟨items, numbers⟩ := saveMail_sublist box
  refine ⟨numbers, fun guid => items.count_le guid, ?_, ?_⟩
  · intro guid item there
    unfold saveMail at there
    split at there
    · exact there
    · exact there
  · intro m' here
    obtain ⟨m, mem, same | after⟩ := of_mem_saveMail here
    · exact ⟨m, mem, by rw [same], by rw [same]; exact fun dead => dead⟩
    · refine ⟨m, mem, by rw [after, (saved_same m).1], ?_⟩
      intro dead
      rw [after, saved, dead]
      exact dead

theorem shrinks_modifyMail {box box' : Mailbox} {id : Nat} {m : Mail}
    (found : getMail box id = some m) (mails : box'.mails = modifyMail id change box.mails)
    (keys : ∀ guid item, box'.mItems guid = some item → box.mItems guid = some item)
    (numbers : ∀ m, (change m).messageID = m.messageID)
    (less : ∀ guid, (change m).guids.count guid ≤ m.guids.count guid)
    (state : m.state = .deleted → (change m).state = .deleted) : Shrinks box box' := by
  refine ⟨?_, ?_, keys, ?_⟩
  · rw [mails, map_messageID_modifyMail box.mails id change numbers]
  · intro guid
    have counts := count_listed_modifyMail guid change found
    have := less guid
    rw [mails]
    omega
  · intro m' here
    rw [mails] at here
    rcases of_mem_modifyMail change here with same | ⟨m₀, there, rfl⟩
    · exact ⟨m', same, rfl, fun dead => dead⟩
    have : m₀ = m := Option.some.inj (there.symm.trans found)
    subst this
    exact ⟨m₀, mem_of_find?_eq_some found, (numbers m₀).symm, state⟩

theorem shrinks_eraseP (box' : Mailbox) (id : Nat) (m : Mail) (found : getMail box id = some m)
    (mails : box'.mails = box.mails.eraseP fun m => m.messageID = id)
    (keys : ∀ guid item, box'.mItems guid = some item → box.mItems guid = some item) :
    Shrinks box box' := by
  refine ⟨?_, ?_, keys, ?_⟩
  · rw [mails]
    exact eraseP_sublist.map _
  · intro guid
    have counts := count_listed_eraseP guid found
    rw [mails]
    omega
  · intro m' here
    rw [mails] at here
    exact ⟨m', mem_of_mem_eraseP here, rfl, fun dead => dead⟩

/-- A later world: it is sound, and its mails are old ones or new ones. -/
structure Kept (w w' : World) : Prop where
  sound : Sound w'
  next : w.nextMailId ≤ w'.nextMailId
  follows : ∀ player, ∀ m' ∈ (w'.box player).mails,
    (∃ m ∈ (w.box player).mails, m.messageID = m'.messageID ∧
      (m.state = .deleted → m'.state = .deleted)) ∨ w.nextMailId ≤ m'.messageID

def Unlisted (w : World) (guid : Nat) : Prop := ∀ player, guid ∉ listed (w.box player).mails

theorem Kept.refl {w : World} (sound : Sound w) : Kept w w :=
  ⟨sound, Nat.le_refl _, fun _ m here => .inl ⟨m, here, rfl, fun dead => dead⟩⟩

theorem Kept.trans (w w₁ w₂ : World) (first : Kept w w₁) (second : Kept w₁ w₂) : Kept w w₂ := by
  refine ⟨second.sound, Nat.le_trans first.next second.next, ?_⟩
  intro player m' here
  rcases second.follows player m' here with ⟨m₁, mem₁, id₁, state₁⟩ | new
  · rcases first.follows player m₁ mem₁ with ⟨m, mem, id, state⟩ | new
    · exact .inl ⟨m, mem, id.trans id₁, fun dead => state₁ (state dead)⟩
    · exact .inr (id₁ ▸ new)
  · exact .inr (Nat.le_trans first.next new)

theorem Kept.deleted {w w' : World} (sound : Sound w) (kept : Kept w w') {player : Nat} {m : Mail}
    (here : m ∈ (w.box player).mails) (dead : m.state = .deleted) {m' : Mail}
    (here' : m' ∈ (w'.box player).mails) (same : m'.messageID = m.messageID) :
    m'.state = .deleted := by
  rcases kept.follows player m' here' with ⟨m₀, mem, id, state⟩ | new
  · have one : m₀ = m :=
      inj_on_of_nodup_map (sound.numbered player) mem here (id.trans same)
    rw [one] at state
    exact state dead
  · have := sound.fresh player m here
    omega

theorem kept_setBox (w : World) (sound : Sound w) (player : Nat) (box : Mailbox)
    (shrinks : Shrinks (w.box player) box) :
    Kept w (w.setBox player box) ∧ ∀ guid, Unlisted w guid → Unlisted (w.setBox player box) guid := by
  have less : ∀ player' guid, (listed ((w.setBox player box).box player').mails).count guid ≤
      (listed (w.box player').mails).count guid := by
    intro player' guid
    rw [World.box_setBox]
    split
    · rename_i same
      rw [same]
      exact shrinks.items guid
    · exact Nat.le_refl _
  have listed_before : ∀ player' guid, guid ∈ listed ((w.setBox player box).box player').mails →
      guid ∈ listed (w.box player').mails := by
    intro player' guid here
    have := less player' guid
    have := count_pos_iff.mpr here
    exact count_pos_iff.mp (by omega)
  have follows : ∀ player', ∀ m' ∈ ((w.setBox player box).box player').mails,
      ∃ m ∈ (w.box player').mails, m.messageID = m'.messageID ∧
        (m.state = .deleted → m'.state = .deleted) := by
    intro player' m' here
    rw [World.box_setBox] at here
    split at here
    · rename_i same
      rw [same]
      exact shrinks.states m' here
    · exact ⟨m', here, rfl, fun dead => dead⟩
  refine ⟨⟨⟨?_, ?_, ?_, ?_, ?_, sound.wallets⟩, Nat.le_refl _, ?_⟩, ?_⟩
  · intro player'
    rw [World.box_setBox]
    split
    · exact (sound.numbered player).sublist shrinks.numbers
    · exact sound.numbered player'
  · intro player' m' here
    obtain ⟨m, mem, id, _⟩ := follows player' m' here
    rw [← id]
    exact sound.fresh player' m mem
  · intro player' guid
    exact Nat.le_trans (less player' guid) (sound.once player' guid)
  · intro player' player'' guid here here'
    exact sound.apart player' player'' guid (listed_before _ _ here) (listed_before _ _ here')
  · intro player' guid item there
    rw [World.box_setBox] at there
    split at there
    · exact sound.keys player guid item (shrinks.keys guid item there)
    · exact sound.keys player' guid item there
  · intro player' m' here
    exact .inl (follows player' m' here)
  · intro guid unlisted player' here
    exact unlisted player' (listed_before player' guid here)

theorem kept_same (w w' : World) (sound : Sound w) (box : w'.box = w.box)
    (next : w'.nextMailId = w.nextMailId) (wallets : ∀ player, w'.money player < 2 ^ 64) :
    Kept w w' ∧ ∀ guid, Unlisted w guid → Unlisted w' guid := by
  refine ⟨⟨⟨?_, ?_, ?_, ?_, ?_, wallets⟩, Nat.le_of_eq next.symm, ?_⟩, ?_⟩
  · rw [box]
    exact sound.numbered
  · rw [box, next]
    exact sound.fresh
  · rw [box]
    exact sound.once
  · rw [box]
    exact sound.apart
  · rw [box]
    exact sound.keys
  · rw [box]
    exact fun _ m here => .inl ⟨m, here, rfl, fun dead => dead⟩
  · intro guid unlisted
    unfold Unlisted
    rw [box]
    exact unlisted

def Ordered (items : List Item) : Prop := items.Pairwise fun a b => a.guid < b.guid

variable {items : List Item}

theorem of_mem_insertItem {item : Item} {found : Item}
    (here : found ∈ MailDraft.insertItem item items) : found = item ∨ found ∈ items := by
  induction items with
  | nil => exact .inl (mem_singleton.mp here)
  | cons head rest ih =>
    unfold MailDraft.insertItem at here
    split at here
    · exact mem_cons.mp here
    split at here
    · exact (mem_cons.mp here).imp_right (mem_cons_of_mem head)
    rcases mem_cons.mp here with first | later
    · exact .inr (first ▸ mem_cons_self)
    · exact (ih later).imp_right (mem_cons_of_mem head)

theorem insertItem_ordered (item : Item) (ordered : Ordered items) :
    Ordered (MailDraft.insertItem item items) := by
  induction items with
  | nil => exact pairwise_singleton _ item
  | cons head rest ih =>
    obtain ⟨least, later⟩ := pairwise_cons.mp ordered
    unfold MailDraft.insertItem
    split
    · rename_i smaller
      refine pairwise_cons.mpr ⟨?_, ordered⟩
      intro found here
      rcases mem_cons.mp here with rfl | there
      · exact smaller
      · have := least found there
        omega
    split
    · rename_i same
      refine pairwise_cons.mpr ⟨?_, later⟩
      intro found there
      have := least found there
      omega
    · rename_i notSmaller other
      refine pairwise_cons.mpr ⟨?_, ih later⟩
      intro found here
      rcases of_mem_insertItem here with rfl | there
      · omega
      · exact least found there

theorem Ordered.count_le_one (ordered : Ordered items) (guid : Nat) :
    (items.map (·.guid)).count guid ≤ 1 := by
  apply nodup_iff_count_le_one.mp
  refine List.Pairwise.map (·.guid) ?_ ordered
  intro a b less same
  omega

theorem returnDraft_items {box : Mailbox}
    (keys : ∀ guid item, box.mItems guid = some item → item.guid = guid) :
    Ordered (returnDraft box m).items ∧
      ∀ item ∈ (returnDraft box m).items, item.guid ∈ m.guids := by
  have fold : ∀ (infos : List MailItemInfo) (draft : MailDraft), infos ⊆ m.items →
      Ordered draft.items → (∀ item ∈ draft.items, item.guid ∈ m.guids) →
      Ordered (infos.foldl (fun draft info =>
        (box.mItems info.itemGuid).elim draft draft.addItem) draft).items ∧
      ∀ item ∈ (infos.foldl (fun draft info =>
        (box.mItems info.itemGuid).elim draft draft.addItem) draft).items, item.guid ∈ m.guids := by
    intro infos
    induction infos with
    | nil => exact fun draft _ ordered within => ⟨ordered, within⟩
    | cons info infos ih =>
      intro draft sub ordered within
      rw [foldl_cons]
      apply ih _ (fun info' there => sub (mem_cons_of_mem info there))
      · cases box.mItems info.itemGuid with
        | none => exact ordered
        | some item => exact insertItem_ordered _ ordered
      · cases found : box.mItems info.itemGuid with
        | none => exact within
        | some item =>
          intro found' here
          rcases of_mem_insertItem here with rfl | there
          · rw [keys info.itemGuid found' found]
            exact mem_map.mpr ⟨info, sub mem_cons_self, rfl⟩
          · exact within found' there
  rw [returnDraft_eq]
  exact fold m.items MailDraft.empty (List.Subset.refl _) List.Pairwise.nil
    (fun _ none => by cases none)

theorem addMItems_some (mItems : Nat → Option Item) {guid : Nat} {item : Item}
    (found : addMItems items mItems guid = some item) :
    item.guid = guid ∨ mItems guid = some item := by
  unfold addMItems at found
  induction items generalizing mItems with
  | nil => exact .inr found
  | cons first items ih =>
    rw [foldl_cons] at found
    rcases ih _ found with same | before
    · exact .inl same
    rw [update_apply] at before
    split at before
    · rename_i here
      cases before
      exact .inl here.symm
    · exact .inr before

theorem newMail_guids (w : World) (draft : MailDraft)
    (receiver sender checked deliverDelay time : Nat) :
    (newMail w draft receiver sender checked deliverDelay time).guids =
      draft.items.map (·.guid) := by
  simp [Mail.guids, newMail]

/-- A draft whose items no mail lists becomes a mail that lists them. -/
theorem kept_sendMailTo (w : World) (sound : Sound w) (draft : MailDraft)
    (receiver sender checked deliverDelay time : Nat) (ordered : Ordered draft.items)
    (new : ∀ item ∈ draft.items, Unlisted w item.guid) :
    Kept w (sendMailTo w draft receiver sender checked deliverDelay time).1 ∧
    ∀ guid, Unlisted w guid → guid ∉ draft.items.map (·.guid) →
      Unlisted (sendMailTo w draft receiver sender checked deliverDelay time).1 guid := by
  generalize after : (sendMailTo w draft receiver sender checked deliverDelay time).1 = w'
  have next : w'.nextMailId = w.nextMailId + 1 := by rw [← after, sendMailTo_nextMailId]
  have money : w'.money = w.money := by rw [← after, sendMailTo_money]
  generalize mail' : newMail w draft receiver sender checked deliverDelay time = mail
  have number : mail.messageID = w.nextMailId := by
    rw [← mail']
    rfl
  have guids : mail.guids = draft.items.map (·.guid) := by rw [← mail', newMail_guids]
  have boxes : ∀ player, w'.box player = w.box player ∨
      player = receiver ∧ (w'.box player).mails = mail :: (w.box player).mails ∧
        (w'.box player).mItems = addMItems draft.items (w.box player).mItems := by
    intro player
    rw [← after, box_sendMailTo]
    split
    · rename_i loaded
      rw [loaded.1, mail']
      exact .inr ⟨rfl, rfl, rfl⟩
    · exact .inl rfl
  have listed_after : ∀ player guid, guid ∈ listed (w'.box player).mails →
      guid ∈ listed (w.box player).mails ∨ player = receiver ∧ guid ∈ draft.items.map (·.guid) := by
    intro player guid here
    rcases boxes player with same | ⟨to', mails, _⟩
    · rw [same] at here
      exact .inl here
    rw [mails, listed, flatMap_cons, guids] at here
    rcases mem_append.mp here with sent | before
    · exact .inr ⟨to', sent⟩
    · exact .inl before
  have unlisted : ∀ guid ∈ draft.items.map (·.guid), Unlisted w guid := by
    intro guid here
    obtain ⟨item, mem, rfl⟩ := mem_map.mp here
    exact new item mem
  refine ⟨⟨⟨?_, ?_, ?_, ?_, ?_, ?_⟩, by omega, ?_⟩, ?_⟩
  · intro player
    rcases boxes player with same | ⟨_, mails, _⟩
    · rw [same]
      exact sound.numbered player
    rw [mails, map_cons, number]
    refine nodup_cons.mpr ⟨?_, sound.numbered player⟩
    intro here
    obtain ⟨m, mem, id⟩ := mem_map.mp here
    have := sound.fresh player m mem
    omega
  · intro player m here
    rcases boxes player with same | ⟨_, mails, _⟩
    · rw [same] at here
      have := sound.fresh player m here
      omega
    rw [mails] at here
    rcases mem_cons.mp here with rfl | before
    · omega
    · have := sound.fresh player m before
      omega
  · intro player guid
    rcases boxes player with same | ⟨_, mails, _⟩
    · rw [same]
      exact sound.once player guid
    rw [mails, count_listed_cons, guids]
    by_cases sent : guid ∈ draft.items.map (·.guid)
    · have := ordered.count_le_one guid
      have := count_eq_zero_of_not_mem (unlisted guid sent player)
      omega
    · rw [count_eq_zero_of_not_mem sent, Nat.zero_add]
      exact sound.once player guid
  · intro player player' guid here here'
    rcases listed_after player guid here with before | ⟨to₁, sent⟩
    · rcases listed_after player' guid here' with before' | ⟨_, sent'⟩
      · exact sound.apart player player' guid before before'
      · exact absurd before (unlisted guid sent' player)
    rcases listed_after player' guid here' with before' | ⟨to₂, _⟩
    · exact absurd before' (unlisted guid sent player')
    · rw [to₁, to₂]
  · intro player guid item found
    rcases boxes player with same | ⟨_, _, mItems⟩
    · rw [same] at found
      exact sound.keys player guid item found
    rw [mItems] at found
    rcases addMItems_some _ found with same | before
    · exact same
    · exact sound.keys player guid item before
  · rw [money]
    exact sound.wallets
  · intro player m here
    rcases boxes player with same | ⟨_, mails, _⟩
    · rw [same] at here
      exact .inl ⟨m, here, rfl, fun dead => dead⟩
    rw [mails] at here
    rcases mem_cons.mp here with rfl | before
    · exact .inr (Nat.le_of_eq number.symm)
    · exact .inl ⟨m, before, rfl, fun dead => dead⟩
  · intro guid before notSent player here
    rcases listed_after player guid here with there | ⟨_, sent⟩
    · exact before player there
    · exact notSent sent

section

variable (rules : Rules) (w : World) (player : Nat)

variable {mailId : Nat}

theorem kept_markAsRead (sound : Sound w) (paired : Paired rules w (.markAsRead player mailId)) :
    Kept w (handleMailMarkAsRead w player mailId).1 ∧
    ∀ guid, Unlisted w guid → Unlisted (handleMailMarkAsRead w player mailId).1 guid := by
  unfold handleMailMarkAsRead
  dsimp only
  split
  · exact ⟨Kept.refl sound, fun _ unlisted => unlisted⟩
  next m found =>
  apply kept_setBox w sound player
  exact shrinks_modifyMail _ found rfl (fun _ _ there => there) (fun _ => rfl)
    (fun _ => Nat.le_refl _) (fun dead => absurd dead (paired m found))

theorem kept_delete (sound : Sound w) (mailId : Nat) :
    Kept w (handleMailDelete w player mailId).1 ∧
    ∀ guid, Unlisted w guid → Unlisted (handleMailDelete w player mailId).1 guid := by
  have same : Shrinks (w.box player) { w.box player with mailsUpdated := true } :=
    ⟨List.Sublist.refl _, fun _ => Nat.le_refl _, fun _ _ there => there,
      fun m here => ⟨m, here, rfl, fun dead => dead⟩⟩
  unfold handleMailDelete
  dsimp only
  split
  · exact kept_setBox w sound player _ same
  next m found =>
  split
  · exact kept_setBox w sound player _ same
  apply kept_setBox w sound player
  exact shrinks_modifyMail _ found rfl (fun _ _ there => there) (fun _ => rfl)
    (fun _ => Nat.le_refl _) (fun _ => rfl)

theorem kept_takeMoney (sound : Sound w) (mailId money time : Nat) :
    Kept w (handleMailTakeMoney w player mailId money time).1 ∧
    ∀ guid, Unlisted w guid → Unlisted (handleMailTakeMoney w player mailId money time).1 guid := by
  unfold handleMailTakeMoney
  dsimp only
  split
  · exact ⟨Kept.refl sound, fun _ unlisted => unlisted⟩
  next m usable =>
  split
  · exact ⟨Kept.refl sound, fun _ unlisted => unlisted⟩
  split
  · exact ⟨Kept.refl sound, fun _ unlisted => unlisted⟩
  obtain ⟨found, alive, _⟩ := usableMail_some w player mailId time m usable
  have modified : Shrinks (w.box player) { w.box player with
      mails := modifyMail mailId (fun m => { m with money := 0, state := .changed })
        (w.box player).mails
      mailsUpdated := true } :=
    shrinks_modifyMail _ found rfl (fun _ _ there => there) (fun _ => rfl)
      (fun _ => Nat.le_refl _) (fun dead => absurd dead alive)
  obtain ⟨kept, unlisted⟩ := kept_setBox w sound player _ (modified.trans (shrinks_saveMail _))
  have wallets : ∀ player', Function.update w.money player
      (Player.modifyMoney (w.money player) (toInt64 m.money)).1 player' < 2 ^ 64 := by
    intro player'
    rw [update_apply]
    split
    · exact Player.modifyMoney_lt _ _ (sound.wallets player)
    · exact sound.wallets player'
  obtain ⟨kept', unlisted'⟩ := kept_same (w.setBox player _)
    (((w.setBox player _).setMoney player _).commit _) kept.sound rfl rfl wallets
  exact ⟨kept.trans _ _ _ kept', fun guid before => unlisted' guid (unlisted guid before)⟩

theorem kept_returnToSender (sound : Sound w) (mailId time : Nat) :
    Kept w (handleMailReturnToSender rules w player mailId time).1 ∧
    ∀ guid, Unlisted w guid →
      Unlisted (handleMailReturnToSender rules w player mailId time).1 guid := by
  unfold handleMailReturnToSender
  split
  · exact ⟨Kept.refl sound, fun _ unlisted => unlisted⟩
  next m usable =>
  obtain ⟨found, _, _⟩ := usableMail_some w player mailId time m usable
  have mem : m ∈ (w.box player).mails := mem_of_find?_eq_some found
  dsimp only
  split
  · generalize emptied' : ({ w.box player with
      mails := (w.box player).mails.eraseP fun m => m.messageID = mailId
      mItems := fun guid => if m.items.any (fun info => info.itemGuid = guid) then none
        else (w.box player).mItems guid } : Mailbox) = emptied
    have mails : emptied.mails = (w.box player).mails.eraseP fun m => m.messageID = mailId := by
      rw [← emptied']
    have shrinks : Shrinks (w.box player) emptied := by
      refine shrinks_eraseP _ _ mailId m found mails ?_
      intro guid item there
      rw [← emptied'] at there
      dsimp only at there
      split at there
      · cases there
      · exact there
    obtain ⟨kept, unlisted⟩ := kept_setBox w sound player emptied shrinks
    obtain ⟨ordered, within⟩ := returnDraft_items m (sound.keys player)
    -- what the returned mail listed is listed by no mail now
    have free : ∀ guid ∈ m.guids, Unlisted (w.setBox player emptied) guid := by
      intro guid lists player' here
      have before : guid ∈ listed (w.box player).mails := (mem_listed _ guid).mpr ⟨m, mem, lists⟩
      rw [World.box_setBox] at here
      split at here
      · have counts := count_listed_eraseP guid found
        have one := sound.once player guid
        have := count_pos_iff.mpr lists
        rw [mails] at here
        have := count_pos_iff.mpr here
        omega
      · next other => exact other (sound.apart player' player guid here before)
    unfold sendReturnToSender
    split
    · obtain ⟨kept', unlisted'⟩ := kept_same _ ((w.setBox player emptied).commit _) kept.sound rfl rfl
        sound.wallets
      exact ⟨kept.trans _ _ _ kept', fun guid before => unlisted' guid (unlisted guid before)⟩
    obtain ⟨kept₁, unlisted₁⟩ := kept_sendMailTo (w.setBox player emptied) kept.sound
      (returnDraft (w.box player) m) m.sender m.receiver maskReturned _ time ordered
      (fun item here => free item.guid (within item here))
    obtain ⟨kept₂, unlisted₂⟩ := kept_same _ (World.commit _ _) kept₁.sound rfl rfl
      kept₁.sound.wallets
    refine ⟨kept.trans _ _ _ (kept₁.trans _ _ _ kept₂), ?_⟩
    intro guid before
    refine unlisted₂ guid (unlisted₁ guid (unlisted guid before) ?_)
    intro sent
    obtain ⟨item, here, rfl⟩ := mem_map.mp sent
    exact before player ((mem_listed _ _).mpr ⟨m, mem, within item here⟩)
  · obtain ⟨kept, unlisted⟩ := kept_setBox w sound player
      { w.box player with mails := (w.box player).mails.eraseP fun m => m.messageID = mailId }
      (shrinks_eraseP _ _ mailId m found rfl (fun _ _ there => there))
    obtain ⟨kept', unlisted'⟩ := kept_same _ ((w.setBox player _).commit _) kept.sound rfl rfl
      sound.wallets
    exact ⟨kept.trans _ _ _ kept', fun guid before => unlisted' guid (unlisted guid before)⟩

/-- The payment leaves the mails of the mailbox where they were. -/
theorem kept_payCOD (sound : Sound w) (m : Mail) (time : Nat) :
    Kept w (payCOD w player m time).1 ∧
    (∀ guid, Unlisted w guid → Unlisted (payCOD w player m time).1 guid) ∧
    (∀ player' id, id < w.nextMailId →
      getMail ((payCOD w player m time).1.box player') id = getMail (w.box player') id) ∧
    (∀ player', ((payCOD w player m time).1.box player').mItems = (w.box player').mItems) ∧
    (payCOD w player m time).1.inventory = w.inventory := by
  unfold payCOD
  split
  · generalize paid' : (if w.online m.sender ∨ w.account m.sender ≠ 0 then
        sendMailTo w (MailDraft.empty.addMoney m.cod) m.sender m.receiver maskCodPayment 0 time
      else (w, [])) = paid
    have sent : Kept w paid.1 ∧ (∀ guid, Unlisted w guid → Unlisted paid.1 guid) ∧
        (∀ player' id, id < w.nextMailId →
          getMail (paid.1.box player') id = getMail (w.box player') id) ∧
        (∀ player', (paid.1.box player').mItems = (w.box player').mItems) ∧
        paid.1.inventory = w.inventory := by
      rw [← paid']
      split
      · obtain ⟨kept, unlisted⟩ := kept_sendMailTo w sound (MailDraft.empty.addMoney m.cod) m.sender
          m.receiver maskCodPayment 0 time List.Pairwise.nil (fun _ none => by cases none)
        refine ⟨kept, fun guid before => unlisted guid before (fun none => by cases none), ?_, ?_, ?_⟩
        · intro player' id old
          rw [box_sendMailTo]
          split
          · rename_i loaded
            have other : ¬ w.nextMailId = id := by omega
            simp [getMail, newMail, other, loaded.1]
          · rfl
        · intro player'
          rw [box_sendMailTo]
          split
          · rename_i loaded
            rw [loaded.1]
            rfl
          · rfl
        · exact sendMailTo_inventory _ _ _ _ _ _ _
      · exact ⟨Kept.refl sound, fun _ before => before, fun _ _ _ => rfl, fun _ => rfl, rfl⟩
    obtain ⟨kept, unlisted, mails, items, inventory⟩ := sent
    obtain ⟨kept', unlisted'⟩ := kept_same paid.1 (paid.1.setMoney player
      (Player.modifyMoney (w.money player) (toInt32 (-toInt32 m.cod))).1) kept.sound rfl rfl (by
        intro player'
        rw [World.money_setMoney]
        split
        · exact Player.modifyMoney_lt _ _ (sound.wallets player)
        · exact kept.sound.wallets player')
    exact ⟨kept.trans _ _ _ kept', fun guid before => unlisted' guid (unlisted guid before), mails,
      items, inventory⟩
  · exact ⟨Kept.refl sound, fun _ before => before, fun _ _ _ => rfl, fun _ => rfl, rfl⟩

theorem takenFrom_guids (itemId : Nat) (m : Mail) (guid : Nat) (lists : itemId ∈ m.guids) :
    (takenFrom itemId m).guids.count guid + (if guid = itemId then 1 else 0) =
      m.guids.count guid := by
  unfold takenFrom Mail.removeItem Mail.guids at *
  dsimp only
  generalize m.items = items at lists
  induction items with
  | nil => cases lists
  | cons info items ih =>
    by_cases same : info.itemGuid = itemId
    · rw [eraseP_cons_of_pos (by simpa using same), map_cons, count_cons, same]
      simp only [beq_iff_eq, @eq_comm Nat itemId]
    have later : itemId ∈ items.map (·.itemGuid) := by
      simpa [Ne.symm same] using lists
    rw [eraseP_cons_of_neg (by simpa using same), map_cons, map_cons,
      count_cons, count_cons, ← ih later]
    omega

/-- An item that is taken through the mail that lists it is listed nowhere afterwards. -/
theorem kept_takeItem (sound : Sound w) {itemId time : Nat} {m : Mail} {item : Item}
    {items : List Item}
    (check : checkTakeItem rules w player mailId itemId time = .ok (m, item, items))
    (lists : itemId ∈ m.guids) :
    Kept w (handleMailTakeItem rules w player mailId itemId time).1 ∧
    (∀ guid, Unlisted w guid →
      Unlisted (handleMailTakeItem rules w player mailId itemId time).1 guid) ∧
    Unlisted (handleMailTakeItem rules w player mailId itemId time).1 itemId := by
  obtain ⟨there, alive, _, _⟩ :=
    checkTakeItem_ok rules w player mailId itemId time m item items check
  have old : mailId < w.nextMailId := by
    have := sound.fresh player m (mem_of_find?_eq_some there)
    have := find?_some there
    simp only [decide_eq_true_eq] at this
    omega
  obtain ⟨kept₁, unlisted₁, mails₁, _, _⟩ := kept_payCOD w player sound m time
  unfold handleMailTakeItem
  rw [check]
  dsimp only
  generalize (payCOD w player m time).2 = statements
  generalize (payCOD w player m time).1 = w₁ at *
  have found : getMail (w₁.box player) mailId = some m := by rw [mails₁ player mailId old, there]
  have counts := takenFrom_guids itemId m
  have taken : Shrinks (w₁.box player) (takeFromBox (w₁.box player) mailId itemId item.guid) := by
    refine shrinks_modifyMail (takenFrom itemId) found rfl ?_ (fun _ => rfl) ?_ ?_
    · intro guid item' kept
      simp only [takeFromBox, update_apply] at kept
      split at kept
      · cases kept
      · exact kept
    · intro guid
      have := counts guid lists
      omega
    · exact fun dead => absurd dead alive
  generalize box' : (saveMail (takeFromBox (w₁.box player) mailId itemId item.guid)).1 = box
  have saved := shrinks_saveMail (takeFromBox (w₁.box player) mailId itemId item.guid)
  rw [box'] at saved
  obtain ⟨kept₂, unlisted₂⟩ := kept_setBox w₁ kept₁.sound player box (taken.trans saved)
  obtain ⟨kept₃, unlisted₃⟩ := kept_same (w₁.setBox player box)
    (((w₁.setBox player box).setInventory player items).commit _) kept₂.sound rfl rfl
    kept₁.sound.wallets
  refine ⟨kept₁.trans _ _ _ (kept₂.trans _ _ _ kept₃),
    fun guid before => unlisted₃ guid (unlisted₂ guid (unlisted₁ guid before)), ?_⟩
  apply unlisted₃
  intro player' here
  have before : itemId ∈ listed (w₁.box player).mails :=
    (mem_listed _ itemId).mpr ⟨m, mem_of_find?_eq_some found, lists⟩
  rw [World.box_setBox] at here
  split at here
  · have := saved.items itemId
    have := count_pos_iff.mpr here
    have := count_listed_modifyMail itemId (takenFrom itemId) found
    have := kept₁.sound.once player itemId
    have removed := counts itemId lists
    rw [if_pos rfl] at removed
    unfold takeFromBox at *
    dsimp only at *
    omega
  · next other => exact other (kept₁.sound.apart player' player itemId here before)

variable {input : Input}

section
variable (mailbox : input.atMailbox = true)
include mailbox

/-- Only taking an item changes inventories. -/
theorem inventory_step (sound : Sound w)
    (changed : (step rules w input).1.inventory player ≠ w.inventory player) :
    ∃ mailId itemId time m item items, input = .takeItem player mailId itemId time ∧
      w.online player = true ∧
      checkTakeItem rules w player mailId itemId time = .ok (m, item, items) ∧
      (step rules w input).1.inventory player = items := by
  cases input with
  | takeItem player' mailId itemId time =>
    simp only [step] at changed ⊢
    split at changed
    · rename_i online
      rcases takeItem_cases rules w player' mailId itemId time with
        ⟨error, result⟩ | ⟨m, item, items, check⟩
      · rw [result] at changed
        exact absurd rfl changed
      have inventory : (handleMailTakeItem rules w player' mailId itemId time).1.inventory =
          Function.update w.inventory player' items := by
        unfold handleMailTakeItem
        rw [check, ← (kept_payCOD w player' sound m time).2.2.2.2]
        rfl
      rw [inventory, update_apply] at changed
      split at changed
      · rename_i same
        subst same
        refine ⟨mailId, itemId, time, m, item, items, rfl, online, check, ?_⟩
        rw [if_pos online, inventory, update_self]
      · exact absurd rfl changed
    · exact absurd rfl changed
  | takeMoney player' mailId money time =>
    simp only [step, handleMailTakeMoney] at changed
    repeat' split at changed
    all_goals exact absurd rfl changed
  | returnToSender player' mailId time =>
    simp only [step, handleMailReturnToSender, sendReturnToSender] at changed
    repeat' split at changed
    all_goals
      first
      | exact absurd rfl changed
      | simp at changed
  | delete player' mailId =>
    simp only [step, handleMailDelete] at changed
    repeat' split at changed
    all_goals exact absurd rfl changed
  | markAsRead player' mailId =>
    simp only [step, handleMailMarkAsRead] at changed
    repeat' split at changed
    all_goals exact absurd rfl changed
  | _ => cases mailbox

theorem itemTaken_step
    {guid count : Nat} (taken : .itemTaken player mailId guid count ∈ (step rules w input).2) :
    ∃ time m item items, input = .takeItem player mailId guid time ∧ w.online player = true ∧
      checkTakeItem rules w player mailId guid time = .ok (m, item, items) := by
  cases input with
  | takeItem player' mailId' itemId time =>
    simp only [step] at taken
    split at taken
    · rename_i online
      rcases takeItem_cases rules w player' mailId' itemId time with
        ⟨error, result⟩ | ⟨m, item, items, check⟩
      · rw [result] at taken
        simp at taken
      have sameTake : player = player' ∧ mailId = mailId' ∧ guid = itemId := by
        unfold handleMailTakeItem at taken
        rw [check] at taken
        simp only [mem_cons, reduceCtorEq, not_mem_nil, or_false, false_or,
          Event.itemTaken.injEq] at taken
        exact ⟨taken.1, taken.2.1, taken.2.2.1⟩
      obtain ⟨rfl, rfl, rfl⟩ := sameTake
      exact ⟨time, m, item, items, rfl, online, check⟩
    · cases taken
  | takeMoney player' mailId' money time =>
    simp only [step, handleMailTakeMoney] at taken
    repeat' split at taken
    all_goals simp at taken
  | returnToSender player' mailId' time =>
    simp only [step, handleMailReturnToSender] at taken
    repeat' split at taken
    all_goals simp at taken
  | delete player' mailId' =>
    simp only [step, handleMailDelete] at taken
    repeat' split at taken
    all_goals simp at taken
  | markAsRead player' mailId' =>
    simp only [step, handleMailMarkAsRead] at taken
    repeat' split at taken
    all_goals simp at taken
  | _ => cases mailbox

theorem kept_step (sound : Sound w)
    (paired : Paired rules w input) :
    Kept w (step rules w input).1 ∧
    ∀ guid, Unlisted w guid → Unlisted (step rules w input).1 guid := by
  cases input with
  | takeItem player mailId itemId time =>
    simp only [step]
    split
    · rcases takeItem_cases rules w player mailId itemId time with
        ⟨error, result⟩ | ⟨m, item, items, check⟩
      · rw [result]
        exact ⟨Kept.refl sound, fun _ unlisted => unlisted⟩
      · obtain ⟨kept, unlisted, _⟩ := kept_takeItem rules w player sound check (paired m item items check).1
        exact ⟨kept, unlisted⟩
    · exact ⟨Kept.refl sound, fun _ unlisted => unlisted⟩
  | takeMoney player mailId money time =>
    simp only [step]
    split
    · exact kept_takeMoney w player sound mailId money time
    · exact ⟨Kept.refl sound, fun _ unlisted => unlisted⟩
  | returnToSender player mailId time =>
    simp only [step]
    split
    · exact kept_returnToSender rules w player sound mailId time
    · exact ⟨Kept.refl sound, fun _ unlisted => unlisted⟩
  | delete player mailId =>
    simp only [step]
    split
    · exact kept_delete w player sound mailId
    · exact ⟨Kept.refl sound, fun _ unlisted => unlisted⟩
  | markAsRead player mailId =>
    simp only [step]
    split
    · exact kept_markAsRead rules w player sound paired
    · exact ⟨Kept.refl sound, fun _ unlisted => unlisted⟩
  | _ => cases mailbox

theorem unlisted_step (sound : Sound w)
    (paired : Paired rules w input) {guid count : Nat}
    (taken : .itemTaken player mailId guid count ∈ (step rules w input).2) :
    Unlisted (step rules w input).1 guid := by
  obtain ⟨time, m, item, items, rfl, online, check⟩ :=
    itemTaken_step rules w player mailbox taken
  simp only [step]
  rw [if_pos online]
  exact (kept_takeItem rules w player sound check (paired m item items check).1).2.2

end

end

/-- A sound world in which no mail lists what was taken so far. -/
def Settled (past : List Step) (w : World) : Prop :=
  Sound w ∧ ∀ t ∈ past, ∀ player mailId guid count,
    .itemTaken player mailId guid count ∈ t.out → Unlisted w guid

theorem settled_step {rules : Rules} (past : List Step) (w : World) (input : Input)
    (settled : Settled past w) (allowed : input.atMailbox = true ∧ Paired rules w input) :
    Settled (past ++ [Run.take (step rules) w input]) (step rules w input).1 := by
  obtain ⟨sound, before⟩ := settled
  obtain ⟨mailbox, paired⟩ := allowed
  obtain ⟨kept, unlisted⟩ := kept_step rules w mailbox sound paired
  refine ⟨kept.sound, ?_⟩
  intro t here player mailId guid count taken
  rcases mem_append.mp here with earlier | now
  · exact unlisted guid (before t earlier player mailId guid count taken)
  · rw [mem_singleton.mp now] at taken
    exact unlisted_step rules w player mailbox sound paired taken

/-- Items stay with their mail until they are paid for, in every run of requests whose takes name
items of the mails they name and that mark no deleted mail as read. -/
theorem itemsKept_of_paired (rules : Rules) (w : World) (inputs : List Input) (sound : Sound w)
    (mailbox : ∀ input ∈ inputs, input.atMailbox = true)
    (paired : ∀ t ∈ Run.trace (step rules) w inputs, Paired rules t.before t.input) :
    ItemsKept rules (Run.trace (step rules) w inputs) := by
  have allowed : ∀ t ∈ Run.trace (step rules) w inputs,
      t.input.atMailbox = true ∧ Paired rules t.before t.input :=
    fun t here => ⟨mailbox t.input (Run.input_mem (step rules) w here), paired t here⟩
  have settled : ∀ pre t post, Run.trace (step rules) w inputs = pre ++ t :: post →
      Settled pre t.before ∧ Settled (pre ++ [t]) t.after := by
    intro pre t post split
    have here : t ∈ Run.trace (step rules) w inputs := by simp [split]
    have before := Run.history_at (step rules) (fun w input => input.atMailbox = true ∧
      Paired rules w input) Settled (settled_step) [] w ⟨sound, fun _ none => by cases none⟩
      allowed pre split
    have now := settled_step _ t.before t.input before (allowed t here)
    rw [← Run.taken_of_mem (step rules) w inputs t here] at now
    have after : t.after = (step rules t.before t.input).1 :=
      congrArg (·.after) (Run.taken_of_mem (step rules) w inputs t here)
    rw [after]
    exact ⟨before, now⟩
  have at_step : ∀ t ∈ Run.trace (step rules) w inputs, t = Run.take (step rules) t.before t.input ∧
      Sound t.before ∧ Sound t.after := by
    intro t here
    obtain ⟨pre, post, split⟩ := append_of_mem here
    obtain ⟨before, after⟩ := settled pre t post split
    exact ⟨Run.taken_of_mem (step rules) w inputs t here, before.1, after.1⟩
  refine ⟨?_, ?_, ?_, ?_, ?_⟩
  · intro t here player guid _ lists
    obtain ⟨_, _, after⟩ := at_step t here
    have sub : List.Sublist (live (t.after.box player).mails) (t.after.box player).mails :=
      filter_sublist
    have := (listed_sublist sub).count_le guid
    have := after.once player guid
    have := count_pos_iff.mpr lists
    omega
  · intro t here player changed
    obtain ⟨same, before, _⟩ := at_step t here
    obtain ⟨mailId, itemId, time, m, item, items, kind, online, check, inventory⟩ :=
      inventory_step rules t.before player (allowed t here).1 before (by
        rw [same] at changed
        exact changed)
    obtain ⟨_, _, _, found, stored⟩ :=
      checkTakeItem_ok rules t.before player mailId itemId time m item items check
    refine ⟨mailId, itemId, item, ?_, found, before.keys player itemId item found, ?_⟩
    · rw [same, Run.take_out, kind]
      simp [step, online, handleMailTakeItem, check]
    · rw [stored, same, Run.take_after, inventory]
  · intro t here player mailId guid count taken m mem lists cod
    obtain ⟨same, before, _⟩ := at_step t here
    rw [same] at taken
    obtain ⟨time, m', item, items, kind, online, check⟩ :=
      itemTaken_step rules t.before player (allowed t here).1 taken
    have named := (allowed t here).2
    rw [kind] at named
    obtain ⟨lists', narrow⟩ := named m' item items check
    obtain ⟨there, _⟩ := checkTakeItem_ok rules t.before player mailId guid time m' item items check
    have one : m = m' := mail_unique (before.once player guid)
      (mem_of_mem_filter mem) (mem_of_find?_eq_some there) lists lists'
    subst one
    rw [same, Run.take_after, Run.take_before, kind]
    simp only [step, online, if_true]
    exact takeItem_charge rules t.before player mailId guid time m item items check
      (before.wallets player) narrow
  · intro pre t post split player mailId guid count taken t' later player'
    obtain ⟨pre', post', split'⟩ := append_of_mem later
    have settled' := (settled (pre ++ pre') t' post' (by rw [split, split', append_assoc])).2
    refine settled'.2 t ?_ player mailId guid count taken player'
    cases pre' with
    | nil =>
      have first : t = t' := (List.cons.inj split').1
      simp [first]
    | cons first rest =>
      have first' : t = first := (List.cons.inj split').1
      simp [first']
  · intro t here player m mem dead m' mem' number
    obtain ⟨same, before, _⟩ := at_step t here
    rw [same] at mem'
    exact (kept_step rules t.before (allowed t here).1 before (allowed t here).2).1.deleted
      before mem dead mem' number

/-- The second player's mailbox holds a mail with an item that is cash on delivery, and an empty
one. -/
def codMails : List Mail :=
  [{ messageID := 1, messageType := .normal, sender := 1, receiver := 2, items := [⟨5, 1⟩],
     removedItems := [], expireTime := 100000, deliverTime := 0, money := 0, cod := 700,
     checked := 0, state := .unchanged },
   { messageID := 2, messageType := .normal, sender := 1, receiver := 2, items := [],
     removedItems := [], expireTime := 100000, deliverTime := 0, money := 0, cod := 0,
     checked := 0, state := .unchanged }]

def codWorld : World where
  account := id
  online := fun player => player != 0
  gameMaster := fun _ => false
  money := fun _ => 1000
  inventory := fun _ => []
  box := fun player =>
    { Mailbox.unloaded with
      mailsLoaded := true
      mails := if player = 2 then codMails else []
      mItems := fun guid => if player = 2 ∧ guid = 5 then some (plainItem 5 10) else none }
  tables := ⟨[], [], fun _ => none⟩
  nextMailId := 3

theorem codWorld_sound : Sound codWorld := by
  have mails : ∀ player, (codWorld.box player).mails = if player = 2 then codMails else [] :=
    fun _ => rfl
  refine ⟨?_, ?_, ?_, ?_, ?_, ?_⟩
  · intro player
    rw [mails]
    split <;> decide
  · intro player
    rw [mails]
    split <;> decide
  · intro player guid
    rw [mails]
    split
    · exact nodup_iff_count_le_one.mp (by decide) guid
    · exact Nat.zero_le _
  · intro player player' guid here here'
    rw [mails] at here here'
    split at here
    · split at here'
      · omega
      · cases here'
    · cases here
  · intro player guid item found
    simp only [codWorld] at found
    split at found
    · rename_i both
      cases found
      exact both.2.symm
    · cases found
  · intro player
    change 1000 < 2 ^ 64
    decide

/-- The mail is read, its item taken and paid for, and the mail deleted. -/
theorem cod_take_itemsKept :
    ItemsKept plainRules (Run.trace (step plainRules) codWorld
      [.markAsRead 2 1, .takeItem 2 1 5 4000, .delete 2 1]) := by
  apply itemsKept_of_paired plainRules codWorld _ codWorld_sound (by decide)
  intro t here
  simp only [Run.trace, mem_cons, not_mem_nil, or_false] at here
  rcases here with rfl | rfl | rfl
  · intro m found
    have first : getMail (codWorld.box 2) 1 = codMails.head? := rfl
    rw [Run.take_before, first] at found
    cases found
    decide
  · intro m item items check
    have accepted : checkTakeItem plainRules (step plainRules codWorld (.markAsRead 2 1)).1 2 1 5
        4000 = .ok ({ codMails.head (by decide) with checked := 1, state := .changed },
          plainItem 5 10, [plainItem 5 10]) := rfl
    rw [Run.take_before, accepted] at check
    cases check
    decide
  · trivial

/-- The item is taken through the other mail, for nothing. -/
theorem other_mail_not_itemsKept :
    ¬ ItemsKept plainRules (Run.trace (step plainRules) codWorld [.takeItem 2 2 5 4000]) := by
  intro kept
  have charged := kept.paid _ mem_cons_self 2 2 5 10 (by decide +kernel)
    (codMails.head (by decide)) (by decide +kernel) (by decide) (by decide)
  revert charged
  decide +kernel

end OpenWoW.Mails
