import Mathlib.Data.List.Nodup
import OpenWoW.AuctionStart
import OpenWoW.AuctionSteps

/-! One mail carries an item on sale away when its auction is deleted. -/
namespace OpenWoW.Auction

open List

def itemMails (statements : List Statement) : List Mail :=
  statements.filterMap fun statement => match statement with
    | .insMail mail => if mail.item.isSome then some mail else none
    | _ => none

/-- The entry as it is when it is deleted: a buyout makes the buyer the bidder first. -/
def deletedAs (input : Input) (auction : AuctionEntry) : AuctionEntry :=
  match input with
  | .placeBid player _ _ _ => { auction with bidder := player, bid := auction.buyout }
  | _ => auction

/-- The bidder if there is one and the owner otherwise. -/
def AuctionEntry.winner (auction : AuctionEntry) : Nat :=
  if auction.bidder = 0 then auction.owner else auction.bidder

/-- The one who gets the item: after a cancellation it is the owner, bid or no bid. -/
def addressee (input : Input) (auction : AuctionEntry) : Nat :=
  match input with
  | .removeItem _ _ _ => auction.owner
  | _ => (deletedAs input auction).winner

/-- Every deletion of an auction, in the table or in the map, comes with the one mail that
carries its item to the given receiver. -/
structure Delivered (receiver : AuctionEntry → Nat) (w w' : World) (out : List Event) : Prop where
  deleted : ∀ house id auction, w.auctions house id = some auction →
    w'.auctions house id = none → ∃ statements, .commit statements ∈ out ∧ .delAuction id ∈ statements
  mailed : ∀ statements id, .commit statements ∈ out → .delAuction id ∈ statements →
    ∃ house auction item, w.auctions house id = some auction ∧ w'.auctions house id = none ∧
      (∀ house' auction', w.auctions house' id = some auction' → house' = house) ∧
      w.aItems auction.itemGuidLow = some item ∧ item.guid = auction.itemGuidLow ∧
      (w.character (receiver auction) = true →
        ∃ answer, itemMails statements = [⟨answer, id, receiver auction, 0, some item⟩])
  once : ∀ id, (statementsOf out).count (.delAuction id) ≤ 1

/-- The items in `mAitems` are those of the open auctions, apart from spare ones. -/
structure ItemsOnSale (spare : Nat → Prop) (w : World) : Prop where
  item : ∀ house id auction, w.auctions house id = some auction →
    ∃ item, w.aItems auction.itemGuidLow = some item
  auction : ∀ guid item, w.aItems guid = some item → item.guid = guid ∧
    (spare guid ∨ ∃ house id auction, w.auctions house id = some auction ∧ auction.itemGuidLow = guid)

/-- What holds of the auction houses between two requests. -/
structure Shelved (spare : Nat → Prop) (w : World) : Prop where
  named : ∀ house id auction, w.auctions house id = some auction →
    auction.id = id ∧ id < w.nextAuctionId
  item : ∀ house id auction, w.auctions house id = some auction →
    ∃ item, w.aItems auction.itemGuidLow = some item
  apart : ∀ house id auction house' id' auction', w.auctions house id = some auction →
    w.auctions house' id' = some auction' →
    auction.itemGuidLow = auction'.itemGuidLow ∨ id = id' → house = house' ∧ id = id'
  stored : ∀ guid item, w.aItems guid = some item → item.guid = guid ∧ guid < w.nextItemGuid ∧
    (spare guid ∨ ∃ house id auction, w.auctions house id = some auction ∧ auction.itemGuidLow = guid)
  carried : ∀ player item, item ∈ w.inventory player → item.guid < w.nextItemGuid
  nobody : w.character 0 = false

theorem Shelved.itemsOnSale (spare : Nat → Prop) {w : World} (shelved : Shelved spare w) :
    ItemsOnSale spare w := by
  refine ⟨shelved.item, ?_⟩
  intro guid item here
  obtain ⟨same, _, auction⟩ := shelved.stored guid item here
  exact ⟨same, auction⟩

section

variable (spare : Nat → Prop) (w : World)

theorem Shelved.frame {w' : World} (shelved : Shelved spare w) (auctions : w'.auctions = w.auctions)
    (aItems : w'.aItems = w.aItems) (ids : w'.nextAuctionId = w.nextAuctionId)
    (guids : w.nextItemGuid ≤ w'.nextItemGuid)
    (carried : ∀ player item, item ∈ w'.inventory player → item.guid < w'.nextItemGuid)
    (nobody : w'.character 0 = false) : Shelved spare w' := by
  refine ⟨?_, ?_, ?_, ?_, carried, nobody⟩
  · rw [auctions, ids]
    exact shelved.named
  · rw [auctions, aItems]
    exact shelved.item
  · rw [auctions]
    exact shelved.apart
  · rw [auctions, aItems]
    intro guid item here
    obtain ⟨same, less, auction⟩ := shelved.stored guid item here
    exact ⟨same, by omega, auction⟩

theorem Shelved.charge (player : Nat) (amount : Int) (shelved : Shelved spare w) :
    Shelved spare (w.modifyMoney player amount) :=
  shelved.frame spare w rfl rfl rfl (Nat.le_refl _) shelved.carried shelved.nobody

theorem Shelved.close (house : House) (auction : AuctionEntry) (shelved : Shelved spare w)
    (opened : w.auctions house auction.id = some auction) :
    Shelved spare (closeAuction w auction house) := by
  refine ⟨?_, ?_, ?_, ?_, shelved.carried, shelved.nobody⟩
  · intro house' id auction' opened'
    rw [auctions_closeAuction] at opened'
    split at opened'
    · cases opened'
    · exact shelved.named house' id auction' opened'
  · intro house' id auction' opened'
    rw [auctions_closeAuction] at opened'
    split at opened'
    · cases opened'
    next other =>
    obtain ⟨item, there⟩ := shelved.item house' id auction' opened'
    have ne : auction'.itemGuidLow ≠ auction.itemGuidLow :=
      fun same => other (shelved.apart _ _ _ _ _ _ opened' opened (.inl same))
    exact ⟨item, by rw [aItems_closeAuction, if_neg ne]; exact there⟩
  · intro house₁ id₁ auction₁ house₂ id₂ auction₂ opened₁ opened₂
    rw [auctions_closeAuction] at opened₁ opened₂
    split at opened₁
    · cases opened₁
    split at opened₂
    · cases opened₂
    · exact shelved.apart _ _ _ _ _ _ opened₁ opened₂
  · intro guid item here
    rw [aItems_closeAuction] at here
    split at here
    · cases here
    next other =>
    obtain ⟨same, less, reason⟩ := shelved.stored guid item here
    refine ⟨same, less, ?_⟩
    rcases reason with extra | ⟨house', id, auction', opened', named⟩
    · exact .inl extra
    refine .inr ⟨house', id, auction', ?_, named⟩
    have ne : ¬ (house' = house ∧ id = auction.id) := by
      rintro ⟨rfl, rfl⟩
      rw [opened] at opened'
      cases opened'
      exact other named.symm
    rw [auctions_closeAuction, if_neg ne]
    exact opened'

theorem Shelved.opening (rules : Rules) (player : Nat) (r : SellRequest)
    (faction houseId deposit : Nat) {sold : Item} {left : List Item} (shelved : Shelved spare w)
    (absent : w.aItems sold.guid = none) (known : sold.guid < w.nextItemGuid)
    (carried : ∀ item ∈ left, item.guid < w.nextItemGuid) :
    Shelved spare (openAuction rules w player r faction houseId deposit sold left).1 := by
  have others : ∀ house id auction, w.auctions house id = some auction →
      auction.itemGuidLow ≠ sold.guid := by
    intro house id auction opened same
    obtain ⟨item, there⟩ := shelved.item house id auction opened
    rw [same, absent] at there
    cases there
  have older : ∀ house id auction, w.auctions house id = some auction → id < w.nextAuctionId :=
    fun house id auction opened => (shelved.named house id auction opened).2
  refine ⟨?_, ?_, ?_, ?_, ?_, shelved.nobody⟩
  · intro house id auction opened
    rw [auctions_openAuction] at opened
    change auction.id = id ∧ id < w.nextAuctionId + 1
    split at opened
    · rename_i new
      cases opened
      exact ⟨new.2.symm, by omega⟩
    · have := shelved.named house id auction opened
      exact ⟨this.1, by omega⟩
  · intro house id auction opened
    rw [auctions_openAuction] at opened
    split at opened
    · cases opened
      exact ⟨sold, by rw [aItems_openAuction]; exact if_pos rfl⟩
    · obtain ⟨item, there⟩ := shelved.item house id auction opened
      exact ⟨item, by rw [aItems_openAuction, if_neg (others house id auction opened)]; exact there⟩
  · intro house₁ id₁ auction₁ house₂ id₂ auction₂ opened₁ opened₂ same
    rw [auctions_openAuction] at opened₁ opened₂
    split at opened₁
    · rename_i new₁
      split at opened₂
      · next new₂ => exact ⟨new₁.1.trans new₂.1.symm, new₁.2.trans new₂.2.symm⟩
      cases opened₁
      have := older _ _ _ opened₂
      rcases same with same | same
      · exact absurd same.symm (others _ _ _ opened₂)
      · omega
    · split at opened₂
      · rename_i new₂
        cases opened₂
        have := older _ _ _ opened₁
        rcases same with same | same
        · exact absurd same (others _ _ _ opened₁)
        · omega
      · exact shelved.apart _ _ _ _ _ _ opened₁ opened₂ same
  · intro guid item here
    rw [aItems_openAuction] at here
    change item.guid = guid ∧ guid < w.nextItemGuid ∧ _
    split at here
    · rename_i new
      cases here
      refine ⟨new.symm, new ▸ known, .inr ⟨rules.auctionsMap faction, w.nextAuctionId,
        newAuction rules w player r houseId deposit sold, ?_, new.symm⟩⟩
      rw [auctions_openAuction, if_pos ⟨rfl, rfl⟩]
    · obtain ⟨same, less, reason⟩ := shelved.stored guid item here
      refine ⟨same, less, ?_⟩
      rcases reason with extra | ⟨house, id, auction, opened, named⟩
      · exact .inl extra
      refine .inr ⟨house, id, auction, ?_, named⟩
      have := older _ _ _ opened
      rw [auctions_openAuction, if_neg (by omega)]
      exact opened
  · intro player' item here
    change item.guid < w.nextItemGuid
    rw [inventory_openAuction] at here
    split at here
    · exact carried item here
    · exact shelved.carried player' item here

/-- A bid changes neither the item nor the number of an auction. -/
theorem Shelved.bid {house : House} (player price : Nat) {auction : AuctionEntry}
    (shelved : Shelved spare w) (opened : w.auctions house auction.id = some auction) :
    Shelved spare (raiseBid w house player price auction).1 := by
  have back : ∀ house' id auction', (raiseBid w house player price auction).1.auctions house' id =
      some auction' → ∃ old, w.auctions house' id = some old ∧ old.id = auction'.id ∧
        old.itemGuidLow = auction'.itemGuidLow := by
    intro house' id auction' opened'
    simp only [raiseBid, World.auctions_setAuction, World.modifyMoney_auctions] at opened'
    split at opened'
    · rename_i here
      cases opened'
      rw [here.1, here.2]
      exact ⟨auction, opened, rfl, rfl⟩
    · exact ⟨auction', opened', rfl, rfl⟩
  refine ⟨?_, ?_, ?_, ?_, shelved.carried, shelved.nobody⟩
  · intro house' id auction' opened'
    obtain ⟨old, there, same, _⟩ := back house' id auction' opened'
    rw [← same]
    exact shelved.named house' id old there
  · intro house' id auction' opened'
    obtain ⟨old, there, _, same⟩ := back house' id auction' opened'
    rw [← same]
    exact shelved.item house' id old there
  · intro house₁ id₁ auction₁ house₂ id₂ auction₂ opened₁ opened₂
    obtain ⟨old₁, there₁, _, same₁⟩ := back house₁ id₁ auction₁ opened₁
    obtain ⟨old₂, there₂, _, same₂⟩ := back house₂ id₂ auction₂ opened₂
    rw [← same₁, ← same₂]
    exact shelved.apart _ _ _ _ _ _ there₁ there₂
  · intro guid item here
    obtain ⟨same, less, reason⟩ := shelved.stored guid item here
    refine ⟨same, less, ?_⟩
    rcases reason with extra | ⟨house', id, auction', opened', named⟩
    · exact .inl extra
    by_cases this : house' = house ∧ id = auction.id
    · obtain ⟨rfl, rfl⟩ := this
      rw [opened] at opened'
      cases opened'
      refine .inr ⟨house', auction.id, { auction with bidder := player, bid := toUInt32 price },
        ?_, named⟩
      simp [raiseBid, World.auctions_setAuction]
    · refine .inr ⟨house', id, auction', ?_, named⟩
      simp only [raiseBid, World.auctions_setAuction, World.modifyMoney_auctions, if_neg this]
      exact opened'

end

theorem mem_statementsOf (statement : Statement) (out : List Event) :
    statement ∈ statementsOf out ↔ ∃ statements, .commit statements ∈ out ∧ statement ∈ statements := by
  unfold statementsOf
  rw [mem_flatMap]
  constructor
  · rintro ⟨event, here, there⟩
    cases event with
    | commandResult => cases there
    | commit statements => exact ⟨statements, here, there⟩
  · rintro ⟨statements, here, there⟩
    exact ⟨.commit statements, here, there⟩

theorem itemMails_append (a b : List Statement) : itemMails (a ++ b) = itemMails a ++ itemMails b :=
  filterMap_append

/-- Mails do not delete auctions. -/
def Keeps (statements : List Statement) : Prop := ∀ id, .delAuction id ∉ statements

section

variable (rules : Rules) (w : World) (auction : AuctionEntry)

theorem keeps_won : Keeps (sendAuctionWonMail w auction) := by
  intro id
  unfold sendAuctionWonMail
  split
  · simp
  · split <;> simp

theorem keeps_salePending : Keeps (sendAuctionSalePendingMail w auction) := by
  intro id
  unfold sendAuctionSalePendingMail
  split <;> simp

theorem keeps_successful : Keeps (sendAuctionSuccessfulMail rules w auction) := by
  intro id
  unfold sendAuctionSuccessfulMail
  split <;> simp

theorem keeps_expired : Keeps (sendAuctionExpiredMail w auction) := by
  intro id
  unfold sendAuctionExpiredMail
  split
  · simp
  · split <;> simp

theorem keeps_outbidded : Keeps (sendAuctionOutbiddedMail w auction) := by
  intro id
  unfold sendAuctionOutbiddedMail
  split <;> simp

theorem keeps_cancelledToBidder : Keeps (sendAuctionCancelledToBidderMail w auction) := by
  intro id
  unfold sendAuctionCancelledToBidderMail
  split <;> simp

@[simp] theorem itemMails_salePending : itemMails (sendAuctionSalePendingMail w auction) = [] := by
  unfold sendAuctionSalePendingMail
  split <;> rfl

@[simp] theorem itemMails_successful :
    itemMails (sendAuctionSuccessfulMail rules w auction) = [] := by
  unfold sendAuctionSuccessfulMail
  split <;> rfl

@[simp] theorem itemMails_outbidded : itemMails (sendAuctionOutbiddedMail w auction) = [] := by
  unfold sendAuctionOutbiddedMail
  split <;> rfl

@[simp] theorem itemMails_cancelledToBidder :
    itemMails (sendAuctionCancelledToBidderMail w auction) = [] := by
  unfold sendAuctionCancelledToBidderMail
  split <;> rfl

theorem itemMails_won {item : Item} (there : w.aItems auction.itemGuidLow = some item)
    (alive : w.character auction.bidder = true) :
    itemMails (sendAuctionWonMail w auction) = [⟨.won, auction.id, auction.bidder, 0, some item⟩] := by
  unfold sendAuctionWonMail
  rw [there]
  simp [alive, itemMails]

theorem itemMails_expired {item : Item} (there : w.aItems auction.itemGuidLow = some item)
    (alive : w.character auction.owner = true) :
    itemMails (sendAuctionExpiredMail w auction) =
      [⟨.expired, auction.id, auction.owner, 0, some item⟩] := by
  unfold sendAuctionExpiredMail
  rw [there]
  simp [alive, itemMails]

end

theorem Delivered.none (receiver : AuctionEntry → Nat) (w w' : World) (out : List Event)
    (keeps : Keeps (statementsOf out))
    (stay : ∀ house id, w'.auctions house id = none → w.auctions house id = none) :
    Delivered receiver w w' out := by
  refine ⟨?_, ?_, ?_⟩
  · intro house id auction opened gone
    rw [stay house id gone] at opened
    cases opened
  · intro statements id commit deleted
    exact absurd ((mem_statementsOf _ out).mpr ⟨statements, commit, deleted⟩) (keeps id)
  · intro id
    rw [count_eq_zero.mpr (keeps id)]
    exact Nat.zero_le 1

theorem Delivered.silent (receiver : AuctionEntry → Nat) (w : World) {out : List Event}
    (silent : Silent out) : Delivered receiver w w out := by
  apply Delivered.none
  · intro id
    rcases silent with rfl | ⟨_, _, _, rfl, _⟩ <;> simp [statementsOf]
  · intro house id gone
    exact gone

/-- One auction is deleted, in one transaction. -/
theorem Delivered.close (receiver : AuctionEntry → Nat) (spare : Nat → Prop) (w w' : World)
    (house : House) (auction : AuctionEntry) (before after : List Event)
    (mails extra : List Statement) (shelved : Shelved spare w)
    (opened : w.auctions house auction.id = some auction)
    (closed : w'.auctions = (closeAuction w auction house).auctions)
    (quiet : statementsOf before = [] ∧ statementsOf after = [])
    (keeps : Keeps (mails ++ extra))
    (mailed : ∀ item, w.aItems auction.itemGuidLow = some item →
      w.character (receiver auction) = true →
      ∃ answer, itemMails (mails ++ extra) = [⟨answer, auction.id, receiver auction, 0, some item⟩]) :
    Delivered receiver w w'
      (before ++ .commit (mails ++ .delAuction auction.id :: extra) :: after) := by
  have all : statementsOf (before ++ .commit (mails ++ .delAuction auction.id :: extra) :: after) =
      mails ++ .delAuction auction.id :: extra := by
    have split : statementsOf (before ++ .commit (mails ++ .delAuction auction.id :: extra) :: after) =
        statementsOf before ++ ((mails ++ .delAuction auction.id :: extra) ++ statementsOf after) := by
      simp [statementsOf]
    rw [split, quiet.1, quiet.2]
    simp
  have keeps' : ∀ id, .delAuction id ∉ mails ∧ .delAuction id ∉ extra := by
    intro id
    have := keeps id
    rw [mem_append] at this
    exact ⟨fun here => this (.inl here), fun here => this (.inr here)⟩
  refine ⟨?_, ?_, ?_⟩
  · intro house' id auction' opened' gone
    rw [closed, auctions_closeAuction] at gone
    split at gone
    · rename_i here
      refine ⟨_, mem_append_right _ mem_cons_self, ?_⟩
      rw [here.2]
      simp
    · rw [gone] at opened'
      cases opened'
  · intro statements id commit deleted
    have same : statements = mails ++ .delAuction auction.id :: extra := by
      rcases mem_append.mp commit with first | rest
      · have := (mem_statementsOf _ before).mpr ⟨statements, first, deleted⟩
        rw [quiet.1] at this
        cases this
      rcases mem_cons.mp rest with here | last
      · exact Event.commit.inj here
      have := (mem_statementsOf _ after).mpr ⟨statements, last, deleted⟩
      rw [quiet.2] at this
      cases this
    subst same
    have number : id = auction.id := by
      rcases mem_append.mp deleted with first | rest
      · exact absurd first (keeps' id).1
      rcases mem_cons.mp rest with here | last
      · exact Statement.delAuction.inj here
      · exact absurd last (keeps' id).2
    subst number
    obtain ⟨item, there⟩ := shelved.item house auction.id auction opened
    refine ⟨house, auction, item, opened, ?_, ?_, there, (shelved.stored _ _ there).1, ?_⟩
    · rw [closed, auctions_closeAuction, if_pos ⟨rfl, rfl⟩]
    · intro house' auction' opened'
      exact (shelved.apart _ _ _ _ _ _ opened' opened (.inr rfl)).1
    · intro alive
      have skip : itemMails (mails ++ .delAuction auction.id :: extra) =
          itemMails (mails ++ extra) := by
        rw [itemMails_append, itemMails_append]
        rfl
      rw [skip]
      exact mailed item there alive
  · intro id
    rw [all, count_append, count_cons, count_eq_zero.mpr (keeps' id).1,
      count_eq_zero.mpr (keeps' id).2]
    split <;> omega

structure Closing (w w' : World) (out : List Event) : Prop
    extends Delivered AuctionEntry.winner w w' out where
  closes : ∀ house id auction, w'.auctions house id = some auction →
    w.auctions house id = some auction
  items : ∀ guid item, w'.aItems guid = some item → w.aItems guid = some item
  characters : w'.character = w.character

theorem Closing.refl (w : World) : Closing w w [] :=
  ⟨Delivered.silent _ w (.inl rfl), fun _ _ _ here => here, fun _ _ here => here, rfl⟩

theorem Closing.trans (spare : Nat → Prop) {w w₁ w₂ : World} {out₁ out₂ : List Event}
    (shelved : Shelved spare w) (first : Closing w w₁ out₁) (second : Closing w₁ w₂ out₂) :
    Closing w w₂ (out₁ ++ out₂) := by
  have gone : ∀ house id, w₁.auctions house id = .none → w₂.auctions house id = .none := by
    intro house id before
    cases after : w₂.auctions house id with
    | none => rfl
    | some auction =>
      rw [second.closes house id auction after] at before
      cases before
  refine ⟨⟨?_, ?_, ?_⟩, ?_, ?_, second.characters.trans first.characters⟩
  · intro house id auction opened closed
    cases between : w₁.auctions house id with
    | none =>
      obtain ⟨statements, commit, deleted⟩ := first.deleted house id auction opened between
      exact ⟨statements, mem_append_left _ commit, deleted⟩
    | some auction' =>
      obtain ⟨statements, commit, deleted⟩ := second.deleted house id auction' between closed
      exact ⟨statements, mem_append_right _ commit, deleted⟩
  · intro statements id commit deleted
    rcases mem_append.mp commit with here | later
    · obtain ⟨house, auction, item, opened, closed, rest⟩ := first.mailed statements id here deleted
      exact ⟨house, auction, item, opened, gone house id closed, rest⟩
    obtain ⟨house, auction, item, opened, closed, _, there, guid, mail⟩ :=
      second.mailed statements id later deleted
    have open' := first.closes house id auction opened
    refine ⟨house, auction, item, open', closed, ?_, first.items _ _ there, guid, ?_⟩
    · intro house' auction' opened'
      exact (shelved.apart _ _ _ _ _ _ opened' open' (.inr rfl)).1
    · rw [← first.characters]
      exact mail
  · intro id
    have split : statementsOf (out₁ ++ out₂) = statementsOf out₁ ++ statementsOf out₂ := by
      simp [statementsOf]
    rw [split, count_append]
    have one := first.once id
    have two := second.once id
    by_contra twice
    have in₁ : .delAuction id ∈ statementsOf out₁ := count_pos_iff.mp (by omega)
    have in₂ : .delAuction id ∈ statementsOf out₂ := count_pos_iff.mp (by omega)
    obtain ⟨statements₁, commit₁, deleted₁⟩ := (mem_statementsOf _ _).mp in₁
    obtain ⟨statements₂, commit₂, deleted₂⟩ := (mem_statementsOf _ _).mp in₂
    obtain ⟨house₁, _, _, _, closed₁, only, _⟩ := first.mailed statements₁ id commit₁ deleted₁
    obtain ⟨house₂, auction₂, _, opened₂, _⟩ := second.mailed statements₂ id commit₂ deleted₂
    have same := only house₂ auction₂ (first.closes _ _ _ opened₂)
    rw [same, closed₁] at opened₂
    cases opened₂
  · intro house id auction opened
    exact first.closes _ _ _ (second.closes _ _ _ opened)
  · intro guid item there
    exact first.items _ _ (second.items _ _ there)

theorem closing_expireAuction (spare : Nat → Prop) (rules : Rules) {w : World} (house : House)
    (id : Nat) (shelved : Shelved spare w) :
    Closing w (expireAuction rules w house id).1 (expireAuction rules w house id).2 ∧
      Shelved spare (expireAuction rules w house id).1 := by
  unfold expireAuction
  cases opened : w.auctions house id with
  | none => exact ⟨Closing.refl w, shelved⟩
  | some auction =>
    dsimp only
    have named := (shelved.named house id auction opened).1
    rw [← named] at opened
    refine ⟨⟨?_, ?_, ?_, rfl⟩, shelved.close spare w house auction opened⟩
    · apply Delivered.close AuctionEntry.winner spare w _ house auction [] [] _ [] shelved opened rfl
        ⟨rfl, rfl⟩
      · rw [append_nil]
        split
        · exact keeps_expired w auction
        intro id here
        rcases mem_append.mp here with money | item
        · exact keeps_successful rules w auction id money
        · exact keeps_won w auction id item
      · intro item there alive
        rw [append_nil]
        unfold AuctionEntry.winner at alive ⊢
        split
        · rename_i nobody
          rw [if_pos nobody] at alive
          exact ⟨.expired, itemMails_expired w auction there alive⟩
        next somebody =>
        rw [if_neg somebody] at alive
        refine ⟨.won, ?_⟩
        rw [itemMails_append, itemMails_successful, itemMails_won w auction there alive]
        rfl
    · intro house' id' auction' opened'
      rw [auctions_closeAuction] at opened'
      split at opened'
      · cases opened'
      · exact opened'
    · intro guid item there
      rw [aItems_closeAuction] at there
      split at there
      · cases there
      · exact there

theorem closing_expireAuctions (spare : Nat → Prop) (rules : Rules) (w : World) (house : House)
    (ids : List Nat) (shelved : Shelved spare w) :
    Closing w (expireAuctions rules house w ids).1 (expireAuctions rules house w ids).2 ∧
      Shelved spare (expireAuctions rules house w ids).1 := by
  induction ids generalizing w with
  | nil => exact ⟨Closing.refl w, shelved⟩
  | cons id ids ih =>
    obtain ⟨first, between⟩ := closing_expireAuction spare rules house id shelved
    obtain ⟨rest, after⟩ := ih _ between
    exact ⟨first.trans spare shelved rest, after⟩

theorem closing_update (spare : Nat → Prop) (rules : Rules) {w : World} (rows : House → List Nat)
    (shelved : Shelved spare w) :
    Closing w (update rules w rows).1 (update rules w rows).2 ∧
      Shelved spare (update rules w rows).1 := by
  obtain ⟨horde, shelved₁⟩ := closing_expireAuctions spare rules w .horde (rows .horde) shelved
  obtain ⟨alliance, shelved₂⟩ := closing_expireAuctions spare rules _ .alliance (rows .alliance) shelved₁
  obtain ⟨neutral, shelved₃⟩ := closing_expireAuctions spare rules _ .neutral (rows .neutral) shelved₂
  have two := horde.trans spare shelved alliance
  exact ⟨two.trans spare shelved neutral, shelved₃⟩

theorem guid_of_stillHeld {pairs : List (Nat × Nat)} (objects : List Held) {item : Item}
    (here : item ∈ stillHeld (takeFromStacks pairs objects)) :
    ∃ object ∈ objects, object.1.guid = item.guid := by
  have all : ∀ held ∈ takeFromStacks pairs objects, ∃ object ∈ objects, object.1.guid = held.1.guid := by
    clear here
    induction pairs generalizing objects with
    | nil => exact fun held there => ⟨held, there, rfl⟩
    | cons pair pairs ih =>
      intro held there
      obtain ⟨object, mem, same⟩ := ih (takeFromStack pair.1 pair.2 objects) held there
      obtain ⟨old, old_mem, rfl⟩ := mem_map.mp mem
      refine ⟨old, old_mem, ?_⟩
      rw [← same]
      split
      · split <;> rfl
      · rfl
  unfold stillHeld at here
  obtain ⟨held, mem, rfl⟩ := mem_map.mp here
  exact all held (mem_of_mem_filter mem)

theorem checkItems_absent {w : World} {player : Nat} {pairs : List (Nat × Nat)} (items : List Item)
    (checked : checkItems w player pairs = .ok items) :
    ∀ item ∈ items, item ∈ w.inventory player ∧ w.aItems item.guid = none := by
  induction pairs generalizing items with
  | nil =>
    cases checked
    exact fun _ here => by cases here
  | cons pair pairs ih =>
    unfold checkItems at checked
    split at checked
    · cases checked
    next item found =>
    split at checked
    · cases checked
    next fine =>
    cases tail : checkItems w player pairs with
    | error error =>
      rw [tail] at checked
      cases checked
    | ok rest =>
      rw [tail] at checked
      cases checked
      intro i here
      rcases mem_cons.mp here with rfl | later
      · refine ⟨mem_of_find?_eq_some found, ?_⟩
        rw [not_or] at fine
        simpa using fine.1
      · exact ih rest tail i later

section
variable (spare : Nat → Prop) (rules : Rules) {w : World}
include spare rules

theorem shelved_sellItem (player : Nat)
    (r : SellRequest) (shelved : Shelved spare w) :
    Delivered (addressee (.sellItem player r)) w (handleAuctionSellItem rules w player r).1
      (handleAuctionSellItem rules w player r).2 ∧
    Shelved spare (handleAuctionSellItem rules w player r).1 := by
  have open' : ∀ w₁ faction houseId deposit sold left, w₁.auctions = w.auctions →
      Delivered (addressee (.sellItem player r)) w
        (openAuction rules w₁ player r faction houseId deposit sold left).1
        (openAuction rules w₁ player r faction houseId deposit sold left).2 := by
    intro w₁ faction houseId deposit sold left same
    apply Delivered.none
    · intro id
      simp [statementsOf, openAuction]
    · intro house id gone
      rw [auctions_openAuction] at gone
      split at gone
      · cases gone
      · rw [← same]
        exact gone
  rcases handleAuctionSellItem_cases rules w player r with
    ⟨out, result, silent⟩ | ⟨faction, houseId, item, items, sale, ⟨_, result⟩ | ⟨_, result⟩⟩
  · rw [result]
    exact ⟨Delivered.silent _ w silent, shelved⟩
  · rw [result]
    obtain ⟨mine, absent⟩ := checkItems_absent _ sale.checked item mem_cons_self
    refine ⟨open' w _ _ _ _ _ rfl, shelved.opening spare w rules player r _ _ _ absent
      (shelved.carried player item mine) ?_⟩
    intro i here
    exact shelved.carried player i (mem_of_mem_filter here)
  · rw [result]
    refine ⟨open' _ _ _ _ _ _ rfl, ?_⟩
    have next : Shelved spare { w with nextItemGuid := w.nextItemGuid + 1 } :=
      shelved.frame spare w rfl rfl rfl (Nat.le_succ _)
        (fun player i here => Nat.lt_succ_of_lt (shelved.carried player i here)) shelved.nobody
    apply next.opening
    · cases there : w.aItems w.nextItemGuid with
      | none => exact there
      | some i =>
        have := (shelved.stored _ i there).2.1
        omega
    · exact Nat.lt_succ_self _
    · intro i here
      obtain ⟨object, mem, same⟩ := guid_of_stillHeld _ here
      obtain ⟨old, old_mem, rfl⟩ := mem_map.mp mem
      rw [← same]
      exact Nat.lt_succ_of_lt (shelved.carried player old old_mem)

theorem shelved_placeBid
    {player : Nat} (auctionId price : Nat) (creature : Option Nat) (shelved : Shelved spare w)
    (alive : w.character player = true) :
    Delivered (addressee (.placeBid player auctionId price creature)) w
      (handleAuctionPlaceBid rules w player auctionId price creature).1
      (handleAuctionPlaceBid rules w player auctionId price creature).2 ∧
    Shelved spare (handleAuctionPlaceBid rules w player auctionId price creature).1 := by
  rcases handleAuctionPlaceBid_cases rules w player auctionId price creature with
    ⟨out, result, silent⟩ | ⟨faction, auction, bid, ⟨_, result⟩ | ⟨_, result, _⟩⟩
  · rw [result]
    exact ⟨Delivered.silent _ w silent, shelved⟩
  · have opened := bid.opened
    rw [← (shelved.named _ _ _ opened).1] at opened
    rw [result]
    refine ⟨?_, shelved.bid spare w player price opened⟩
    apply Delivered.none
    · intro id here
      have mails := keeps_outbidded w auction id
      simp only [raiseBid, statementsOf, flatMap_cons, flatMap_nil, nil_append, append_nil] at here
      split at here
      · simp [mails] at here
      · simp at here
    · intro house id gone
      simp only [raiseBid, World.auctions_setAuction, World.modifyMoney_auctions] at gone
      split at gone
      · cases gone
      · exact gone
  · have opened := bid.opened
    rw [← (shelved.named _ _ _ opened).1] at opened
    rw [result]
    refine ⟨?_, ?_⟩
    · have someone : player ≠ 0 := by
        rintro rfl
        rw [shelved.nobody] at alive
        cases alive
      have receiver : addressee (.placeBid player auctionId price creature) auction = player := by
        simp [addressee, deletedAs, AuctionEntry.winner, someone]
      have whole := Delivered.close (addressee (.placeBid player auctionId price creature)) spare w
        (buyOut rules w (rules.auctionsMap faction) player auction).1 (rules.auctionsMap faction)
        auction [.commandResult (some { auction with bidder := player, bid := auction.buyout })
          .placeBid .ok] []
        ((if ¬ (decide (player = auction.bidder)) = true ∧ auction.bidder ≠ 0 then
            sendAuctionOutbiddedMail w auction else []) ++
          sendAuctionSalePendingMail w { auction with bidder := player, bid := auction.buyout } ++
          sendAuctionSuccessfulMail rules w { auction with bidder := player, bid := auction.buyout } ++
          sendAuctionWonMail w { auction with bidder := player, bid := auction.buyout })
        [.saveInventoryAndGold player] shelved opened rfl ⟨rfl, rfl⟩
      apply whole
      · intro id here
        have outbidded := keeps_outbidded w auction id
        have pending := keeps_salePending w { auction with bidder := player, bid := auction.buyout } id
        have successful :=
          keeps_successful rules w { auction with bidder := player, bid := auction.buyout } id
        have won := keeps_won w { auction with bidder := player, bid := auction.buyout } id
        split at here
        · simp [outbidded, pending, successful, won] at here
        · simp [pending, successful, won] at here
      · intro item there _
        refine ⟨.won, ?_⟩
        have won := itemMails_won w { auction with bidder := player, bid := auction.buyout }
          there alive
        rw [receiver, itemMails_append, itemMails_append, itemMails_append, itemMails_append,
          itemMails_salePending, itemMails_successful, won]
        split
        · rw [itemMails_outbidded]
          rfl
        · rfl
    · exact (shelved.charge spare w player _).close spare _ (rules.auctionsMap faction) auction opened

theorem shelved_removeItem (player auctionId : Nat)
    (creature : Option Nat) (shelved : Shelved spare w) :
    Delivered (addressee (.removeItem player auctionId creature)) w
      (handleAuctionRemoveItem rules w player auctionId creature).1
      (handleAuctionRemoveItem rules w player auctionId creature).2 ∧
    Shelved spare (handleAuctionRemoveItem rules w player auctionId creature).1 := by
  rcases handleAuctionRemoveItem_cases rules w player auctionId creature with
    ⟨out, result, silent⟩ | ⟨faction, auction, item, _, opened, owner, found, _, result⟩
  · rw [result]
    exact ⟨Delivered.silent _ w silent, shelved⟩
  rw [← (shelved.named _ _ _ opened).1] at opened
  rw [result]
  refine ⟨?_, ?_⟩
  · have whole := Delivered.close (addressee (.removeItem player auctionId creature)) spare w
      (cancelAuction rules w (rules.auctionsMap faction) player auction item).1
      (rules.auctionsMap faction) auction [.commandResult (some auction) .cancel .ok] []
      ((if (decide (0 < auction.bidder)) = true then
          sendAuctionCancelledToBidderMail w auction else []) ++
        [.insMail ⟨.canceled, auction.id, player, 0, some item⟩, .saveInventoryAndGold player])
      [] shelved opened (by
        unfold cancelAuction
        dsimp only
        split <;> rfl) ⟨rfl, rfl⟩
    have shape : (cancelAuction rules w (rules.auctionsMap faction) player auction item).2 =
        [.commandResult (some auction) .cancel .ok] ++ .commit (((if (decide (0 < auction.bidder)) =
          true then sendAuctionCancelledToBidderMail w auction else []) ++
        [.insMail ⟨.canceled, auction.id, player, 0, some item⟩, .saveInventoryAndGold player]) ++
        .delAuction auction.id :: []) :: [] := by
      simp [cancelAuction]
    rw [shape]
    apply whole
    · intro id here
      have returned := keeps_cancelledToBidder w auction id
      split at here
      · simp [returned] at here
      · simp at here
    · intro item' there _
      rw [found] at there
      cases there
      refine ⟨.canceled, ?_⟩
      have receiver : addressee (.removeItem player auctionId creature) auction = player := owner
      rw [receiver, itemMails_append, itemMails_append]
      split
      · rw [itemMails_cancelledToBidder]
        rfl
      · rfl
  · unfold cancelAuction
    dsimp only
    split
    · exact (shelved.charge spare w player _).close spare _ (rules.auctionsMap faction) auction opened
    · exact shelved.close spare w (rules.auctionsMap faction) auction opened

theorem shelved_step (input : Input)
    (shelved : Shelved spare w) :
    Delivered (addressee input) w (step rules w input).1 (step rules w input).2 ∧
      Shelved spare (step rules w input).1 := by
  have idle : ∀ input, Delivered (addressee input) w w [] :=
    fun input => Delivered.silent _ w (.inl rfl)
  cases input with
  | sellItem player r =>
    simp only [step]
    split
    · exact shelved_sellItem spare rules player r shelved
    · exact ⟨idle _, shelved⟩
  | placeBid player auctionId price creature =>
    simp only [step]
    split
    · next alive => exact shelved_placeBid spare rules auctionId price creature shelved alive
    · exact ⟨idle _, shelved⟩
  | removeItem player auctionId creature =>
    simp only [step]
    split
    · exact shelved_removeItem spare rules player auctionId creature shelved
    · exact ⟨idle _, shelved⟩
  | update rows =>
    obtain ⟨closing, after⟩ := closing_update spare rules rows shelved
    exact ⟨closing.toDelivered, after⟩
  | deleteCharacter player =>
    refine ⟨Delivered.none _ w _ [] (fun id => by simp [statementsOf]) (fun _ _ gone => gone), ?_⟩
    refine shelved.frame spare w rfl rfl rfl (Nat.le_refl _) shelved.carried ?_
    by_cases zero : player = 0
    · simp [step, zero]
    · simp [step, Ne.symm zero, shelved.nobody]
  | elsewhere player money items nextItemGuid =>
    simp only [step]
    split
    · rename_i fine
      refine ⟨Delivered.none _ w _ [] (fun id => by simp [statementsOf]) (fun _ _ gone => gone), ?_⟩
      refine shelved.frame spare w rfl rfl rfl fine.2.1 ?_ shelved.nobody
      intro player' item here
      dsimp only at here ⊢
      rw [Function.update_apply] at here
      split at here
      · exact fine.2.2 item here
      · have := shelved.carried player' item here
        omega
    · exact ⟨idle _, shelved⟩

end

/-- The tables keep their keys, every item that a player carries is in `item_instance`, and
no character has the number zero. -/
structure Stored (db : Database) (character : Nat → Bool) (inventory : Nat → List Item) : Prop where
  ids : (db.auctionhouse.map (·.id)).Nodup
  items : (db.auctionhouse.map (·.itemGuid)).Nodup
  carried : ∀ player, ∀ item ∈ inventory player, ∃ row ∈ db.itemInstance, row.guid = item.guid
  nobody : character 0 = false

/-- The items of the rows that `LoadAuctions` refuses. -/
def Refused (rules : Rules) (data : WorldData) (w : World) (rows : List (AuctionRow × ItemRow))
    (guid : Nat) : Prop :=
  ∃ row ∈ rows, row.1.itemGuid = guid ∧ loadFromDB rules data w row.1 row.2 = none

theorem le_foldr_max {ns : List Nat} {n : Nat} (here : n ∈ ns) : n ≤ ns.foldr max 0 := by
  induction ns with
  | nil => cases here
  | cons m ns ih =>
    rw [foldr_cons]
    rcases mem_cons.mp here with rfl | later
    · exact Nat.le_max_left _ _
    · exact Nat.le_trans (ih later) (Nat.le_max_right _ _)

theorem mem_joined {db : Database} {row : AuctionRow × ItemRow} (here : row ∈ db.joined) :
    row.1 ∈ db.auctionhouse ∧ row.2 ∈ db.itemInstance ∧ row.2.guid = row.1.itemGuid := by
  obtain ⟨first, mem, join⟩ := mem_filterMap.mp here
  obtain ⟨item, found, rfl⟩ := Option.map_eq_some_iff.mp join
  exact ⟨mem, mem_of_find?_eq_some found, by simpa using find?_some found⟩

theorem joined_sublist (db : Database) : List.Sublist (db.joined.map (·.1)) db.auctionhouse := by
  unfold Database.joined
  induction db.auctionhouse with
  | nil => exact List.Sublist.refl []
  | cons row rows ih =>
    cases found : db.itemOf row.itemGuid with
    | none => simpa [found] using ih.cons row
    | some item => simpa [found] using ih.cons_cons row

theorem joined_nodup {db : Database} (key : AuctionRow → Nat)
    (unique : (db.auctionhouse.map key).Nodup) : (db.joined.map fun row => key row.1).Nodup := by
  have sub := (joined_sublist db).map key
  rw [map_map] at sub
  exact unique.sublist sub

theorem loadAuctionItems_spec (data : WorldData) (w : World) {rows : List (AuctionRow × ItemRow)}
    (unique : (rows.map (·.2.guid)).Nodup) (empty : ∀ row ∈ rows, w.aItems row.2.guid = none) :
    ∃ aItems, loadAuctionItems data w rows = some { w with aItems := aItems } ∧
      ∀ guid item, aItems guid = some item →
        w.aItems guid = some item ∨ item.guid = guid ∧ ∃ row ∈ rows, row.2.guid = guid := by
  induction rows generalizing w with
  | nil => exact ⟨w.aItems, rfl, fun _ _ there => .inl there⟩
  | cons row rows ih =>
    obtain ⟨auction, item⟩ := row
    rw [map_cons, nodup_cons] at unique
    unfold loadAuctionItems
    split
    · obtain ⟨aItems, loaded, source⟩ := ih w unique.2
        (fun row later => empty row (mem_cons_of_mem _ later))
      refine ⟨aItems, loaded, ?_⟩
      intro guid i there
      rcases source guid i there with before | ⟨same, row, mem, named⟩
      · exact .inl before
      · exact .inr ⟨same, row, mem_cons_of_mem _ mem, named⟩
    · rename_i proto known
      have free : w.aItems item.guid = none := empty _ mem_cons_self
      rw [if_neg (by simp [free])]
      obtain ⟨aItems, loaded, source⟩ := ih (w.setAItem item.guid
        (some (Item.loadFromDB proto item))) unique.2 (by
          intro row later
          have ne : row.2.guid ≠ item.guid := fun same =>
            unique.1 (mem_map.mpr ⟨row, later, same⟩)
          rw [World.aItems_setAItem, if_neg ne]
          exact empty row (mem_cons_of_mem _ later))
      refine ⟨aItems, loaded, ?_⟩
      intro guid i there
      rcases source guid i there with before | ⟨same, row, mem, named⟩
      · rw [World.aItems_setAItem] at before
        split at before
        · rename_i here
          cases before
          exact .inr ⟨here.symm, (auction, item), mem_cons_self, here.symm⟩
        · exact .inl before
      · exact .inr ⟨same, row, mem_cons_of_mem _ mem, named⟩

theorem loadFromDB_some {rules : Rules} {data : WorldData} {w : World} {row : AuctionRow}
    {item : ItemRow} {faction : Nat} {auction : AuctionEntry}
    (loaded : loadFromDB rules data w row item = some (faction, auction)) :
    auction.id = row.id ∧ auction.itemGuidLow = row.itemGuid ∧
      ∃ i, w.aItems auction.itemGuidLow = some i := by
  unfold loadFromDB loadFromFieldList at loaded
  simp only [Option.bind_eq_bind, Option.bind_eq_some_iff, Option.pure_def] at loaded
  obtain ⟨_, ⟨_, _, _, _, _, _, fields⟩, present⟩ := loaded
  cases fields
  split at present
  · rename_i there
    cases present
    exact ⟨rfl, rfl, Option.isSome_iff_exists.mp there⟩
  · cases present

/-- The auctions in the houses are the rows that are not refused. -/
theorem loadAuctions_spec (rules : Rules) (data : WorldData) (w : World)
    {rows : List (AuctionRow × ItemRow)} (unique : (rows.map (·.1.id)).Nodup)
    (fresh : ∀ house, ∀ row ∈ rows, w.auctions house row.1.id = none) :
    ∃ auctions, (loadAuctions rules data w rows).1 = { w with auctions := auctions } ∧
      (∀ house id auction, auctions house id = some auction → w.auctions house id = some auction ∨
        ∃ row ∈ rows, ∃ faction, loadFromDB rules data w row.1 row.2 = some (faction, auction) ∧
          house = rules.auctionsMap faction ∧ id = auction.id) ∧
      (∀ house id auction, w.auctions house id = some auction → auctions house id = some auction) ∧
      ∀ row ∈ rows, ∀ faction auction, loadFromDB rules data w row.1 row.2 = some (faction, auction) →
        auctions (rules.auctionsMap faction) auction.id = some auction := by
  induction rows generalizing w with
  | nil => exact ⟨w.auctions, rfl, fun _ _ _ there => .inl there, fun _ _ _ there => there,
      fun _ none => by cases none⟩
  | cons row rows ih =>
    obtain ⟨first, item⟩ := row
    rw [map_cons, nodup_cons] at unique
    have later : ∀ house, ∀ row ∈ rows, w.auctions house row.1.id = none :=
      fun house row mem => fresh house row (mem_cons_of_mem _ mem)
    unfold loadAuctions
    cases loaded : loadFromDB rules data w first item with
    | none =>
      obtain ⟨auctions, result, source, keep, rest⟩ := ih w unique.2 later
      refine ⟨auctions, result, ?_, keep, ?_⟩
      · intro house id auction opened
        rcases source house id auction opened with before | ⟨row, mem, there⟩
        · exact .inl before
        · exact .inr ⟨row, mem_cons_of_mem _ mem, there⟩
      · intro row mem faction auction fine
        rcases mem_cons.mp mem with rfl | mem
        · rw [loaded] at fine
          cases fine
        · exact rest row mem faction auction fine
    | some found =>
      obtain ⟨faction, auction⟩ := found
      have number := (loadFromDB_some loaded).1
      have others : ∀ house, ∀ row ∈ rows, (w.setAuction (rules.auctionsMap faction) auction.id
          (some auction)).auctions house row.1.id = none := by
        intro house row mem
        have ne : row.1.id ≠ auction.id := by
          rw [number]
          exact fun same => unique.1 (mem_map.mpr ⟨row, mem, same⟩)
        rw [World.auctions_setAuction, if_neg (fun both => ne both.2)]
        exact later house row mem
      obtain ⟨auctions, result, source, keep, rest⟩ := ih _ unique.2 others
      refine ⟨auctions, result, ?_, ?_, ?_⟩
      · intro house id auction' opened
        rcases source house id auction' opened with before | ⟨row, mem, there⟩
        · rw [World.auctions_setAuction] at before
          split at before
          · rename_i here
            cases before
            exact .inr ⟨_, mem_cons_self, faction, loaded, here⟩
          · exact .inl before
        · exact .inr ⟨row, mem_cons_of_mem _ mem, there⟩
      · intro house id auction' opened
        apply keep
        have ne : id ≠ auction.id := by
          rintro rfl
          rw [number, fresh house _ mem_cons_self] at opened
          cases opened
        rw [World.auctions_setAuction, if_neg (fun both => ne both.2)]
        exact opened
      · intro row mem faction' auction' fine
        rcases mem_cons.mp mem with rfl | mem
        · rw [loaded] at fine
          cases fine
          apply keep
          rw [World.auctions_setAuction, if_pos ⟨rfl, rfl⟩]
        · exact rest row mem faction' auction' fine

theorem purged_sublist (rules : Rules) (data : WorldData) (w : World) (db : Database) (curTime : Nat) :
    List.Sublist (purged rules data w db.cleanup curTime).auctionhouse db.auctionhouse :=
  filter_sublist.trans filter_sublist

/-- The auction houses are in order when the server has started. -/
theorem shelved_start (rules : Rules) (data : WorldData) {db : Database} (curTime : Nat)
    (character : Nat → Bool) (money : Nat → Nat) (inventory : Nat → List Item)
    (stored : Stored db character inventory) :
    ∃ w out, setInitialWorldSettings rules data db curTime character money inventory =
        some (w, out) ∧
      Shelved (Refused rules data w (purged rules data (unloaded db character money inventory)
        db.cleanup curTime).joined) w := by
  unfold setInitialWorldSettings
  dsimp only
  generalize start : unloaded db character money inventory = w₀
  generalize tables : purged rules data w₀ db.cleanup curTime = db'
  have sub : List.Sublist db'.auctionhouse db.auctionhouse := by
    rw [← tables]
    exact purged_sublist rules data w₀ db curTime
  have ids : (db'.joined.map (·.1.id)).Nodup := joined_nodup (·.id) (stored.ids.sublist (sub.map _))
  have guids : (db'.joined.map (·.1.itemGuid)).Nodup :=
    joined_nodup (·.itemGuid) (stored.items.sublist (sub.map _))
  have items : (db'.joined.map (·.2.guid)).Nodup := by
    rw [map_congr_left fun row here => (mem_joined here).2.2]
    exact guids
  have known : ∀ row ∈ db'.joined, row.1.id < w₀.nextAuctionId ∧ row.2.guid < w₀.nextItemGuid := by
    intro row here
    obtain ⟨mem, item, _⟩ := mem_joined here
    rw [← tables] at mem item
    have id := le_foldr_max (mem_map_of_mem (f := (·.id)) (mem_of_mem_filter mem))
    have guid := le_foldr_max (mem_map_of_mem (f := (·.guid)) item)
    rw [← start]
    exact ⟨Nat.lt_succ_of_le id, Nat.lt_succ_of_le guid⟩
  obtain ⟨aItems, loadedItems, source⟩ := loadAuctionItems_spec data w₀ items
    (fun row _ => by rw [← start]; rfl)
  obtain ⟨auctions, loaded, rows, _, all⟩ :=
    loadAuctions_spec rules data { w₀ with aItems := aItems } ids
      (fun house row _ => by rw [← start]; rfl)
  rw [loadedItems]
  refine ⟨_, _, rfl, ?_⟩
  rw [loaded]
  have row_of : ∀ house id auction, auctions house id = some auction → ∃ row ∈ db'.joined, ∃ faction,
      loadFromDB rules data { w₀ with aItems := aItems } row.1 row.2 = some (faction, auction) ∧
        house = rules.auctionsMap faction ∧ id = auction.id := by
    intro house id auction opened
    rcases rows house id auction opened with before | row
    · rw [← start] at before
      cases before
    · exact row
  refine ⟨?_, ?_, ?_, ?_, ?_, ?_⟩
  · intro house id auction opened
    obtain ⟨row, mem, faction, fine, _, same⟩ := row_of house id auction opened
    have number := (loadFromDB_some fine).1
    exact ⟨same.symm, by rw [same, number]; exact (known row mem).1⟩
  · intro house id auction opened
    obtain ⟨row, mem, faction, fine, _⟩ := row_of house id auction opened
    exact (loadFromDB_some fine).2.2
  · intro house₁ id₁ auction₁ house₂ id₂ auction₂ opened₁ opened₂ same
    obtain ⟨row₁, mem₁, faction₁, fine₁, at₁, number₁⟩ := row_of house₁ id₁ auction₁ opened₁
    obtain ⟨row₂, mem₂, faction₂, fine₂, at₂, number₂⟩ := row_of house₂ id₂ auction₂ opened₂
    obtain ⟨id₁', guid₁, _⟩ := loadFromDB_some fine₁
    obtain ⟨id₂', guid₂, _⟩ := loadFromDB_some fine₂
    have one : row₁ = row₂ := by
      rcases same with same | same
      · exact inj_on_of_nodup_map guids mem₁ mem₂ (guid₁.symm.trans (same.trans guid₂))
      apply inj_on_of_nodup_map ids mem₁ mem₂
      rw [← id₁', ← id₂', ← number₁, ← number₂]
      exact same
    rw [one, fine₂] at fine₁
    cases fine₁
    exact ⟨at₁.trans at₂.symm, number₁.trans number₂.symm⟩
  · intro guid item there
    rcases source guid item there with before | ⟨same, row, mem, named⟩
    · rw [← start] at before
      cases before
    refine ⟨same, by rw [← named]; exact (known row mem).2, ?_⟩
    have guid' := (mem_joined mem).2.2
    cases fine : loadFromDB rules data { w₀ with aItems := aItems } row.1 row.2 with
    | none => exact .inl ⟨row, mem, guid'.symm.trans named, fine⟩
    | some found =>
      obtain ⟨faction, auction⟩ := found
      refine .inr ⟨_, _, auction, all row mem faction auction fine, ?_⟩
      rw [(loadFromDB_some fine).2.1, ← guid', named]
  · intro player item here
    rw [← start] at here ⊢
    obtain ⟨row, mem, same⟩ := stored.carried player item here
    rw [← same]
    exact Nat.lt_succ_of_le (le_foldr_max (mem_map_of_mem (f := (·.guid)) mem))
  · rw [← start]
    exact stored.nobody

/-- After every start of the server, in every run, each deletion of an auction mails its item
once, and the items on sale are those of the open auctions. -/
theorem start_delivered (rules : Rules) (data : WorldData) (db : Database) (curTime : Nat)
    (character : Nat → Bool) (money : Nat → Nat) (inventory : Nat → List Item)
    (stored : Stored db character inventory) :
    ∃ w out, setInitialWorldSettings rules data db curTime character money inventory =
        some (w, out) ∧
      let spare := Refused rules data w (purged rules data (unloaded db character money inventory)
        db.cleanup curTime).joined
      ItemsOnSale spare w ∧ ∀ inputs, ∀ t ∈ Run.trace (step rules) w inputs,
        Delivered (addressee t.input) t.before t.after t.out ∧ ItemsOnSale spare t.after := by
  obtain ⟨w, out, started, shelved⟩ :=
    shelved_start rules data curTime character money inventory stored
  refine ⟨w, out, started, shelved.itemsOnSale, ?_⟩
  generalize Refused rules data w (purged rules data (unloaded db character money inventory)
    db.cleanup curTime).joined = spare at shelved
  intro inputs t here
  have before : Shelved spare t.before :=
    Run.invariant (step rules) (fun _ _ => True) (Shelved spare)
      (fun w input shelved _ => (shelved_step spare rules input shelved).2) w shelved
      (fun _ _ => trivial) t here
  rw [Run.taken_of_mem (step rules) w inputs t here]
  obtain ⟨delivered, after⟩ := shelved_step spare rules t.input before
  exact ⟨delivered, after.itemsOnSale⟩

/-- One auction with a bid is in the tables. -/
def plainDatabase : Database where
  auctionhouse := [⟨1, 90, 5, 1, 0, 9000, 2, 700, 1, 100⟩]
  itemInstance := [⟨5, 2589, 10, 0, false, false, false, false⟩]

def plainData : WorldData where
  creatureData := fun guid => if guid = 90 then some 8661 else none
  creatureTemplate := fun _ => some 35
  itemTemplate := fun entry => if entry = 2589 then some (plainItem 5 10).proto else none

theorem plainDatabase_stored : Stored plainDatabase (fun player => player != 0) (fun _ => []) :=
  ⟨by decide, by decide, fun _ _ here => absurd here not_mem_nil, rfl⟩

theorem plainDatabase_delivered : ∃ w out,
    setInitialWorldSettings plainRules plainData plainDatabase 0 (fun player => player != 0)
      (fun _ => 1000) (fun _ => []) = some (w, out) ∧
    ∀ t ∈ Run.trace (step plainRules) w [.placeBid 3 1 900 (some 35), .removeItem 1 1 (some 35)],
      Delivered (addressee t.input) t.before t.after t.out := by
  obtain ⟨w, out, started, _, all⟩ := start_delivered plainRules plainData plainDatabase 0
    (fun player => player != 0) (fun _ => 1000) (fun _ => []) plainDatabase_stored
  exact ⟨w, out, started, fun t here => (all _ t here).1⟩

/-- The owner of an auction with a bid cancels it and gets the item back. -/
theorem cancelled_item_not_to_bidder : ∃ w out,
    setInitialWorldSettings plainRules plainData plainDatabase 0 (fun player => player != 0)
      (fun _ => 1000) (fun _ => []) = some (w, out) ∧
    ¬ ∀ t ∈ Run.trace (step plainRules) w [.removeItem 1 1 (some 35)],
      Delivered (fun auction => (deletedAs t.input auction).winner) t.before t.after t.out := by
  refine ⟨_, _, rfl, ?_⟩
  intro all
  obtain ⟨house, auction, item, opened, _, _, _, _, mail⟩ :=
    (all _ mem_cons_self).mailed _ 1 (mem_cons_of_mem _ mem_cons_self) (by decide)
  cases house with
  | alliance => cases opened
  | horde => cases opened
  | neutral =>
    cases opened
    obtain ⟨answer, sent⟩ := mail rfl
    have receiver : (itemMails _).map (·.receiver) = [2] := congrArg (List.map (·.receiver)) sent
    revert receiver
    decide

end OpenWoW.Auction
