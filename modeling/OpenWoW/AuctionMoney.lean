import OpenWoW.AuctionSteps

/-! The gold that bidders have in the auction houses. -/
namespace OpenWoW.Auction

open List

/-- A mail that gives a bidder his gold back. -/
def refundIn : Statement → Option Mail
  | .insMail mail =>
    if mail.answer = .outbidded ∨ mail.answer = .cancelledToBidder then some mail else none
  | _ => none

def refunds (out : List Event) : List Mail := (statementsOf out).filterMap refundIn

/-- What a step takes from the wallet of a player who bids on the auction. -/
def charged (t : Step) (id player : Nat) : Int :=
  match t.input with
  | .placeBid bidder auctionId _ _ =>
    if bidder = player ∧ auctionId = id then (t.before.money player : Int) - t.after.money player
    else 0
  | _ => 0

def refunded (t : Step) (id player : Nat) : Int :=
  (((refunds t.out).filter fun mail => mail.auction = id ∧ mail.receiver = player).map
    fun mail => (mail.money : Int)).sum

/-- What a player has been charged for an auction and not yet refunded. -/
def paid (past : List Step) (id player : Nat) : Int :=
  (past.map fun t => charged t id player - refunded t id player).sum

/-- What is asked of a run. -/
structure MoneyConserved (steps : List Step) : Prop where
  escrow : ∀ pre t post, steps = pre ++ t :: post → ∀ house id auction,
    t.after.auctions house id = some auction → auction.bidder ≠ 0 →
    (auction.bid : Int) = paid (pre ++ [t]) id auction.bidder
  refund : ∀ pre t post, steps = pre ++ t :: post → ∀ mail ∈ refunds t.out,
    (mail.money : Int) = paid pre mail.auction mail.receiver
  increase : ∀ t ∈ steps, ∀ auction', .commandResult (some auction') .placeBid .ok ∈ t.out →
    ∃ house auction, t.before.auctions house auction'.id = some auction ∧ auction.bid < auction'.bid
  deposit : ∀ t ∈ steps, ∀ auction, .commandResult (some auction) .sellItem .ok ∈ t.out →
    t.after.money auction.owner + auction.deposit = t.before.money auction.owner

/-- A bid that the wallet covers on an auction without a buyout fits the 32 bits of its bid
field, and a deposit that the wallet covers fits the 31 bits of its cast. -/
def Exact (rules : Rules) (w : World) : Input → Prop
  | .placeBid player auctionId price (some faction) =>
    ∀ auction ∈ w.auctions (rules.auctionsMap faction) auctionId,
      auction.buyout = 0 → auction.owner ≠ player → price ≤ w.money player → price < 2 ^ 32
  | .sellItem player r =>
    ∀ houseId ∈ r.creature.bind rules.auctionHouseEntry,
      ∀ item ∈ (checkItems w player r.items).toOption.bind (·.head?),
        depositFor rules r houseId item < 2 ^ 31
  | _ => True

instance (rules : Rules) (w : World) : (input : Input) → Decidable (Exact rules w input)
  | .placeBid player auctionId price (some faction) => inferInstanceAs (Decidable
      (∀ auction ∈ w.auctions (rules.auctionsMap faction) auctionId,
        auction.buyout = 0 → auction.owner ≠ player → price ≤ w.money player → price < 2 ^ 32))
  | .sellItem player r => inferInstanceAs (Decidable
      (∀ houseId ∈ r.creature.bind rules.auctionHouseEntry,
        ∀ item ∈ (checkItems w player r.items).toOption.bind (·.head?),
          depositFor rules r houseId item < 2 ^ 31))
  | .placeBid _ _ _ none => .isTrue trivial
  | .removeItem _ _ _ => .isTrue trivial
  | .update _ => .isTrue trivial
  | .deleteCharacter _ => .isTrue trivial
  | .elsewhere _ _ _ _ => .isTrue trivial

/-- A server on which no auction is open yet. -/
structure Started (w : World) : Prop where
  empty : ∀ house id, w.auctions house id = none
  wallets : ∀ player, w.money player ≤ Player.maxMoneyAmount
  nobody : w.character 0 = false

/-- The invariant of an open auction in itself. -/
structure Sound (w : World) (id : Nat) (auction : AuctionEntry) : Prop where
  named : auction.id = id
  issued : id < w.nextAuctionId
  narrow : auction.buyout < 2 ^ 32
  below : auction.buyout ≠ 0 → auction.bid < auction.buyout
  fits : auction.bid < 2 ^ 32
  unbid : auction.bidder = 0 → auction.bid = 0

/-- The invariant that ties the open auctions to a ledger of what each player has paid. -/
structure Escrow (ledger : Nat → Nat → Int) (w : World) : Prop where
  wallets : ∀ player, w.money player ≤ Player.maxMoneyAmount
  nobody : w.character 0 = false
  sound : ∀ house id auction, w.auctions house id = some auction → Sound w id auction
  once : ∀ house house' id, (w.auctions house id).isSome → (w.auctions house' id).isSome →
    house = house'
  bidder : ∀ house id auction, w.auctions house id = some auction → auction.bidder ≠ 0 →
    ledger id auction.bidder = auction.bid
  others : ∀ house id auction, w.auctions house id = some auction → ∀ player,
    w.character player → player ≠ auction.bidder → ledger id player = 0
  fresh : ∀ id, w.nextAuctionId ≤ id → ∀ player, ledger id player = 0

theorem paid_append (past : List Step) (t : Step) (id player : Nat) :
    paid (past ++ [t]) id player =
      paid past id player + (charged t id player - refunded t id player) := by
  simp [paid]

variable {w : World}

theorem Escrow.start (started : Started w) : Escrow (paid []) w where
  wallets := started.wallets
  nobody := started.nobody
  sound := by simp [started.empty]
  once := by simp [started.empty]
  bidder := by simp [started.empty]
  others := by simp [started.empty]
  fresh := by simp [paid]

variable (ledger : Nat → Nat → Int) (creature : Option Nat) (ledger' : Nat → Nat → Int)

theorem Escrow.close (w w' : World) (escrow : Escrow ledger w)
    (wallets : ∀ player, w'.money player ≤ Player.maxMoneyAmount)
    (character : ∀ player, w'.character player → w.character player)
    (next : w'.nextAuctionId = w.nextAuctionId)
    (fewer : ∀ house id auction, w'.auctions house id = some auction →
      w.auctions house id = some auction ∧ ledger' id = ledger id)
    (unused : ∀ id, w.nextAuctionId ≤ id → ledger' id = ledger id) : Escrow ledger' w' where
  wallets := wallets
  nobody := by
    have before := escrow.nobody
    cases now : w'.character 0 with
    | false => rfl
    | true => rw [character 0 now] at before; cases before
  sound := by
    intro house id auction here
    have before := escrow.sound house id auction (fewer house id auction here).1
    exact ⟨before.named, by rw [next]; exact before.issued, before.narrow, before.below,
      before.fits, before.unbid⟩
  once := by
    intro house house' id here there
    obtain ⟨auction, here⟩ := Option.isSome_iff_exists.mp here
    obtain ⟨auction', there⟩ := Option.isSome_iff_exists.mp there
    exact escrow.once house house' id (by rw [(fewer _ _ _ here).1]; rfl)
      (by rw [(fewer _ _ _ there).1]; rfl)
  bidder := by
    intro house id auction here
    obtain ⟨before, same⟩ := fewer house id auction here
    rw [same]
    exact escrow.bidder house id auction before
  others := by
    intro house id auction here player there
    obtain ⟨before, same⟩ := fewer house id auction here
    rw [same]
    exact escrow.others house id auction before player (character player there)
  fresh := by
    intro id later player
    rw [next] at later
    rw [unused id later]
    exact escrow.fresh id later player

theorem fewer_of_closeAuction (w w' : World) (auction : AuctionEntry) (house : House)
    (same : w'.auctions = w.auctions) (house' : House) (id : Nat) (other : AuctionEntry)
    (here : (closeAuction w' auction house).auctions house' id = some other) :
    w.auctions house' id = some other ∧ ¬ (house' = house ∧ id = auction.id) := by
  rw [auctions_closeAuction] at here
  split at here
  · cases here
  · next apart => exact ⟨by rw [← same]; exact here, apart⟩

def outbidded (auction : AuctionEntry) : Mail :=
  ⟨.outbidded, auction.id, auction.bidder, auction.bid, none⟩

def cancelledToBidder (auction : AuctionEntry) : Mail :=
  ⟨.cancelledToBidder, auction.id, auction.bidder, auction.bid, none⟩

theorem refunds_wonMail (w : World) (auction : AuctionEntry) :
    (sendAuctionWonMail w auction).filterMap refundIn = [] := by
  unfold sendAuctionWonMail
  split
  · rfl
  · split <;> rfl

theorem refunds_salePendingMail (w : World) (auction : AuctionEntry) :
    (sendAuctionSalePendingMail w auction).filterMap refundIn = [] := by
  unfold sendAuctionSalePendingMail
  split <;> rfl

theorem refunds_successfulMail (rules : Rules) (w : World) (auction : AuctionEntry) :
    (sendAuctionSuccessfulMail rules w auction).filterMap refundIn = [] := by
  unfold sendAuctionSuccessfulMail
  split <;> rfl

theorem refunds_expiredMail (w : World) (auction : AuctionEntry) :
    (sendAuctionExpiredMail w auction).filterMap refundIn = [] := by
  unfold sendAuctionExpiredMail
  split
  · rfl
  · split <;> rfl

theorem refunds_outbiddedMail (w : World) (auction : AuctionEntry) :
    (sendAuctionOutbiddedMail w auction).filterMap refundIn =
      if w.character auction.bidder then [outbidded auction] else [] := by
  unfold sendAuctionOutbiddedMail
  split <;> rfl

theorem refunds_cancelledToBidderMail (w : World) (auction : AuctionEntry) :
    (sendAuctionCancelledToBidderMail w auction).filterMap refundIn =
      if w.character auction.bidder then [cancelledToBidder auction] else [] := by
  unfold sendAuctionCancelledToBidderMail
  split <;> rfl

theorem refunds_raiseBid (w : World) (house : House) (player price : Nat) (auction : AuctionEntry) :
    refunds (raiseBid w house player price auction).2 =
      if 0 < auction.bidder ∧ auction.bidder ≠ player ∧ w.character auction.bidder then
        [outbidded auction] else [] := by
  have statements : refunds (raiseBid w house player price auction).2 =
      (if 0 < auction.bidder ∧ auction.bidder ≠ player then sendAuctionOutbiddedMail w auction
        else []).filterMap refundIn := by
    simp [refunds, statementsOf, raiseBid, refundIn]
  rw [statements]
  by_cases other : 0 < auction.bidder ∧ auction.bidder ≠ player
  · rw [if_pos other, refunds_outbiddedMail]
    simp [other]
  · rw [if_neg other, if_neg (by tauto)]
    rfl

theorem refunds_buyOut (rules : Rules) (w : World) (house : House) (player : Nat)
    (auction : AuctionEntry) :
    refunds (buyOut rules w house player auction).2 =
      if player ≠ auction.bidder ∧ auction.bidder ≠ 0 ∧ w.character auction.bidder then
        [outbidded auction] else [] := by
  have statements : refunds (buyOut rules w house player auction).2 =
      (if player ≠ auction.bidder ∧ auction.bidder ≠ 0 then sendAuctionOutbiddedMail w auction
        else []).filterMap refundIn := by
    simp [refunds, statementsOf, buyOut, refundIn, refunds_wonMail, refunds_salePendingMail,
      refunds_successfulMail]
  rw [statements]
  by_cases other : player ≠ auction.bidder ∧ auction.bidder ≠ 0
  · rw [if_pos other, refunds_outbiddedMail]
    simp [other]
  · rw [if_neg other, if_neg (by tauto)]
    rfl

theorem refunds_cancelAuction (rules : Rules) (w : World) (house : House) (player : Nat)
    (auction : AuctionEntry) (item : Item) :
    refunds (cancelAuction rules w house player auction item).2 =
      if 0 < auction.bidder ∧ w.character auction.bidder then [cancelledToBidder auction]
      else [] := by
  have statements : refunds (cancelAuction rules w house player auction item).2 =
      (if 0 < auction.bidder then sendAuctionCancelledToBidderMail w auction
        else []).filterMap refundIn := by
    simp [refunds, statementsOf, cancelAuction, refundIn]
  rw [statements]
  by_cases bidded : 0 < auction.bidder
  · rw [if_pos bidded, refunds_cancelledToBidderMail]
    simp [bidded]
  · rw [if_neg bidded, if_neg (by tauto)]
    rfl

theorem refunds_expireAuction (rules : Rules) (w : World) (house : House) (id : Nat) :
    refunds (expireAuction rules w house id).2 = [] := by
  unfold expireAuction
  split
  · rfl
  next auction _ =>
  dsimp only
  split
  · simp [refunds, statementsOf, refundIn, refunds_expiredMail]
  · simp [refunds, statementsOf, refundIn, refunds_wonMail, refunds_successfulMail]

theorem refunds_append (xs ys : List Event) : refunds (xs ++ ys) = refunds xs ++ refunds ys := by
  simp [refunds, statementsOf]

theorem refunds_expireAuctions (rules : Rules) (house : House) (w : World) (ids : List Nat) :
    refunds (expireAuctions rules house w ids).2 = [] := by
  induction ids generalizing w with
  | nil => rfl
  | cons id ids ih =>
    simp only [expireAuctions, refunds_append, refunds_expireAuction, ih, append_nil]

theorem refunds_update (rules : Rules) (w : World) (rows : House → List Nat) :
    refunds (update rules w rows).2 = [] := by
  simp only [update, refunds_append, refunds_expireAuctions, append_nil]

theorem refunds_silent {out : List Event} (silent : Silent out) : refunds out = [] := by
  rcases silent with rfl | ⟨auction, action, error, rfl, _⟩ <;> rfl

def entered (ledger : Nat → Nat → Int) (t : Step) (id player : Nat) : Int :=
  ledger id player + (charged t id player - refunded t id player)

theorem refunded_nil {t : Step} (none : refunds t.out = []) (id player : Nat) :
    refunded t id player = 0 := by
  simp [refunded, none]

theorem refunded_singleton {t : Step} {mail : Mail} (one : refunds t.out = [mail])
    (id player : Nat) :
    refunded t id player = if mail.auction = id ∧ mail.receiver = player then (mail.money : Int)
      else 0 := by
  by_cases same : mail.auction = id ∧ mail.receiver = player <;> simp [refunded, one, same]

theorem entered_same {t : Step} (free : ∀ id player, charged t id player = 0)
    (none : refunds t.out = []) : entered ledger t = ledger := by
  funext id player
  simp [entered, free, refunded_nil none]

variable {player : Nat}

theorem money_charge {amount : Nat} (player' : Nat)
    (wallet : w.money player ≤ Player.maxMoneyAmount) (covered : amount ≤ w.money player) :
    (w.modifyMoney player (-toInt64 amount)).money player' =
      if player' = player then w.money player - amount else w.money player' := by
  have small : amount < 2 ^ 63 := by
    unfold Player.maxMoneyAmount at wallet
    omega
  rw [World.money_modifyMoney, toInt64_of_lt amount small,
    Player.modifyMoney_charge (by unfold Player.maxMoneyAmount at wallet; omega) covered]

theorem escrow_closeAuction (escrow : Escrow ledger w)
    (auction : AuctionEntry) (house : House) : Escrow ledger (closeAuction w auction house) := by
  refine Escrow.close ledger ledger w _ escrow escrow.wallets (fun _ there => there) rfl ?_
    (fun _ _ => rfl)
  intro house' id other here
  exact ⟨(fewer_of_closeAuction w w auction house rfl house' id other here).1, rfl⟩

theorem escrow_expireAuctions (rules : Rules) (house : House) (w : World)
    (ids : List Nat) (escrow : Escrow ledger w) :
    Escrow ledger (expireAuctions rules house w ids).1 := by
  induction ids generalizing w with
  | nil => exact escrow
  | cons id ids ih =>
    simp only [expireAuctions]
    apply ih
    unfold expireAuction
    split
    · exact escrow
    · exact escrow_closeAuction ledger escrow _ house

theorem escrow_update (rules : Rules)
    (rows : House → List Nat) (escrow : Escrow ledger w) : Escrow ledger (update rules w rows).1 :=
  escrow_expireAuctions ledger rules .neutral _ _
    (escrow_expireAuctions ledger rules .alliance _ _
      (escrow_expireAuctions ledger rules .horde _ _ escrow))

/-- A new auction has no bidder and an empty ledger. -/
theorem escrow_openAuction (rules : Rules)
    (r : SellRequest) (faction houseId : Nat) {deposit : Nat} (item : Item) (left : List Item)
    (escrow : Escrow ledger w) (covered : deposit ≤ w.money player) (narrow : deposit < 2 ^ 31) :
    (openAuction rules w player r faction houseId deposit item left).1.money player + deposit =
        w.money player ∧
      Escrow ledger (openAuction rules w player r faction houseId deposit item left).1 := by
  have wallet := escrow.wallets player
  have exact' : (Player.modifyMoney (w.money player) (toInt32 (-toInt32 deposit))).1 =
      w.money player - deposit := by
    rw [toInt32_of_lt narrow, toInt32_neg narrow,
      Player.modifyMoney_charge (by unfold Player.maxMoneyAmount at wallet; omega) covered]
  have money := money_openAuction rules w player r faction houseId deposit item left
  have auctions := auctions_openAuction rules w player r faction houseId deposit item left
  have unused : ∀ house, w.auctions house w.nextAuctionId = none := by
    intro house
    cases here : w.auctions house w.nextAuctionId with
    | none => rfl
    | some auction => exact absurd (escrow.sound house _ auction here).issued (by omega)
  refine ⟨?_, ?_, escrow.nobody, ?_, ?_, ?_, ?_, ?_⟩
  · rw [money, if_pos rfl, exact']
    omega
  · intro player'
    rw [money]
    split
    · rw [exact']
      omega
    · exact escrow.wallets player'
  · intro house id auction here
    rw [auctions] at here
    split at here
    · rename_i new
      cases here
      rw [new.2]
      refine ⟨rfl, ?_, ?_, ?_, ?_, fun _ => rfl⟩
      · exact Nat.lt_succ_self _
      · simp only [newAuction, toUInt32]
        omega
      · intro some
        exact Nat.pos_of_ne_zero some
      · simp [newAuction]
    · have before := escrow.sound house id auction here
      exact ⟨before.named, Nat.lt_succ_of_lt before.issued, before.narrow, before.below,
        before.fits, before.unbid⟩
  · intro house house' id here there
    rw [auctions] at here there
    split at here
    · rename_i new
      rw [new.2, unused] at there
      split at there
      · next same => rw [new.1, same.1]
      · cases there
    · split at there
      · rename_i new
        rw [new.2, unused] at here
        cases here
      · exact escrow.once house house' id here there
  · intro house id auction here bidded
    rw [auctions] at here
    split at here
    · cases here
      exact absurd rfl bidded
    · exact escrow.bidder house id auction here bidded
  · intro house id auction here player' there other
    rw [auctions] at here
    split at here
    · rename_i new
      rw [new.2]
      exact escrow.fresh _ (Nat.le_refl _) player'
    · exact escrow.others house id auction here player' there other
  · intro id later player'
    exact escrow.fresh id (Nat.le_of_succ_le later) player'

/-- What a bid costs: the difference for one's own earlier bid, else the whole price. -/
def cost (player price : Nat) (auction : AuctionEntry) : Nat :=
  if auction.bidder = player then price - auction.bid else price

theorem cost_le (player price : Nat) (auction : AuctionEntry) :
    cost player price auction ≤ price := by
  unfold cost
  split <;> omega

variable {auction : AuctionEntry}

theorem money_raiseBid (house : House) {price : Nat}
    (someone : player ≠ 0) (wallet : w.money player ≤ Player.maxMoneyAmount)
    (higher : auction.bid < price) (covered : price ≤ w.money player) (player' : Nat) :
    (raiseBid w house player price auction).1.money player' =
      if player' = player then w.money player - cost player price auction
      else w.money player' := by
  have amount : (raiseBid w house player price auction).1.money =
      (w.modifyMoney player (-toInt64 (cost player price auction))).money := by
    unfold raiseBid cost
    by_cases own : auction.bidder = player
    · have difference : toUInt64 ((price : Int) - auction.bid) = price - auction.bid := by
        unfold toUInt64
        unfold Player.maxMoneyAmount at wallet
        omega
      simp [own, Nat.pos_of_ne_zero someone, difference]
    · simp [own]
  rw [amount]
  exact money_charge player' wallet (Nat.le_trans (cost_le player price auction) covered)

theorem money_buyOut (rules : Rules) (w : World) (house : House) (player : Nat)
    (auction : AuctionEntry) (wallet : w.money player ≤ Player.maxMoneyAmount)
    (narrow : auction.buyout < 2 ^ 32) (below : auction.bid < auction.buyout)
    (covered : auction.buyout ≤ w.money player) (player' : Nat) :
    (buyOut rules w house player auction).1.money player' =
      if player' = player then w.money player - cost player auction.buyout auction
      else w.money player' := by
  have amount : (buyOut rules w house player auction).1.money =
      (w.modifyMoney player (-toInt64 (cost player auction.buyout auction))).money := by
    unfold buyOut cost closeAuction
    by_cases own : auction.bidder = player
    · have difference : toUInt32 ((auction.buyout : Int) - auction.bid) =
          auction.buyout - auction.bid := by
        unfold toUInt32
        omega
      simp [own, difference]
    · have other : ¬ player = auction.bidder := fun same => own same.symm
      simp [own, other]
  rw [amount]
  exact money_charge player' wallet (Nat.le_trans (cost_le player _ auction) covered)

theorem charged_placeBid {w' : World} (auctionId price : Nat) {amount : Nat}
    (creature : Option Nat) (out : List Event) (covered : amount ≤ w.money player)
    (money : w'.money player = w.money player - amount) (id player' : Nat) :
    charged ⟨w, .placeBid player auctionId price creature, w', out⟩ id player' =
      if player = player' ∧ auctionId = id then (amount : Int) else 0 := by
  unfold charged
  dsimp only
  split
  · rename_i same
    rw [← same.1, money]
    omega
  · rfl

abbrev bidStep (w : World) (player auctionId price : Nat) (creature : Option Nat)
    (result : World × List Event) : Step :=
  ⟨w, .placeBid player auctionId price creature, result.1, result.2⟩

theorem refunded_cases (t : Step) (auction : AuctionEntry) (mail : Mail) (back : Prop)
    [Decidable back] (out : refunds t.out = if back then [mail] else [])
    (about : mail.auction = auction.id ∧ mail.receiver = auction.bidder ∧ mail.money = auction.bid)
    (id player : Nat) :
    refunded t id player = if back ∧ id = auction.id ∧ player = auction.bidder then
      (auction.bid : Int) else 0 := by
  by_cases sent : back
  · rw [if_pos sent] at out
    rw [refunded_singleton out, about.1, about.2.1, about.2.2]
    by_cases same : id = auction.id ∧ player = auction.bidder
    · rw [if_pos ⟨same.1.symm, same.2.symm⟩, if_pos ⟨sent, same⟩]
    · rw [if_neg (fun both => same ⟨both.1.symm, both.2.symm⟩), if_neg (fun all => same all.2)]
  · rw [if_neg sent] at out
    rw [refunded_nil out, if_neg (fun all => sent all.1)]

/-- The ledger after an accepted bid, raised or bought out. -/
theorem entered_bid (w : World) (house : House)
    (player auctionId price paying : Nat) (creature : Option Nat) (auction : AuctionEntry)
    (result : World × List Event) (escrow : Escrow ledger w) (there : w.character player)
    (opened : w.auctions house auctionId = some auction)
    (higher : auction.bid < paying) (covered : paying ≤ w.money player)
    (money : result.1.money player = w.money player - cost player paying auction)
    (back : refunds result.2 =
      if auction.bidder ≠ 0 ∧ auction.bidder ≠ player ∧ w.character auction.bidder then
        [outbidded auction] else []) :
    (∀ id, id ≠ auctionId →
      entered ledger (bidStep w player auctionId price creature result) id = ledger id) ∧
    entered ledger (bidStep w player auctionId price creature result) auctionId player = paying ∧
    ∀ other, w.character other → other ≠ player →
      entered ledger (bidStep w player auctionId price creature result) auctionId other = 0 := by
  have sound := escrow.sound house auctionId auction opened
  have charge := charged_placeBid auctionId price
    creature result.2 (Nat.le_trans (cost_le player paying auction) covered) money
  have refund := refunded_cases (bidStep w player auctionId price creature result) auction
    (outbidded auction) _ back ⟨rfl, rfl, rfl⟩
  refine ⟨?_, ?_, ?_⟩
  · intro id different
    funext other
    rw [entered, charge, refund, if_neg (fun both => different both.2.symm),
      if_neg (fun all => different (all.2.1.trans sound.named))]
    simp
  · rw [entered, charge, refund, if_pos ⟨rfl, rfl⟩, if_neg (fun all => all.1.2.1 all.2.2.symm)]
    unfold cost
    by_cases own : auction.bidder = player
    · have someone : auction.bidder ≠ 0 := by
        intro zero
        rw [← own, zero, escrow.nobody] at there
        cases there
      have before := escrow.bidder house auctionId auction opened someone
      rw [own] at before
      rw [if_pos own, before]
      omega
    · have before := escrow.others house auctionId auction opened player there
        (fun same => own same.symm)
      rw [if_neg own, before]
      omega
  · intro other alive different
    rw [entered, charge, refund, if_neg (fun both => different both.1.symm)]
    by_cases old : other = auction.bidder
    · -- the old bidder is still there, so he was paid back
      subst old
      have someone : auction.bidder ≠ 0 := by
        intro zero
        rw [zero, escrow.nobody] at alive
        cases alive
      rw [if_pos ⟨⟨someone, different, alive⟩, sound.named.symm, rfl⟩,
        escrow.bidder house auctionId auction opened someone]
      omega
    · rw [if_neg (fun all => old all.2.2),
        escrow.others house auctionId auction opened other alive old]
      rfl

/-- Replacing an open auction by one with a new bidder who has paid its bid. -/
theorem Escrow.replace (w w' : World) (house : House)
    (auctionId : Nat) (auction auction' : AuctionEntry) (escrow : Escrow ledger w)
    (opened : w.auctions house auctionId = some auction)
    (wallets : ∀ player, w'.money player ≤ Player.maxMoneyAmount)
    (character : w'.character = w.character) (next : w'.nextAuctionId = w.nextAuctionId)
    (auctions : ∀ house' id, w'.auctions house' id =
      if house' = house ∧ id = auctionId then some auction' else w.auctions house' id)
    (sound : Sound w' auctionId auction')
    (apart : ∀ id, id ≠ auctionId → ledger' id = ledger id)
    (paying : ledger' auctionId auction'.bidder = auction'.bid)
    (others : ∀ other, w.character other → other ≠ auction'.bidder → ledger' auctionId other = 0) :
    Escrow ledger' w' := by
  have different : ∀ house' id auction'', ¬ (house' = house ∧ id = auctionId) →
      w.auctions house' id = some auction'' → id ≠ auctionId := by
    intro house' id auction'' elsewhere here same
    subst same
    exact elsewhere ⟨escrow.once house' house id (by rw [here]; rfl) (by rw [opened]; rfl), rfl⟩
  refine ⟨wallets, by rw [character]; exact escrow.nobody, ?_, ?_, ?_, ?_, ?_⟩
  · intro house' id auction'' here
    rw [auctions] at here
    split at here
    · rename_i same
      cases here
      rw [same.2]
      exact sound
    have before := escrow.sound house' id auction'' here
    exact ⟨before.named, by rw [next]; exact before.issued, before.narrow, before.below,
      before.fits, before.unbid⟩
  · intro house' house'' id here there
    have still : ∀ h, (w'.auctions h id).isSome → (w.auctions h id).isSome := by
      intro h isThere
      rw [auctions] at isThere
      split at isThere
      · next same => rw [same.1, same.2, opened]; rfl
      · exact isThere
    exact escrow.once house' house'' id (still _ here) (still _ there)
  · intro house' id auction'' here bidded
    rw [auctions] at here
    split at here
    · rename_i same
      cases here
      rw [same.2]
      exact paying
    next elsewhere =>
    rw [apart id (different house' id auction'' elsewhere here)]
    exact escrow.bidder house' id auction'' here bidded
  · intro house' id auction'' here other alive foreign
    rw [character] at alive
    rw [auctions] at here
    split at here
    · rename_i same
      cases here
      rw [same.2]
      exact others other alive foreign
    next elsewhere =>
    rw [apart id (different house' id auction'' elsewhere here)]
    exact escrow.others house' id auction'' here other alive foreign
  · intro id later other
    rw [next] at later
    have issued := (escrow.sound house auctionId auction opened).issued
    rw [apart id (by omega)]
    exact escrow.fresh id later other

theorem escrow_raiseBid {house : House} {auctionId price : Nat} (escrow : Escrow ledger w)
    (there : w.character player)
    (opened : w.auctions house auctionId = some auction) (higher : auction.bid < price)
    (covered : price ≤ w.money player) (low : price < auction.buyout ∨ auction.buyout = 0)
    (narrow : price < 2 ^ 32) :
    Escrow (entered ledger (bidStep w player auctionId price creature
      (raiseBid w house player price auction))) (raiseBid w house player price auction).1 := by
  have someone : player ≠ 0 := by
    intro zero
    rw [zero, escrow.nobody] at there
    cases there
  have sound := escrow.sound house auctionId auction opened
  have wallet := escrow.wallets player
  have money := money_raiseBid house someone wallet higher covered
  have back := refunds_raiseBid w house player price auction
  simp only [Nat.pos_iff_ne_zero] at back
  obtain ⟨apart, paying, others⟩ := entered_bid ledger w house player auctionId price price creature
    auction (raiseBid w house player price auction) escrow there opened higher covered
    (by rw [money, if_pos rfl]) back
  refine escrow.replace ledger _ w _ house auctionId auction
    { auction with bidder := player, bid := price } opened ?_ rfl rfl ?_ ?_ apart paying others
  · intro player'
    rw [money]
    split
    · omega
    · exact escrow.wallets player'
  · intro house' id
    unfold raiseBid
    rw [World.auctions_setAuction, sound.named, toUInt32_of_lt price narrow]
    rfl
  · refine ⟨sound.named, sound.issued, sound.narrow, ?_, narrow, fun zero => absurd zero someone⟩
    intro limited
    rcases low with less | none
    · exact less
    · exact absurd none limited

theorem escrow_buyOut (rules : Rules) (w : World) (house : House)
    (player auctionId price : Nat) (creature : Option Nat) (auction : AuctionEntry)
    (escrow : Escrow ledger w) (there : w.character player)
    (opened : w.auctions house auctionId = some auction) (limited : auction.buyout ≠ 0)
    (covered : auction.buyout ≤ w.money player) :
    Escrow (entered ledger (bidStep w player auctionId price creature
      (buyOut rules w house player auction))) (buyOut rules w house player auction).1 := by
  have sound := escrow.sound house auctionId auction opened
  have wallet := escrow.wallets player
  have below := sound.below limited
  have money := money_buyOut rules w house player auction wallet sound.narrow below covered
  have back := refunds_buyOut rules w house player auction
  have reordered : (player ≠ auction.bidder ∧ auction.bidder ≠ 0 ∧ w.character auction.bidder) ↔
      (auction.bidder ≠ 0 ∧ auction.bidder ≠ player ∧ w.character auction.bidder) :=
    ⟨fun all => ⟨all.2.1, all.1.symm, all.2.2⟩, fun all => ⟨all.2.1.symm, all.1, all.2.2⟩⟩
  simp only [reordered] at back
  obtain ⟨apart, _, _⟩ := entered_bid ledger w house player auctionId price auction.buyout creature
    auction (buyOut rules w house player auction) escrow there opened below covered
    (by rw [money, if_pos rfl]) back
  refine escrow.close ledger _ w _ ?_ (fun _ alive => alive) rfl ?_ ?_
  · intro player'
    rw [money]
    split
    · omega
    · exact escrow.wallets player'
  · intro house' id other here
    obtain ⟨before, elsewhere⟩ := fewer_of_closeAuction w _ _ house rfl house' id other here
    refine ⟨before, apart id ?_⟩
    intro same
    subst same
    exact elsewhere ⟨escrow.once house' house id (by rw [before]; rfl) (by rw [opened]; rfl),
      sound.named.symm⟩
  · intro id later
    have issued := sound.issued
    exact apart id (by omega)

variable {rules : Rules}

/-- A cancelled auction: the bidder is paid back, and nobody can bid on it any more. -/
theorem escrow_cancelAuction {house : House}
    {auctionId : Nat} (item : Item)
    (escrow : Escrow ledger w) (opened : w.auctions house auctionId = some auction)
    (covered : 0 < auction.bidder → auction.getAuctionCut rules ≤ w.money player) :
    Escrow (entered ledger ⟨w, .removeItem player auctionId creature,
        (cancelAuction rules w house player auction item).1,
        (cancelAuction rules w house player auction item).2⟩)
      (cancelAuction rules w house player auction item).1 := by
  have sound := escrow.sound house auctionId auction opened
  have refund := refunded_cases ⟨w, .removeItem player auctionId creature,
    (cancelAuction rules w house player auction item).1,
    (cancelAuction rules w house player auction item).2⟩ auction (cancelledToBidder auction) _
    (refunds_cancelAuction rules w house player auction item) ⟨rfl, rfl, rfl⟩
  have apart : ∀ id, id ≠ auctionId → entered ledger ⟨w, .removeItem player auctionId creature,
      (cancelAuction rules w house player auction item).1,
      (cancelAuction rules w house player auction item).2⟩ id = ledger id := by
    intro id different
    funext other
    rw [entered, refund, if_neg (fun all => different (all.2.1.trans sound.named))]
    simp [charged]
  refine escrow.close ledger _ w _ ?_ ?_ ?_ ?_ ?_
  · intro player'
    unfold cancelAuction closeAuction
    by_cases bidded : 0 < auction.bidder
    · have money := money_charge player' (escrow.wallets player) (covered bidded)
      simp only [bidded, decide_true, if_true, World.setAuction_money, World.setAItem_money, money]
      have wallet := escrow.wallets player
      split
      · omega
      · exact escrow.wallets player'
    · simpa [bidded] using escrow.wallets player'
  · intro player' alive
    unfold cancelAuction closeAuction at alive
    by_cases bidded : 0 < auction.bidder <;> simpa [bidded] using alive
  · unfold cancelAuction closeAuction
    by_cases bidded : 0 < auction.bidder <;> simp [bidded]
  · intro house' id other here
    have same : (if (0 < auction.bidder : Bool) then
        w.modifyMoney player (-toInt64 (auction.getAuctionCut rules)) else w).auctions =
        w.auctions := by
      split <;> rfl
    obtain ⟨before, elsewhere⟩ := fewer_of_closeAuction w _ auction house same house' id other here
    refine ⟨before, apart id ?_⟩
    intro equal
    subst equal
    exact elsewhere ⟨escrow.once house' house id (by rw [before]; rfl) (by rw [opened]; rfl),
      sound.named.symm⟩
  · intro id later
    have issued := sound.issued
    exact apart id (by omega)

theorem escrow_silent (input : Input) {out : List Event}
    (escrow : Escrow ledger w) (silent : Silent out) :
    Escrow (entered ledger ⟨w, input, w, out⟩) w := by
  rw [entered_same]
  · exact escrow
  · intro id player
    unfold charged
    cases input <;> simp
  · exact refunds_silent silent

theorem deposit_narrow {r : SellRequest} {faction houseId : Nat} {item : Item} {items : List Item}
    (sale : Sale rules w player r faction houseId item items)
    (narrow : Exact rules w (.sellItem player r)) : depositFor rules r houseId item < 2 ^ 31 := by
  apply narrow houseId ?_ item ?_
  · simp [sale.creature, sale.houseEntry]
  · simp [sale.checked, Except.toOption]

theorem price_narrow {auctionId price : Nat}
    {creature : Option Nat} {faction : Nat}
    (escrow : Escrow ledger w) (bid : Bid rules w player auctionId price creature faction auction)
    (low : price < auction.buyout ∨ auction.buyout = 0)
    (narrow : Exact rules w (.placeBid player auctionId price creature)) : price < 2 ^ 32 := by
  rcases low with less | unlimited
  · have := (escrow.sound _ _ _ bid.opened).narrow
    omega
  · rw [bid.creature] at narrow
    exact narrow auction bid.opened unlimited bid.foreign bid.covered

variable {input : Input}

theorem escrow_cloning {w₁ : World} (escrow : Escrow ledger w)
    (before : w₁ = w ∨ w₁ = { w with nextItemGuid := w.nextItemGuid + 1 }) :
    Escrow ledger w₁ ∧ w₁.money = w.money := by
  rcases before with rfl | rfl
  · exact ⟨escrow, rfl⟩
  · exact ⟨escrow.close ledger ledger w _ escrow.wallets (fun _ alive => alive) rfl
      (fun _ _ _ here => ⟨here, rfl⟩) (fun _ _ => rfl), rfl⟩

theorem escrow_step
    (escrow : Escrow ledger w) (narrow : Exact rules w input) :
    Escrow (entered ledger (Run.take (step rules) w input)) (step rules w input).1 := by
  have done := @stepped rules w input
  unfold Run.take
  generalize step rules w input = result at done ⊢
  cases done with
  | silent silent => exact escrow_silent ledger _ escrow silent
  | @sold player r faction houseId item items w₁ sold left sale before =>
    obtain ⟨other, same⟩ := escrow_cloning ledger escrow before
    rw [entered_same ledger (fun _ _ => rfl) rfl]
    exact (escrow_openAuction ledger rules r faction houseId sold left other
      (by rw [same]; exact sale.covered) (deposit_narrow sale narrow)).2
  | raised there bid low =>
    exact escrow_raiseBid ledger _ escrow there bid.opened bid.higher bid.covered low
      (price_narrow ledger escrow bid low narrow)
  | boughtOut there bid limited high =>
    exact escrow_buyOut ledger rules w _ _ _ _ _ _ escrow there bid.opened limited
      (Nat.le_trans high bid.covered)
  | cancelled creature item opened covered =>
    exact escrow_cancelAuction ledger creature item escrow opened covered
  | updated rows =>
    rw [entered_same ledger (fun _ _ => rfl) (refunds_update rules w rows)]
    exact escrow_update ledger rules rows escrow
  | deleted player =>
    rw [entered_same ledger (fun _ _ => rfl) rfl]
    refine escrow.close ledger ledger w _ escrow.wallets ?_ rfl (fun _ _ _ here => ⟨here, rfl⟩)
      (fun _ _ => rfl)
    intro player' alive
    simp only [Function.update_apply] at alive
    split at alive
    · cases alive
    · exact alive
  | elsewhere sane =>
    rw [entered_same ledger (fun _ _ => rfl) rfl]
    refine escrow.close ledger ledger w _ ?_ (fun _ alive => alive) rfl
      (fun _ _ _ here => ⟨here, rfl⟩) (fun _ _ => rfl)
    intro player'
    simp only [Function.update_apply]
    split
    · exact sane
    · exact escrow.wallets player'

/-- A mail that pays a bidder back pays what the ledger says. -/
theorem refund_paid
    (escrow : Escrow ledger w) {mail : Mail} (back : mail ∈ refunds (step rules w input).2) :
    (mail.money : Int) = ledger mail.auction mail.receiver := by
  have owed : ∀ house id auction, w.auctions house id = some auction → auction.bidder ≠ 0 →
      (auction.bid : Int) = ledger auction.id auction.bidder := by
    intro house id auction opened bidded
    rw [(escrow.sound house id auction opened).named]
    exact (escrow.bidder house id auction opened bidded).symm
  have done := @stepped rules w input
  generalize step rules w input = result at done back
  cases done with
  | silent silent =>
    rw [refunds_silent silent] at back
    cases back
  | sold _ _ _ _ => cases back
  | raised _ bid _ =>
    rw [refunds_raiseBid] at back
    split at back
    · rename_i sent
      rw [mem_singleton.mp back]
      exact owed _ _ _ bid.opened (Nat.pos_iff_ne_zero.mp sent.1)
    · cases back
  | boughtOut _ bid _ _ =>
    rw [refunds_buyOut] at back
    split at back
    · rename_i sent
      rw [mem_singleton.mp back]
      exact owed _ _ _ bid.opened sent.2.1
    · cases back
  | cancelled _ _ opened _ =>
    rw [refunds_cancelAuction] at back
    split at back
    · rename_i sent
      rw [mem_singleton.mp back]
      exact owed _ _ _ opened (Nat.pos_iff_ne_zero.mp sent.1)
    · cases back
  | updated rows =>
    rw [refunds_update] at back
    cases back
  | deleted _ => cases back
  | elsewhere _ => cases back

theorem bid_increases
    (escrow : Escrow ledger w) (narrow : Exact rules w input) {auction' : AuctionEntry}
    (ok : .commandResult (some auction') .placeBid .ok ∈ (step rules w input).2) :
    ∃ house auction, w.auctions house auction'.id = some auction ∧ auction.bid < auction'.bid := by
  obtain ⟨player, auctionId, price, creature, faction, auction, rfl, bid, ends⟩ :=
    bid_accepted ok
  have sound := escrow.sound _ _ _ bid.opened
  refine ⟨rules.auctionsMap faction, auction, ?_, ?_⟩
  · rcases ends with ⟨_, rfl⟩ | ⟨_, rfl⟩
    · rw [sound.named]
      exact bid.opened
    · rw [sound.named]
      exact bid.opened
  · rcases ends with ⟨low, rfl⟩ | ⟨limited, rfl⟩
    · rw [toUInt32_of_lt price (price_narrow
        ledger escrow bid low narrow)]
      exact bid.higher
    · exact sound.below limited

theorem deposit_charged
    (escrow : Escrow ledger w) (narrow : Exact rules w input)
    (ok : .commandResult (some auction) .sellItem .ok ∈ (step rules w input).2) :
    (step rules w input).1.money auction.owner + auction.deposit = w.money auction.owner := by
  obtain ⟨player, r, faction, houseId, item, items, rfl, sale, w₁, sold, left, before, result, rfl⟩ :=
    sale_accepted ok
  obtain ⟨other, same⟩ := escrow_cloning ledger escrow before
  have charge := (escrow_openAuction ledger rules r faction houseId sold left other
    (by rw [same]; exact sale.covered) (deposit_narrow sale narrow)).1
  rw [result, ← same]
  exact charge

/-- In every run of sales, bids, cancellations and updates whose bids fit the auction's bid
field and whose deposits fit their cast, no gold is lost or made in the auction houses. -/
theorem moneyConserved_of_exact (rules : Rules) (w : World) (inputs : List Input)
    (started : Started w)
    (narrow : ∀ t ∈ Run.trace (step rules) w inputs, Exact rules t.before t.input) :
    MoneyConserved (Run.trace (step rules) w inputs) := by
  have keep : ∀ past w input, Escrow (paid past) w → Exact rules w input →
      Escrow (paid (past ++ [Run.take (step rules) w input])) (step rules w input).1 := by
    intro past w input escrow allowed
    have ledger : paid (past ++ [Run.take (step rules) w input]) =
        entered (paid past) (Run.take (step rules) w input) := by
      funext id player
      exact paid_append past _ id player
    rw [ledger]
    exact escrow_step (paid past) escrow allowed
  have before : ∀ pre t post, Run.trace (step rules) w inputs = pre ++ t :: post →
      Escrow (paid pre) t.before := by
    intro pre t post split
    simpa using Run.history_at (step rules) (Exact rules) (fun past w => Escrow (paid past) w) keep
      [] w (Escrow.start started) narrow pre split
  have taken : ∀ t ∈ Run.trace (step rules) w inputs, t = Run.take (step rules) t.before t.input :=
    fun t here => Run.taken_of_mem (step rules) w inputs t here
  refine ⟨?_, ?_, ?_, ?_⟩
  · intro pre t post split house id auction opened bidded
    have here : t ∈ Run.trace (step rules) w inputs := by simp [split]
    have after := keep pre t.before t.input (before pre t post split) (narrow t here)
    rw [← taken t here] at after
    rw [taken t here] at opened
    exact (after.bidder house id auction opened bidded).symm
  · intro pre t post split mail back
    have here : t ∈ Run.trace (step rules) w inputs := by simp [split]
    rw [taken t here] at back
    exact refund_paid (paid pre) (before pre t post split) back
  · intro t here auction' ok
    obtain ⟨pre, post, split⟩ := append_of_mem here
    rw [taken t here] at ok ⊢
    exact bid_increases (paid pre) (before pre t post split) (narrow t here) ok
  · intro t here auction ok
    obtain ⟨pre, post, split⟩ := append_of_mem here
    rw [taken t here] at ok ⊢
    exact deposit_charged (paid pre) (before pre t post split) (narrow t here) ok

theorem plainWorld_started : Started plainWorld :=
  ⟨fun _ _ => rfl, fun _ => by simp [plainWorld, Player.maxMoneyAmount], rfl⟩

/-- A sale, two bids by different players and a cancellation. -/
theorem sale_bids_cancel_moneyConserved :
    MoneyConserved (Run.trace (step plainRules) plainWorld
      [.sellItem 1 (plainSale [(5, 10)]), .placeBid 2 1 1000 (some 35),
        .placeBid 3 1 2000 (some 35), .removeItem 1 1 (some 35)]) :=
  moneyConserved_of_exact plainRules plainWorld _ plainWorld_started (by decide +kernel)

/-- A bid of 2^32 copper on an auction without a buyout is charged in full and recorded as
a bid of nothing. -/
theorem wide_bid_not_moneyConserved :
    ¬ MoneyConserved (Run.trace (step plainRules) plainWorld
      [.sellItem 1 (plainSale [(5, 10)]), .placeBid 2 1 (2 ^ 32) (some 35)]) := by
  intro holds
  have recorded : ∃ auction, (step plainRules (step plainRules plainWorld
      (.sellItem 1 (plainSale [(5, 10)]))).1 (.placeBid 2 1 (2 ^ 32) (some 35))).1.auctions
        .neutral 1 = some auction ∧ auction.bidder = 2 ∧ auction.bid = 0 :=
    ⟨_, rfl, rfl, by decide +kernel⟩
  obtain ⟨auction, opened, bidder, bid⟩ := recorded
  have equal := holds.escrow [_] _ [] rfl .neutral 1 auction opened (by simp [bidder])
  rw [bid, bidder] at equal
  revert equal
  decide +kernel

end OpenWoW.Auction
