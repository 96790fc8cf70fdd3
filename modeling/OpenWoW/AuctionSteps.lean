import OpenWoW.AuctionHouse

/-! What each request to an auction house can do. -/
namespace OpenWoW.Auction

abbrev Step := Run.Taken World Input (List Event)

/-- The statements of a step, over all its transactions. -/
def statementsOf (out : List Event) : List Statement :=
  out.flatMap fun event => match event with
    | .commit statements => statements
    | _ => []

theorem auctions_closeAuction (w : World) (auction : AuctionEntry) (house house' : House) (id : Nat) :
    (closeAuction w auction house).auctions house' id =
      if house' = house ∧ id = auction.id then none else w.auctions house' id := by
  rw [closeAuction, World.auctions_setAuction]
  rfl

theorem aItems_closeAuction (w : World) (auction : AuctionEntry) (house : House) (guid : Nat) :
    (closeAuction w auction house).aItems guid =
      if guid = auction.itemGuidLow then none else w.aItems guid := by
  rw [closeAuction, World.setAuction_aItems, World.aItems_setAItem]

section

variable (rules : Rules) (w : World) (player : Nat) (r : SellRequest) (faction houseId : Nat)
  (deposit : Nat) (item : Item) (left : List Item)

theorem auctions_openAuction (house : House) (id : Nat) :
    (openAuction rules w player r faction houseId deposit item left).1.auctions house id =
      if house = rules.auctionsMap faction ∧ id = w.nextAuctionId then
        some (newAuction rules w player r houseId deposit item)
      else w.auctions house id := by
  simp only [openAuction, World.modifyMoney_auctions, World.setInventory_auctions,
    World.auctions_setAuction]
  rfl

theorem aItems_openAuction (guid : Nat) :
    (openAuction rules w player r faction houseId deposit item left).1.aItems guid =
      if guid = item.guid then some item else w.aItems guid := by
  simp only [openAuction, World.modifyMoney_aItems, World.setInventory_aItems,
    World.setAuction_aItems, World.aItems_setAItem]

theorem inventory_openAuction (player' : Nat) :
    (openAuction rules w player r faction houseId deposit item left).1.inventory player' =
      if player' = player then left else w.inventory player' := by
  simp only [openAuction, World.modifyMoney_inventory, World.inventory_setInventory]
  rfl

theorem money_openAuction (player' : Nat) :
    (openAuction rules w player r faction houseId deposit item left).1.money player' =
      if player' = player then
        (Player.modifyMoney (w.money player) (toInt32 (-toInt32 deposit))).1
      else w.money player' := by
  simp only [openAuction, World.money_modifyMoney]
  rfl

end

/-- The answer to a request that changes nothing. -/
def Silent (out : List Event) : Prop :=
  out = [] ∨ ∃ auction action error, out = [.commandResult auction action error] ∧ error ≠ .ok

/-- The price of putting an item up. -/
def depositFor (rules : Rules) (r : SellRequest) (houseId : Nat) (item : Item) : Nat :=
  getAuctionDeposit rules houseId r.seconds item r.finalCount

structure Sale (rules : Rules) (w : World) (player : Nat) (r : SellRequest) (faction houseId : Nat)
    (item : Item) (items : List Item) : Prop where
  short : r.items.length ≤ maxAuctionItems
  valid : ∀ pair ∈ r.items, pair.1 ≠ 0 ∧ pair.2 ≠ 0 ∧ pair.2 ≤ 1000
  creature : r.creature = some faction
  houseEntry : rules.auctionHouseEntry faction = some houseId
  checked : checkItems w player r.items = .ok (item :: items)
  limits : ∀ i ∈ item :: items, r.finalCount ≤ i.proto.getMaxStackSize
  covered : depositFor rules r houseId item ≤ w.money player

theorem checkItems_not_ok {w : World} {player : Nat} {pairs : List (Nat × Nat)}
    (refused : checkItems w player pairs = .error .ok) : False := by
  induction pairs with
  | nil => cases refused
  | cons pair rest ih =>
    unfold checkItems at refused
    split at refused
    · cases refused
    split at refused
    · cases refused
    cases tail : checkItems w player rest with
    | error error =>
      rw [tail] at refused
      cases refused
      exact ih tail
    | ok items =>
      rw [tail] at refused
      cases refused

theorem checkRequest_cases (r : SellRequest) :
    (∃ out, checkRequest r = .error out ∧ Silent out) ∨
    (checkRequest r = .ok () ∧ r.items.length ≤ maxAuctionItems ∧
      ∀ pair ∈ r.items, pair.1 ≠ 0 ∧ pair.2 ≠ 0 ∧ pair.2 ≤ 1000) := by
  unfold checkRequest
  split
  · exact .inl ⟨_, rfl, .inr ⟨_, _, _, rfl, by decide⟩⟩
  next short =>
  split
  · exact .inl ⟨_, rfl, .inl rfl⟩
  next valid =>
  split
  · exact .inl ⟨_, rfl, .inl rfl⟩
  split
  · exact .inl ⟨_, rfl, .inr ⟨_, _, _, rfl, by decide⟩⟩
  refine .inr ⟨rfl, by omega, ?_⟩
  intro pair here
  simp only [List.any_eq_true, decide_eq_true_eq, not_exists, not_and, not_or] at valid
  have := valid pair here
  omega

section
variable (rules : Rules) (w : World) (player : Nat) (r : SellRequest)
include rules w player r

theorem checkStacks_cases
    (houseId : Nat) :
    (∃ error, checkStacks rules w player r houseId = .error error ∧ error ≠ .ok) ∨
    ∃ item items, checkStacks rules w player r houseId = .ok item ∧
      checkItems w player r.items = .ok (item :: items) ∧
      (∀ i ∈ item :: items, r.finalCount ≤ i.proto.getMaxStackSize) ∧
      depositFor rules r houseId item ≤ w.money player := by
  unfold checkStacks
  split
  · rename_i error refused
    refine .inl ⟨error, rfl, ?_⟩
    intro ok
    subst ok
    exact checkItems_not_ok refused
  · exact .inl ⟨_, rfl, by decide⟩
  next item items checked =>
  split
  · exact .inl ⟨_, rfl, by decide⟩
  split
  · exact .inl ⟨_, rfl, by decide⟩
  next limits =>
  split
  · exact .inl ⟨_, rfl, by decide⟩
  next covered =>
  refine .inr ⟨item, items, rfl, checked, ?_, by simpa [depositFor] using covered⟩
  intro i here
  simp only [List.any_eq_true, decide_eq_true_eq, not_exists, not_and] at limits
  have := limits i here
  omega

theorem checkSale_cases :
    (∃ out, checkSale rules w player r = .error out ∧ Silent out) ∨
    ∃ faction houseId item items, checkSale rules w player r = .ok (faction, houseId, item) ∧
      Sale rules w player r faction houseId item items := by
  unfold checkSale
  rcases checkRequest_cases r with ⟨out, request, silent⟩ | ⟨request, short, valid⟩
  · rw [request]
    exact .inl ⟨out, rfl, silent⟩
  rw [request]
  dsimp only
  split
  · exact .inl ⟨_, rfl, .inl rfl⟩
  next faction creature =>
  split
  · exact .inl ⟨_, rfl, .inl rfl⟩
  next houseId houseEntry =>
  split
  · rcases checkStacks_cases rules w player r houseId with
      ⟨error, check, wrong⟩ | ⟨item, items, check, checked, limits, covered⟩
    · rw [check]
      exact .inl ⟨_, rfl, .inr ⟨_, _, _, rfl, wrong⟩⟩
    · rw [check]
      exact .inr ⟨faction, houseId, item, items, rfl,
        ⟨short, valid, creature, houseEntry, checked, limits, covered⟩⟩
  · exact .inl ⟨_, rfl, .inl rfl⟩

theorem handleAuctionSellItem_cases :
    (∃ out, handleAuctionSellItem rules w player r = (w, out) ∧ Silent out) ∨
    ∃ faction houseId item items, Sale rules w player r faction houseId item items ∧
      ((r.items = [(item.guid, item.count)] ∧
        handleAuctionSellItem rules w player r =
          openAuction rules w player r faction houseId (depositFor rules r houseId item) item
            ((w.inventory player).filter fun i => i.guid ≠ item.guid)) ∨
      (r.items ≠ [(item.guid, item.count)] ∧
        handleAuctionSellItem rules w player r =
          openAuction rules { w with nextItemGuid := w.nextItemGuid + 1 } player r faction houseId
            (depositFor rules r houseId item) (cloneItem w r item)
            (stillHeld (takeFromStacks r.items ((w.inventory player).map (·, true)))))) := by
  unfold handleAuctionSellItem
  rcases checkSale_cases rules w player r with
    ⟨out, check, silent⟩ | ⟨faction, houseId, item, items, check, sale⟩
  · rw [check]
    exact .inl ⟨out, rfl, silent⟩
  rw [check]
  by_cases whole : r.items = [(item.guid, item.count)]
  · exact .inr ⟨faction, houseId, item, items, sale, .inl ⟨whole, if_pos whole⟩⟩
  by_cases cloned : r.cloned
  · refine .inr ⟨faction, houseId, item, items, sale, .inr ⟨whole, ?_⟩⟩
    exact (if_neg whole).trans (if_neg (by simpa using cloned))
  · refine .inl ⟨[.commandResult none .sellItem .databaseError], ?_, .inr ⟨_, _, _, rfl, by decide⟩⟩
    exact (if_neg whole).trans (if_pos cloned)

end

/-- What an accepted bid has passed. -/
structure Bid (rules : Rules) (w : World) (player auctionId price : Nat) (creature : Option Nat)
    (faction : Nat) (auction : AuctionEntry) : Prop where
  creature : creature = some faction
  opened : w.auctions (rules.auctionsMap faction) auctionId = some auction
  foreign : auction.owner ≠ player
  higher : auction.bid < price
  covered : price ≤ w.money player

theorem handleAuctionPlaceBid_cases (rules : Rules) (w : World) (player auctionId price : Nat)
    (creature : Option Nat) :
    (∃ out, handleAuctionPlaceBid rules w player auctionId price creature = (w, out) ∧ Silent out) ∨
    ∃ faction auction, Bid rules w player auctionId price creature faction auction ∧
      (((price < auction.buyout ∨ auction.buyout = 0) ∧
        handleAuctionPlaceBid rules w player auctionId price creature =
          raiseBid w (rules.auctionsMap faction) player price auction) ∨
      (auction.buyout ≠ 0 ∧
        handleAuctionPlaceBid rules w player auctionId price creature =
          buyOut rules w (rules.auctionsMap faction) player auction ∧ auction.buyout ≤ price)) := by
  generalize result : handleAuctionPlaceBid rules w player auctionId price creature = done
  unfold handleAuctionPlaceBid at result
  dsimp only at result
  split at result
  · exact .inl ⟨_, result.symm, .inl rfl⟩
  split at result
  · exact .inl ⟨_, result.symm, .inl rfl⟩
  next faction =>
  split at result
  · exact .inl ⟨_, result.symm, .inr ⟨_, _, _, rfl, by decide⟩⟩
  next auction opened =>
  split at result
  · exact .inl ⟨_, result.symm, .inr ⟨_, _, _, rfl, by decide⟩⟩
  next foreign =>
  split at result
  · exact .inl ⟨_, result.symm, .inl rfl⟩
  next high =>
  split at result
  · exact .inl ⟨_, result.symm, .inr ⟨_, _, _, rfl, by decide⟩⟩
  split at result
  · exact .inl ⟨_, result.symm, .inr ⟨_, _, _, rfl, by decide⟩⟩
  next covered =>
  have bid : Bid rules w player auctionId price (some faction) faction auction :=
    ⟨rfl, opened, foreign, by omega, by omega⟩
  split at result
  · next low => exact .inr ⟨faction, auction, bid, .inl ⟨low, result.symm⟩⟩
  · next reached => exact .inr ⟨faction, auction, bid, .inr ⟨by omega, result.symm, by omega⟩⟩

theorem handleAuctionRemoveItem_cases (rules : Rules) (w : World) (player auctionId : Nat)
    (creature : Option Nat) :
    (∃ out, handleAuctionRemoveItem rules w player auctionId creature = (w, out) ∧ Silent out) ∨
    ∃ faction auction item, creature = some faction ∧
      w.auctions (rules.auctionsMap faction) auctionId = some auction ∧
      auction.owner = player ∧ w.aItems auction.itemGuidLow = some item ∧
      (0 < auction.bidder → auction.getAuctionCut rules ≤ w.money player) ∧
      handleAuctionRemoveItem rules w player auctionId creature =
        cancelAuction rules w (rules.auctionsMap faction) player auction item := by
  generalize result : handleAuctionRemoveItem rules w player auctionId creature = done
  unfold handleAuctionRemoveItem at result
  dsimp only at result
  split at result
  · exact .inl ⟨_, result.symm, .inl rfl⟩
  next faction =>
  split at result
  · exact .inl ⟨_, result.symm, .inr ⟨_, _, _, rfl, by decide⟩⟩
  next auction opened =>
  split at result
  · exact .inl ⟨_, result.symm, .inr ⟨_, _, _, rfl, by decide⟩⟩
  next owner =>
  split at result
  · exact .inl ⟨_, result.symm, .inr ⟨_, _, _, rfl, by decide⟩⟩
  next item found =>
  split at result
  · exact .inl ⟨_, result.symm, .inl rfl⟩
  · rename_i covered
    exact .inr ⟨faction, auction, item, rfl, opened, by simpa using owner, found, by omega, result.symm⟩

theorem expireAuctions_commits {rules : Rules} {house : House} (w : World) {ids : List Nat}
    {event : Event} (here : event ∈ (expireAuctions rules house w ids).2) :
    ∃ statements, event = .commit statements := by
  induction ids generalizing w with
  | nil => cases here
  | cons id ids ih =>
    simp only [expireAuctions, List.mem_append] at here
    rcases here with first | later
    · unfold expireAuction at first
      split at first
      · cases first
      · exact ⟨_, List.mem_singleton.mp first⟩
    · exact ih _ later

theorem update_commits {rules : Rules} {w : World} (rows : House → List Nat) {event : Event}
    (here : event ∈ (update rules w rows).2) : ∃ statements, event = .commit statements := by
  simp only [update, List.mem_append] at here
  rcases here with (horde | alliance) | neutral
  · exact expireAuctions_commits _ horde
  · exact expireAuctions_commits _ alliance
  · exact expireAuctions_commits _ neutral

theorem not_ok_of_silent {out : List Event} (auction : Option AuctionEntry) (action : Action)
    (silent : Silent out) : .commandResult auction action .ok ∉ out := by
  intro here
  rcases silent with rfl | ⟨_, _, error, rfl, wrong⟩
  · cases here
  · cases List.mem_singleton.mp here
    exact wrong rfl

/-- Everything that a step can do. -/
inductive Stepped (rules : Rules) (w : World) : Input → World × List Event → Prop where
  | silent {input : Input} {out : List Event} (silent : Silent out) : Stepped rules w input (w, out)
  | sold {player : Nat} {r : SellRequest} {faction houseId : Nat} {item : Item} {items : List Item}
      {w₁ : World} (sold : Item) (left : List Item)
      (sale : Sale rules w player r faction houseId item items)
      (before : w₁ = w ∨ w₁ = { w with nextItemGuid := w.nextItemGuid + 1 }) :
      Stepped rules w (.sellItem player r)
        (openAuction rules w₁ player r faction houseId (depositFor rules r houseId item) sold left)
  | raised {player auctionId price faction : Nat} {creature : Option Nat} {auction : AuctionEntry}
      (there : w.character player = true)
      (bid : Bid rules w player auctionId price creature faction auction)
      (low : price < auction.buyout ∨ auction.buyout = 0) :
      Stepped rules w (.placeBid player auctionId price creature)
        (raiseBid w (rules.auctionsMap faction) player price auction)
  | boughtOut {player auctionId price faction : Nat} {creature : Option Nat}
      {auction : AuctionEntry} (there : w.character player = true)
      (bid : Bid rules w player auctionId price creature faction auction)
      (limited : auction.buyout ≠ 0) (high : auction.buyout ≤ price) :
      Stepped rules w (.placeBid player auctionId price creature)
        (buyOut rules w (rules.auctionsMap faction) player auction)
  | cancelled {player auctionId faction : Nat} {auction : AuctionEntry} (creature : Option Nat)
      (item : Item) (opened : w.auctions (rules.auctionsMap faction) auctionId = some auction)
      (covered : 0 < auction.bidder → auction.getAuctionCut rules ≤ w.money player) :
      Stepped rules w (.removeItem player auctionId creature)
        (cancelAuction rules w (rules.auctionsMap faction) player auction item)
  | updated (rows : House → List Nat) : Stepped rules w (.update rows) (update rules w rows)
  | deleted (player : Nat) : Stepped rules w (.deleteCharacter player)
      ({ w with character := Function.update w.character player false }, [])
  | elsewhere {player money nextItemGuid : Nat} {items : List Item}
      (sane : money ≤ Player.maxMoneyAmount) :
      Stepped rules w (.elsewhere player money items nextItemGuid)
        ({ w with
          money := Function.update w.money player money
          inventory := Function.update w.inventory player items
          nextItemGuid := nextItemGuid }, [])

section
variable {rules : Rules} {w : World} {input : Input}

theorem stepped : Stepped rules w input (step rules w input) := by
  cases input with
  | sellItem player r =>
    rw [step]
    split
    · rcases handleAuctionSellItem_cases rules w player r with
        ⟨out, result, silent⟩ | ⟨faction, houseId, item, items, sale, ⟨_, result⟩ | ⟨_, result⟩⟩
      · rw [result]
        exact .silent silent
      · rw [result]
        exact .sold _ _ sale (.inl rfl)
      · rw [result]
        exact .sold _ _ sale (.inr rfl)
    · exact .silent (.inl rfl)
  | placeBid player auctionId price creature =>
    rw [step]
    split
    · rename_i there
      rcases handleAuctionPlaceBid_cases rules w player auctionId price creature with
        ⟨out, result, silent⟩ | ⟨faction, auction, bid, ⟨low, result⟩ | ⟨limited, result, high⟩⟩
      · rw [result]
        exact .silent silent
      · rw [result]
        exact .raised there bid low
      · rw [result]
        exact .boughtOut there bid limited high
    · exact .silent (.inl rfl)
  | removeItem player auctionId creature =>
    rw [step]
    split
    · rcases handleAuctionRemoveItem_cases rules w player auctionId creature with
        ⟨out, result, silent⟩ | ⟨faction, auction, item, _, opened, _, _, covered, result⟩
      · rw [result]
        exact .silent silent
      · rw [result]
        exact .cancelled creature item opened covered
    · exact .silent (.inl rfl)
  | update rows => exact .updated rows
  | deleteCharacter player => exact .deleted player
  | elsewhere player money items nextItemGuid =>
    rw [step]
    split
    · rename_i sane
      exact .elsewhere sane.1
    · exact .silent (.inl rfl)

/-- The only steps that are answered with success for a bid. -/
theorem bid_accepted {auction' : AuctionEntry}
    (ok : .commandResult (some auction') .placeBid .ok ∈ (step rules w input).2) :
    ∃ player auctionId price creature faction auction,
      input = .placeBid player auctionId price creature ∧
      Bid rules w player auctionId price creature faction auction ∧
      (((price < auction.buyout ∨ auction.buyout = 0) ∧
        auction' = { auction with bidder := player, bid := toUInt32 price }) ∨
      (auction.buyout ≠ 0 ∧ auction' = { auction with bidder := player, bid := auction.buyout })) := by
  have done := @stepped rules w input
  generalize step rules w input = result at done ok
  cases done with
  | silent silent => exact absurd ok (not_ok_of_silent _ _ silent)
  | sold _ _ _ _ => simp [openAuction] at ok
  | @raised player auctionId price faction creature auction _ bid low =>
    refine ⟨player, auctionId, price, creature, faction, auction, rfl, bid, .inl ⟨low, ?_⟩⟩
    simpa [raiseBid] using ok
  | @boughtOut player auctionId price faction creature auction _ bid limited _ =>
    refine ⟨player, auctionId, price, creature, faction, auction, rfl, bid, .inr ⟨limited, ?_⟩⟩
    simpa [buyOut] using ok
  | cancelled _ _ _ _ => simp [cancelAuction] at ok
  | updated rows =>
    obtain ⟨_, commit⟩ := update_commits rows ok
    cases commit
  | deleted _ => cases ok
  | elsewhere _ => cases ok

/-- The only steps that are answered with success for a sale. -/
theorem sale_accepted {auction : AuctionEntry}
    (ok : .commandResult (some auction) .sellItem .ok ∈ (step rules w input).2) :
    ∃ player r faction houseId item items, input = .sellItem player r ∧
      Sale rules w player r faction houseId item items ∧
      ∃ w₁ sold left, (w₁ = w ∨ w₁ = { w with nextItemGuid := w.nextItemGuid + 1 }) ∧
        step rules w input =
          openAuction rules w₁ player r faction houseId (depositFor rules r houseId item) sold left ∧
        auction = newAuction rules w₁ player r houseId (depositFor rules r houseId item) sold := by
  have done := @stepped rules w input
  generalize step rules w input = result at done ok ⊢
  cases done with
  | silent silent => exact absurd ok (not_ok_of_silent _ _ silent)
  | @sold player r faction houseId item items w₁ sold left sale before =>
    refine ⟨player, r, faction, houseId, item, items, rfl, sale, w₁, sold, left, before, rfl, ?_⟩
    simpa [openAuction] using ok
  | raised _ _ _ => simp [raiseBid] at ok
  | boughtOut _ _ _ _ => simp [buyOut] at ok
  | cancelled _ _ _ _ => simp [cancelAuction] at ok
  | updated rows =>
    obtain ⟨_, commit⟩ := update_commits rows ok
    cases commit
  | deleted _ => cases ok
  | elsewhere _ => cases ok

end

def plainRules : Rules where
  auctionsMap := fun _ => .neutral
  auctionHouseEntry := fun _ => some 7
  auctionTime := id
  outBidPct := fun bid => bid * 5 / 100
  cutPct := fun _ bid => (bid : Int) * 15 / 100
  depositPct := fun _ _ sellPrice count => sellPrice * count
  twoSideInteraction := false

def plainSale (items : List (Nat × Nat)) : SellRequest :=
  { auctioneer := 1, items := items, bid := 1, buyout := 0, etime := 720, creature := some 35,
    time := 0, cloned := true }

/-- Every player is rich, and the first one has a stack of ten. -/
def plainWorld : World where
  character := fun player => player != 0
  money := fun _ => 9000000000
  inventory := fun player => if player = 1 then [plainItem 5 10] else []
  auctions := fun _ _ => none
  aItems := fun _ => none
  nextAuctionId := 1
  nextItemGuid := 100

end OpenWoW.Auction
