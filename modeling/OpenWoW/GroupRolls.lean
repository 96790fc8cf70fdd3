import Mathlib.Data.List.Nodup
import OpenWoW.Group
import OpenWoW.Lib.Run

/-! The totals of the rolls for group loot, and when a roll is counted. -/
namespace OpenWoW.Groups

open List

open Looting (LootItem)

namespace Roll

def votes (roll : Roll) (p : RollVote → Bool) : Nat := OrderedMap.count roll.playerVote p

/-- The totals are the numbers of entries; a disenchanter counts as greedy. -/
structure Tallied (roll : Roll) : Prop where
  players : roll.totalPlayersRolling.toNat = roll.playerVote.length
  need : roll.totalNeed.toNat = roll.votes (· = .need)
  greed : roll.totalGreed.toNat = roll.votes fun vote => vote = .greed || vote = .disenchant
  pass : roll.totalPass.toNat = roll.votes (· = .pass)

def Undecided (roll : Roll) : Prop := ∃ entry ∈ roll.playerVote, entry.2 = .notEmitedYet

/-- A roll as the code means it, whether or not everybody has voted. -/
structure Regular (roll : Roll) : Prop extends Tallied roll where
  distinct : (OrderedMap.keys roll.playerVote).Nodup
  valid : ∀ entry ∈ roll.playerVote, entry.2 ≠ .notValid

variable {roll : Roll}

theorem votes_split (valid : ∀ entry ∈ roll.playerVote, entry.2 ≠ .notValid) :
    roll.playerVote.length = roll.votes (· = .pass) + roll.votes (· = .need) +
      roll.votes (fun vote => vote = .greed || vote = .disenchant) +
      roll.votes (· = .notEmitedYet) := by
  unfold votes
  generalize roll.playerVote = entries at valid
  induction entries with
  | nil => rfl
  | cons entry entries ih =>
    have rest := ih fun other later => valid other (mem_cons_of_mem entry later)
    have kind := valid entry mem_cons_self
    simp only [OrderedMap.count_cons, length_cons]
    cases vote : entry.2 with
    | notValid => exact absurd vote kind
    | _ => simp; omega

theorem undecided_iff : roll.Undecided ↔ 0 < roll.votes (· = .notEmitedYet) := by
  unfold Undecided votes OrderedMap.count
  rw [countP_pos_iff]
  simp

theorem Regular.allVoted_iff (regular : roll.Regular) :
    roll.allVoted = true ↔ ¬ roll.Undecided := by
  have split := votes_split regular.valid
  have totals := regular.toTallied
  rw [undecided_iff, allVoted, decide_eq_true_eq, totals.players, totals.pass, totals.need,
    totals.greed]
  omega

theorem Regular.bounded (regular : roll.Regular) : roll.playerVote.length ≤ 255 := by
  rw [← regular.players]
  have := roll.totalPlayersRolling.toNat_lt
  omega

theorem toNat_succ {total : UInt8} {n : Nat} (same : total.toNat = n) (room : n + 1 ≤ 255) :
    (total + 1).toNat = n + 1 := by
  rw [UInt8.toNat_add, same, UInt8.toNat_one]
  exact Nat.mod_eq_of_lt (by omega)

theorem toNat_pred {total : UInt8} {n : Nat} (same : total.toNat = n + 1) :
    (total - 1).toNat = n := by
  have small := total.toNat_lt
  rw [UInt8.toNat_sub, same, UInt8.toNat_one]
  omega

/-- The entry of the player and the total of its kind. -/
def cast (roll : Roll) (player : Nat) (vote : RollVote) : Roll :=
  { roll with
    totalGreed :=
      if vote = .greed ∨ vote = .disenchant then roll.totalGreed + 1 else roll.totalGreed
    totalNeed := if vote = .need then roll.totalNeed + 1 else roll.totalNeed
    totalPass := if vote = .pass then roll.totalPass + 1 else roll.totalPass
    playerVote := OrderedMap.assign roll.playerVote player vote }

theorem choose_cases (roll : Roll) (player : Nat) (choice : UInt8) :
    (¬ choice < 4 ∧ roll.choose player choice = roll) ∨
      choice < 4 ∧ ∃ vote, vote ≠ .notValid ∧ roll.choose player choice = roll.cast player vote := by
  unfold choose
  split
  · next is => exact .inr ⟨by rw [is]; decide, .pass, by decide, rfl⟩
  split
  · next is => exact .inr ⟨by rw [is]; decide, .need, by decide, rfl⟩
  split
  · next is => exact .inr ⟨by rw [is]; decide, .greed, by decide, rfl⟩
  split
  · next is => exact .inr ⟨by rw [is]; decide, .disenchant, by decide, rfl⟩
  next pass need greed disenchant =>
  refine .inl ⟨fun small => ?_, rfl⟩
  have below : choice.toNat < 4 := small
  simp only [← UInt8.toNat_inj, UInt8.toNat_zero, UInt8.toNat_one] at pass need greed disenchant
  have two : (2 : UInt8).toNat = 2 := rfl
  have three : (3 : UInt8).toNat = 3 := rfl
  omega

theorem Regular.cast (regular : roll.Regular) {player : Nat} {vote : RollVote}
    (here : OrderedMap.value? roll.playerVote player = some .notEmitedYet)
    (valid : vote ≠ .notValid) : (roll.cast player vote).Regular := by
  have totals := regular.toTallied
  have split := votes_split regular.valid
  have bounded := regular.bounded
  have waiting : 0 < roll.votes (· = .notEmitedYet) :=
    undecided_iff.mp ⟨_, OrderedMap.mem_of_value? here, rfl⟩
  have follows (total : UInt8) (p : RollVote → Bool) (old : p .notEmitedYet = false)
      (same : total.toNat = roll.votes p) (room : roll.votes p + 1 ≤ 255) :
      (if p vote then total + 1 else total).toNat =
        OrderedMap.count (OrderedMap.assign roll.playerVote player vote) p := by
    have exchange := OrderedMap.count_assign regular.distinct here vote p
    rw [old, if_neg Bool.false_ne_true, Nat.add_zero] at exchange
    rw [exchange]
    split
    · exact toNat_succ same room
    · exact same
  refine { players := ?_, need := ?_, greed := ?_, pass := ?_, distinct := ?_, valid := ?_ }
  · exact totals.players.trans (OrderedMap.length_assign _ _ _).symm
  · simpa [Roll.cast, votes] using follows roll.totalNeed (· = .need) rfl totals.need (by omega)
  · simpa [Roll.cast, votes] using follows roll.totalGreed
      (fun vote => vote = .greed || vote = .disenchant) rfl totals.greed (by omega)
  · simpa [Roll.cast, votes] using follows roll.totalPass (· = .pass) rfl totals.pass (by omega)
  · unfold Roll.cast
    rw [OrderedMap.keys_assign]
    exact regular.distinct
  · intro entry mem
    rcases OrderedMap.mem_assign mem with rfl | ⟨there, _⟩
    · exact valid
    · exact regular.valid entry there

theorem Regular.choose (regular : roll.Regular) {player : Nat} {choice : UInt8}
    (first : choice < 4 → OrderedMap.value? roll.playerVote player = some .notEmitedYet) :
    (roll.choose player choice).Regular := by
  rcases choose_cases roll player choice with ⟨_, same⟩ | ⟨counted, vote, valid, same⟩
  · rw [same]
    exact regular
  · rw [same]
    exact regular.cast (first counted) valid

theorem Regular.leave (regular : roll.Regular) {guid : Nat} {vote : RollVote}
    (here : OrderedMap.value? roll.playerVote guid = some vote) :
    (roll.leave guid vote).Regular := by
  have totals := regular.toTallied
  have less := OrderedMap.count_erase regular.distinct here
  have shorter := OrderedMap.length_erase regular.distinct here
  have kind : vote ≠ .notValid := regular.valid _ (OrderedMap.mem_of_value? here)
  have follows (total : UInt8) (p : RollVote → Bool) (same : total.toNat = roll.votes p) :
      (if p vote then total - 1 else total).toNat =
        OrderedMap.count (OrderedMap.erase roll.playerVote guid) p := by
    have now := less p
    split
    · rename_i of
      rw [if_pos of] at now
      exact toNat_pred (same.trans now.symm)
    next other =>
    rw [if_neg other] at now
    exact same.trans now.symm
  refine { players := ?_, need := ?_, greed := ?_, pass := ?_, distinct := ?_, valid := ?_ }
  · simp only [Roll.leave, if_pos kind]
    exact toNat_pred (totals.players.trans shorter.symm)
  · simpa [Roll.leave, votes] using follows roll.totalNeed (· = .need) totals.need
  · simpa [Roll.leave, votes] using follows roll.totalGreed
      (fun vote => vote = .greed || vote = .disenchant) totals.greed
  · simpa [Roll.leave, votes] using follows roll.totalPass (· = .pass) totals.pass
  · exact OrderedMap.nodup_keys_erase regular.distinct guid
  · exact fun entry mem => regular.valid entry (mem_of_mem_filter mem)

end Roll

/-- The rolls of a group: regular, undecided and told apart by their item guids, which were
all drawn. -/
structure Pending (rolls : List Roll) (nextItemGuid : Nat) : Prop where
  regular : ∀ roll ∈ rolls, roll.Regular
  undecided : ∀ roll ∈ rolls, roll.Undecided
  distinct : (rolls.map Roll.itemGUID).Nodup
  drawn : ∀ roll ∈ rolls, roll.itemGUID < nextItemGuid

variable {rolls : List Roll} {next : Nat}

theorem Pending.sublist {some_ : List Roll} (pending : Pending rolls next)
    (sub : some_.Sublist rolls) : Pending some_ next where
  regular := fun roll mem => pending.regular roll (sub.subset mem)
  undecided := fun roll mem => pending.undecided roll (sub.subset mem)
  distinct := pending.distinct.sublist (sub.map _)
  drawn := fun roll mem => pending.drawn roll (sub.subset mem)

theorem Pending.append {more : List Roll} {after : Nat} (pending : Pending rolls next)
    (new : Pending more after) (later : next ≤ after)
    (above : ∀ roll ∈ more, next ≤ roll.itemGUID) : Pending (rolls ++ more) after where
  regular := by
    intro roll mem
    rcases mem_append.mp mem with old | mem
    · exact pending.regular roll old
    · exact new.regular roll mem
  undecided := by
    intro roll mem
    rcases mem_append.mp mem with old | mem
    · exact pending.undecided roll old
    · exact new.undecided roll mem
  distinct := by
    rw [map_append]
    refine nodup_append.mpr ⟨pending.distinct, new.distinct, ?_⟩
    intro a old b mem
    obtain ⟨roll, there, rfl⟩ := mem_map.mp old
    obtain ⟨roll', there', rfl⟩ := mem_map.mp mem
    have := pending.drawn roll there
    have := above roll' there'
    omega
  drawn := by
    intro roll mem
    rcases mem_append.mp mem with old | mem
    · exact Nat.lt_of_lt_of_le (pending.drawn roll old) later
    · exact new.drawn roll mem

theorem Pending.map (pending : Pending rolls next) (f : Roll → Roll)
    (names : ∀ roll, (f roll).itemGUID = roll.itemGUID) (regular : ∀ roll ∈ rolls, (f roll).Regular)
    (undecided : ∀ roll ∈ rolls, (f roll).Undecided) : Pending (rolls.map f) next where
  regular := by
    intro roll mem
    obtain ⟨was, there, rfl⟩ := mem_map.mp mem
    exact regular was there
  undecided := by
    intro roll mem
    obtain ⟨was, there, rfl⟩ := mem_map.mp mem
    exact undecided was there
  distinct := by
    have same : (rolls.map f).map Roll.itemGUID = rolls.map Roll.itemGUID := by
      rw [map_map]
      exact map_congr_left fun roll _ => names roll
    rw [same]
    exact pending.distinct
  drawn := by
    intro roll mem
    obtain ⟨was, there, rfl⟩ := mem_map.mp mem
    rw [names]
    exact pending.drawn was there

theorem Pending.set {i : Nat} {roll : Roll} (pending : Pending rolls next)
    {was : Roll} (here : rolls[i]? = some was) (same : roll.itemGUID = was.itemGUID)
    (regular : roll.Regular) (undecided : roll.Undecided) : Pending (rolls.set i roll) next where
  regular := by
    intro other mem
    rcases mem_or_eq_of_mem_set mem with old | rfl
    · exact pending.regular other old
    · exact regular
  undecided := by
    intro other mem
    rcases mem_or_eq_of_mem_set mem with old | rfl
    · exact pending.undecided other old
    · exact undecided
  distinct := by
    have names : (rolls.set i roll).map Roll.itemGUID = rolls.map Roll.itemGUID := by
      rw [map_set, same]
      apply ext_getElem?
      intro j
      rw [getElem?_set]
      split
      · rename_i at_
        subst at_
        obtain ⟨small, is⟩ := List.getElem?_eq_some_iff.mp here
        simp [small, is]
      · rfl
    rw [names]
    exact pending.distinct
  drawn := by
    intro other mem
    rcases mem_or_eq_of_mem_set mem with old | rfl
    · exact pending.drawn other old
    · rw [same]
      exact pending.drawn was (mem_of_getElem? here)

variable (w : World) (guid : Nat) (autoPass : Bool) (cause : Cause)

namespace Rolling

theorem getRoll_some {rolls : List Roll} {guid i : Nat} (found : getRoll rolls guid = some i) :
    ∃ roll, rolls[i]? = some roll ∧ roll.itemGUID = guid ∧ roll.isValid = true := by
  obtain ⟨small, test, _⟩ := findIdx?_eq_some_iff_getElem.mp found
  rw [Bool.and_eq_true, decide_eq_true_eq] at test
  exact ⟨rolls[i], getElem?_eq_getElem small, test.1, test.2⟩

theorem countRollVote_cases (player guid : Nat) (choice : UInt8)
    (r : Rolling) :
    r.countRollVote w cause player guid choice = r ∨
      ∃ i roll vote, getRoll r.rolls guid = some i ∧ r.rolls[i]? = some roll ∧
        OrderedMap.value? roll.playerVote player = some vote ∧ lootEmpty r.loots roll = false ∧
        (((roll.choose player choice).allVoted = false ∧
            r.countRollVote w cause player guid choice =
              { r with rolls := r.rolls.set i (roll.choose player choice) }) ∨
          ((roll.choose player choice).allVoted = true ∧
            ∃ loots outcome, r.countRollVote w cause player guid choice =
              ⟨r.rolls.eraseIdx i, loots,
                r.counted ++ [⟨roll.choose player choice, cause, outcome⟩]⟩)) := by
  unfold countRollVote
  cases found : getRoll r.rolls guid with
  | none => exact .inl rfl
  | some i =>
    obtain ⟨roll, here, _⟩ := getRoll_some found
    simp only [here]
    cases entry : OrderedMap.value? roll.playerVote player with
    | none => exact .inl rfl
    | some vote =>
      cases empty : lootEmpty r.loots roll with
      | true => exact .inl rfl
      | false =>
        refine .inr ⟨i, roll, vote, rfl, here, entry, empty, ?_⟩
        cases all : (roll.choose player choice).allVoted with
        | false => exact .inl ⟨rfl, rfl⟩
        | true =>
          refine .inr ⟨rfl, ((roll.choose player choice).countTheRoll w r.loots).1,
            ((roll.choose player choice).countTheRoll w r.loots).2, ?_⟩
          simp [count, eraseIdx_set_eq]

theorem countRollVote_absent (player guid : Nat) (choice : UInt8)
    (r : Rolling) (absent : ∀ roll ∈ r.rolls, roll.itemGUID = guid →
      OrderedMap.value? roll.playerVote player = none) :
    r.countRollVote w cause player guid choice = r := by
  rcases countRollVote_cases w cause player guid choice r with
    same | ⟨i, roll, vote, found, here, entry, _⟩
  · exact same
  obtain ⟨roll', here', named, _⟩ := getRoll_some found
  obtain rfl := Option.some.inj (here.symm.trans here')
  rw [absent roll (mem_of_getElem? here) named] at entry
  cases entry

def FirstVote (rolls : List Roll) (loots : Nat → Looting.Loot) (player guid : Nat)
    (choice : UInt8) : Prop :=
  ∀ i roll vote, getRoll rolls guid = some i → rolls[i]? = some roll →
    OrderedMap.value? roll.playerVote player = some vote → lootEmpty loots roll = false →
    choice < 4 → vote = .notEmitedYet

theorem choose_itemGUID (roll : Roll) (player : Nat) (choice : UInt8) :
    (roll.choose player choice).itemGUID = roll.itemGUID := by
  rcases Roll.choose_cases roll player choice with ⟨_, same⟩ | ⟨_, vote, _, same⟩
  · rw [same]
  · rw [same]
    rfl

theorem countRollVote_pending {player guid : Nat} {choice : UInt8}
    {r : Rolling} {next : Nat} (pending : Pending r.rolls next) (none : r.counted = [])
    (first : FirstVote r.rolls r.loots player guid choice) :
    Pending (r.countRollVote w cause player guid choice).rolls next ∧
      ∀ c ∈ (r.countRollVote w cause player guid choice).counted, ¬ c.roll.Undecided := by
  rcases countRollVote_cases w cause player guid choice r with
    same | ⟨i, roll, vote, found, here, entry, open_, effect⟩
  · rw [same, none]
    exact ⟨pending, fun c mem => absurd mem not_mem_nil⟩
  have regular : (roll.choose player choice).Regular := by
    apply (pending.regular roll (mem_of_getElem? here)).choose
    intro counts
    rw [entry, first i roll vote found here entry open_ counts]
  rcases effect with ⟨waits, effect⟩ | ⟨all, loots, outcome, effect⟩
  · rw [effect]
    have undecided : (roll.choose player choice).Undecided := by
      by_contra decided
      rw [regular.allVoted_iff.mpr decided] at waits
      cases waits
    refine ⟨pending.set here (choose_itemGUID roll player choice) regular undecided, ?_⟩
    dsimp only
    rw [none]
    exact fun c mem => absurd mem not_mem_nil
  · rw [effect, none]
    refine ⟨pending.sublist (eraseIdx_sublist _ _), fun c mem => ?_⟩
    obtain rfl := mem_singleton.mp mem
    exact regular.allVoted_iff.mp all

/-- The roll after a member has left. -/
def departed (guid : Nat) (roll : Roll) : Roll :=
  match OrderedMap.value? roll.playerVote guid with
  | none => roll
  | some vote => roll.leave guid vote

theorem departed_itemGUID (roll : Roll) :
    (departed guid roll).itemGUID = roll.itemGUID := by
  unfold departed
  split <;> rfl

/-- `RemoveMember` takes the member out of every roll, and none of them is counted: the vote it
counts for him finds no entry. -/
theorem leaveRolls_eq (done : List Roll) {rest : List Roll} (r : Rolling)
    (all : r.rolls = done ++ rest) (distinct : (r.rolls.map Roll.itemGUID).Nodup) :
    r.leaveRolls w guid rest.length done.length =
      { r with rolls := done ++ rest.map (departed guid) } := by
  induction rest generalizing done r with
  | nil =>
    rw [map_nil, ← all]
    rfl
  | cons roll rest ih =>
    have here : r.rolls[done.length]? = some roll := by simp [all]
    have shorter : (done ++ [roll]).length = done.length + 1 := by simp
    rw [length_cons]
    unfold leaveRolls
    simp only [here]
    cases entry : OrderedMap.value? roll.playerVote guid with
    | none =>
      have next := ih (done ++ [roll]) r (by simp [all]) distinct
      have same : departed guid roll = roll := by simp [departed, entry]
      rw [shorter] at next
      simpa [same] using next
    | some vote =>
      have left : departed guid roll = roll.leave guid vote := by simp [departed, entry]
      have rolls : r.rolls.set done.length (roll.leave guid vote) =
          done ++ roll.leave guid vote :: rest := by
        rw [all, set_append_right _ _ (Nat.le_refl _), Nat.sub_self, set_cons_zero]
      have names : (done ++ roll.leave guid vote :: rest).map Roll.itemGUID =
          r.rolls.map Roll.itemGUID := by
        rw [all]
        simp [Roll.leave]
      have unseen := countRollVote_absent w .departure guid roll.itemGUID maxRollType
        { r with rolls := r.rolls.set done.length (roll.leave guid vote) } (by
          intro other mem named
          rw [rolls] at mem
          have alone := names ▸ distinct
          have only : other = roll.leave guid vote :=
            inj_on_of_nodup_map alone mem (by simp) named
          rw [only]
          exact OrderedMap.value?_erase _ _)
      simp only [unseen]
      have next := ih (done ++ [roll.leave guid vote])
        { r with rolls := r.rolls.set done.length (roll.leave guid vote) }
        (by simp [rolls]) (by rw [rolls, names]; exact distinct)
      have length : (done ++ [roll.leave guid vote]).length = done.length + 1 := by simp
      rw [length] at next
      simpa [left] using next

end Rolling

theorem Rolling.endRoll_spec (id : Nat) (rolls : List Roll) (r : Rolling) :
    (r.endRoll w id rolls).rolls = r.rolls ++ rolls.filter (fun roll => roll.loot ≠ some id) ∧
      ∀ c ∈ (r.endRoll w id rolls).counted, c ∈ r.counted ∨ c.cause = .timer := by
  induction rolls generalizing r with
  | nil => exact ⟨by simp [endRoll], fun c mem => .inl mem⟩
  | cons roll rolls ih =>
    unfold endRoll
    by_cases mine : roll.loot = some id
    · simp only [mine, if_true]
      obtain ⟨others, causes⟩ := ih { r with
        loots := (roll.countTheRoll w r.loots).1
        counted := r.counted ++ [⟨roll, .timer, (roll.countTheRoll w r.loots).2⟩] }
      refine ⟨by rw [others]; simp [mine], fun c mem => ?_⟩
      rcases causes c mem with old | timer
      · rcases mem_append.mp old with old | new
        · exact .inl old
        · obtain rfl := mem_singleton.mp new
          exact .inr rfl
      · exact .inr timer
    · simp only [mine, if_false]
      obtain ⟨others, causes⟩ := ih { r with rolls := r.rolls ++ [roll] }
      exact ⟨by rw [others]; simp [mine], causes⟩

namespace Roll

theorem join_fields (roll : Roll) (guid : Nat) :
    (roll.join w autoPass guid).itemGUID = roll.itemGUID ∧
      (roll.join w autoPass guid).totalPlayersRolling = roll.totalPlayersRolling + 1 := by
  unfold join
  split <;> exact ⟨rfl, rfl⟩

theorem foldl_join_fields (members : List Nat) (roll : Roll) :
    (members.foldl (join w autoPass) roll).itemGUID = roll.itemGUID ∧
      (members.foldl (join w autoPass) roll).totalPlayersRolling =
        roll.totalPlayersRolling + UInt8.ofNat members.length := by
  induction members generalizing roll with
  | nil => simp
  | cons guid members ih =>
    obtain ⟨name, total⟩ := ih (roll.join w autoPass guid)
    obtain ⟨name', total'⟩ := join_fields w autoPass roll guid
    refine ⟨name.trans name', ?_⟩
    rw [foldl_cons, total, total', length_cons, Nat.add_comm members.length 1,
      UInt8.ofNat_add, ← UInt8.add_assoc]
    rfl

theorem Regular.join {roll : Roll} (regular : roll.Regular) (w : World) (autoPass : Bool)
    {guid : Nat} (fresh : guid ∉ OrderedMap.keys roll.playerVote)
    (room : roll.playerVote.length + 1 ≤ 255) : (roll.join w autoPass guid).Regular := by
  have totals := regular.toTallied
  have split := votes_split regular.valid
  have more (vote : RollVote) := OrderedMap.count_insert vote fresh
  have players (vote : RollVote) : (roll.totalPlayersRolling + 1).toNat =
      (OrderedMap.insert guid vote roll.playerVote).length := by
    rw [OrderedMap.length_insert vote fresh]
    exact toNat_succ totals.players room
  have distinct (vote : RollVote) :
      (OrderedMap.keys (OrderedMap.insert guid vote roll.playerVote)).Nodup := by
    rw [(OrderedMap.keys_insert_perm vote fresh).nodup_iff]
    exact nodup_cons.mpr ⟨fresh, regular.distinct⟩
  have valid (vote : RollVote) (kind : vote ≠ .notValid) :
      ∀ entry ∈ OrderedMap.insert guid vote roll.playerVote, entry.2 ≠ .notValid := by
    intro entry mem
    rcases mem_cons.mp ((OrderedMap.insert_perm vote fresh).mem_iff.mp mem) with rfl | old
    · exact kind
    · exact regular.valid entry old
  unfold Roll.join
  split
  · refine { players := players .pass, need := ?_, greed := ?_, pass := ?_,
             distinct := distinct .pass, valid := valid .pass (by decide) }
    · rw [votes, more]
      exact totals.need
    · rw [votes, more]
      exact totals.greed
    · rw [votes, more]
      have room : roll.votes (· = .pass) + 1 ≤ 255 := by omega
      exact toNat_succ totals.pass room
  · refine { players := players .notEmitedYet, need := ?_, greed := ?_, pass := ?_,
             distinct := distinct .notEmitedYet, valid := valid .notEmitedYet (by decide) }
    · rw [votes, more]
      exact totals.need
    · rw [votes, more]
      exact totals.greed
    · rw [votes, more]
      exact totals.pass

theorem mem_join {w : World} {autoPass : Bool} {roll : Roll} {guid : Nat}
    (fresh : guid ∉ OrderedMap.keys roll.playerVote) {entry : Nat × RollVote} :
    entry ∈ (roll.join w autoPass guid).playerVote ↔
      entry = (guid, if autoPass && w.passOnGroupLoot guid then .pass else .notEmitedYet) ∨
        entry ∈ roll.playerVote := by
  unfold join
  split <;> rw [(OrderedMap.insert_perm _ fresh).mem_iff, mem_cons]

theorem Regular.foldl_join {roll : Roll} (regular : roll.Regular) (w : World) (autoPass : Bool)
    {members : List Nat} (distinct : members.Nodup)
    (fresh : ∀ guid ∈ members, guid ∉ OrderedMap.keys roll.playerVote)
    (room : roll.playerVote.length + members.length ≤ 255) :
    (members.foldl (Roll.join w autoPass) roll).Regular ∧
      ((roll.Undecided ∨ ∃ guid ∈ members, (autoPass && w.passOnGroupLoot guid) = false) →
        (members.foldl (Roll.join w autoPass) roll).Undecided) := by
  induction members generalizing roll with
  | nil =>
    refine ⟨regular, fun some_ => ?_⟩
    rcases some_ with undecided | ⟨guid, mem, _⟩
    · exact undecided
    · cases mem
  | cons guid members ih =>
    rw [nodup_cons] at distinct
    rw [length_cons] at room
    have new := fresh guid mem_cons_self
    have keys : OrderedMap.keys (roll.join w autoPass guid).playerVote |>.Perm
        (guid :: OrderedMap.keys roll.playerVote) := by
      unfold Roll.join
      split <;> exact OrderedMap.keys_insert_perm _ new
    have length : (roll.join w autoPass guid).playerVote.length = roll.playerVote.length + 1 := by
      unfold Roll.join
      split <;> exact OrderedMap.length_insert _ new
    obtain ⟨whole, undecided⟩ := ih (regular.join w autoPass new (by omega)) distinct.2
      (fun other mem here => by
        rcases mem_cons.mp (keys.mem_iff.mp here) with rfl | old
        · exact distinct.1 mem
        · exact fresh other (mem_cons_of_mem guid mem) old)
      (by omega)
    refine ⟨whole, fun some_ => undecided ?_⟩
    rcases some_ with ⟨entry, mem, waits⟩ | ⟨other, mem, waits⟩
    · exact .inl ⟨entry, (mem_join new).mpr (.inr mem), waits⟩
    rcases mem_cons.mp mem with rfl | later
    · exact .inl ⟨_, (mem_join new).mpr (.inl rfl), by simp [waits]⟩
    · exact .inr ⟨other, later, waits⟩

theorem start_regular (itemGUID itemid loot : Nat) (itemSlot : UInt8) :
    (start itemGUID itemid itemSlot loot).Regular where
  players := rfl
  need := rfl
  greed := rfl
  pass := rfl
  distinct := nodup_nil
  valid := fun _ mem => absurd mem not_mem_nil

end Roll

/-- A roll that is started has at most 255 players, one of whom does not pass at once. -/
def StartsOpen (w : World) (members : List Nat) (decide : LootItem → Decision)
    (items : List LootItem) : Prop :=
  ∀ item ∈ items, ∀ autoPass, decide item = .roll autoPass →
    UInt8.ofNat (rollers w members item).length ≠ 0 →
      (rollers w members item).length ≤ 255 ∧
        ∃ guid ∈ rollers w members item, (autoPass && w.passOnGroupLoot guid) = false

theorem startRolls_pending {w : World} {members : List Nat} (distinct : members.Nodup)
    (decide : LootItem → Decision) (loot : Nat) (itemSlot : UInt8) (next : Nat)
    {items : List LootItem} (starts : StartsOpen w members decide items) :
    let started := startRolls w members decide loot itemSlot next items
    next ≤ started.nextItemGuid ∧ Pending started.rolls started.nextItemGuid ∧
      ∀ roll ∈ started.rolls, next ≤ roll.itemGUID := by
  induction items generalizing itemSlot next with
  | nil =>
    have none {P : Roll → Prop} : ∀ roll ∈ ([] : List Roll), P roll :=
      fun _ mem => absurd mem not_mem_nil
    exact ⟨Nat.le_refl _, ⟨none, none, nodup_nil, none⟩, none⟩
  | cons item items ih =>
    have rest (slot : UInt8) (from_ : Nat) :=
      ih slot from_ fun other later => starts other (mem_cons_of_mem item later)
    unfold startRolls
    cases decision : decide item with
    | skip => exact rest (itemSlot + 1) next
    | underthreshold => exact rest (itemSlot + 1) next
    | roll autoPass =>
      obtain ⟨more, pending, above⟩ := rest (itemSlot + 1) (next + 1)
      dsimp only
      obtain ⟨name, total⟩ := Roll.foldl_join_fields w autoPass (rollers w members item)
        (Roll.start next item.itemid itemSlot loot)
      split
      · rename_i some_
        have drawn : UInt8.ofNat (rollers w members item).length ≠ 0 := by
          intro zero
          rw [total, zero] at some_
          have none : (0 : UInt8) + 0 = 0 := rfl
          rw [Roll.start, none] at some_
          exact absurd some_ (by decide)
        obtain ⟨few, voter⟩ := starts item mem_cons_self autoPass decision drawn
        have names : (rollers w members item).Nodup := distinct.filter _
        obtain ⟨regular, undecided⟩ := (Roll.start_regular next item.itemid loot
          itemSlot).foldl_join w autoPass names
          (fun _ _ => not_mem_nil) (by simpa [Roll.start] using few)
        refine ⟨by dsimp only; omega, ⟨?_, ?_, ?_, ?_⟩, ?_⟩
        · intro roll mem
          rcases mem_cons.mp mem with rfl | later
          · exact regular
          · exact pending.regular roll later
        · intro roll mem
          rcases mem_cons.mp mem with rfl | later
          · exact undecided (.inr voter)
          · exact pending.undecided roll later
        · rw [map_cons, nodup_cons, name]
          refine ⟨fun mem => ?_, pending.distinct⟩
          obtain ⟨roll, later, same⟩ := mem_map.mp mem
          have := above roll later
          simp only [Roll.start] at same
          omega
        · intro roll mem
          rcases mem_cons.mp mem with rfl | later
          · rw [name]
            exact more
          · exact pending.drawn roll later
        · intro roll mem
          rcases mem_cons.mp mem with rfl | later
          · exact Nat.le_of_eq name.symm
          · exact Nat.le_of_succ_le (above roll later)
      · exact ⟨by dsimp only; omega, pending, fun roll mem => Nat.le_of_succ_le (above roll mem)⟩

/-- The rolls are not touched, and no player gets a second reference. -/
structure SameRolls (g g' : Group) : Prop where
  rolls : g'.rollId = g.rollId
  refs : g.memberMgr.Nodup → g'.memberMgr.Nodup

structure SameKind (g g' : Group) : Prop where
  rolls : g'.rollId = g.rollId
  refs : g'.memberMgr = g.memberMgr
  type : g'.groupType = g.groupType
  bg : g'.bgGroup = g.bgGroup

variable {g : Group}

theorem SameKind.sameRolls {g' : Group} (same : SameKind g g') : SameRolls g g' where
  rolls := same.rolls
  refs := fun distinct => same.refs ▸ distinct

theorem SameKind.trans {g' g'' : Group} (first : SameKind g g') (second : SameKind g' g'') :
    SameKind g g'' where
  rolls := second.rolls.trans first.rolls
  refs := second.refs.trans first.refs
  type := second.type.trans first.type
  bg := second.bg.trans first.bg

namespace Group

theorem sameRolls_link (g : Group) (guid : Nat) : SameRolls g (g.link guid) where
  rolls := rfl
  refs := fun distinct => nodup_cons.mpr ⟨distinct.not_mem_erase, distinct.erase guid⟩

theorem sameRolls_unlink (g : Group) (guid : Nat) : SameRolls g (g.unlink guid) where
  rolls := rfl
  refs := fun distinct => distinct.erase guid

theorem sameRolls_addMember (g : Group) (guid : Nat) : SameRolls g (g.addMember guid) := by
  unfold addMember
  split
  · exact ⟨rfl, id⟩
  · exact ⟨rfl, (sameRolls_link g guid).refs⟩

theorem sameRolls_loadMemberFromDB (g : Group) (exists_ : Bool) (guid : Nat) (flags : UInt8)
    (subgroup : Fin maxRaidSubgroups) :
    SameRolls g (g.loadMemberFromDB exists_ guid flags subgroup) := by
  unfold loadMemberFromDB
  split <;> exact ⟨rfl, id⟩

theorem sameRolls_convertToGroup (g : Group) : SameRolls g g.convertToGroup := by
  unfold convertToGroup
  split <;> exact ⟨rfl, id⟩

theorem sameKind_changeLeader (g : Group) (guid : Nat) :
    SameKind g (g.changeLeader w guid) := by
  unfold changeLeader
  split
  · exact ⟨rfl, rfl, rfl, rfl⟩
  · split <;> exact ⟨rfl, rfl, rfl, rfl⟩

theorem sameRolls_changeMembersGroup (g : Group) (guid : Nat) (group : Fin maxRaidSubgroups) :
    SameRolls g (g.changeMembersGroup guid group) := by
  unfold changeMembersGroup
  split
  · exact ⟨rfl, id⟩
  split
  · exact ⟨rfl, id⟩
  split
  · exact ⟨rfl, id⟩
  · split <;> exact ⟨rfl, id⟩

theorem sameRolls_changeSubGroup (g : Group) (sender guid : Nat) (groupNr : UInt8) :
    SameRolls g (g.changeSubGroup sender guid groupNr) := by
  unfold changeSubGroup
  split
  · split
    · exact ⟨rfl, id⟩
    · split
      · exact ⟨rfl, id⟩
      · exact sameRolls_changeMembersGroup g guid _
  · exact ⟨rfl, id⟩

theorem sameRolls_delink (g : Group) (guid : Nat) : SameRolls g (g.delink w guid) := by
  unfold delink
  split
  · exact sameRolls_unlink g guid
  · exact ⟨rfl, id⟩

theorem delink_kind (g : Group) (guid : Nat) :
    (g.delink w guid).isLFGGroup = g.isLFGGroup ∧ (g.delink w guid).bgGroup = g.bgGroup := by
  unfold delink
  split <;> exact ⟨rfl, rfl⟩

theorem sameKind_eraseSlot (g : Group) (guid : Nat) : SameKind g (g.eraseSlot guid) := by
  unfold eraseSlot
  split
  · exact ⟨rfl, rfl, rfl, rfl⟩
  · split <;> exact ⟨rfl, rfl, rfl, rfl⟩

theorem sameKind_pickLeader (g : Group) (guid : Nat) :
    SameKind g (g.pickLeader w guid) := by
  unfold pickLeader
  split
  · split
    · exact ⟨rfl, rfl, rfl, rfl⟩
    · exact sameKind_changeLeader w g _
  · exact ⟨rfl, rfl, rfl, rfl⟩

theorem refs_of_not_disbands {w : World} {g : Group} (stays : ¬ g.disbands w = true) :
    (if g.isLFGGroup || g.bgGroup then 1 else 2) ≤ g.memberMgr.length := by
  unfold disbands at stays
  rw [Bool.or_eq_true, not_or, decide_eq_true_eq] at stays
  omega

end Group

/-- Everybody's reference is there once, and the rolls are pending ones. -/
structure GroupRolls (g : Group) (nextItemGuid : Nat) : Prop where
  refs : g.memberMgr.Nodup
  pending : Pending g.rollId nextItemGuid

theorem GroupRolls.of_same {g' : Group} (rolls : GroupRolls g next)
    (same : SameRolls g g') : GroupRolls g' next where
  refs := same.refs rolls.refs
  pending := same.rolls ▸ rolls.pending

/-- After a departure that does not end the group each of the player's rolls still waits for
somebody else. -/
def LeavesUndecided (w : World) (g : Group) (guid : Nat) (method : RemoveMethod) : Prop :=
  ¬ (g.isLFGGroup = true ∧ method = .kick) → g.removes = true →
    (if g.isLFGGroup || g.bgGroup then 1 else 2) ≤ (g.delink w guid).memberMgr.length →
      ∀ roll ∈ g.rollId, guid ∈ OrderedMap.keys roll.playerVote →
        ∃ entry ∈ roll.playerVote, entry.1 ≠ guid ∧ entry.2 = .notEmitedYet

/-- Both loops of `GroupLoot` start open rolls. -/
def LootStartsOpen (w : World) (g : Group) (loot : Looting.Loot) : Prop :=
  StartsOpen w g.memberMgr (plainDecision w.protos g.lootThreshold) loot.items ∧
    StartsOpen w g.memberMgr (questDecision w.protos) loot.questItems

/-- The request does not meet one of the ways in which a roll's bookkeeping goes wrong. -/
def KeepsCount (s : State) (request : Request) : Prop :=
  ∀ g, s.group = some g →
    match request with
    | .countRollVote _ player guid choice =>
      Rolling.FirstVote g.rollId s.loots player guid choice
    | .removeMember w guid method => LeavesUndecided w g guid method
    | .groupLoot w id => LootStartsOpen w g (s.loots id)
    | .needBeforeGreed w id => LootStartsOpen w g (s.loots id)
    | _ => True

def StateRolls (s : State) : Prop := ∀ g, s.group = some g → GroupRolls g s.nextItemGuid

theorem stateRolls_update {s : State} (rolls : StateRolls s) (f : Group → Group)
    (same : ∀ g, SameRolls g (f g)) : StateRolls (s.update f).1 := by
  intro g' after
  obtain ⟨g, before, rfl⟩ := Option.map_eq_some_iff.mp after
  exact (rolls g before).of_same (same g)

theorem pending_departed {guid : Nat} (pending : Pending rolls next)
    (others : ∀ roll ∈ rolls, guid ∈ OrderedMap.keys roll.playerVote →
      ∃ entry ∈ roll.playerVote, entry.1 ≠ guid ∧ entry.2 = .notEmitedYet) :
    Pending (rolls.map (Rolling.departed guid)) next := by
  apply pending.map _ (Rolling.departed_itemGUID guid)
  · intro roll there
    unfold Rolling.departed
    split
    · exact pending.regular roll there
    · next vote entry => exact (pending.regular roll there).leave entry
  · intro roll there
    unfold Rolling.departed
    split
    · exact pending.undecided roll there
    next vote entry =>
    have listed : guid ∈ OrderedMap.keys roll.playerVote :=
      mem_map.mpr ⟨_, OrderedMap.mem_of_value? entry, rfl⟩
    obtain ⟨other, mem, apart, waits⟩ := others roll there listed
    exact ⟨other, mem_filter.mpr ⟨mem, by simpa using apart⟩, waits⟩

theorem removeMember_rolls {s : State} (rolls : GroupRolls g s.nextItemGuid)
    {w : World} {guid : Nat} {method : RemoveMethod}
    (is : s.group = some g) (leaves : LeavesUndecided w g guid method) :
    StateRolls (s.removeMember w g guid method).1 ∧ (s.removeMember w g guid method).2 = [] := by
  unfold State.removeMember
  by_cases kicked : (g.isLFGGroup && method = .kick) = true
  · rw [if_pos kicked]
    refine ⟨fun g' here => ?_, rfl⟩
    obtain rfl := Option.some.inj (is.symm.trans here)
    exact rolls
  rw [if_neg kicked]
  by_cases goes : g.removes = true
  swap
  · rw [if_neg goes]
    exact ⟨fun g' here => (Option.some_ne_none g' here.symm).elim, rfl⟩
  rw [if_pos goes]
  have left := Rolling.leaveRolls_eq w guid [] (s.rolling g) rfl rolls.pending.distinct
  rw [nil_append] at left
  simp only [length_nil] at left
  simp only [left]
  refine ⟨fun g' here => ?_, rfl⟩
  dsimp only at here
  split at here
  · cases here
  next stays =>
  obtain rfl := Option.some.inj here
  have same := (Group.sameKind_eraseSlot
    { g.delink w guid with rollId := g.rollId.map (Rolling.departed guid) } guid).trans
    (Group.sameKind_pickLeader w _ guid)
  have refs := Group.refs_of_not_disbands stays
  have lfg := congrArg (fun type => Nat.testBit type 3) same.type
  rw [Group.isLFGGroup, lfg, same.bg, same.refs] at refs
  have kind := g.delink_kind w guid
  have undecided := leaves (by simpa using kicked) goes (by
    rw [← kind.1, ← kind.2]
    exact refs)
  have pending := pending_departed rolls.pending undecided
  refine ⟨?_, ?_⟩
  · rw [same.refs]
    exact (Group.sameRolls_delink w g guid).refs rolls.refs
  · rw [same.rolls]
    exact pending

theorem startLoot_rolls {s : State} (rolls : GroupRolls g s.nextItemGuid)
    {w : World} {id : Nat} (opens : LootStartsOpen w g (s.loots id)) :
    StateRolls (s.startLoot w g id) := by
  intro g' here
  obtain rfl := Option.some.inj here
  obtain ⟨more, plain, above⟩ := startRolls_pending rolls.refs
    (plainDecision w.protos g.lootThreshold) id 0 s.nextItemGuid opens.1
  obtain ⟨more', quest, above'⟩ := startRolls_pending rolls.refs (questDecision w.protos) id
    (UInt8.ofNat (s.loots id).items.length) _ opens.2
  exact ⟨rolls.refs, (rolls.pending.append plain more above).append quest more' above'⟩

theorem step_rolls {s : State} (rolls : StateRolls s) {request : Request}
    (keeps : KeepsCount s request) :
    StateRolls (step s request).1 ∧
      ∀ c ∈ (step s request).2, c.cause ≠ .timer → ¬ c.roll.Undecided := by
  have silent {P : Counted → Prop} : ∀ c ∈ ([] : List Counted), P c :=
    fun _ mem => absurd mem not_mem_nil
  have unchanged (f : Group → Group) (same : ∀ g, SameRolls g (f g)) :
      StateRolls (s.update f).1 ∧ ∀ c ∈ (s.update f).2, c.cause ≠ .timer → ¬ c.roll.Undecided :=
    ⟨stateRolls_update rolls f same, silent⟩
  cases request with
  | addMember guid => exact unchanged _ fun g => g.sameRolls_addMember guid
  | changeLeader w guid => exact unchanged _ fun g => (g.sameKind_changeLeader w guid).sameRolls
  | changeSubGroup sender guid groupNr =>
    exact unchanged _ fun g => g.sameRolls_changeSubGroup sender guid groupNr
  | convertToRaid => exact unchanged _ fun g => ⟨rfl, id⟩
  | convertToGroup => exact unchanged _ fun g => g.sameRolls_convertToGroup
  | convertToLFG => exact unchanged _ fun g => ⟨rfl, id⟩
  | loadMemberFromDB exists_ guid flags subgroup =>
    exact unchanged _ fun g => g.sameRolls_loadMemberFromDB exists_ guid flags subgroup
  | setLootThreshold threshold => exact unchanged _ fun g => ⟨rfl, id⟩
  | link guid => exact unchanged _ fun g => g.sameRolls_link guid
  | unlink guid => exact unchanged _ fun g => g.sameRolls_unlink guid
  | disband => exact ⟨fun g here => (Option.some_ne_none g here.symm).elim, silent⟩
  | loot protos id request => exact ⟨rolls, silent⟩
  | clearLoot id next =>
    refine ⟨fun g' after => ?_, silent⟩
    obtain ⟨g, before, rfl⟩ := Option.map_eq_some_iff.mp after
    have pending := (rolls g before).pending
    refine ⟨(rolls g before).refs, pending.map _ (fun roll => ?_) (fun roll mem => ?_)
      (fun roll mem => ?_)⟩
    · split <;> rfl
    · have regular := pending.regular roll mem
      split
      · exact ⟨⟨regular.players, regular.need, regular.greed, regular.pass⟩, regular.distinct,
          regular.valid⟩
      · exact regular
    · have undecided := pending.undecided roll mem
      split <;> exact undecided
  | countRollVote w player guid choice =>
    cases is : s.group with
    | none => simpa only [step, is] using ⟨rolls, silent⟩
    | some g =>
      obtain ⟨pending, counted⟩ := Rolling.countRollVote_pending w .vote
        (r := s.rolling g) (rolls g is).pending rfl (keeps g is)
      simp only [step, is, State.finish]
      refine ⟨fun g' here => ?_, fun c mem _ => counted c mem⟩
      obtain rfl := Option.some.inj here
      exact ⟨(rolls g is).refs, pending⟩
  | endRoll w id =>
    cases is : s.group with
    | none => simpa only [step, is] using ⟨rolls, silent⟩
    | some g =>
      obtain ⟨others, causes⟩ := Rolling.endRoll_spec w id g.rollId ⟨[], s.loots, []⟩
      simp only [step, is, State.finish]
      refine ⟨fun g' here => ?_, fun c mem cause => ?_⟩
      · obtain rfl := Option.some.inj here
        refine ⟨(rolls g is).refs, ?_⟩
        rw [others, nil_append]
        exact (rolls g is).pending.sublist filter_sublist
      · rcases causes c mem with none | timer
        · cases none
        · exact absurd timer cause
  | removeMember w guid method =>
    cases is : s.group with
    | none => simpa only [step, is] using ⟨rolls, silent⟩
    | some g =>
      obtain ⟨after, none⟩ := removeMember_rolls (rolls g is) is (keeps g is)
      simp only [step, is]
      rw [none]
      exact ⟨after, silent⟩
  | groupLoot w id =>
    cases is : s.group with
    | none => simpa only [step, is] using ⟨rolls, silent⟩
    | some g =>
      simp only [step, is]
      exact ⟨startLoot_rolls (rolls g is) (keeps g is), silent⟩
  | needBeforeGreed w id =>
    cases is : s.group with
    | none => simpa only [step, is] using ⟨rolls, silent⟩
    | some g =>
      simp only [step, is, State.needBeforeGreed]
      split
      · exact ⟨startLoot_rolls (rolls g is) (keeps g is), silent⟩
      · exact ⟨rolls, silent⟩

/-- After the step every pending roll has the totals of its entries and waits for somebody, and
what a vote or a departure counted was waiting for nobody. -/
def Bookkept (t : Run.Taken State Request (List Counted)) : Prop :=
  (∀ g, t.after.group = some g → ∀ roll ∈ g.rollId, roll.Tallied ∧ roll.Undecided) ∧
    ∀ c ∈ t.out, c.cause ≠ .timer → ¬ c.roll.Undecided

/-- In every run in which votes are first votes, departures leave somebody undecided in each roll
and new rolls are open, the rolls are kept right at every step. -/
theorem bookkept_of_keepsCount (start : State)
    (none : ∀ g, start.group = some g → g.memberMgr.Nodup ∧ g.rollId = []) (requests : List Request)
    (keeps : ∀ t ∈ Run.trace step start requests, KeepsCount t.before t.input) :
    ∀ t ∈ Run.trace step start requests, Bookkept t := by
  intro t mem
  have rolls : StateRolls t.before := by
    refine Run.invariant step KeepsCount StateRolls
      (fun s request rolls keeps => (step_rolls rolls keeps).1) start ?_ keeps t
      mem
    intro g is
    have nothing {P : Roll → Prop} : ∀ roll ∈ ([] : List Roll), P roll :=
      fun _ mem => absurd mem not_mem_nil
    refine ⟨(none g is).1, ?_⟩
    rw [(none g is).2]
    exact ⟨nothing, nothing, nodup_nil, nothing⟩
  obtain ⟨after, counted⟩ := step_rolls rolls (keeps t mem)
  rw [Run.taken_of_mem step start requests t mem]
  refine ⟨fun g is roll there => ?_, counted⟩
  have pending := (after g is).pending
  exact ⟨(pending.regular roll there).toTallied, pending.undecided roll there⟩

def uncommonItem : LootItem where
  itemid := 40
  conditions := []
  allowedGUIDs := []
  count := 1
  isLooted := false
  isBlocked := false
  freeforall := false
  isUnderthreshold := false
  isCounted := false
  needsQuest := false
  followLootRules := false

/-- Two players at a corpse with one item. -/
def duo : State where
  group := some ((Group.create false false 1).addMember 2)
  loots := fun _ => { Looting.Loot.empty 0 with items := [uncommonItem] }
  nextItemGuid := 100

theorem bookkept_of_keepsCount_duo :
    List.Forall Bookkept (Run.trace step duo [.groupLoot calmWorld 7,
      .countRollVote calmWorld 1 100 1, .countRollVote calmWorld 2 100 0]) := by
  apply forall_iff_forall_mem.mpr
  apply bookkept_of_keepsCount
  · intro g is
    obtain rfl := Option.some.inj is
    exact ⟨by decide, rfl⟩
  · intro t mem
    rcases mem_cons.mp mem with rfl | mem
    · intro g is
      obtain rfl := Option.some.inj is
      refine ⟨?_, ?_⟩
      · intro item there autoPass _ _
        obtain rfl := mem_singleton.mp there
        exact ⟨by decide, 1, by decide, by cases autoPass <;> rfl⟩
      · intro item there
        cases there
    rcases mem_cons.mp mem with rfl | mem
    · intro g is
      obtain rfl := Option.some.inj is
      intro i roll vote found here entry _ _
      obtain rfl := Option.some.inj found
      obtain rfl := Option.some.inj here
      exact (Option.some.inj entry).symm
    rcases mem_cons.mp mem with rfl | mem
    · intro g is
      obtain rfl := Option.some.inj is
      intro i roll vote found here entry _ _
      obtain rfl := Option.some.inj found
      obtain rfl := Option.some.inj here
      exact (Option.some.inj entry).symm
    · cases mem

/-- A player who votes twice ends the roll although the other one has not voted. -/
theorem repeated_vote_not_bookkept :
    ¬ ∀ (start : State) (requests : List Request),
      (∀ g, start.group = some g → g.memberMgr.Nodup ∧ g.rollId = []) →
        ∀ t ∈ Run.trace step start requests, Bookkept t := by
  intro all
  have kept := all duo [.groupLoot calmWorld 7, .countRollVote calmWorld 1 100 1,
    .countRollVote calmWorld 1 100 1]
    (by
      intro g is
      obtain rfl := Option.some.inj is
      exact ⟨by decide, rfl⟩)
    _ (mem_cons_of_mem _ (mem_cons_of_mem _ mem_cons_self))
  have counted := kept.2 _ mem_cons_self (by decide)
  exact counted ⟨(2, .notEmitedYet), by decide, rfl⟩

end OpenWoW.Groups
