import Mathlib.Data.Fintype.Basic
import OpenWoW.Group
import OpenWoW.Lib.Counting
import OpenWoW.Lib.Run

/-! The subgroup counters of a group, and its leader. -/
namespace OpenWoW.Groups

open List Function

namespace Group

def membersIn (g : Group) (subgroup : Fin maxRaidSubgroups) : Nat :=
  g.memberSlots.countP fun slot => slot.group = subgroup

/-- Raids, and only they, count the members of each subgroup. -/
structure Counts (g : Group) : Prop where
  raid : g.isRaidGroup = true ↔ g.subGroupsCounts.isSome = true
  count : ∀ counts, g.subGroupsCounts = some counts →
    ∀ subgroup, counts subgroup = UInt8.ofNat (g.membersIn subgroup)

variable {g : Group}

theorem Counts.toNat (right : g.Counts) {counts : Fin maxRaidSubgroups → UInt8}
    (is : g.subGroupsCounts = some counts) (subgroup : Fin maxRaidSubgroups) :
    (counts subgroup).toNat = g.membersIn subgroup % 256 := by
  rw [right.count counts is subgroup]
  exact UInt8.toNat_ofNat'

theorem membersIn_le (g : Group) (subgroup : Fin maxRaidSubgroups) :
    g.membersIn subgroup ≤ g.membersCount := countP_le_length

theorem count_append {slots : List MemberSlot} (slot : MemberSlot)
    (counts : Fin maxRaidSubgroups → UInt8)
    (right : ∀ subgroup, counts subgroup =
      UInt8.ofNat (slots.countP fun slot => slot.group = subgroup))
    (subgroup : Fin maxRaidSubgroups) :
    Function.update counts slot.group (counts slot.group + 1) subgroup =
      UInt8.ofNat ((slots ++ [slot]).countP fun slot => slot.group = subgroup) := by
  rw [countP_append, countP_singleton, update_apply]
  by_cases same : subgroup = slot.group
  · rw [if_pos same, right, same]
    simp [UInt8.ofNat_add]
  · rw [if_neg same, right]
    simp [Ne.symm same]

theorem counts_init (slots done : List MemberSlot) (counts : Fin maxRaidSubgroups → UInt8)
    (right : ∀ subgroup, counts subgroup =
      UInt8.ofNat (done.countP fun slot => slot.group = subgroup))
    (subgroup : Fin maxRaidSubgroups) :
    slots.foldl (fun counts slot => Function.update counts slot.group (counts slot.group + 1))
        counts subgroup =
      UInt8.ofNat ((done ++ slots).countP fun slot => slot.group = subgroup) := by
  induction slots generalizing done counts with
  | nil => rw [append_nil]; exact right subgroup
  | cons slot slots ih =>
    have whole := ih (done ++ [slot]) _ (count_append slot counts right)
    rw [append_assoc] at whole
    exact whole

theorem initRaidSubGroupsCounter_counts {g : Group} (raid : g.isRaidGroup = true) :
    g.initRaidSubGroupsCounter.Counts where
  raid := ⟨fun _ => rfl, fun _ => raid⟩
  count := by
    intro counts is subgroup
    obtain rfl := Option.some.inj is
    have whole := counts_init g.memberSlots [] (fun _ => 0) (fun _ => rfl) subgroup
    exact whole

theorem Counts.push (right : g.Counts) (slot : MemberSlot) :
    ({ g with memberSlots := g.memberSlots ++ [slot] }.subGroupCounterIncrease slot.group).Counts
    where
  raid := by
    unfold subGroupCounterIncrease
    rw [Option.isSome_map]
    exact right.raid
  count := by
    intro counts is subgroup
    obtain ⟨old, before, rfl⟩ := Option.map_eq_some_iff.mp is
    exact count_append slot old (right.count old before) subgroup

theorem Counts.addMember (right : g.Counts) (guid : Nat) : (g.addMember guid).Counts := by
  unfold Group.addMember
  split
  · exact right
  next subGroup _ =>
  have pushed := right.push ⟨guid, subGroup, 0⟩
  exact ⟨pushed.raid, pushed.count⟩

theorem Counts.loadMemberFromDB (right : g.Counts) (exists_ : Bool) (guid : Nat)
    (flags : UInt8) (subgroup : Fin maxRaidSubgroups) :
    (g.loadMemberFromDB exists_ guid flags subgroup).Counts := by
  unfold Group.loadMemberFromDB
  split
  · exact right
  · exact right.push ⟨guid, subgroup, flags⟩

theorem isRaidGroup_convertToLFG (g : Group) : g.convertToLFG.isRaidGroup = g.isRaidGroup := by
  unfold convertToLFG isRaidGroup
  rw [Nat.testBit_or]
  have other : Nat.testBit 12 1 = false := rfl
  rw [other, Bool.or_false]

theorem isRaidGroup_or (g : Group) : { g with groupType := g.groupType ||| 2 }.isRaidGroup := by
  unfold isRaidGroup
  rw [Nat.testBit_or]
  have raid : Nat.testBit 2 1 = true := rfl
  rw [raid, Bool.or_true]

theorem Counts.convertToLFG (right : g.Counts) : g.convertToLFG.Counts where
  raid := by
    rw [isRaidGroup_convertToLFG]
    exact right.raid
  count := right.count

theorem Counts.convertToRaid (g : Group) : g.convertToRaid.Counts :=
  initRaidSubGroupsCounter_counts g.isRaidGroup_or

theorem Counts.convertToGroup (right : g.Counts) : g.convertToGroup.Counts := by
  unfold Group.convertToGroup
  split
  · exact right
  refine ⟨?_, fun counts is => ?_⟩
  · exact ⟨fun raid => absurd raid (by simp [isRaidGroup]), fun some_ => absurd some_ (by simp)⟩
  · cases is

theorem getMemberSlot_some {guid i : Nat} (found : g.getMemberSlot guid = some i) :
    ∃ slot, g.memberSlots[i]? = some slot ∧ slot.guid = guid := by
  obtain ⟨small, test, _⟩ := findIdx?_eq_some_iff_getElem.mp found
  exact ⟨g.memberSlots[i], getElem?_eq_getElem small, of_decide_eq_true test⟩

theorem Counts.changeLeader (right : g.Counts) (w : World) (guid : Nat) :
    (g.changeLeader w guid).Counts := by
  unfold Group.changeLeader
  split
  · exact right
  next i _ =>
  split
  · exact right
  refine ⟨right.raid, fun counts is subgroup => ?_⟩
  have same := Counting.countP_modify_same (fun slot : MemberSlot => slot.group = subgroup)
    (fun slot => { slot with flags := slot.flags &&& ~~~1 }) g.memberSlots i
    (fun _ _ => rfl)
  unfold membersIn
  rw [right.count counts is subgroup, same]
  rfl

theorem ofNat_pred {counter : UInt8} {n : Nat} (right : counter = UInt8.ofNat (n + 1)) :
    counter - 1 = UInt8.ofNat n := by
  rw [right, UInt8.ofNat_add]
  exact UInt8.add_sub_cancel _ _

theorem Counts.eraseSlot (right : g.Counts) (guid : Nat) : (g.eraseSlot guid).Counts := by
  unfold Group.eraseSlot
  split
  · exact right
  next i _ =>
  split
  · exact right
  next slot here =>
  refine ⟨?_, fun counts is subgroup => ?_⟩
  · unfold subGroupCounterDecrease
    rw [Option.isSome_map]
    exact right.raid
  · obtain ⟨old, before, rfl⟩ := Option.map_eq_some_iff.mp is
    have less := Counting.countP_eraseIdx (fun slot : MemberSlot => slot.group = subgroup) i slot here
    have now := right.count old before
    unfold membersIn at now ⊢
    rw [update_apply]
    split
    · rename_i same
      subst same
      rw [if_pos (by simp)] at less
      exact ofNat_pred (less ▸ now slot.group)
    next other =>
    rw [if_neg (by simpa using Ne.symm other)] at less
    rw [now subgroup, ← less]
    rfl

theorem Counts.changeMembersGroup (right : g.Counts) (guid : Nat)
    (group : Fin maxRaidSubgroups) : (g.changeMembersGroup guid group).Counts := by
  unfold Group.changeMembersGroup
  split
  · exact right
  split
  · exact right
  next i _ =>
  split
  · exact right
  next slot here =>
  split
  · exact right
  next apart =>
  refine ⟨?_, fun counts is subgroup => ?_⟩
  · unfold subGroupCounterDecrease subGroupCounterIncrease
    rw [Option.isSome_map, Option.isSome_map]
    exact right.raid
  · obtain ⟨mid, between, rfl⟩ := Option.map_eq_some_iff.mp is
    obtain ⟨old, before, rfl⟩ := Option.map_eq_some_iff.mp between
    have moved := Counting.countP_set
      (fun slot : MemberSlot => slot.group = subgroup) i slot
      { slot with group := group } here
    have now := right.count old before
    change _ = UInt8.ofNat ((g.memberSlots.set i { slot with group := group }).countP
      fun slot => slot.group = subgroup)
    have untouched : Function.update old group (old group + 1) slot.group =
        old slot.group := update_of_ne apart _ _
    rw [update_apply, untouched]
    by_cases from_ : subgroup = slot.group
    · subst from_
      rw [if_pos rfl]
      rw [if_pos (by simp), if_neg (by simpa using Ne.symm apart)] at moved
      rw [Nat.add_zero] at moved
      apply ofNat_pred
      rw [moved]
      exact now slot.group
    · rw [if_neg from_, update_apply]
      rw [if_neg (by simpa using Ne.symm from_)] at moved
      rw [Nat.add_zero] at moved
      rw [moved]
      by_cases into : subgroup = group
      · subst into
        rw [if_pos rfl, if_pos (by simp), UInt8.ofNat_add, now subgroup]
        rfl
      · rw [if_neg into, if_neg (by simpa using Ne.symm into), now subgroup]
        rfl

theorem Counts.changeSubGroup (right : g.Counts) (sender guid : Nat)
    (groupNr : UInt8) : (g.changeSubGroup sender guid groupNr).Counts := by
  unfold Group.changeSubGroup
  split
  · split
    · exact right
    · split
      · exact right
      · exact right.changeMembersGroup guid _
  · exact right

theorem Counts.pickLeader (right : g.Counts) (w : World) (guid : Nat) :
    (g.pickLeader w guid).Counts := by
  unfold Group.pickLeader
  split
  · split
    · exact right
    · exact right.changeLeader w _
  · exact right

end Group

namespace Group

/-- No subgroup holds more than a party, and a group without subgroups is a party. -/
structure Small (g : Group) : Prop where
  each : ∀ subgroup, g.membersIn subgroup ≤ maxGroupSize
  party : g.isRaidGroup = false → g.membersCount ≤ maxGroupSize

variable {g : Group}

section
variable (small : g.Small)
include small

theorem Small.free (right : g.Counts)
    {counts : Fin maxRaidSubgroups → UInt8} (is : g.subGroupsCounts = some counts)
    {subgroup : Fin maxRaidSubgroups} (room : (counts subgroup).toNat < maxGroupSize) :
    g.membersIn subgroup < maxGroupSize := by
  have bounded : g.membersIn subgroup ≤ 5 := small.each subgroup
  rw [right.toNat is, Nat.mod_eq_of_lt (by omega)] at room
  exact room

theorem Small.addMember (right : g.Counts)
    (notFull : g.isRaidGroup = false → g.isFull = false) (guid : Nat) :
    (g.addMember guid).Small := by
  unfold Group.addMember
  split
  · exact small
  next subGroup place =>
  have room : g.membersIn subGroup < maxGroupSize := by
    unfold firstFreeSubGroup at place
    split at place
    · rename_i none
      have party : g.isRaidGroup = false := by
        have iff_ := right.raid
        rw [none] at iff_
        simpa using iff_
      have notFull := notFull party
      unfold isFull at notFull
      rw [party, if_neg Bool.false_ne_true, decide_eq_false_iff_not] at notFull
      exact Nat.lt_of_le_of_lt (g.membersIn_le subGroup) (Nat.lt_of_not_le notFull)
    · rename_i counts is
      have found := find?_some place
      exact small.free right is (of_decide_eq_true found)
  refine ⟨fun subgroup => ?_, fun party => ?_⟩
  · change (g.memberSlots ++ [(⟨guid, subGroup, 0⟩ : MemberSlot)]).countP _ ≤ _
    rw [countP_append, countP_singleton]
    by_cases same : subGroup = subgroup
    · subst same
      rw [if_pos (by simp)]
      exact room
    · rw [if_neg (by simpa using same)]
      exact small.each subgroup
  · have notFull := notFull party
    unfold isFull at notFull
    have party : g.isRaidGroup = false := party
    rw [party, if_neg Bool.false_ne_true, decide_eq_false_iff_not] at notFull
    have length : membersCount { g with memberSlots := g.memberSlots ++ [⟨guid, subGroup, 0⟩] } =
        g.membersCount + 1 := length_append
    change membersCount { g with memberSlots := g.memberSlots ++ [⟨guid, subGroup, 0⟩] } ≤ _
    omega

theorem Small.eraseSlot (guid : Nat) : (g.eraseSlot guid).Small := by
  unfold Group.eraseSlot
  split
  · exact small
  next i _ =>
  split
  · exact small
  next slot here =>
  refine ⟨fun subgroup => ?_, fun party => ?_⟩
  · have sub := eraseIdx_sublist g.memberSlots i
    exact Nat.le_trans sub.countP_le (small.each subgroup)
  · exact Nat.le_trans (length_eraseIdx_le _ _) (small.party party)

theorem Small.changeLeader (w : World) (guid : Nat) :
    (g.changeLeader w guid).Small := by
  unfold Group.changeLeader
  split
  · exact small
  next i _ =>
  split
  · exact small
  refine ⟨fun subgroup => ?_, fun party => ?_⟩
  · have same := Counting.countP_modify_same (fun slot : MemberSlot => slot.group = subgroup)
      (fun slot => { slot with flags := slot.flags &&& ~~~1 }) g.memberSlots i
      (fun _ _ => rfl)
    exact Nat.le_trans (Nat.le_of_eq same) (small.each subgroup)
  · exact Nat.le_trans (Nat.le_of_eq (length_modify _ _ _)) (small.party party)

theorem Small.hasFreeSlot (right : g.Counts)
    {subgroup : Fin maxRaidSubgroups} (free : g.hasFreeSlotSubGroup subgroup = true) :
    g.membersIn subgroup < maxGroupSize := by
  unfold hasFreeSlotSubGroup at free
  cases is : g.subGroupsCounts with
  | none =>
    rw [is] at free
    cases free
  | some counts =>
    rw [is] at free
    exact small.free right is (of_decide_eq_true free)

theorem Small.changeMembersGroup (guid : Nat)
    {group : Fin maxRaidSubgroups} (room : g.membersIn group < maxGroupSize) :
    (g.changeMembersGroup guid group).Small := by
  unfold Group.changeMembersGroup
  split
  · exact small
  split
  · exact small
  next i _ =>
  split
  · exact small
  next slot here =>
  split
  · exact small
  refine ⟨fun subgroup => ?_, fun party => ?_⟩
  · have moved := Counting.countP_set (fun slot : MemberSlot => slot.group = subgroup) i slot
      { slot with group := group } here
    have before := small.each subgroup
    change (g.memberSlots.set i { slot with group := group }).countP
      (fun slot => slot.group = subgroup) ≤ _
    unfold membersIn at before room
    by_cases into : group = subgroup
    · subst into
      simp only [decide_true, if_true] at moved
      omega
    · simp only [into, decide_false, Bool.false_eq_true, if_false] at moved
      omega
  · exact Nat.le_trans (Nat.le_of_eq length_set) (small.party party)

theorem Small.changeSubGroup (right : g.Counts)
    (sender guid : Nat) (groupNr : UInt8) : (g.changeSubGroup sender guid groupNr).Small := by
  unfold Group.changeSubGroup
  split
  · split
    · exact small
    · split
      · exact small
      · rename_i free
        exact small.changeMembersGroup guid (small.hasFreeSlot right (by simpa using free))
  · exact small

theorem Small.convertToRaid : g.convertToRaid.Small where
  each := small.each
  party := fun party => by
    have raid : g.convertToRaid.isRaidGroup = true := g.isRaidGroup_or
    rw [raid] at party
    cases party

theorem Small.convertToGroup : g.convertToGroup.Small := by
  unfold Group.convertToGroup
  split
  · exact small
  · next few => exact ⟨small.each, fun _ => Nat.le_of_not_lt few⟩

theorem Small.convertToLFG : g.convertToLFG.Small where
  each := small.each
  party := fun party => by
    rw [isRaidGroup_convertToLFG] at party
    exact small.party party

theorem Small.pickLeader (w : World) (guid : Nat) :
    (g.pickLeader w guid).Small := by
  unfold Group.pickLeader
  split
  · split
    · exact small
    · exact small.changeLeader w _
  · exact small

end

end Group

namespace Group

def guids (g : Group) : List Nat := g.memberSlots.map MemberSlot.guid

theorem isMember_iff (g : Group) (guid : Nat) : g.isMember guid = true ↔ guid ∈ g.guids := by
  unfold isMember guids
  rw [any_eq_true, mem_map]
  constructor
  · rintro ⟨slot, mem, same⟩
    exact ⟨slot, mem, of_decide_eq_true same⟩
  · rintro ⟨slot, mem, same⟩
    exact ⟨slot, mem, decide_eq_true same⟩

theorem guids_changeLeader (w : World) (g : Group) (guid : Nat) :
    (g.changeLeader w guid).guids = g.guids := by
  unfold changeLeader
  split
  · rfl
  split
  · rfl
  unfold guids
  apply ext_getElem?
  intro j
  simp only [getElem?_map, getElem?_modify]
  cases g.memberSlots[j]? with
  | none => rfl
  | some slot => dsimp only [Option.map_some]; split <;> rfl

theorem changeLeader_leader (w : World) (g : Group) (guid : Nat) :
    (g.changeLeader w guid).leaderGuid = g.leaderGuid ∨
      (guid ∈ g.guids ∧ (g.changeLeader w guid).leaderGuid = guid) := by
  unfold changeLeader
  split
  · exact .inl rfl
  next i found =>
  split
  · exact .inl rfl
  · obtain ⟨slot, here, same⟩ := getMemberSlot_some found
    exact .inr ⟨mem_map.mpr ⟨slot, mem_of_getElem? here, same⟩, rfl⟩

theorem changeLeader_picks {w : World} {g : Group} {guid : Nat} (member : guid ∈ g.guids)
    (online : w.inWorld guid = true) : (g.changeLeader w guid).leaderGuid = guid := by
  unfold changeLeader
  cases found : g.getMemberSlot guid with
  | none =>
    obtain ⟨slot, there, same⟩ := mem_map.mp member
    have other := findIdx?_eq_none_iff.mp found slot there
    exact absurd same (of_decide_eq_false other)
  | some i =>
    dsimp only
    rw [online, if_neg (by decide)]

theorem guids_changeMembersGroup (g : Group) (guid : Nat) (group : Fin maxRaidSubgroups) :
    (g.changeMembersGroup guid group).guids = g.guids ∧
      (g.changeMembersGroup guid group).leaderGuid = g.leaderGuid := by
  unfold changeMembersGroup
  split
  · exact ⟨rfl, rfl⟩
  split
  · exact ⟨rfl, rfl⟩
  next i _ =>
  split
  · exact ⟨rfl, rfl⟩
  next slot here =>
  split
  · exact ⟨rfl, rfl⟩
  refine ⟨?_, rfl⟩
  change (g.memberSlots.set i { slot with group := group }).map MemberSlot.guid =
    g.memberSlots.map MemberSlot.guid
  rw [map_set]
  apply ext_getElem?
  intro j
  rw [getElem?_set]
  split
  · rename_i at_
    subst at_
    obtain ⟨less, is⟩ := List.getElem?_eq_some_iff.mp here
    simp [less, is]
  · rfl

theorem guids_changeSubGroup (g : Group) (sender guid : Nat) (groupNr : UInt8) :
    (g.changeSubGroup sender guid groupNr).guids = g.guids ∧
      (g.changeSubGroup sender guid groupNr).leaderGuid = g.leaderGuid := by
  unfold changeSubGroup
  split
  · split
    · exact ⟨rfl, rfl⟩
    · split
      · exact ⟨rfl, rfl⟩
      · exact g.guids_changeMembersGroup guid _
  · exact ⟨rfl, rfl⟩

theorem eraseSlot_leader (g : Group) (guid : Nat) :
    (g.eraseSlot guid).leaderGuid = g.leaderGuid ∧
      ∀ other ∈ g.guids, other ≠ guid → other ∈ (g.eraseSlot guid).guids := by
  unfold eraseSlot
  split
  · exact ⟨rfl, fun _ mem _ => mem⟩
  next i found =>
  split
  · exact ⟨rfl, fun _ mem _ => mem⟩
  next slot here =>
  refine ⟨rfl, fun other mem apart => ?_⟩
  obtain ⟨slot', here', named⟩ := getMemberSlot_some found
  obtain rfl := Option.some.inj (here.symm.trans here')
  obtain ⟨member, there, rfl⟩ := mem_map.mp mem
  obtain ⟨j, at_⟩ := mem_iff_getElem?.mp there
  have ne : j ≠ i := by
    rintro rfl
    obtain rfl := Option.some.inj (at_.symm.trans here)
    exact apart named
  refine mem_map.mpr ⟨member, ?_, rfl⟩
  exact mem_eraseIdx_iff_getElem?.mpr ⟨j, ne, at_⟩

theorem pickLeader_member {w : World} {g : Group} {guid : Nat}
    (found : g.leaderGuid = guid → (g.memberSlots.any fun slot => w.inWorld slot.guid) = true)
    (stays : g.leaderGuid ≠ guid → g.leaderGuid ∈ g.guids) :
    (g.pickLeader w guid).leaderGuid ∈ (g.pickLeader w guid).guids := by
  unfold pickLeader
  split
  · rename_i was
    obtain ⟨slot, mem, online⟩ := any_eq_true.mp (found was)
    split
    · next none => exact absurd online (by simpa using find?_eq_none.mp none slot mem)
    next first here =>
    have there : first.guid ∈ g.guids :=
      mem_map.mpr ⟨first, mem_of_find?_eq_some here, rfl⟩
    have seen : w.inWorld first.guid = true := by simpa using find?_some here
    rw [guids_changeLeader, changeLeader_picks there seen]
    exact there
  · next other => exact stays other

end Group

/-- The group without its rolls and references. -/
structure SameMembers (g g' : Group) : Prop where
  type : g'.groupType = g.groupType
  slots : g'.memberSlots = g.memberSlots
  counts : g'.subGroupsCounts = g.subGroupsCounts
  leader : g'.leaderGuid = g.leaderGuid

inductive Effect (g : Group) : Request → Group → Prop
  | same {request : Request} {g' : Group} (same : SameMembers g g') : Effect g request g'
  | addMember (guid : Nat) : Effect g (.addMember guid) (g.addMember guid)
  | removeMember (w : World) (guid : Nat) (method : RemoveMethod) {g' : Group}
      (same : SameMembers g g') :
      Effect g (.removeMember w guid method) ((g'.eraseSlot guid).pickLeader w guid)
  | changeLeader (w : World) (guid : Nat) :
      Effect g (.changeLeader w guid) (g.changeLeader w guid)
  | changeSubGroup (sender guid : Nat) (groupNr : UInt8) :
      Effect g (.changeSubGroup sender guid groupNr) (g.changeSubGroup sender guid groupNr)
  | convertToRaid : Effect g .convertToRaid g.convertToRaid
  | convertToGroup : Effect g .convertToGroup g.convertToGroup
  | convertToLFG : Effect g .convertToLFG g.convertToLFG
  | loadMemberFromDB (exists_ : Bool) (guid : Nat) (flags : UInt8)
      (subgroup : Fin maxRaidSubgroups) :
      Effect g (.loadMemberFromDB exists_ guid flags subgroup)
        (g.loadMemberFromDB exists_ guid flags subgroup)

theorem SameMembers.refl (g : Group) : SameMembers g g := ⟨rfl, rfl, rfl, rfl⟩

theorem sameMembers_delink (w : World) (g : Group) (guid : Nat) :
    SameMembers g (g.delink w guid) := by
  unfold Group.delink
  split <;> exact ⟨rfl, rfl, rfl, rfl⟩

variable {request : Request} {g' : Group}

theorem step_effect {s : State} (after : (step s request).1.group = some g') :
    ∃ g, s.group = some g ∧ Effect g request g' := by
  have updated (f : Group → Group) (here : (s.update f).1.group = some g') :
      ∃ g, s.group = some g ∧ f g = g' := Option.map_eq_some_iff.mp here
  cases request with
  | addMember guid =>
    obtain ⟨g, is, rfl⟩ := updated _ after
    exact ⟨g, is, .addMember guid⟩
  | changeLeader w guid =>
    obtain ⟨g, is, rfl⟩ := updated _ after
    exact ⟨g, is, .changeLeader w guid⟩
  | changeSubGroup sender guid groupNr =>
    obtain ⟨g, is, rfl⟩ := updated _ after
    exact ⟨g, is, .changeSubGroup sender guid groupNr⟩
  | convertToRaid =>
    obtain ⟨g, is, rfl⟩ := updated _ after
    exact ⟨g, is, .convertToRaid⟩
  | convertToGroup =>
    obtain ⟨g, is, rfl⟩ := updated _ after
    exact ⟨g, is, .convertToGroup⟩
  | convertToLFG =>
    obtain ⟨g, is, rfl⟩ := updated _ after
    exact ⟨g, is, .convertToLFG⟩
  | loadMemberFromDB exists_ guid flags subgroup =>
    obtain ⟨g, is, rfl⟩ := updated _ after
    exact ⟨g, is, .loadMemberFromDB exists_ guid flags subgroup⟩
  | setLootThreshold threshold =>
    obtain ⟨g, is, rfl⟩ := updated _ after
    exact ⟨g, is, .same ⟨rfl, rfl, rfl, rfl⟩⟩
  | link guid =>
    obtain ⟨g, is, rfl⟩ := updated _ after
    exact ⟨g, is, .same ⟨rfl, rfl, rfl, rfl⟩⟩
  | unlink guid =>
    obtain ⟨g, is, rfl⟩ := updated _ after
    exact ⟨g, is, .same ⟨rfl, rfl, rfl, rfl⟩⟩
  | disband => cases after
  | loot protos id request => exact ⟨g', after, .same (SameMembers.refl g')⟩
  | clearLoot id next =>
    obtain ⟨g, is, rfl⟩ := Option.map_eq_some_iff.mp after
    exact ⟨g, is, .same ⟨rfl, rfl, rfl, rfl⟩⟩
  | countRollVote w player guid choice =>
    cases is : s.group with
    | none => simp [step, is] at after
    | some g =>
      simp only [step, is, State.finish, Option.some.injEq] at after
      subst after
      exact ⟨g, rfl, .same ⟨rfl, rfl, rfl, rfl⟩⟩
  | endRoll w id =>
    cases is : s.group with
    | none => simp [step, is] at after
    | some g =>
      simp only [step, is, State.finish, Option.some.injEq] at after
      subst after
      exact ⟨g, rfl, .same ⟨rfl, rfl, rfl, rfl⟩⟩
  | groupLoot w id =>
    cases is : s.group with
    | none => simp [step, is] at after
    | some g =>
      simp only [step, is, State.startLoot, Option.some.injEq] at after
      subst after
      exact ⟨g, rfl, .same ⟨rfl, rfl, rfl, rfl⟩⟩
  | needBeforeGreed w id =>
    cases is : s.group with
    | none => simp [step, is] at after
    | some g =>
      simp only [step, is, State.needBeforeGreed] at after
      split at after
      · simp only [State.startLoot, Option.some.injEq] at after
        subst after
        exact ⟨g, rfl, .same ⟨rfl, rfl, rfl, rfl⟩⟩
      · obtain rfl := Option.some.inj (is.symm.trans after)
        exact ⟨g, rfl, .same (SameMembers.refl g)⟩
  | removeMember w guid method =>
    cases is : s.group with
    | none => simp [step, is] at after
    | some g =>
      simp only [step, is, State.removeMember] at after
      split at after
      · obtain rfl := Option.some.inj (is.symm.trans after)
        exact ⟨g, rfl, .same (SameMembers.refl g)⟩
      split at after
      · dsimp only at after
        split at after
        · cases after
        obtain rfl := Option.some.inj after
        have same := sameMembers_delink w g guid
        exact ⟨g, rfl, .removeMember w guid method
          ⟨same.type, same.slots, same.counts, same.leader⟩⟩
      · cases after

namespace Group

theorem Counts.of_same {g g' : Group} (right : g.Counts) (same : SameMembers g g') : g'.Counts := by
  refine ⟨?_, fun counts is subgroup => ?_⟩
  · rw [isRaidGroup, same.type, same.counts]
    exact right.raid
  · rw [membersIn, same.slots]
    exact right.count counts (same.counts.symm.trans is) subgroup

theorem Small.of_same {g g' : Group} (small : g.Small) (same : SameMembers g g') : g'.Small := by
  refine ⟨fun subgroup => ?_, fun party => ?_⟩
  · rw [membersIn, same.slots]
    exact small.each subgroup
  · rw [isRaidGroup, same.type] at party
    rw [membersCount, same.slots]
    exact small.party party

end Group

theorem Effect.counts {g : Group} (effect : Effect g request g')
    (right : g.Counts) : g'.Counts := by
  cases effect with
  | same same => exact right.of_same same
  | addMember guid => exact right.addMember guid
  | removeMember w guid method same =>
    exact ((right.of_same same).eraseSlot guid).pickLeader w guid
  | changeLeader w guid => exact right.changeLeader w guid
  | changeSubGroup sender guid groupNr => exact right.changeSubGroup sender guid groupNr
  | convertToRaid => exact Group.Counts.convertToRaid g
  | convertToGroup => exact right.convertToGroup
  | convertToLFG => exact right.convertToLFG
  | loadMemberFromDB exists_ guid flags subgroup =>
    exact right.loadMemberFromDB exists_ guid flags subgroup

/-- Members come in through `AddMember` only, and into a party only if it is not full. -/
def Admitted (s : State) (request : Request) : Prop :=
  ∀ g, s.group = some g →
    match request with
    | .addMember _ => g.isRaidGroup = false → g.isFull = false
    | .loadMemberFromDB _ _ _ _ => False
    | _ => True

theorem Effect.small {s : State} {g : Group} (effect : Effect g request g') (is : s.group = some g)
    (admitted : Admitted s request) (right : g.Counts) (small : g.Small) : g'.Small := by
  have admitted := admitted g is
  cases effect with
  | same same => exact small.of_same same
  | addMember guid => exact small.addMember right admitted guid
  | removeMember w guid method same =>
    exact ((small.of_same same).eraseSlot guid).pickLeader w guid
  | changeLeader w guid => exact small.changeLeader w guid
  | changeSubGroup sender guid groupNr => exact small.changeSubGroup right sender guid groupNr
  | convertToRaid => exact small.convertToRaid
  | convertToGroup => exact small.convertToGroup
  | convertToLFG => exact small.convertToLFG
  | loadMemberFromDB exists_ guid flags subgroup => exact admitted.elim

/-- When the leader leaves, one of the members who remain is in the world. -/
def HandedOver (s : State) (request : Request) : Prop :=
  ∀ g, s.group = some g →
    match request with
    | .removeMember w guid _ =>
      g.leaderGuid = guid →
        ((g.eraseSlot guid).memberSlots.any fun slot => w.inWorld slot.guid) = true
    | _ => True

theorem eraseSlot_slots {g : Group} (same : g'.memberSlots = g.memberSlots) (guid : Nat) :
    (g'.eraseSlot guid).memberSlots = (g.eraseSlot guid).memberSlots := by
  unfold Group.eraseSlot Group.getMemberSlot
  rw [same]
  split
  · exact same
  split
  · exact same
  next i _ _ slot _ =>
  change g'.memberSlots.eraseIdx i = g.memberSlots.eraseIdx i
  rw [same]

theorem Effect.leader {s : State} {g : Group}
    (effect : Effect g request g') (is : s.group = some g) (handed : HandedOver s request)
    (member : g.leaderGuid ∈ g.guids) : g'.leaderGuid ∈ g'.guids := by
  have handed := handed g is
  cases effect with
  | same same =>
    rw [same.leader, Group.guids, same.slots]
    exact member
  | addMember guid =>
    unfold Group.addMember
    split
    · exact member
    exact mem_map.mpr (by
      obtain ⟨slot, there, same⟩ := mem_map.mp member
      exact ⟨slot, mem_append_left _ there, same⟩)
  | @removeMember w guid method before same =>
    obtain ⟨leader, others⟩ := before.eraseSlot_leader guid
    have inside : before.leaderGuid ∈ before.guids := by
      rw [same.leader, Group.guids, same.slots]
      exact member
    apply Group.pickLeader_member
    · intro was
      rw [eraseSlot_slots same.slots]
      exact handed (same.leader ▸ leader ▸ was)
    · intro other
      rw [leader] at other ⊢
      exact others _ inside other
  | changeLeader w guid =>
    rw [Group.guids_changeLeader]
    rcases g.changeLeader_leader w guid with same | ⟨there, same⟩
    · rw [same]
      exact member
    · rw [same]
      exact there
  | changeSubGroup sender guid groupNr =>
    obtain ⟨guids, leader⟩ := g.guids_changeSubGroup sender guid groupNr
    rw [guids, leader]
    exact member
  | convertToRaid => exact member
  | convertToGroup =>
    unfold Group.convertToGroup
    split <;> exact member
  | convertToLFG => exact member
  | loadMemberFromDB exists_ guid flags subgroup =>
    unfold Group.loadMemberFromDB
    split
    · exact member
    exact mem_map.mpr (by
      obtain ⟨slot, there, same⟩ := mem_map.mp member
      exact ⟨slot, mem_append_left _ there, same⟩)

/-- How a group comes to be. -/
inductive Start
  | create (bgGroup bfGroup : Bool) (leader : Nat)
  | loadGroupFromDB (leaderExists : Bool) (leader lootThreshold groupType : Nat)

namespace Start

def group : Start → Group
  | create bgGroup bfGroup leader => Group.create bgGroup bfGroup leader
  | loadGroupFromDB leaderExists leader lootThreshold groupType =>
    Group.loadGroupFromDB leaderExists leader lootThreshold groupType

def isCreate : Start → Bool
  | create _ _ _ => true
  | loadGroupFromDB _ _ _ _ => false

end Start

namespace Group

/-- A group without members, before it counts any. -/
structure Empty (g : Group) : Prop where
  slots : g.memberSlots = []
  counts : g.subGroupsCounts = none

variable {g : Group}

theorem Empty.counts_party (empty : g.Empty) (party : ¬ g.isRaidGroup = true) : g.Counts := by
  refine ⟨⟨fun raid => absurd raid party, fun some_ => ?_⟩, fun counts is => ?_⟩
  · rw [empty.counts] at some_
    cases some_
  · rw [empty.counts] at is
    cases is

theorem Empty.counts_init (empty : g.Empty) : g.initIfRaid.Counts := by
  unfold initIfRaid
  split
  · next raid => exact initRaidSubGroupsCounter_counts raid
  · next party => exact empty.counts_party party

theorem Empty.slots_init (empty : g.Empty) : g.initIfRaid.memberSlots = [] := by
  unfold initIfRaid
  split <;> exact empty.slots

theorem small_of_slots (none : g.memberSlots = []) : g.Small := by
  refine ⟨fun subgroup => ?_, fun _ => ?_⟩
  · rw [membersIn, none]
    exact Nat.zero_le _
  · rw [membersCount, none]
    exact Nat.zero_le _

theorem addMember_first (right : g.Counts) (none : g.memberSlots = [])
    (guid : Nat) : (g.addMember guid).guids = [guid] ∧
      (g.addMember guid).leaderGuid = g.leaderGuid := by
  have place : g.firstFreeSubGroup ≠ Option.none := by
    unfold firstFreeSubGroup
    split
    · exact Option.some_ne_none _
    next counts is =>
    intro full
    have first := find?_eq_none.mp full ⟨0, by decide⟩ (mem_finRange _)
    rw [right.toNat is, membersIn, none] at first
    exact first (by decide)
  unfold addMember
  split
  · next full => exact absurd full place
  next subGroup _ =>
  refine ⟨?_, rfl⟩
  change (g.memberSlots ++ [(⟨guid, subGroup, 0⟩ : MemberSlot)]).map MemberSlot.guid = [guid]
  rw [none]
  rfl

theorem isFull_of_slots (none : g.memberSlots = []) : g.isFull = false := by
  unfold isFull membersCount
  rw [none]
  split <;> rfl

theorem create_empty (bgGroup bfGroup : Bool) (leader : Nat) :
    ∃ g : Group, g.Empty ∧ g.leaderGuid = leader ∧
      create bgGroup bfGroup leader = g.initIfRaid.addMember leader := by
  refine ⟨_, ?_, ?_, rfl⟩
  · split <;> exact ⟨rfl, rfl⟩
  · split <;> rfl

theorem initIfRaid_leader (g : Group) : g.initIfRaid.leaderGuid = g.leaderGuid := by
  unfold initIfRaid
  split <;> rfl

end Group

namespace Start

theorem group_counts (start : Start) : start.group.Counts := by
  cases start with
  | create bgGroup bfGroup leader =>
    obtain ⟨g, empty, _, made⟩ := Group.create_empty bgGroup bfGroup leader
    rw [group, made]
    exact empty.counts_init.addMember leader
  | loadGroupFromDB leaderExists leader lootThreshold groupType =>
    change (Group.loadGroupFromDB leaderExists leader lootThreshold groupType).Counts
    cases leaderExists with
    | false =>
      have party : ¬ Nat.testBit 0 1 = true := by decide
      exact Group.Empty.counts_party ⟨rfl, rfl⟩ party
    | true => exact Group.Empty.counts_init ⟨rfl, rfl⟩

theorem create_small {start : Start} (created : start.isCreate = true) :
    start.group.Small ∧ start.group.leaderGuid ∈ start.group.guids := by
  cases start with
  | loadGroupFromDB leaderExists leader lootThreshold groupType => cases created
  | create bgGroup bfGroup leader =>
    obtain ⟨g, empty, leads, made⟩ := Group.create_empty bgGroup bfGroup leader
    rw [group, made]
    obtain ⟨guids, same⟩ := Group.addMember_first empty.counts_init empty.slots_init leader
    refine ⟨(Group.small_of_slots empty.slots_init).addMember empty.counts_init
      (fun _ => Group.isFull_of_slots empty.slots_init) leader, ?_⟩
    rw [guids, same, Group.initIfRaid_leader, leads]
    exact mem_singleton_self leader

end Start

/-- The state in which a group comes to be. -/
def Start.state (start : Start) (loots : Nat → Looting.Loot) (nextItemGuid : Nat) : State where
  group := some start.group
  loots := loots
  nextItemGuid := nextItemGuid

def StateCounts (s : State) : Prop := ∀ g, s.group = some g → g.Counts

def StateSmall (s : State) : Prop := ∀ g, s.group = some g → g.Counts ∧ g.Small

def StateLed (s : State) : Prop := ∀ g, s.group = some g → g.leaderGuid ∈ g.guids

theorem stateCounts_step {s : State} (right : StateCounts s) (request : Request) :
    StateCounts (step s request).1 := by
  intro g' after
  obtain ⟨g, is, effect⟩ := step_effect after
  exact effect.counts (right g is)

/-- In every run raids and only they count the members of each subgroup, modulo the width of a
counter. If members come in through `AddMember` and into parties that are not full, the counters
are exact and at most `MAXGROUPSIZE`. A leader who is a member stays one as long as a leaving
leader finds a member in the world to follow him. -/
theorem members_counted (start : Start) (loots : Nat → Looting.Loot) (nextItemGuid : Nat)
    (requests : List Request) :
    let run := Run.trace step (start.state loots nextItemGuid) requests
    ∀ t ∈ run, ∀ g, t.after.group = some g →
      (g.isRaidGroup = true ↔ g.subGroupsCounts.isSome = true) ∧
      (∀ counts, g.subGroupsCounts = some counts →
        ∀ subgroup, (counts subgroup).toNat = g.membersIn subgroup % 256) ∧
      (start.isCreate = true → (∀ u ∈ run, Admitted u.before u.input) →
        ∀ counts, g.subGroupsCounts = some counts → ∀ subgroup,
          (counts subgroup).toNat = g.membersIn subgroup ∧ (counts subgroup).toNat ≤ maxGroupSize) ∧
      (∀ b, t.before.group = some b → b.isMember b.leaderGuid = true →
        HandedOver t.before t.input → g.isMember g.leaderGuid = true) ∧
      (start.isCreate = true → (∀ u ∈ run, HandedOver u.before u.input) →
        g.isMember g.leaderGuid = true) := by
  intro run t mem g after
  have counts : StateCounts t.before :=
    Run.invariant step (fun _ _ => True) StateCounts
      (fun s request right _ => stateCounts_step right request) _
      (fun g is => by
        obtain rfl := Option.some.inj is
        exact start.group_counts)
      (fun _ _ => trivial) t mem
  have taken := Run.taken_of_mem step _ requests t mem
  rw [taken] at after
  obtain ⟨b, is, effect⟩ := step_effect after
  have right := effect.counts (counts b is)
  refine ⟨right.raid, fun sub is => right.toNat is, fun created admitted => ?_, ?_, ?_⟩
  · have small : StateSmall t.before := by
      refine Run.invariant step Admitted StateSmall (fun s request both admits g' after => ?_) _
        (fun g is => ?_) admitted t mem
      · obtain ⟨g, is, effect⟩ := step_effect after
        exact ⟨effect.counts (both g is).1, effect.small is admits (both g is).1 (both g is).2⟩
      · obtain rfl := Option.some.inj is
        exact ⟨start.group_counts, (Start.create_small created).1⟩
    have after := effect.small is (admitted t mem) (counts b is) (small b is).2
    intro counts is subgroup
    have bounded : g.membersIn subgroup ≤ 5 := after.each subgroup
    have exact_ := right.toNat is subgroup
    rw [Nat.mod_eq_of_lt (by omega)] at exact_
    exact ⟨exact_, by rw [exact_]; exact bounded⟩
  · intro b' is' member handed
    obtain rfl := Option.some.inj (is.symm.trans is')
    rw [Group.isMember_iff] at member ⊢
    exact effect.leader is handed member
  · intro created handed
    have member : StateLed t.before := by
      refine Run.invariant step HandedOver StateLed (fun s request inside hands g' after => ?_) _
        (fun g is => ?_) handed t mem
      · obtain ⟨g, is, effect⟩ := step_effect after
        exact effect.leader is hands (inside g is)
      · obtain rfl := Option.some.inj is
        exact (Start.create_small created).2
    rw [Group.isMember_iff]
    exact effect.leader is (handed t mem) (member b is)

/-- A raid of three whose leader leaves. -/
theorem members_counted_trio :
    (Run.final step ((Start.create false false 1).state (fun _ => Looting.Loot.empty 0) 0)
        [.addMember 2, .addMember 3, .convertToRaid, .removeMember calmWorld 1 .leave]).group.map
      (fun g => g.isMember g.leaderGuid) = some true := by
  refine congrArg some ((members_counted (.create false false 1) (fun _ => Looting.Loot.empty 0) 0
    [.addMember 2, .addMember 3, .convertToRaid, .removeMember calmWorld 1 .leave] _
    (mem_cons_of_mem _ <| mem_cons_of_mem _ <| mem_cons_of_mem _
      mem_cons_self) _ rfl).2.2.2.2 rfl ?_)
  intro u mem
  rcases mem_cons.mp mem with rfl | mem
  · exact fun _ _ => trivial
  rcases mem_cons.mp mem with rfl | mem
  · exact fun _ _ => trivial
  rcases mem_cons.mp mem with rfl | mem
  · exact fun _ _ => trivial
  rcases mem_cons.mp mem with rfl | mem
  · intro b is
    obtain rfl := Option.some.inj is
    exact fun _ => by decide
  · cases mem

/-- Only its callers keep `AddMember` from overfilling a party, whose members all count for the
first subgroup when it becomes a raid. -/
theorem crowded_party_overfills :
    ¬ ∀ (start : Start) (loots : Nat → Looting.Loot) (nextItemGuid : Nat)
        (requests : List Request), start.isCreate = true →
      (∀ exists_ guid flags subgroup,
        Request.loadMemberFromDB exists_ guid flags subgroup ∉ requests) →
      ∀ t ∈ Run.trace step (start.state loots nextItemGuid) requests,
        ∀ g counts, t.after.group = some g → g.subGroupsCounts = some counts →
          ∀ subgroup, (counts subgroup).toNat ≤ maxGroupSize := by
  intro all
  have last := all (.create false false 1) (fun _ => Looting.Loot.empty 0) 0
    [.addMember 2, .addMember 3, .addMember 4, .addMember 5, .addMember 6, .convertToRaid] rfl
    (by simp) _
    (mem_cons_of_mem _ <| mem_cons_of_mem _ <| mem_cons_of_mem _ <|
      mem_cons_of_mem _ <| mem_cons_of_mem _ mem_cons_self)
    _ _ rfl rfl ⟨0, by decide⟩
  exact absurd last (by decide)

end OpenWoW.Groups
