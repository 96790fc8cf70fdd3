import Mathlib.Data.Finset.Basic
import OpenWoW.Lib.Run

/-! Chat channels: the members, the banned players and the owner. -/
namespace OpenWoW.Chat

open Option

def memberFlagOwner : BitVec 8 := 0x01#8
def memberFlagModerator : BitVec 8 := 0x02#8
def memberFlagMuted : BitVec 8 := 0x08#8

def channelFlagCustom : BitVec 8 := 0x01#8
def channelFlagLfg : BitVec 8 := 0x40#8

structure PlayerInfo where
  player : Nat
  flags : BitVec 8
  deriving DecidableEq, Repr

variable (password : String) (banned : Finset Nat) (info : PlayerInfo) (state : Bool)

namespace PlayerInfo

def hasFlag (info : PlayerInfo) (flag : BitVec 8) : Bool := info.flags &&& flag != 0#8

def setState (info : PlayerInfo) (flag : BitVec 8) (state : Bool) : PlayerInfo :=
  { info with flags := if state then info.flags ||| flag else info.flags &&& ~~~ flag }

def isOwner (info : PlayerInfo) : Bool := info.hasFlag memberFlagOwner
def setOwner (info : PlayerInfo) (state : Bool) : PlayerInfo := info.setState memberFlagOwner state
def isModerator (info : PlayerInfo) : Bool := info.hasFlag memberFlagModerator
def setModerator (info : PlayerInfo) (state : Bool) : PlayerInfo :=
  info.setState memberFlagModerator state
def setMuted (info : PlayerInfo) (state : Bool) : PlayerInfo := info.setState memberFlagMuted state

theorem isOwner_plain (guid : Nat) : (⟨guid, 0#8⟩ : PlayerInfo).isOwner = false := by
  change (0#8 &&& 0x01#8 != 0#8) = false
  decide

@[simp] theorem isOwner_setOwner :
    (info.setOwner state).isOwner = state := by
  have bits : ∀ flags : BitVec 8,
      ((if state then flags ||| 0x01#8 else flags &&& ~~~ 0x01#8) &&& 0x01#8 != 0#8) = state := by
    cases state <;> decide +kernel
  exact bits info.flags

@[simp] theorem isOwner_setModerator :
    (info.setModerator state).isOwner = info.isOwner := by
  have bits : ∀ flags : BitVec 8,
      ((if state then flags ||| 0x02#8 else flags &&& ~~~ 0x02#8) &&& 0x01#8 != 0#8) =
        (flags &&& 0x01#8 != 0#8) := by
    cases state <;> decide +kernel
  exact bits info.flags

@[simp] theorem isOwner_setMuted :
    (info.setMuted state).isOwner = info.isOwner := by
  have bits : ∀ flags : BitVec 8,
      ((if state then flags ||| 0x08#8 else flags &&& ~~~ 0x08#8) &&& 0x01#8 != 0#8) =
        (flags &&& 0x01#8 != 0#8) := by
    cases state <;> decide +kernel
  exact bits info.flags

@[simp] theorem isModerator_setModerator :
    (info.setModerator state).isModerator = state := by
  have bits : ∀ flags : BitVec 8,
      ((if state then flags ||| 0x02#8 else flags &&& ~~~ 0x02#8) &&& 0x02#8 != 0#8) = state := by
    cases state <;> decide +kernel
  exact bits info.flags

@[simp] theorem isModerator_setOwner :
    (info.setOwner state).isModerator = info.isModerator := by
  have bits : ∀ flags : BitVec 8,
      ((if state then flags ||| 0x01#8 else flags &&& ~~~ 0x01#8) &&& 0x02#8 != 0#8) =
        (flags &&& 0x02#8 != 0#8) := by
    cases state <;> decide +kernel
  exact bits info.flags

@[simp] theorem isModerator_setMuted :
    (info.setMuted state).isModerator = info.isModerator := by
  have bits : ∀ flags : BitVec 8,
      ((if state then flags ||| 0x08#8 else flags &&& ~~~ 0x08#8) &&& 0x02#8 != 0#8) =
        (flags &&& 0x02#8 != 0#8) := by
    cases state <;> decide +kernel
  exact bits info.flags

end PlayerInfo

/-- What a channel asks of a player. -/
structure Player where
  guid : Nat
  guid_ne_zero : guid ≠ 0
  name : String
  team : Nat
  /-- `RBAC_PERM_CHANGE_CHANNEL_NOT_MODERATOR`. -/
  changeNotModerator : Bool
  /-- `RBAC_PERM_TWO_SIDE_INTERACTION_CHANNEL`. -/
  twoSideChannel : Bool
  /-- In a group, without the rights of staff, while the LFG channel is restricted. -/
  lfgRestricted : Bool

abbrev PlayerContainer : Type := Std.ExtTreeMap Nat PlayerInfo

/-- `playersStore[guid]` as the target of a change: a missing member is created. -/
def PlayerContainer.change (store : PlayerContainer) (guid : Nat)
    (f : PlayerInfo → PlayerInfo) : PlayerContainer :=
  store.insert guid (f (store[guid]?.getD ⟨0, 0#8⟩))

structure Channel where
  channelId : Nat
  flags : BitVec 8
  ownership : Bool
  password : String
  ownerGUID : Nat
  playersStore : PlayerContainer
  bannedStore : Finset Nat

namespace Channel

def isConstant (c : Channel) : Bool := c.channelId ≠ 0
def isOn (c : Channel) (guid : Nat) : Bool := c.playersStore[guid]?.isSome
def isBanned (c : Channel) (guid : Nat) : Bool := guid ∈ c.bannedStore
def hasFlag (c : Channel) (flag : BitVec 8) : Bool := c.flags &&& flag != 0#8

/-- The moderator flag of a member. -/
def isModerator (c : Channel) (guid : Nat) : Bool :=
  (c.playersStore[guid]?.getD ⟨0, 0#8⟩).isModerator

def change (c : Channel) (guid : Nat) (f : PlayerInfo → PlayerInfo) : Channel :=
  { c with playersStore := PlayerContainer.change c.playersStore guid f }

/-- Only a member loses the owner flag. -/
def clearOwner (c : Channel) : Channel :=
  if c.ownerGUID ≠ 0 then
    match c.playersStore[c.ownerGUID]? with
    | some info =>
      { c with playersStore := c.playersStore.insert c.ownerGUID (info.setOwner false) }
    | none => c
  else c

/-- `SetOwner(uint64, bool)`. -/
def setOwner (c : Channel) (guid : Nat) : Channel :=
  let c := { c.clearOwner with ownerGUID := guid }
  if guid ≠ 0 then
    (c.change guid (·.setModerator true)).change guid (·.setOwner true)
  else c

def joinChannel (c : Channel) (player : Player) (pass : String) : Channel :=
  if c.isOn player.guid then c
  else if c.isBanned player.guid then c
  else if c.password ≠ "" ∧ pass ≠ c.password then c
  else if c.hasFlag channelFlagLfg ∧ player.lfgRestricted then c
  else
    let c := { c with playersStore := c.playersStore.insert player.guid ⟨player.guid, 0#8⟩ }
    if ¬ c.isConstant ∧ c.ownerGUID = 0 ∧ c.ownership then
      (c.setOwner player.guid).change player.guid (·.setModerator true)
    else c

def leaveChannel (c : Channel) (player : Player) : Channel :=
  match c.playersStore[player.guid]? with
  | none => c
  | some info =>
    let c := { c with playersStore := c.playersStore.erase player.guid }
    if ¬ c.isConstant ∧ info.isOwner ∧ c.ownership then
      match c.playersStore.toList with
      | [] => c
      | (_, first) :: _ => (c.change first.player (·.setModerator true)).setOwner first.player
    else c

/-- The victim is the player that `FindPlayerByName` finds. -/
def kickOrBan (c : Channel) (player : Player) (bad : Option Player) (ban : Bool) : Channel :=
  let good := player.guid
  if ¬ c.isOn good then c
  else if ¬ c.isModerator good ∧ ¬ player.changeNotModerator then c
  else
    match bad with
    | none => c
    | some bad =>
      let victim := bad.guid
      if ¬ c.isOn victim then c
      else
        let changeowner : Bool := c.ownerGUID = victim
        if ¬ player.changeNotModerator ∧ changeowner ∧ good ≠ c.ownerGUID then c
        else
          let bannedStore := if ban then insert victim c.bannedStore else c.bannedStore
          let c := { c with bannedStore, playersStore := c.playersStore.erase victim }
          if changeowner ∧ c.ownership ∧ ¬ c.playersStore.isEmpty then
            (c.change good (·.setModerator true)).setOwner good
          else c

def unBan (c : Channel) (player : Player) (bad : Option Player) : Channel :=
  if ¬ c.isOn player.guid then c
  else if ¬ c.isModerator player.guid ∧ ¬ player.changeNotModerator then c
  else
    match bad with
    | none => c
    | some bad =>
      if ¬ c.isBanned bad.guid then c
      else { c with bannedStore := c.bannedStore.erase bad.guid }

/-- Of the same team, or both may interact with the other one. -/
def mayNotice (player newp : Player) : Bool :=
  player.team = newp.team ∨ (player.twoSideChannel ∧ newp.twoSideChannel)

/-- `SetModerator(uint64, bool)` and `SetMute(uint64, bool)`. -/
def setFlag (c : Channel) (guid : Nat) (mod set : Bool) : Channel :=
  if mod then c.change guid (·.setModerator set) else c.change guid (·.setMuted set)

/-- The player that is found may be named in other letters than he writes himself. -/
def setMode (c : Channel) (player : Player) (p2n : String) (newp : Option Player)
    (mod set : Bool) : Channel :=
  let guid := player.guid
  if ¬ c.isOn guid then c
  else if ¬ c.isModerator guid ∧ ¬ player.changeNotModerator then c
  else if guid = c.ownerGUID ∧ p2n = player.name ∧ mod then c
  else
    match newp with
    | none => c
    | some newp =>
      if ¬ c.isOn newp.guid ∨ ¬ mayNotice player newp then c
      else if c.ownerGUID = newp.guid ∧ c.ownerGUID ≠ guid then c
      else c.setFlag newp.guid mod set

/-- `SetOwner(Player const*, std::string const&)`. -/
def setOwnerBy (c : Channel) (player : Player) (newp : Option Player) : Channel :=
  if ¬ c.isOn player.guid then c
  else if ¬ player.changeNotModerator ∧ player.guid ≠ c.ownerGUID then c
  else
    match newp with
    | none => c
    | some newp =>
      if ¬ c.isOn newp.guid ∨ ¬ mayNotice player newp then c
      else (c.change newp.guid (·.setModerator true)).setOwner newp.guid

end Channel

inductive Request where
  | joinChannel (player : Player) (pass : String)
  | leaveChannel (player : Player)
  | kickOrBan (player : Player) (bad : Option Player) (ban : Bool)
  | unBan (player : Player) (bad : Option Player)
  | setMode (player : Player) (p2n : String) (newp : Option Player) (mod set : Bool)
  | setOwner (player : Player) (newp : Option Player)

def step (c : Channel) : Request → Channel × Unit
  | .joinChannel player pass => (c.joinChannel player pass, ())
  | .leaveChannel player => (c.leaveChannel player, ())
  | .kickOrBan player bad ban => (c.kickOrBan player bad ban, ())
  | .unBan player bad => (c.unBan player bad, ())
  | .setMode player p2n newp mod set => (c.setMode player p2n newp mod set, ())
  | .setOwner player newp => (c.setOwnerBy player newp, ())

/-- A custom channel with ownership, whose password and bans may come from the database. -/
def custom (password : String) (banned : Finset Nat) : Channel :=
  ⟨0, channelFlagCustom, true, password, 0, ∅, banned⟩

theorem getElem?_change (store : PlayerContainer) (guid : Nat) (f : PlayerInfo → PlayerInfo)
    (k : Nat) :
    (store.change guid f)[k]? =
      if guid = k then some (f (store[guid]?.getD ⟨0, 0#8⟩)) else store[k]? := by
  unfold PlayerContainer.change
  simp only [Std.ExtTreeMap.getElem?_insert, Std.LawfulEqCmp.compare_eq_iff_eq]

theorem lookup_change (c : Channel) (guid : Nat) (f : PlayerInfo → PlayerInfo) (k : Nat) :
    (c.change guid f).playersStore[k]? =
      if guid = k then some (f (c.playersStore[guid]?.getD ⟨0, 0#8⟩)) else c.playersStore[k]? :=
  getElem?_change c.playersStore guid f k

theorem isEmpty_iff_lookup (store : PlayerContainer) :
    store.isEmpty = true ↔ ∀ guid : Nat, store[guid]? = none := by
  rw [Std.ExtTreeMap.isEmpty_iff]
  constructor
  · rintro rfl guid
    exact Std.ExtTreeMap.getElem?_empty
  · intro absent
    apply Std.ExtTreeMap.ext_getElem?
    intro guid
    rw [absent, Std.ExtTreeMap.getElem?_empty]

/-- Every member has its own guid, which is not banned, and only the owner has the flag. -/
structure Kept (c : Channel) : Prop where
  channelId : c.channelId = 0
  ownership : c.ownership = true
  nonzero : ∀ (guid : Nat) (info : PlayerInfo), c.playersStore[guid]? = some info → guid ≠ 0
  player : ∀ (guid : Nat) (info : PlayerInfo), c.playersStore[guid]? = some info →
    info.player = guid
  banned : ∀ guid ∈ c.bannedStore, c.playersStore[guid]? = none
  flagged : ∀ (guid : Nat) (info : PlayerInfo), c.playersStore[guid]? = some info →
    info.isOwner = true → guid = c.ownerGUID

/-- A channel with members has an owner among them, who is a moderator. -/
def Owned (c : Channel) : Prop :=
  ∀ (guid : Nat) (info : PlayerInfo), c.playersStore[guid]? = some info →
    ∃ owner, c.playersStore[c.ownerGUID]? = some owner ∧ owner.isOwner = true ∧
      owner.isModerator = true

structure Invariant (c : Channel) : Prop where
  kept : Kept c
  owned : Owned c

/-- Every member has its own guid, which is not banned; and when there are members exactly one
has the owner flag, the owner, who is a moderator. -/
structure Sound (c : Channel) : Prop where
  player : ∀ (guid : Nat) (info : PlayerInfo), c.playersStore[guid]? = some info →
    info.player = guid
  banned : ∀ guid ∈ c.bannedStore, c.playersStore[guid]? = none
  owner : c.playersStore.isEmpty = false →
    ∃ owner, c.playersStore[c.ownerGUID]? = some owner ∧ owner.isOwner = true ∧
      owner.isModerator = true ∧ ∀ (guid : Nat) (info : PlayerInfo),
        c.playersStore[guid]? = some info → info.isOwner = true → guid = c.ownerGUID

variable {c : Channel} {guid : Nat}

theorem nonempty_of_member {info : PlayerInfo}
    (there : c.playersStore[guid]? = some info) : c.playersStore.isEmpty = false := by
  rw [← Bool.not_eq_true, isEmpty_iff_lookup]
  intro absent
  rw [absent guid] at there
  cases there

theorem member_of_nonempty (some : c.playersStore.isEmpty = false) :
    ∃ (guid : Nat) (info : PlayerInfo), c.playersStore[guid]? = Option.some info := by
  rw [← Bool.not_eq_true, isEmpty_iff_lookup, not_forall] at some
  obtain ⟨guid, there⟩ := some
  obtain ⟨info, there⟩ := ne_none_iff_exists'.mp there
  exact ⟨guid, info, there⟩

theorem sound_of_invariant (inv : Invariant c) : Sound c := by
  refine ⟨inv.kept.player, inv.kept.banned, fun members => ?_⟩
  obtain ⟨guid, info, there⟩ := member_of_nonempty members
  obtain ⟨owner, here, flag, moderator⟩ := inv.owned guid info there
  exact ⟨owner, here, flag, moderator, inv.kept.flagged⟩

theorem isOn_iff :
    c.isOn guid = true ↔ ∃ info, c.playersStore[guid]? = some info := isSome_iff_exists

theorem lookup_clearOwner (c : Channel) (k : Nat) :
    c.clearOwner.playersStore[k]? =
      if c.ownerGUID = k ∧ k ≠ 0 then c.playersStore[k]?.map (·.setOwner false)
      else c.playersStore[k]? := by
  unfold Channel.clearOwner
  by_cases owned : c.ownerGUID ≠ 0
  · rw [if_pos owned]
    cases there : c.playersStore[c.ownerGUID]? with
    | none =>
      dsimp only
      split
      · rename_i here
        rw [← here.1, there]
        rfl
      · rfl
    | some info =>
      simp only [Std.ExtTreeMap.getElem?_insert, Std.LawfulEqCmp.compare_eq_iff_eq]
      by_cases here : c.ownerGUID = k
      · rw [if_pos here, if_pos ⟨here, here ▸ owned⟩, ← here, there]
        rfl
      · rw [if_neg here, if_neg fun both => here both.1]
  · rw [if_neg owned]
    split
    · rename_i here
      exact absurd (here.1 ▸ here.2) owned
    · rfl

theorem lookup_setOwner (c : Channel) (nonzero : guid ≠ 0) (k : Nat) :
    (c.setOwner guid).playersStore[k]? =
      if guid = k then
        some (((c.clearOwner.playersStore[k]?.getD ⟨0, 0#8⟩).setModerator true).setOwner true)
      else c.clearOwner.playersStore[k]? := by
  unfold Channel.setOwner
  rw [if_pos nonzero]
  rw [lookup_change, lookup_change, lookup_change, if_pos rfl]
  split
  · rename_i here
    subst k
    rfl
  · rfl

theorem ownerGUID_setOwner (c : Channel) (guid : Nat) : (c.setOwner guid).ownerGUID = guid := by
  unfold Channel.setOwner
  dsimp only
  split <;> rfl

/-- A member becomes the owner. -/
theorem setOwner_invariant (kept : Kept c) (on : c.isOn guid = true) :
    Invariant (c.setOwner guid) := by
  obtain ⟨info, there⟩ := isOn_iff.mp on
  have nonzero := kept.nonzero guid info there
  have rest : (c.setOwner guid).channelId = c.channelId ∧
      (c.setOwner guid).ownership = c.ownership ∧
      (c.setOwner guid).bannedStore = c.bannedStore := by
    unfold Channel.setOwner Channel.clearOwner
    rw [if_pos nonzero]
    refine ⟨?_, ?_, ?_⟩ <;> (dsimp only [Channel.change]; split <;> [split; skip] <;> rfl)
  have cleared : ∀ (k : Nat) (other : PlayerInfo), c.clearOwner.playersStore[k]? = some other →
      ∃ was, c.playersStore[k]? = some was ∧ other.player = was.player ∧ other.isOwner = false := by
    intro k other found
    rw [lookup_clearOwner] at found
    split at found
    · obtain ⟨was, before, rfl⟩ := map_eq_some_iff.mp found
      exact ⟨was, before, rfl, was.isOwner_setOwner false⟩
    rename_i elsewhere
    refine ⟨other, found, rfl, Bool.eq_false_iff.mpr fun flag => elsewhere ?_⟩
    exact ⟨(kept.flagged k other found flag).symm, kept.nonzero k other found⟩
  have here : ∃ was, c.clearOwner.playersStore[guid]? = some was ∧ was.player = guid := by
    rw [lookup_clearOwner, there]
    split
    · exact ⟨_, rfl, kept.player guid info there⟩
    · exact ⟨_, rfl, kept.player guid info there⟩
  obtain ⟨was, found, own⟩ := here
  have after : ∀ (k : Nat) (other : PlayerInfo),
      (c.setOwner guid).playersStore[k]? = some other →
        (k = guid ∧ other = (was.setModerator true).setOwner true) ∨
          k ≠ guid ∧ c.clearOwner.playersStore[k]? = some other := by
    intro k other lookup
    rw [lookup_setOwner c nonzero] at lookup
    split at lookup
    · rename_i same
      subst k
      rw [found] at lookup
      cases lookup
      exact .inl ⟨rfl, rfl⟩
    · rename_i differ
      exact .inr ⟨Ne.symm differ, lookup⟩
  refine ⟨⟨rest.1.trans kept.channelId, rest.2.1.trans kept.ownership, ?_, ?_, ?_, ?_⟩, ?_⟩
  · intro k other lookup
    rcases after k other lookup with ⟨rfl, _⟩ | ⟨_, lookup⟩
    · exact nonzero
    · obtain ⟨before, old, _⟩ := cleared k other lookup
      exact kept.nonzero k before old
  · intro k other lookup
    rcases after k other lookup with ⟨rfl, rfl⟩ | ⟨_, lookup⟩
    · exact own
    · obtain ⟨before, old, same, _⟩ := cleared k other lookup
      exact same.trans (kept.player k before old)
  · intro k banned
    rw [rest.2.2] at banned
    have absent := kept.banned k banned
    by_contra lookup
    obtain ⟨other, lookup⟩ := ne_none_iff_exists'.mp lookup
    rcases after k other lookup with ⟨rfl, _⟩ | ⟨_, lookup⟩
    · rw [there] at absent
      cases absent
    obtain ⟨before, old, _⟩ := cleared k other lookup
    rw [old] at absent
    cases absent
  · intro k other lookup flag
    rw [ownerGUID_setOwner]
    rcases after k other lookup with ⟨rfl, _⟩ | ⟨_, lookup⟩
    · rfl
    obtain ⟨_, _, _, plain⟩ := cleared k other lookup
    rw [plain] at flag
    cases flag
  · intro _ _ _
    refine ⟨(was.setModerator true).setOwner true, ?_, by simp, by simp⟩
    rw [ownerGUID_setOwner, lookup_setOwner c nonzero, if_pos rfl, found]
    rfl

variable {f : PlayerInfo → PlayerInfo}

theorem change_kept (kept : Kept c) (on : c.isOn guid = true)
    (player : ∀ info, (f info).player = info.player)
    (owner : ∀ info, (f info).isOwner = info.isOwner) : Kept (c.change guid f) := by
  obtain ⟨info, there⟩ := isOn_iff.mp on
  have before : ∀ (k : Nat) (other : PlayerInfo),
      (c.change guid f).playersStore[k]? = some other →
        ∃ was, c.playersStore[k]? = some was ∧ other.player = was.player ∧
          other.isOwner = was.isOwner := by
    intro k other lookup
    rw [lookup_change] at lookup
    split at lookup
    · rename_i same
      subst k
      rw [there] at lookup
      cases lookup
      exact ⟨info, there, player info, owner info⟩
    · exact ⟨other, lookup, rfl, rfl⟩
  refine ⟨kept.channelId, kept.ownership, ?_, ?_, ?_, ?_⟩
  · intro k other lookup
    obtain ⟨was, old, _⟩ := before k other lookup
    exact kept.nonzero k was old
  · intro k other lookup
    obtain ⟨was, old, same, _⟩ := before k other lookup
    exact same.trans (kept.player k was old)
  · intro k banned
    by_contra lookup
    obtain ⟨other, lookup⟩ := ne_none_iff_exists'.mp lookup
    obtain ⟨was, old, _⟩ := before k other lookup
    rw [kept.banned k banned] at old
    cases old
  · intro k other lookup flag
    obtain ⟨was, old, _, same⟩ := before k other lookup
    exact kept.flagged k was old (same ▸ flag)

theorem isOn_change {k : Nat} (on : c.isOn k = true) : (c.change guid f).isOn k = true := by
  rw [Channel.isOn, lookup_change]
  split
  · rfl
  · exact on

theorem change_invariant (inv : Invariant c)
    (on : c.isOn guid = true)
    (player : ∀ info, (f info).player = info.player)
    (owner : ∀ info, (f info).isOwner = info.isOwner)
    (moderator : ∀ info, guid = c.ownerGUID → info.isModerator = true →
      (f info).isModerator = true) : Invariant (c.change guid f) := by
  refine ⟨change_kept inv.kept on player owner, fun k other lookup => ?_⟩
  obtain ⟨info, there⟩ := isOn_iff.mp on
  obtain ⟨first, here, flag, mod⟩ := inv.owned guid info there
  change ∃ owner, (c.change guid f).playersStore[c.ownerGUID]? = some owner ∧ _
  rw [lookup_change]
  split
  · rename_i same
    refine ⟨_, rfl, ?_, ?_⟩
    · rw [owner, same, here]
      exact flag
    · rw [same, here]
      exact moderator first same mod
  · exact ⟨first, here, flag, mod⟩

theorem erase_kept (kept : Kept c) (victim : Nat) (bannedStore : Finset Nat)
    (banned : ∀ guid ∈ bannedStore, guid = victim ∨ guid ∈ c.bannedStore) :
    Kept { c with bannedStore, playersStore := c.playersStore.erase victim } := by
  have before : ∀ (k : Nat) (info : PlayerInfo), (c.playersStore.erase victim)[k]? = some info →
      k ≠ victim ∧ c.playersStore[k]? = some info := by
    intro k info lookup
    simp only [Std.ExtTreeMap.getElem?_erase, Std.LawfulEqCmp.compare_eq_iff_eq] at lookup
    split at lookup
    · cases lookup
    · rename_i differ
      exact ⟨Ne.symm differ, lookup⟩
  refine ⟨kept.channelId, kept.ownership, ?_, ?_, ?_, ?_⟩
  · exact fun k info lookup => kept.nonzero k info (before k info lookup).2
  · exact fun k info lookup => kept.player k info (before k info lookup).2
  · intro k mem
    by_contra lookup
    obtain ⟨info, lookup⟩ := ne_none_iff_exists'.mp lookup
    obtain ⟨differ, old⟩ := before k info lookup
    have absent := kept.banned k ((banned k mem).resolve_left differ)
    rw [old] at absent
    cases absent
  · exact fun k info lookup => kept.flagged k info (before k info lookup).2

variable {bannedStore : Finset Nat}

theorem erase_lookup {victim k : Nat} (differ : k ≠ victim) :
    ({ c with bannedStore, playersStore := c.playersStore.erase victim } :
      Channel).playersStore[k]? = c.playersStore[k]? := by
  simp only [Std.ExtTreeMap.getElem?_erase, Std.LawfulEqCmp.compare_eq_iff_eq,
    if_neg (Ne.symm differ)]

theorem erase_owned (owned : Owned c) {victim : Nat} (stays : c.ownerGUID ≠ victim) :
    Owned { c with bannedStore, playersStore := c.playersStore.erase victim } := by
  intro k info lookup
  have before : c.playersStore[k]? = some info := by
    simp only [Std.ExtTreeMap.getElem?_erase, Std.LawfulEqCmp.compare_eq_iff_eq] at lookup
    split at lookup
    · cases lookup
    · exact lookup
  obtain ⟨owner, here, rest⟩ := owned k info before
  exact ⟨owner, (erase_lookup stays).trans here, rest⟩

/-- `JoinChannel` lets the player in. -/
def Channel.accepts (c : Channel) (player : Player) (pass : String) : Bool :=
  ¬ c.isOn player.guid ∧ ¬ c.isBanned player.guid ∧ ¬ (c.password ≠ "" ∧ pass ≠ c.password) ∧
    ¬ (c.hasFlag channelFlagLfg ∧ player.lfgRestricted)

/-- A player joins an emptied channel only when it has no owner on record; no owner kicks or bans
himself while others are there; and no owner takes his own moderator flag by writing his name
in other letters. -/
def Careful (c : Channel) : Request → Prop
  | .joinChannel player pass => c.accepts player pass = true →
      c.ownerGUID = 0 ∨ c.playersStore.isEmpty = false
  | .kickOrBan player bad _ => ∀ victim, bad = some victim → victim.guid = player.guid →
      player.guid = c.ownerGUID → ∀ guid, c.isOn guid = true → guid = c.ownerGUID
  | .setMode player p2n newp mod set => ∀ member, newp = some member →
      member.guid = player.guid → player.guid = c.ownerGUID → c.isOn player.guid = true →
        Channel.mayNotice player member = true → mod = true → p2n ≠ player.name → set = true
  | .leaveChannel _ | .unBan _ _ | .setOwner _ _ => True

/-- `JoinChannel` for a player that it lets in. -/
def Channel.admit (c : Channel) (player : Player) : Channel :=
  let c := { c with playersStore := c.playersStore.insert player.guid ⟨player.guid, 0#8⟩ }
  if ¬ c.isConstant ∧ c.ownerGUID = 0 ∧ c.ownership then
    (c.setOwner player.guid).change player.guid (·.setModerator true)
  else c

theorem joinChannel_eq (c : Channel) (player : Player) (pass : String) :
    c.joinChannel player pass = if c.accepts player pass then c.admit player else c := by
  unfold Channel.joinChannel Channel.accepts
  by_cases on : c.isOn player.guid = true
  · rw [if_pos on, if_neg (by simp [on])]
  rw [if_neg on]
  by_cases banned : c.isBanned player.guid = true
  · rw [if_pos banned, if_neg (by simp [banned])]
  rw [if_neg banned]
  by_cases wrong : c.password ≠ "" ∧ pass ≠ c.password
  · rw [if_pos wrong, if_neg (by simp [wrong])]
  rw [if_neg wrong]
  by_cases lfg : c.hasFlag channelFlagLfg = true ∧ player.lfgRestricted = true
  · rw [if_pos lfg, if_neg (by simp [lfg])]
  · rw [if_neg lfg, if_pos (decide_eq_true ⟨on, banned, wrong, lfg⟩)]
    rfl

theorem admit_kept (kept : Kept c) {player : Player} (welcome : c.isBanned player.guid = false) :
    Kept { c with playersStore := c.playersStore.insert player.guid ⟨player.guid, 0#8⟩ } := by
  have before : ∀ (k : Nat) (info : PlayerInfo),
      (c.playersStore.insert player.guid ⟨player.guid, 0#8⟩)[k]? = some info →
        (k = player.guid ∧ info = ⟨player.guid, 0#8⟩) ∨ c.playersStore[k]? = some info := by
    intro k info lookup
    simp only [Std.ExtTreeMap.getElem?_insert, Std.LawfulEqCmp.compare_eq_iff_eq] at lookup
    split at lookup
    · rename_i same
      cases lookup
      exact .inl ⟨same.symm, rfl⟩
    · exact .inr lookup
  refine ⟨kept.channelId, kept.ownership, ?_, ?_, ?_, ?_⟩
  · intro k info lookup
    rcases before k info lookup with ⟨rfl, _⟩ | old
    · exact player.guid_ne_zero
    · exact kept.nonzero k info old
  · intro k info lookup
    rcases before k info lookup with ⟨rfl, rfl⟩ | old
    · rfl
    · exact kept.player k info old
  · intro k banned
    by_contra lookup
    obtain ⟨info, lookup⟩ := ne_none_iff_exists'.mp lookup
    rcases before k info lookup with ⟨rfl, _⟩ | old
    · exact absurd (decide_eq_true banned) (Bool.eq_false_iff.mp welcome)
    · rw [kept.banned k banned] at old
      cases old
  · intro k info lookup flag
    rcases before k info lookup with ⟨_, rfl⟩ | old
    · rw [PlayerInfo.isOwner_plain] at flag
      cases flag
    · exact kept.flagged k info old flag

theorem joinChannel_iff (inv : Invariant c) (player : Player) (pass : String) :
    (Careful c (.joinChannel player pass) → Invariant (c.joinChannel player pass)) ∧
      (Sound (c.joinChannel player pass) → Careful c (.joinChannel player pass)) := by
  rw [joinChannel_eq]
  by_cases accepted : c.accepts player pass = true
  · rw [if_pos accepted]
    obtain ⟨off, welcome, _, _⟩ := of_decide_eq_true accepted
    rw [Bool.not_eq_true] at off welcome
    have kept := admit_kept inv.kept welcome
    have on : ({ c with playersStore :=
        c.playersStore.insert player.guid ⟨player.guid, 0#8⟩ } : Channel).isOn player.guid =
        true := by
      unfold Channel.isOn
      rw [Std.ExtTreeMap.getElem?_insert_self]
      rfl
    unfold Channel.admit
    have mode : c.isConstant = false := decide_eq_false (not_not.mpr inv.kept.channelId)
    by_cases free : c.ownerGUID = 0
    · refine ⟨fun _ => ?_, fun _ _ => .inl free⟩
      dsimp only
      rw [if_pos ⟨by rw [Bool.not_eq_true]; exact mode, free, inv.kept.ownership⟩]
      have owned := setOwner_invariant kept on
      refine change_invariant owned ?_ (fun _ => rfl) (fun info => info.isOwner_setModerator true)
        fun info _ _ => info.isModerator_setModerator true
      rw [Channel.isOn, lookup_setOwner _ player.guid_ne_zero, if_pos rfl]
      rfl
    · dsimp only
      rw [if_neg fun all => free all.2.1]
      constructor
      · intro careful
        obtain ⟨guid, info, there⟩ :=
          member_of_nonempty ((careful accepted).resolve_left free)
        refine ⟨kept, fun _ _ _ => ?_⟩
        obtain ⟨owner, here, rest⟩ := inv.owned guid info there
        refine ⟨owner, ?_, rest⟩
        have differ : player.guid ≠ c.ownerGUID := by
          intro same
          rw [Channel.isOn, same, here] at off
          cases off
        simp only [Std.ExtTreeMap.getElem?_insert, Std.LawfulEqCmp.compare_eq_iff_eq, if_neg differ]
        exact here
      · intro sound _
        right
        by_contra empty
        rw [Bool.not_eq_false, isEmpty_iff_lookup] at empty
        obtain ⟨info, there⟩ := isOn_iff.mp on
        obtain ⟨owner, here, flag, _⟩ := sound.owner (nonempty_of_member there)
        simp only [Std.ExtTreeMap.getElem?_insert, Std.LawfulEqCmp.compare_eq_iff_eq, empty] at here
        split at here
        · cases here
          rw [PlayerInfo.isOwner_plain] at flag
          cases flag
        · cases here
  · rw [if_neg accepted]
    exact ⟨fun _ => inv, fun _ accepts => absurd accepts accepted⟩

theorem leaveChannel_invariant (inv : Invariant c) (player : Player) :
    Invariant (c.leaveChannel player) := by
  unfold Channel.leaveChannel
  split
  · exact inv
  rename_i info there
  have kept := erase_kept inv.kept player.guid c.bannedStore fun _ mem => .inr mem
  dsimp only
  split
  · split
    · rename_i listed
      refine ⟨kept, fun guid other lookup => ?_⟩
      have absent := (isEmpty_iff_lookup _).mp (Std.ExtTreeMap.isEmpty_iff.mpr
        (Std.ExtTreeMap.toList_eq_nil_iff.mp listed)) guid
      rw [lookup] at absent
      cases absent
    · rename_i guid first _ listed
      have lookup : (c.playersStore.erase player.guid)[guid]? = some first := by
        apply Std.ExtTreeMap.mem_toList_iff_getElem?_eq_some.mp
        rw [listed]
        exact List.mem_cons_self
      have own := kept.player guid first lookup
      have on : ({ c with playersStore := c.playersStore.erase player.guid } : Channel).isOn
          first.player = true := by
        rw [own]
        exact isOn_iff.mpr ⟨first, lookup⟩
      have moderated := change_kept (f := fun info => info.setModerator true) kept on
        (fun _ => rfl) fun info => info.isOwner_setModerator true
      exact setOwner_invariant moderated (isOn_change on)
  · rename_i quiet
    refine ⟨kept, erase_owned inv.owned fun same => quiet ?_⟩
    obtain ⟨owner, here, flag, _⟩ := inv.owned player.guid info there
    rw [same, there] at here
    cases here
    refine ⟨?_, flag, inv.kept.ownership⟩
    simp [Channel.isConstant, inv.kept.channelId]

theorem setOwner_absent_unsound (nonzero : guid ≠ 0) (off : c.isOn guid = false) :
    ¬ Sound ((c.change guid (·.setModerator true)).setOwner guid) := by
  intro sound
  have absent : c.playersStore[guid]? = none := by
    rw [Channel.isOn, isSome_eq_false_iff, isNone_iff_eq_none] at off
    exact off
  have back := lookup_setOwner (c.change guid (·.setModerator true)) nonzero guid
  rw [if_pos rfl, lookup_clearOwner, lookup_change, if_pos rfl, absent] at back
  have own := sound.player guid _ back
  split at own
  · exact nonzero own.symm
  · exact nonzero own.symm

/-- The owner is kicked or banned, and the one who did it follows. -/
theorem kickOwner_iff {player victim : Player} (on : c.isOn player.guid = true) {ban : Bool}
    (kept : Kept { c with bannedStore, playersStore := c.playersStore.erase victim.guid })
    (owns : c.ownerGUID = victim.guid) :
    let left : Channel :=
      { c with bannedStore, playersStore := c.playersStore.erase victim.guid }
    let after : Channel :=
      if decide (c.ownerGUID = victim.guid) = true ∧ left.ownership = true ∧
          ¬ left.playersStore.isEmpty = true then
        (left.change player.guid (·.setModerator true)).setOwner player.guid
      else left
    (Careful c (.kickOrBan player (some victim) ban) → Invariant after) ∧
      (Sound after → Careful c (.kickOrBan player (some victim) ban)) := by
  dsimp only
  have others : ∀ guid info, (c.playersStore.erase victim.guid)[guid]? = some info →
      guid ≠ victim.guid ∧ c.isOn guid = true := by
    intro guid info lookup
    simp only [Std.ExtTreeMap.getElem?_erase, Std.LawfulEqCmp.compare_eq_iff_eq] at lookup
    split at lookup
    · cases lookup
    · rename_i differ
      exact ⟨Ne.symm differ, isOn_iff.mpr ⟨info, lookup⟩⟩
  by_cases alone : (c.playersStore.erase victim.guid).isEmpty = true
  · rw [if_neg fun all => all.2.2 alone]
    have nobody := (isEmpty_iff_lookup _).mp alone
    refine ⟨fun _ => ⟨kept, fun guid info lookup => ?_⟩, fun _ => ?_⟩
    · rw [nobody guid] at lookup
      cases lookup
    · rintro _ ⟨⟩ _ _ guid member
      by_contra differ
      obtain ⟨info, there⟩ := isOn_iff.mp member
      have gone := nobody guid
      simp only [Std.ExtTreeMap.getElem?_erase, Std.LawfulEqCmp.compare_eq_iff_eq] at gone
      rw [if_neg fun same => differ (same.symm.trans owns.symm), there] at gone
      cases gone
  · rw [if_pos ⟨decide_eq_true owns, kept.ownership, alone⟩]
    by_cases same : victim.guid = player.guid
    · constructor
      · intro careful
        obtain ⟨guid, info, lookup⟩ := member_of_nonempty
          (c := { c with bannedStore, playersStore := c.playersStore.erase victim.guid })
          (Bool.not_eq_true _ ▸ alone)
        obtain ⟨differ, member⟩ := others guid info lookup
        have only := careful victim rfl same (same.symm.trans owns.symm) guid member
        exact absurd (only.trans owns) differ
      · intro sound
        refine absurd sound (setOwner_absent_unsound player.guid_ne_zero ?_)
        rw [Channel.isOn, ← same]
        simp only [Std.ExtTreeMap.getElem?_erase_self]
        rfl
    · have stays : ({ c with bannedStore, playersStore := c.playersStore.erase victim.guid } :
          Channel).isOn player.guid = true := by
        rw [Channel.isOn, erase_lookup (Ne.symm same)]
        exact on
      have moderated := change_kept (f := fun info => info.setModerator true) kept stays
        (fun _ => rfl) fun info => info.isOwner_setModerator true
      refine ⟨fun _ => setOwner_invariant moderated (isOn_change stays), fun _ => ?_⟩
      rintro _ ⟨⟩ named
      exact absurd named same

section
variable (inv : Invariant c) (player : Player)
include inv player

theorem kickOrBan_iff (bad : Option Player) (ban : Bool) :
    (Careful c (.kickOrBan player bad ban) → Invariant (c.kickOrBan player bad ban)) ∧
      (Sound (c.kickOrBan player bad ban) → Careful c (.kickOrBan player bad ban)) := by
  unfold Channel.kickOrBan
  dsimp only
  by_cases on : c.isOn player.guid = true
  · rw [if_neg (not_not.mpr on)]
    obtain ⟨own, there⟩ := isOn_iff.mp on
    obtain ⟨owner, here, _, moderator⟩ := inv.owned player.guid own there
    split
    · rename_i refused
      refine ⟨fun _ => inv, fun _ => ?_⟩
      rintro victim rfl _ same
      have mod : c.isModerator player.guid = true := by
        rw [Channel.isModerator, same, here]
        exact moderator
      exact absurd mod refused.1
    · cases bad with
      | none => exact ⟨fun _ => inv, fun _ => nofun⟩
      | some victim =>
        dsimp only
        by_cases present : c.isOn victim.guid = true
        · rw [if_neg (not_not.mpr present)]
          split
          · rename_i refused
            refine ⟨fun _ => inv, fun _ => ?_⟩
            rintro _ ⟨⟩ _ same
            exact absurd same refused.2.2
          have kept := erase_kept inv.kept victim.guid
            (if ban then insert victim.guid c.bannedStore else c.bannedStore) (by
              intro guid mem
              split at mem
              · exact Finset.mem_insert.mp mem
              · exact .inr mem)
          by_cases owns : c.ownerGUID = victim.guid
          · exact kickOwner_iff on kept owns
          rw [if_neg fun all => owns (of_decide_eq_true all.1)]
          refine ⟨fun _ => ⟨kept, erase_owned inv.owned owns⟩, fun _ => ?_⟩
          rintro _ ⟨⟩ named same
          exact absurd (named.trans same).symm owns
        · rw [if_pos present]
          refine ⟨fun _ => inv, fun _ => ?_⟩
          rintro _ ⟨⟩ named _
          rw [named] at present
          exact absurd on present
  · rw [if_pos on]
    refine ⟨fun _ => inv, fun _ => ?_⟩
    rintro victim rfl _ same guid member
    obtain ⟨info, there⟩ := isOn_iff.mp member
    obtain ⟨owner, here, _⟩ := inv.owned guid info there
    rw [same] at on
    exact absurd (isOn_iff.mpr ⟨owner, here⟩) on

theorem unBan_invariant
    (bad : Option Player) : Invariant (c.unBan player bad) := by
  unfold Channel.unBan
  split
  · exact inv
  split
  · exact inv
  cases bad with
  | none => exact inv
  | some bad =>
    dsimp only
    split
    · exact inv
    obtain ⟨⟨channelId, ownership, nonzero, own, banned, flagged⟩, owned⟩ := inv
    exact ⟨⟨channelId, ownership, nonzero, own,
      fun guid mem => banned guid (Finset.mem_of_mem_erase mem), flagged⟩, owned⟩

theorem setMode_iff (p2n : String)
    (newp : Option Player) (mod set : Bool) :
    (Careful c (.setMode player p2n newp mod set) →
        Invariant (c.setMode player p2n newp mod set)) ∧
      (Sound (c.setMode player p2n newp mod set) →
        Careful c (.setMode player p2n newp mod set)) := by
  unfold Channel.setMode
  dsimp only
  by_cases on : c.isOn player.guid = true
  · rw [if_neg (not_not.mpr on)]
    obtain ⟨own, there⟩ := isOn_iff.mp on
    obtain ⟨owner, here, _, moderator⟩ := inv.owned player.guid own there
    split
    · rename_i refused
      refine ⟨fun _ => inv, fun _ => ?_⟩
      rintro member rfl _ same
      have flag : c.isModerator player.guid = true := by
        rw [Channel.isModerator, same, here]
        exact moderator
      exact absurd flag refused.1
    · split
      · rename_i refused
        refine ⟨fun _ => inv, fun _ => ?_⟩
        rintro member rfl _ _ _ _ _ letters
        exact absurd refused.2.1 letters
      · rename_i spelled
        cases newp with
        | none => exact ⟨fun _ => inv, fun _ => nofun⟩
        | some newp =>
          dsimp only
          split
          · rename_i refused
            refine ⟨fun _ => inv, fun _ => ?_⟩
            rintro _ ⟨⟩ named _ _ notice
            rcases refused with off | refused
            · rw [named] at off
              exact absurd on off
            · exact absurd notice refused
          · rename_i found
            obtain ⟨present, notice⟩ := not_or.mp found
            rw [not_not] at present notice
            split
            · rename_i refused
              refine ⟨fun _ => inv, fun _ => ?_⟩
              rintro _ ⟨⟩ _ same
              exact absurd same.symm refused.2
            rename_i settled
            unfold Channel.setFlag
            cases mod with
            | false =>
              refine ⟨fun _ => ?_, fun _ => by rintro _ ⟨⟩ _ _ _ _ ⟨⟩⟩
              exact change_invariant inv present (fun _ => rfl)
                (fun info => info.isOwner_setMuted set)
                fun info _ flag => (info.isModerator_setMuted set).trans flag
            | true =>
              constructor
              · intro careful
                refine change_invariant inv present (fun _ => rfl)
                  (fun info => info.isOwner_setModerator set) fun info owns _ => ?_
                rw [PlayerInfo.isModerator_setModerator]
                have same : c.ownerGUID = player.guid := by
                  by_contra differ
                  exact settled ⟨owns.symm, differ⟩
                exact careful newp rfl (owns.trans same) same.symm on notice rfl
                  fun letters => spelled ⟨same.symm, letters, rfl⟩
              · intro sound
                rintro _ ⟨⟩ named same _ _ _ _
                have after : (c.change newp.guid (·.setModerator set)).playersStore[
                    c.ownerGUID]? = some (owner.setModerator set) := by
                  rw [lookup_change, if_pos (named.trans same), named, same, here]
                  rfl
                obtain ⟨first, lookup, _, flag, _⟩ :=
                  sound.owner (nonempty_of_member after)
                have same := after.symm.trans lookup
                cases same
                rw [PlayerInfo.isModerator_setModerator] at flag
                exact flag
  · rw [if_pos on]
    refine ⟨fun _ => inv, fun _ => ?_⟩
    rintro member rfl _ _ member
    exact absurd member on

theorem setOwnerBy_invariant
    (newp : Option Player) : Invariant (c.setOwnerBy player newp) := by
  unfold Channel.setOwnerBy
  split
  · exact inv
  split
  · exact inv
  cases newp with
  | none => exact inv
  | some newp =>
    dsimp only
    split
    · exact inv
    rename_i found
    obtain ⟨present, _⟩ := not_or.mp found
    rw [not_not] at present
    have moderated := change_kept (f := fun info => info.setModerator true) inv.kept present
      (fun _ => rfl) fun info => info.isOwner_setModerator true
    exact setOwner_invariant moderated (isOn_change present)

end

theorem step_iff (inv : Invariant c) (request : Request) :
    (Careful c request → Invariant (step c request).1) ∧
      (Sound (step c request).1 → Careful c request) := by
  cases request with
  | joinChannel player pass => exact joinChannel_iff inv player pass
  | leaveChannel player => exact ⟨fun _ => leaveChannel_invariant inv player, fun _ => trivial⟩
  | kickOrBan player bad ban => exact kickOrBan_iff inv player bad ban
  | unBan player bad => exact ⟨fun _ => unBan_invariant inv player bad, fun _ => trivial⟩
  | setMode player p2n newp mod set => exact setMode_iff inv player p2n newp mod set
  | setOwner player newp =>
    exact ⟨fun _ => setOwnerBy_invariant inv player newp, fun _ => trivial⟩

theorem invariant_custom :
    Invariant (custom password banned) := by
  have absent : ∀ guid : Nat, (custom password banned).playersStore[guid]? = none :=
    fun guid => Std.ExtTreeMap.getElem?_empty
  refine ⟨⟨rfl, rfl, ?_, ?_, fun guid _ => absent guid, ?_⟩, ?_⟩ <;>
    (intro guid info there; rw [absent] at there; cases there)

/-- A custom channel is sound after every request of a run exactly when every request is
careful. -/
theorem sound_iff (requests : List Request) :
    (∀ t ∈ Run.trace step (custom password banned) requests, Sound t.after) ↔
      ∀ t ∈ Run.trace step (custom password banned) requests, Careful t.before t.input :=
  Run.good_iff step Careful Invariant (fun t => Sound t.after)
    (fun _ request inv => ⟨(step_iff inv request).2,
      fun careful => sound_of_invariant ((step_iff inv request).1 careful)⟩)
    (fun _ request inv => (step_iff inv request).1) _ requests (invariant_custom password banned)

/-- The owner bans himself, and stays as a member without a guid. -/
theorem sound_fails :
    ¬ ∀ (password : String) (banned : Finset Nat) (requests : List Request),
      ∀ t ∈ Run.trace step (custom password banned) requests, Sound t.after := by
  intro claim
  let first : Player := ⟨1, by decide, "A", 0, false, false, false⟩
  let second : Player := ⟨2, by decide, "B", 0, false, false, false⟩
  have sound := claim "" ∅ [.joinChannel first "", .joinChannel second "",
    .kickOrBan first (some first) true] _ (.tail _ (.tail _ (.head _)))
  have own := sound.banned 1 (by decide)
  revert own
  decide

end OpenWoW.Chat
