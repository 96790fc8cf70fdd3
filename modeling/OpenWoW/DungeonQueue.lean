import Mathlib.Data.Finset.Sort
import Mathlib.Data.List.Infix
import Mathlib.Data.Nat.Digits.Defs
import OpenWoW.DungeonRoles
import OpenWoW.Money

/-! The queue of the dungeon finder: players and groups wait in it until some of them form a party. -/
namespace OpenWoW.DungeonFinder

abbrev maxGroupSize : Nat := 5

inductive LfgState where
  | none | rolecheck | queued | proposal | boot | dungeon | finishedDungeon | raidbrowser
  deriving DecidableEq, Repr

inductive LfgAnswer where
  | pending | deny | agree
  deriving DecidableEq, Repr

inductive LfgProposalState where
  | initiating | failed | success
  deriving DecidableEq, Repr

inductive LfgCompatibility where
  | pending
  | wrongGroupSize | tooMuchPlayers | multipleLfgGroups | hasIgnores | noRoles | noDungeons
  | withLessPlayers | badStates | matched
  deriving DecidableEq, Repr

/-- Less than `LFG_COMPATIBLES_WITH_LESS_PLAYERS`. -/
def LfgCompatibility.notCompatible : LfgCompatibility → Bool
  | withLessPlayers | badStates | matched => false
  | _ => true

structure LfgProposalPlayer where
  role : UInt8
  accept : LfgAnswer
  /-- Zero when the player did not queue with a group. -/
  group : Nat
  deriving DecidableEq, Repr

structure LfgProposal where
  dungeonId : Nat
  state : LfgProposalState
  group : Nat
  leader : Nat
  cancelTime : Nat
  isNew : Bool
  /-- The guids that wait in the queue. -/
  queues : List Nat
  players : List (Nat × LfgProposalPlayer)
  deriving DecidableEq, Repr

/-- What a player or a group waits with: some dungeons, and the roles of the players. -/
structure LfgQueueData where
  dungeons : Finset Nat
  roles : LfgRolesMap
  someDungeon : dungeons.Nonempty
  ordered : OrderedMap.Ordered roles

/-- What a search reads outside the queue. -/
structure World where
  isGroupGuid : Nat → Bool
  state : Nat → LfgState
  oldState : Nat → LfgState
  isOnline : Nat → Bool
  hasOnIgnoreList : Nat → Nat → Bool
  now : Nat
  /-- The random numbers for each proposal: its dungeon, and whether a player becomes the leader. -/
  randomDungeon : Nat → Nat
  randomLeader : Nat → Nat → Bool

namespace World

variable (w : World)

def hasIgnore (guid1 guid2 : Nat) : Bool :=
  w.isOnline guid1 && w.isOnline guid2 &&
    (w.hasOnIgnoreList guid1 guid2 || w.hasOnIgnoreList guid2 guid1)

def isLfgGroup (guid : Nat) : Bool := guid != 0 && w.isGroupGuid guid && w.oldState guid != .none

def allQueued (check : List Nat) : Bool := !check.isEmpty && check.all (w.state · == .queued)

end World

/-- A queue, with the proposals that it handed to `AddProposal`. A key of the compatible map stands for its
set of guids. -/
structure LFGQueue where
  queueData : Nat → Option LfgQueueData
  compatibleMap : Finset Nat → Option LfgCompatibility
  currentQueue : List Nat
  newToQueue : List Nat
  proposals : List LfgProposal

/-- The text of a key: the guids in order, with `|` between them. -/
def keyText (key : Finset Nat) : List Char :=
  List.intercalate ['|'] ((key.sort (· ≤ ·)).map (Nat.toDigits 10))

def mentions (key : Finset Nat) (guid : Nat) : Prop := Nat.toDigits 10 guid <:+: keyText key

instance (key : Finset Nat) (guid : Nat) : Decidable (mentions key guid) :=
  inferInstanceAs (Decidable (_ <:+: _))

namespace LFGQueue

def empty : LFGQueue := ⟨fun _ => none, fun _ => none, [], [], []⟩

variable (q : LFGQueue)

/-- `list.remove`. -/
def remove (guid : Nat) (list : List Nat) : List Nat := list.filter (· ≠ guid)

def addToNewQueue (guid : Nat) : LFGQueue := { q with newToQueue := q.newToQueue ++ [guid] }

def removeFromNewQueue (guid : Nat) : LFGQueue := { q with newToQueue := remove guid q.newToQueue }

def addToCurrentQueue (guid : Nat) : LFGQueue := { q with currentQueue := q.currentQueue ++ [guid] }

def removeFromCurrentQueue (guid : Nat) : LFGQueue :=
  { q with currentQueue := remove guid q.currentQueue }

def addToQueue (guid : Nat) : LFGQueue :=
  match q.queueData guid with
  | none => q
  | some _ => q.addToNewQueue guid

def removeFromCompatibles (guid : Nat) : LFGQueue :=
  { q with compatibleMap := fun key => if mentions key guid then none else q.compatibleMap key }

def removeFromQueue (guid : Nat) : LFGQueue :=
  let q := ((q.removeFromNewQueue guid).removeFromCurrentQueue guid).removeFromCompatibles guid
  { q with queueData := Function.update q.queueData guid none }

def addQueueData (guid : Nat) (data : LfgQueueData) : LFGQueue :=
  ({ q with queueData := Function.update q.queueData guid (some data) } : LFGQueue).addToQueue guid

def setCompatibles (key : Finset Nat) (compatibles : LfgCompatibility) : LFGQueue :=
  { q with compatibleMap := Function.update q.compatibleMap key (some compatibles) }

def getCompatibles (key : Finset Nat) : LfgCompatibility :=
  (q.compatibleMap key).getD .pending

/-- The roles that `QueueDataStore` has for a guid. -/
def rolesOf (guid : Nat) : LfgRolesMap := (q.queueData guid).elim [] (·.roles)

def dungeonsOf (guid : Nat) : Finset Nat := (q.queueData guid).elim ∅ (·.dungeons)

/-- The players and the dungeon groups among the entries that were looked at. -/
structure Counted where
  numPlayers : Nat
  numLfgGroups : Nat
  group : Nat
  proposalGroups : Nat → Nat

/-- The count of `CheckCompatibility`; an entry without data ends it. -/
def count (w : World) : Counted → List Nat → Except Nat Counted
  | counted, [] => .ok counted
  | counted, guid :: rest =>
    if counted.numLfgGroups < 2 ∧ counted.numPlayers ≤ maxGroupSize then
      match q.queueData guid with
      | none => .error guid
      | some data =>
        let isGroup := w.isLfgGroup guid
        count w
          { numPlayers := (counted.numPlayers + data.roles.length) % 2 ^ 8
            numLfgGroups := counted.numLfgGroups + if isGroup then 1 else 0
            group := if isGroup && counted.numLfgGroups = 0 then guid else counted.group
            proposalGroups := fun player =>
              if player ∈ OrderedMap.keys data.roles then
                (if w.isGroupGuid guid then guid else 0)
              else counted.proposalGroups player } rest
    else .ok counted

/-- A player joins the others, unless one of them ignores the player or is ignored. -/
def addPlayer (w : World) (proposalRoles : LfgRolesMap) (player : Nat × UInt8) : LfgRolesMap :=
  if proposalRoles.any fun other => other.1 ≠ player.1 && w.hasIgnore player.1 other.1 then
    proposalRoles
  else OrderedMap.insert player.1 player.2 proposalRoles

/-- The players of all entries. -/
def gather (w : World) (check : List Nat) : LfgRolesMap :=
  check.foldl (fun proposalRoles guid => (q.rolesOf guid).foldl (addPlayer w) proposalRoles) []

/-- The dungeons that all entries wait for. -/
def commonDungeons : List Nat → Finset Nat
  | [] => ∅
  | guid :: rest => rest.foldl (fun dungeons other => dungeons ∩ q.dungeonsOf other) (q.dungeonsOf guid)

/-- `SelectRandomContainerElement`, of a set that is not empty. -/
def selectRandom (number : Nat) (dungeons : Finset Nat) : Nat :=
  ((dungeons.sort (· ≤ ·))[number % dungeons.card]?).getD 0

/-- The leader of a proposal and whether one who wanted to lead was found. -/
def selectLeader (w : World) (index : Nat) (leader : Nat × Bool) (player : Nat × UInt8) :
    Nat × Bool :=
  if player.2 &&& PlayerRole.leader ≠ 0 then
    (if !leader.2 || leader.1 = 0 || w.randomLeader index player.1 then player.1 else leader.1, true)
  else if !leader.2 && (leader.1 = 0 || w.randomLeader index player.1) then (player.1, false)
  else leader

abbrev timeProposal : Nat := 45

/-- The proposal for a party of five. -/
def makeProposal (w : World) (check : List Nat) (counted : Counted) (proposalRoles : LfgRolesMap)
    (proposalDungeons : Finset Nat) : LfgProposal :=
  let index := q.proposals.length
  let isNew := counted.numLfgGroups ≠ 1 || w.oldState (check.headD 0) ≠ .dungeon
  { dungeonId := selectRandom (w.randomDungeon index) proposalDungeons
    state := .initiating
    group := counted.group
    leader := (proposalRoles.foldl (selectLeader w index) (0, false)).1
    cancelTime := w.now + timeProposal
    isNew := isNew
    queues := check
    players := proposalRoles.map fun player =>
      let group := counted.proposalGroups player.1
      (player.1,
        { role := player.2
          accept := if !isNew && group ≠ 0 && group = counted.group then .agree else .pending
          group := group }) }

/-- The end of `CheckCompatibility`: enough players who wait become a proposal. -/
def propose (w : World) (check : List Nat) (counted : Counted) (proposalRoles : LfgRolesMap)
    (proposalDungeons : Finset Nat) : LFGQueue × LfgCompatibility :=
  let key := check.toFinset
  if counted.numPlayers ≠ maxGroupSize then
    (q.setCompatibles key .withLessPlayers, .withLessPlayers)
  else if !w.allQueued check then (q.setCompatibles key .badStates, .badStates)
  else
    let proposal := q.makeProposal w check counted proposalRoles proposalDungeons
    let q := check.foldl (fun q guid => (q.removeFromNewQueue guid).removeFromCurrentQueue guid) q
    (({ q with proposals := q.proposals ++ [proposal] } : LFGQueue).setCompatibles key .matched,
      .matched)

/-- `CheckCompatibility` after the test of all entries but the first one. -/
def checkEntries (w : World) (check : List Nat) : LFGQueue × LfgCompatibility :=
  let key := check.toFinset
  let refuse := fun compatibles => (q.setCompatibles key compatibles, compatibles)
  match q.count w ⟨0, 0, 0, fun _ => 0⟩ check with
  | .error guid => (q.removeFromQueue guid, .pending)
  | .ok counted =>
    if check.length = 1 ∧ counted.numPlayers ≠ maxGroupSize then refuse .withLessPlayers
    else if 1 < counted.numLfgGroups then refuse .multipleLfgGroups
    else if maxGroupSize < counted.numPlayers then refuse .tooMuchPlayers
    else if 1 < check.length then
      let proposalRoles := q.gather w check
      if ((counted.numPlayers : Int) - proposalRoles.length) % 2 ^ 8 ≠ 0 then refuse .hasIgnores
      else
        let checked := checkGroupRoles proposalRoles
        if !checked.2 then refuse .noRoles
        else
          let proposalDungeons := q.commonDungeons check
          if proposalDungeons = ∅ then refuse .noDungeons
          else q.propose w check counted checked.1 proposalDungeons
    else
      q.propose w check counted (checkGroupRoles (q.rolesOf (check.headD 0))).1
        (q.dungeonsOf (check.headD 0))

def checkCompatibility (w : World) : LFGQueue → List Nat → LFGQueue × LfgCompatibility
  | q, [] => (q, .wrongGroupSize)
  | q, front :: rest =>
    if maxGroupSize < (front :: rest).length then (q, .wrongGroupSize)
    else if 2 < (front :: rest).length then
      let child := checkCompatibility w q rest
      if child.2.notCompatible then
        (child.1.setCompatibles (front :: rest).toFinset child.2, child.2)
      else child.1.checkEntries w (front :: rest)
    else q.checkEntries w (front :: rest)

/-- What is cached for some entries, or else what a check finds. -/
def cachedOrChecked (w : World) (check : List Nat) : LFGQueue × LfgCompatibility :=
  let cached := q.getCompatibles check.toFinset
  if cached = .pending then q.checkCompatibility w check else (q, cached)

/-- `FindNewGroups` up to its loop. -/
def compatibilityOf (w : World) (check : List Nat) : LFGQueue × LfgCompatibility :=
  let found := q.cachedOrChecked w check
  if found.2 = .badStates ∧ w.allQueued check = true then
    (found.1.setCompatibles check.toFinset .matched, .matched)
  else found

/-- The loop of `FindNewGroups`: the calls share the list of the other entries, and each takes one of
them. Whether there was a match, and the entries that are left. -/
def tryOthers (w : World) : Nat → LFGQueue → List Nat → List Nat → (LFGQueue × List Nat) × Bool
  | 0, q, _, all => ((q, all), false)
  | _ + 1, q, _, [] => ((q, []), false)
  | calls + 1, q, check, next :: all =>
    let found := q.compatibilityOf w (check ++ [next])
    let inner := if found.2 = .withLessPlayers then tryOthers w calls found.1 (check ++ [next]) all
      else ((found.1, all), found.2 == .matched)
    if inner.2 then inner else tryOthers w calls inner.1.1 check inner.1.2

def findNewGroups (w : World) (check all : List Nat) : LFGQueue × LfgCompatibility :=
  let found := q.compatibilityOf w check
  if found.2 ≠ .withLessPlayers then found
  else
    let tried := tryOthers w all.length found.1 check all
    (tried.1.1, if tried.2 then .matched else .withLessPlayers)

/-- The loop of `FindGroups`, which takes an entry out of the new queue in each turn. -/
def findGroupsLoop (w : World) : Nat → LFGQueue → LFGQueue
  | 0, q => q
  | turns + 1, q =>
    match q.newToQueue with
    | [] => q
    | frontguid :: _ =>
      let q := q.removeFromNewQueue frontguid
      let found := q.findNewGroups w [frontguid] q.currentQueue
      findGroupsLoop w turns
        (if found.2 = .matched then found.1 else found.1.addToCurrentQueue frontguid)

def findGroups (w : World) : LFGQueue := findGroupsLoop w q.newToQueue.length q

variable {w : World} {P : LFGQueue → Prop}

theorem tryOthers_keeps {entries : List Nat}
    (looks : ∀ q check, check.Sublist entries → P q → P (compatibilityOf q w check).1)
    (calls : Nat) : ∀ {q : LFGQueue} {check all : List Nat}, (check ++ all).Sublist entries → P q →
    P (tryOthers w calls q check all).1.1 ∧ (tryOthers w calls q check all).1.2.Sublist all := by
  induction calls with
  | zero => exact fun _ holds => ⟨holds, List.Sublist.refl _⟩
  | succ calls ih =>
    intro q check all within holds
    cases all with
    | nil => exact ⟨holds, List.Sublist.refl _⟩
    | cons next all =>
      have deep : ((check ++ [next]) ++ all).Sublist entries := by
        rw [List.append_assoc]
        exact within
      have first := looks q (check ++ [next]) ((List.sublist_append_left _ _).trans deep) holds
      have inner : ∀ ends, ends = (if (q.compatibilityOf w (check ++ [next])).2 =
          .withLessPlayers then
            tryOthers w calls (q.compatibilityOf w (check ++ [next])).1 (check ++ [next]) all
          else (((q.compatibilityOf w (check ++ [next])).1, all),
            (q.compatibilityOf w (check ++ [next])).2 == .matched)) →
          P ends.1.1 ∧ ends.1.2.Sublist all := by
        rintro ends rfl
        split
        · exact ih deep first
        · exact ⟨first, List.Sublist.refl all⟩
      unfold tryOthers
      simp only
      generalize eq : (if (q.compatibilityOf w (check ++ [next])).2 = .withLessPlayers then
        tryOthers w calls (q.compatibilityOf w (check ++ [next])).1 (check ++ [next]) all
        else (((q.compatibilityOf w (check ++ [next])).1, all),
          (q.compatibilityOf w (check ++ [next])).2 == .matched)) = ends
      obtain ⟨holds, left⟩ := inner ends eq.symm
      split
      · exact ⟨holds, left.trans (List.sublist_cons_self next all)⟩
      have rest : (check ++ ends.1.2).Sublist entries :=
        ((List.Sublist.refl check).append
          (left.trans (List.sublist_cons_self next all))).trans within
      obtain ⟨after, fewer⟩ := ih rest holds
      exact ⟨after, fewer.trans (left.trans (List.sublist_cons_self next all))⟩

theorem findNewGroups_keeps {check all : List Nat}
    (looks : ∀ q some_, some_.Sublist (check ++ all) → P q → P (compatibilityOf q w some_).1)
    (holds : P q) : P (q.findNewGroups w check all).1 := by
  have first := looks q check (List.sublist_append_left check all) holds
  unfold findNewGroups
  simp only
  split
  · exact first
  · exact (tryOthers_keeps looks all.length (List.Sublist.refl _) first).1

theorem findGroups_keeps
    (turn : ∀ q frontguid rest, q.newToQueue = frontguid :: rest → P q →
      P (if ((q.removeFromNewQueue frontguid).findNewGroups w [frontguid]
          (q.removeFromNewQueue frontguid).currentQueue).2 = .matched then
        ((q.removeFromNewQueue frontguid).findNewGroups w [frontguid]
          (q.removeFromNewQueue frontguid).currentQueue).1
      else (((q.removeFromNewQueue frontguid).findNewGroups w [frontguid]
          (q.removeFromNewQueue frontguid).currentQueue).1.addToCurrentQueue frontguid)))
    (holds : P q) : P (q.findGroups w) := by
  have loop : ∀ turns q, P q → P (findGroupsLoop w turns q) := by
    intro turns
    induction turns with
    | zero => exact fun _ holds => holds
    | succ turns ih =>
      intro q holds
      unfold findGroupsLoop
      cases waiting : q.newToQueue with
      | nil => exact holds
      | cons frontguid rest => exact ih _ (turn q frontguid rest waiting holds)
  exact loop _ q holds

end LFGQueue

end OpenWoW.DungeonFinder
