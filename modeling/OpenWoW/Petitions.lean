import Mathlib
import OpenWoW.ByteBuffer
import OpenWoW.Lib.Run

/-! Charters: the petitions to found a guild or an arena team, and who has signed them. -/
namespace OpenWoW.Petitions

inductive CharterType where
  | arenaTeam2v2
  | arenaTeam3v3
  | guild
  | arenaTeam5v5
  deriving DecidableEq, Repr

namespace CharterType

def value : CharterType → Nat
  | .arenaTeam2v2 => 2
  | .arenaTeam3v3 => 3
  | .guild => 4
  | .arenaTeam5v5 => 5

def cost : CharterType → Nat
  | .arenaTeam2v2 => 800000
  | .arenaTeam3v3 => 1200000
  | .guild => 1000
  | .arenaTeam5v5 => 2000000

end CharterType

/-- A row of `petition`. -/
structure Petition where
  owner : Nat
  guid : Nat
  name : Bytes
  type : CharterType
  deriving DecidableEq, Repr

/-- A row of `petition_sign`. No statement ever names the type. -/
structure Signature where
  owner : Nat
  petition : Nat
  player : Nat
  account : Nat
  type : Nat := 0
  deriving DecidableEq, Repr

/-- A guild or an arena team. -/
structure Society where
  type : CharterType
  name : Bytes
  leader : Nat
  members : List Nat
  deriving DecidableEq, Repr

structure State where
  /-- The charters: who carries one, and its GUID. -/
  items : List (Nat × Nat) := []
  petitions : List Petition := []
  signatures : List Signature := []
  societies : List Society := []
  deriving DecidableEq, Repr

/-- What the handlers ask of the world. -/
structure World where
  accountId : Nat → Nat
  team : Nat → Nat
  allowTwoSideInteraction : Bool
  maxPlayerLevel : Nat
  minPetitionSigns : Nat
  /-- Neither reserved nor malformed. -/
  isValidCharterName : Bytes → Bool

def makeItemGuid (low : Nat) : Nat := low % 2 ^ 32 + 0x400 * 2 ^ 52

def guidLoPart (guid : Nat) : Nat := guid % 2 ^ 32

/-- `::toupper` on each character. -/
def upper (name : Bytes) : Bytes := name.map fun c => if 97 ≤ c ∧ c ≤ 122 then c - 32 else c

namespace State

/-- `GetGuildId` or `GetArenaTeamId` of a player. -/
def isMember (s : State) (type : CharterType) (player : Nat) : Bool :=
  s.societies.any fun society => society.type = type && player ∈ society.members

/-- `GetGuildByName` or `GetArenaTeamByName`. -/
def nameTaken (s : State) (type : CharterType) (name : Bytes) : Bool :=
  s.societies.any fun society =>
    (society.type == .guild) == (type == .guild) && upper society.name = upper name

def signers (s : State) (petition : Nat) : List Nat :=
  (s.signatures.filter (·.petition = petition)).map (·.player)

end State

structure Purchase where
  player : Nat
  /-- What the generator of item GUIDs gives. -/
  low : Nat
  isTabardDesigner : Bool
  clientIndex : Nat
  level : Nat
  name : Bytes
  money : Nat
  canStore : Bool

def Purchase.type (purchase : Purchase) : Option CharterType :=
  if purchase.isTabardDesigner then some .guild
  else match purchase.clientIndex with
    | 1 => some .arenaTeam2v2
    | 2 => some .arenaTeam3v3
    | 3 => some .arenaTeam5v5
    | _ => none

structure Signing where
  player : Nat
  petitionGuid : Nat
  level : Nat
  /-- Invited to a guild or to an arena team. -/
  guildInvited : Bool
  arenaTeamInvited : Bool

def Signing.invited (signing : Signing) : CharterType → Bool
  | .guild => signing.guildInvited
  | _ => signing.arenaTeamInvited

section

variable (w : World)

def handlePetitionBuy (s : State) (purchase : Purchase) : State :=
  match purchase.type with
  | none => s
  | some type =>
    if (type ≠ .guild ∧ purchase.level < w.maxPlayerLevel) ∨ s.isMember type purchase.player ∨
        s.nameTaken type purchase.name ∨ !w.isValidCharterName purchase.name ∨
        purchase.money < type.cost ∨ !purchase.canStore then s
    else
      let guid := makeItemGuid purchase.low
      let former := (s.petitions.filter fun petition =>
        petition.owner = purchase.player ∧ petition.type = type).map (·.guid)
      let invalid := former ++ [guidLoPart guid]
      { s with
        items := s.items ++ [(purchase.player, guid)]
        petitions := s.petitions.filter (·.guid ∉ invalid) ++
          [{ owner := purchase.player, guid := guidLoPart guid, name := purchase.name, type }]
        signatures := s.signatures.filter (·.petition ∉ invalid) }

def handlePetitionSign (s : State) (signing : Signing) : State :=
  let guid := guidLoPart signing.petitionGuid
  match s.petitions.find? (·.guid = guid) with
  | none => s
  | some petition =>
    let signs := (s.signatures.filter (·.petition = guid)).length
    if petition.owner = signing.player then s
    else if !w.allowTwoSideInteraction ∧ w.team signing.player ≠ w.team petition.owner then s
    else if (petition.type ≠ .guild ∧ signing.level < w.maxPlayerLevel) ∨
        s.isMember petition.type signing.player ∨ signing.invited petition.type then s
    else if petition.type.value < signs + 1 then s
    else if s.signatures.any fun row =>
        row.account = w.accountId signing.player && row.petition = guid then s
    else
      { s with
        signatures := s.signatures ++
          [{ owner := petition.owner, petition := guid, player := signing.player,
             account := w.accountId signing.player }] }

end

namespace State

def removePetitionsAndSigns (s : State) (player : Nat) (type : CharterType) : State :=
  { s with
    petitions := s.petitions.filter fun petition =>
      ¬(petition.owner = player ∧ petition.type = type)
    signatures := (s.signatures.filter fun row =>
      ¬(row.player = player ∧ row.type = type.value)).filter fun row =>
        ¬(row.owner = player ∧ row.type = type.value) }

/-- Where `AddMember` returns false: who is in a guild or a team of this kind already, or a team
that is full. -/
def refuses (s : State) (society : Society) (player : Nat) : Bool :=
  (society.type ≠ .guild && society.type.value * 2 ≤ society.members.length) ||
    s.isMember society.type player

/-- `AddMember` of the society at that place. -/
def addMember (index : Nat) (s : State) (player : Nat) : State :=
  match s.societies[index]? with
  | none => s
  | some society =>
    if s.refuses society player then s
    else
      { s.removePetitionsAndSigns player society.type with
        societies := s.societies.set index { society with members := society.members ++ [player] } }

/-- The leader leaves last, and the society goes with him unless its level forbids it. -/
def leave (s : State) (index player : Nat) (undeletable : Bool) : State :=
  match s.societies[index]? with
  | none => s
  | some society =>
    if player = society.leader then
      if 1 < society.members.length ∨ (society.type = .guild ∧ undeletable) then s
      else { s with societies := s.societies.eraseIdx index }
    else
      { s with
        societies := s.societies.set index
          { society with members := society.members.erase player } }

/-- `Create` before the leader is added. -/
def create (s : State) (petition : Petition) (leader : Nat) : State :=
  { s with
    societies := s.societies ++
      [{ type := petition.type, name := petition.name, leader, members := [] }] }

def destroyItem (s : State) (player petitionGuid : Nat) : State :=
  { s with items := s.items.erase (player, petitionGuid) }

/-- `CHAR_DEL_PETITION_BY_GUID` and `CHAR_DEL_PETITION_SIGNATURE_BY_GUID`. -/
def deletePetition (s : State) (guid : Nat) : State :=
  { s with
    petitions := s.petitions.filter (·.guid ≠ guid)
    signatures := s.signatures.filter (·.petition ≠ guid) }

end State

section

variable (w : World)

local instance lawfulItems : LawfulBEq (Nat × Nat) := inferInstance

/-- The checks of `HandleTurnInPetitionOpcode` before it proceeds. -/
def turnInChecks (s : State) (player petitionGuid : Nat) : Option Petition :=
  if (player, petitionGuid) ∉ s.items then none
  else
    match s.petitions.find? (·.guid = guidLoPart petitionGuid) with
    | none => none
    | some petition =>
      if petition.owner ≠ player then none
      else if s.isMember petition.type player ∨ s.nameTaken petition.type petition.name then none
      else
        let signatures := (s.signers petition.guid).length % 256
        let required :=
          if petition.type = .guild then w.minPetitionSigns else petition.type.value - 1
        if signatures < required then none else some petition

/-- The rest of the packet in the case of an arena team. -/
def readEmblem : Reader Unit := do
  let _background ← ByteBuffer.readInt 4
  let _icon ← ByteBuffer.readInt 4
  let _iconcolor ← ByteBuffer.readInt 4
  let _border ← ByteBuffer.readInt 4
  let _bordercolor ← ByteBuffer.readInt 4

/-- `Create` and the members from the signatures. -/
def found (s : State) (petition : Petition) (player : Nat) (signers : List Nat) : Option State :=
  if s.nameTaken petition.type petition.name ∨
      (petition.type = .guild ∧ s.isMember .guild player) then none
  else
    some ((player :: signers).foldl (State.addMember s.societies.length) (s.create petition player))

def handleTurnInPetition (s : State) (player : Nat) (packet : ByteBuffer) : State :=
  match ByteBuffer.readInt 8 packet with
  | .error _ => s
  | .ok (petitionGuid, rest) =>
    match turnInChecks w s player petitionGuid with
    | none => s
    | some petition =>
      let signers := s.signers petition.guid
      let signatures := signers.length % 256
      let destroyed := s.destroyItem player petitionGuid
      -- an exception of the packet leaves what was done before it
      if petition.type ≠ .guild ∧ (readEmblem rest).toBool = false then destroyed
      else
        match found destroyed petition player (signers.take signatures) with
        | none => destroyed
        | some s => s.deletePetition (guidLoPart petitionGuid)

end

inductive Input where
  | buy (purchase : Purchase)
  | sign (signing : Signing)
  | addMember (society player : Nat)
  | leave (society player : Nat) (undeletable : Bool)
  | turnIn (player : Nat) (packet : ByteBuffer)

def step (w : World) (s : State) : Input → State × Unit
  | .buy purchase => (handlePetitionBuy w s purchase, ())
  | .sign signing => (handlePetitionSign w s signing, ())
  | .addMember society player => (s.addMember society player, ())
  | .leave society player undeletable => (s.leave society player undeletable, ())
  | .turnIn player packet => (handleTurnInPetition w s player packet, ())

end OpenWoW.Petitions
