import OpenWoW.ByteBuffer
import OpenWoW.Lib.IdPool
import OpenWoW.Lib.Run

/-! The calendar: events, their invites, and the requests of the clients. -/
namespace OpenWoW.Calendar

def flagInvitesLocked : Nat := 0x010
def flagWithoutInvites : Nat := 0x040
def flagGuildEvent : Nat := 0x400

def rankPlayer : Nat := 0

def statusInvited : Nat := 0
def statusSignedUp : Nat := 6
def statusNotSignedUp : Nat := 7
def statusTentative : Nat := 8
def statusRemoved : Nat := 9

def defaultResponseTime : Nat := 946684800

inductive CalendarError where
  | eventInvalid | guildPlayerNotInGuild | playerNotFound | notAllied | ignoringYou | eventLocked
  | deleteCreatorFailed | noInvite | noGuildInvites
  deriving DecidableEq, Repr

structure CalendarInvite where
  inviteId : Nat
  eventId : Nat
  invitee : Nat
  senderGUID : Nat
  statusTime : Nat
  status : Nat
  rank : Nat
  text : Bytes
  deriving DecidableEq, Repr

structure CalendarEvent where
  eventId : Nat
  creatorGUID : Nat
  guildId : Nat
  type : Nat
  dungeonId : Int
  eventTime : Nat
  flags : Nat
  timezoneTime : Nat
  title : Bytes
  description : Bytes
  deriving DecidableEq, Repr

namespace CalendarEvent

def isGuildEvent (event : CalendarEvent) : Bool := event.flags &&& flagGuildEvent ≠ 0

def isGuildAnnouncement (event : CalendarEvent) : Bool := event.flags &&& flagWithoutInvites ≠ 0

def isLocked (event : CalendarEvent) : Bool := event.flags &&& flagInvitesLocked ≠ 0

end CalendarEvent

/-- The number of ids. -/
def idLimit : Nat := 2 ^ 64

structure CalendarMgr where
  events : List CalendarEvent
  /-- The invites of all events, in the order of the map: by event, and of one event by age. -/
  invites : List CalendarInvite
  eventIds : IdPool
  inviteIds : IdPool

namespace CalendarMgr

variable (mgr : CalendarMgr)

def getEvent (eventId : Nat) : Option CalendarEvent := mgr.events.find? (·.eventId = eventId)

theorem getEvent_some {mgr : CalendarMgr} {eventId : Nat} {event : CalendarEvent}
    (found : mgr.getEvent eventId = some event) :
    event ∈ mgr.events ∧ event.eventId = eventId :=
  ⟨List.mem_of_find?_eq_some found,
    of_decide_eq_true (@List.find?_some _ (fun event : CalendarEvent => event.eventId = eventId) _ _ found)⟩

def getInvite (inviteId : Nat) : Option CalendarInvite := mgr.invites.find? (·.inviteId = inviteId)

def getEventInvites (eventId : Nat) : List CalendarInvite := mgr.invites.filter (·.eventId = eventId)

def getFreeEventId : Nat × CalendarMgr :=
  ((mgr.eventIds.take idLimit).1, { mgr with eventIds := (mgr.eventIds.take idLimit).2 })

def freeEventId (id : Nat) : CalendarMgr := { mgr with eventIds := mgr.eventIds.give idLimit id }

def getFreeInviteId : Nat × CalendarMgr :=
  ((mgr.inviteIds.take idLimit).1, { mgr with inviteIds := (mgr.inviteIds.take idLimit).2 })

/-- Called by the destructor of an invite. -/
def freeInviteId (id : Nat) : CalendarMgr := { mgr with inviteIds := mgr.inviteIds.give idLimit id }

/-- Behind the invites of its event. -/
def insertInvite (invite : CalendarInvite) (invites : List CalendarInvite) : List CalendarInvite :=
  invites.takeWhile (·.eventId ≤ invite.eventId) ++
    invite :: invites.dropWhile (·.eventId ≤ invite.eventId)

/-- The rows of `calendar_events` and `calendar_invites`. -/
def loadFromDB (events : List CalendarEvent) (invites : List CalendarInvite) : CalendarMgr where
  events := events
  invites := invites.foldl (fun invites invite => insertInvite invite invites) []
  eventIds := IdPool.load (events.map (·.eventId))
  inviteIds := IdPool.load (invites.map (·.inviteId))

def addEvent (event : CalendarEvent) : CalendarMgr := { mgr with events := mgr.events ++ [event] }

/-- The invites of an announcement are sent, but not kept. -/
def addInvite (event : CalendarEvent) (invite : CalendarInvite) : CalendarMgr :=
  if event.isGuildAnnouncement then mgr
  else { mgr with invites := insertInvite invite mgr.invites }

def removeEvent (eventId : Nat) : CalendarMgr × Option CalendarError :=
  match mgr.getEvent eventId with
  | none => (mgr, some .eventInvalid)
  | some _ =>
    let freed := (mgr.getEventInvites eventId).foldl
      (fun mgr invite => mgr.freeInviteId invite.inviteId) mgr
    let freed := { freed with invites := freed.invites.filter (·.eventId ≠ eventId) }.freeEventId eventId
    ({ freed with events := freed.events.eraseP (·.eventId = eventId) }, none)

def removeInvite (inviteId eventId : Nat) : CalendarMgr :=
  if (mgr.getEvent eventId).isNone then mgr
  else if (mgr.getEventInvites eventId).any (·.inviteId = inviteId) then
    { mgr.freeInviteId inviteId with
      invites := mgr.invites.eraseP fun invite => invite.eventId = eventId ∧ invite.inviteId = inviteId }
  else mgr

/-- A change of the invite that `GetInvite` finds. -/
def updateInvite (inviteId : Nat) (change : CalendarInvite → CalendarInvite) : CalendarMgr :=
  { mgr with invites := mgr.invites.modify (mgr.invites.findIdx (·.inviteId = inviteId)) change }

/-- What the handlers use of a player. -/
structure Who where
  guid : Nat
  team : Nat
  guildId : Nat
  deriving DecidableEq, Repr

/-- What an update or a new event says about an event. -/
structure Details where
  type : Nat
  dungeonId : Int
  eventTime : Nat
  flags : Nat
  timezoneTime : Nat
  title : Bytes
  description : Bytes
  deriving DecidableEq, Repr

/-- An invitee of a new event. -/
structure Invitee where
  guid : Nat
  status : Nat
  rank : Nat
  deriving DecidableEq, Repr

def newInvite (event : CalendarEvent) (guid sender statusTime status rank : Nat) : CalendarMgr :=
  let (inviteId, mgr) := mgr.getFreeInviteId
  mgr.addInvite event ⟨inviteId, event.eventId, guid, sender, statusTime, status, rank, []⟩

/-- `creatorGuild` is the guild of the creator, if the creator is in the world. Where the list of invitees
is cut short, reading it throws, and the event is never added. -/
def handleCalendarAddEvent (player : Who) (details : Details) (creatorGuild : Option Nat)
    (invitees : List Invitee) (whole : Bool) : CalendarMgr :=
  let (eventId, mgr) := mgr.getFreeEventId
  let event : CalendarEvent := ⟨eventId, player.guid, 0, details.type, details.dungeonId,
    details.eventTime, details.flags, details.timezoneTime, details.title, details.description⟩
  let event := if event.isGuildEvent || event.isGuildAnnouncement then
      { event with guildId := creatorGuild.getD 0 } else event
  if event.isGuildAnnouncement then
    (mgr.addInvite event ⟨0, eventId, 0, player.guid, defaultResponseTime, statusNotSignedUp, rankPlayer,
      []⟩).addEvent event
  else
    let mgr := invitees.foldl (fun mgr invitee => mgr.newInvite event invitee.guid player.guid
      defaultResponseTime invitee.status invitee.rank) mgr
    if whole then mgr.addEvent event else mgr

def handleCalendarUpdateEvent (eventId : Nat) (details : Details) : CalendarMgr × Option CalendarError :=
  if (mgr.getEvent eventId).isNone then (mgr, some .eventInvalid)
  else
    ({ mgr with
      events := mgr.events.modify (mgr.events.findIdx (·.eventId = eventId)) fun event =>
        { event with
          type := details.type
          flags := details.flags
          eventTime := details.eventTime
          timezoneTime := details.timezoneTime
          dungeonId := details.dungeonId
          title := details.title
          description := details.description } }, none)

/-- Every invite of the old event, under a new id. -/
def handleCalendarCopyEvent (eventId time : Nat) : CalendarMgr × Option CalendarError :=
  match mgr.getEvent eventId with
  | none => (mgr, some .eventInvalid)
  | some oldEvent =>
    let (newId, mgr) := mgr.getFreeEventId
    let newEvent := { oldEvent with eventId := newId, eventTime := time }
    let mgr := mgr.addEvent newEvent
    ((mgr.getEventInvites eventId).foldl (fun mgr invite =>
      let (inviteId, mgr) := mgr.getFreeInviteId
      mgr.addInvite newEvent { invite with inviteId := inviteId, eventId := newId }) mgr, none)

/-- `invitee` is the named player, `ignores` whether that player ignores the sender. A pre-invite is a
temporary, whose destructor frees the id that the client sent. -/
def handleCalendarEventInvite (player : Who) (eventId inviteId : Nat) (invitee : Option Who)
    (twoSide ignores isPreInvite isGuildEvent : Bool) : CalendarMgr × Option CalendarError :=
  match invitee with
  | none => (mgr, some .playerNotFound)
  | some invitee =>
    if player.team ≠ invitee.team ∧ !twoSide then (mgr, some .notAllied)
    else if ignores then (mgr, some .ignoringYou)
    else if !isPreInvite then
      match mgr.getEvent eventId with
      | none => (mgr, some .eventInvalid)
      | some event =>
        if event.isGuildEvent ∧ event.guildId = invitee.guildId then (mgr, some .noGuildInvites)
        else (mgr.newInvite event invitee.guid player.guid defaultResponseTime statusInvited rankPlayer,
          none)
    else if isGuildEvent ∧ invitee.guildId = player.guildId then (mgr, some .noGuildInvites)
    else (mgr.freeInviteId inviteId, none)

def handleCalendarEventSignup (player : Who) (eventId : Nat) (tentative : Bool) (now : Nat) :
    CalendarMgr × Option CalendarError :=
  match mgr.getEvent eventId with
  | none => (mgr, some .eventInvalid)
  | some event =>
    if event.isGuildEvent ∧ event.guildId ≠ player.guildId then (mgr, some .guildPlayerNotInGuild)
    else (mgr.newInvite event player.guid player.guid now
      (if tentative then statusTentative else statusSignedUp) rankPlayer, none)

def handleCalendarEventRsvp (eventId inviteId status now : Nat) : CalendarMgr × Option CalendarError :=
  match mgr.getEvent eventId with
  | none => (mgr, some .eventInvalid)
  | some event =>
    if status ≠ statusRemoved ∧ event.isLocked then (mgr, some .eventLocked)
    else if (mgr.getInvite inviteId).isNone then (mgr, some .noInvite)
    else (mgr.updateInvite inviteId fun invite => { invite with status := status, statusTime := now },
      none)

def handleCalendarEventRemoveInvite (invitee eventId inviteId : Nat) : CalendarMgr × Option CalendarError :=
  match mgr.getEvent eventId with
  | none => (mgr, some .noInvite)
  | some event =>
    if event.creatorGUID = invitee then (mgr, some .deleteCreatorFailed)
    else (mgr.removeInvite inviteId eventId, none)

/-- The two handlers of a moderator, which change the status or the rank of an invite. -/
def changeInvite (eventId inviteId : Nat) (change : CalendarInvite → CalendarInvite) :
    CalendarMgr × Option CalendarError :=
  if (mgr.getEvent eventId).isNone then (mgr, some .eventInvalid)
  else if (mgr.getInvite inviteId).isNone then (mgr, some .noInvite)
  else (mgr.updateInvite inviteId change, none)

def handleCalendarEventStatus (eventId inviteId status : Nat) : CalendarMgr × Option CalendarError :=
  mgr.changeInvite eventId inviteId fun invite => { invite with status := status }

def handleCalendarEventModeratorStatus (eventId inviteId rank : Nat) :
    CalendarMgr × Option CalendarError :=
  mgr.changeInvite eventId inviteId fun invite => { invite with rank := rank }

inductive Request where
  | addEvent (player : Who) (details : Details) (creatorGuild : Option Nat) (invitees : List Invitee)
      (whole : Bool)
  | updateEvent (eventId : Nat) (details : Details)
  | removeEvent (eventId : Nat)
  | copyEvent (eventId time : Nat)
  | eventInvite (player : Who) (eventId inviteId : Nat) (invitee : Option Who)
      (twoSide ignores isPreInvite isGuildEvent : Bool)
  | eventSignup (player : Who) (eventId : Nat) (tentative : Bool) (now : Nat)
  | eventRsvp (eventId inviteId status now : Nat)
  | eventRemoveInvite (invitee eventId inviteId : Nat)
  | eventStatus (eventId inviteId status : Nat)
  | eventModeratorStatus (eventId inviteId rank : Nat)

def step (mgr : CalendarMgr) : Request → CalendarMgr × Option CalendarError
  | .addEvent player details creatorGuild invitees whole =>
    (mgr.handleCalendarAddEvent player details creatorGuild invitees whole, none)
  | .updateEvent eventId details => mgr.handleCalendarUpdateEvent eventId details
  | .removeEvent eventId => mgr.removeEvent eventId
  | .copyEvent eventId time => mgr.handleCalendarCopyEvent eventId time
  | .eventInvite player eventId inviteId invitee twoSide ignores isPreInvite isGuildEvent =>
    mgr.handleCalendarEventInvite player eventId inviteId invitee twoSide ignores isPreInvite isGuildEvent
  | .eventSignup player eventId tentative now => mgr.handleCalendarEventSignup player eventId tentative now
  | .eventRsvp eventId inviteId status now => mgr.handleCalendarEventRsvp eventId inviteId status now
  | .eventRemoveInvite invitee eventId inviteId =>
    mgr.handleCalendarEventRemoveInvite invitee eventId inviteId
  | .eventStatus eventId inviteId status => mgr.handleCalendarEventStatus eventId inviteId status
  | .eventModeratorStatus eventId inviteId rank =>
    mgr.handleCalendarEventModeratorStatus eventId inviteId rank

end CalendarMgr

end OpenWoW.Calendar
