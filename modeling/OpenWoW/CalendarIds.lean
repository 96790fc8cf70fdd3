import Mathlib.Data.List.Perm.Basic
import OpenWoW.Calendar

/-! The ids of events and invites stay unique as long as no pre-invite names an id that is in use. -/
namespace OpenWoW.Calendar

open List

namespace CalendarMgr

variable {mgr : CalendarMgr}

def liveEventIds (mgr : CalendarMgr) : List Nat := mgr.events.map (·.eventId)

def liveInviteIds (mgr : CalendarMgr) : List Nat := mgr.invites.map (·.inviteId)

/-- Ids are not zero, no two events or invites share one, and none of them is free or free twice. -/
structure Unique (mgr : CalendarMgr) : Prop where
  events_nodup : mgr.liveEventIds.Nodup
  events_pos : ∀ id ∈ mgr.liveEventIds, id ≠ 0
  invites_nodup : mgr.liveInviteIds.Nodup
  invites_pos : ∀ id ∈ mgr.liveInviteIds, id ≠ 0
  freeEventIds_nodup : mgr.eventIds.free.Nodup
  freeEventIds_apart : ∀ id ∈ mgr.eventIds.free, id ∉ mgr.liveEventIds
  freeInviteIds_nodup : mgr.inviteIds.free.Nodup
  freeInviteIds_apart : ∀ id ∈ mgr.inviteIds.free, id ∉ mgr.liveInviteIds

/-- What a run keeps: both pools know the live ids. -/
structure Sound (mgr : CalendarMgr) : Prop where
  events : mgr.eventIds.Sound idLimit mgr.liveEventIds
  invites : mgr.inviteIds.Sound idLimit mgr.liveInviteIds

theorem Sound.unique (sound : mgr.Sound) : mgr.Unique where
  events_nodup := sound.events.live_nodup
  events_pos id there := (sound.events.live_range id there).1.ne'
  invites_nodup := sound.invites.live_nodup
  invites_pos id there := (sound.invites.live_range id there).1.ne'
  freeEventIds_nodup := sound.events.free_nodup
  freeEventIds_apart := sound.events.apart
  freeInviteIds_nodup := sound.invites.free_nodup
  freeInviteIds_apart := sound.invites.apart

def eventsWanted (mgr : CalendarMgr) : Request → Nat
  | .addEvent .. => 1
  | .copyEvent eventId _ => if (mgr.getEvent eventId).isSome then 1 else 0
  | _ => 0

/-- An invite of the named player would be refused before the event is looked at. -/
def isRefused (player invitee : Who) (twoSide ignores : Bool) : Bool :=
  player.team ≠ invitee.team && !twoSide || ignores

def invitesWanted (mgr : CalendarMgr) : Request → Nat
  | .addEvent _ details _ invitees _ =>
    if details.flags &&& flagWithoutInvites ≠ 0 then 0 else invitees.length
  | .copyEvent eventId _ =>
    if (mgr.getEvent eventId).isSome then (mgr.getEventInvites eventId).length else 0
  | .eventInvite player eventId _ (some invitee) twoSide ignores false _ =>
    if isRefused player invitee twoSide ignores then 0
    else if (mgr.getEvent eventId).any fun event =>
        !(event.isGuildEvent && event.guildId = invitee.guildId) then 1 else 0
  | .eventSignup player eventId _ _ =>
    if (mgr.getEvent eventId).any fun event =>
        !(event.isGuildEvent && event.guildId ≠ player.guildId) then 1 else 0
  | _ => 0

def preInviteId : Request → Option Nat
  | .eventInvite player _ inviteId (some invitee) twoSide ignores true isGuildEvent =>
    if isRefused player invitee twoSide ignores ||
        isGuildEvent && invitee.guildId = player.guildId then none
    else some inviteId
  | _ => none

/-- The maxima do not wrap, and a pre-invite names an id that was given out and is neither in use nor
free. -/
structure Careful (mgr : CalendarMgr) (request : Request) : Prop where
  events : mgr.eventIds.HasRoom idLimit (mgr.eventsWanted request)
  invites : mgr.inviteIds.HasRoom idLimit (mgr.invitesWanted request)
  preInvite : ∀ id, preInviteId request = some id → mgr.inviteIds.Lost mgr.liveInviteIds id

instance decidableCareful (mgr : CalendarMgr) (request : Request) : Decidable (mgr.Careful request) :=
  decidable_of_iff (mgr.eventIds.HasRoom idLimit (mgr.eventsWanted request) ∧
      mgr.inviteIds.HasRoom idLimit (mgr.invitesWanted request) ∧
        ∀ id ∈ preInviteId request, mgr.inviteIds.Lost mgr.liveInviteIds id)
    ⟨fun all => ⟨all.1, all.2.1, all.2.2⟩,
      fun careful => ⟨careful.events, careful.invites, careful.preInvite⟩⟩

variable (invite : CalendarInvite) (invites : List CalendarInvite)

theorem insertInvite_perm :
    (insertInvite invite invites).Perm (invite :: invites) := by
  refine perm_middle.trans ?_
  rw [takeWhile_append_dropWhile]

theorem insertInvite_ids :
    ((insertInvite invite invites).map (·.inviteId)).Perm
      (invite.inviteId :: invites.map (·.inviteId)) :=
  (insertInvite_perm invite invites).map _

/-- The invites are sound, so many more can be taken, and the events are as before. -/
structure Invited (before after : CalendarMgr) (count : Nat) : Prop where
  invites : after.inviteIds.Sound idLimit after.liveInviteIds
  room : after.inviteIds.HasRoom idLimit count
  events : after.events = before.events
  eventIds : after.eventIds = before.eventIds

section
variable (sound : mgr.inviteIds.Sound idLimit mgr.liveInviteIds) {count : Nat}
  (room : mgr.inviteIds.HasRoom idLimit (count + 1)) (event : CalendarEvent)
include sound room event

theorem addInvite_invited
    {invite : CalendarInvite} (fresh : invite.inviteId = mgr.getFreeInviteId.1) :
    Invited mgr (mgr.getFreeInviteId.2.addInvite event invite) count := by
  have taken := sound.take room
  have room' := room.take
  unfold addInvite
  split
  · exact ⟨taken.tail, room', rfl, rfl⟩
  refine ⟨taken.perm ?_, room', rfl, rfl⟩
  have perm := insertInvite_ids invite mgr.invites
  rw [fresh] at perm
  exact perm

theorem newInvite_invited
    (guid sender statusTime status rank : Nat) :
    Invited mgr (mgr.newInvite event guid sender statusTime status rank) count :=
  addInvite_invited sound room event rfl

end

theorem foldl_invited {α : Type} {body : CalendarMgr → α → CalendarMgr}
    (one : ∀ (mgr : CalendarMgr) (x : α) (count : Nat),
      mgr.inviteIds.Sound idLimit mgr.liveInviteIds →
        mgr.inviteIds.HasRoom idLimit (count + 1) → Invited mgr (body mgr x) count)
    {xs : List α} (mgr : CalendarMgr) (sound : mgr.inviteIds.Sound idLimit mgr.liveInviteIds)
    (room : mgr.inviteIds.HasRoom idLimit xs.length) : Invited mgr (xs.foldl body mgr) 0 := by
  induction xs generalizing mgr with
  | nil => exact ⟨sound, room, rfl, rfl⟩
  | cons x xs ih =>
    have first := one mgr x xs.length sound room
    have rest := ih (body mgr x) first.invites first.room
    exact ⟨rest.invites, rest.room, rest.events.trans first.events,
      rest.eventIds.trans first.eventIds⟩

theorem Invited.sound {after : CalendarMgr} {count : Nat} (sound : mgr.Sound)
    (invited : Invited mgr after count) : after.Sound where
  events := by
    unfold liveEventIds
    rw [invited.events, invited.eventIds]
    exact sound.events
  invites := invited.invites

theorem addEvent_sound (mgr : CalendarMgr) (event : CalendarEvent)
    (events : mgr.eventIds.Sound idLimit (event.eventId :: mgr.liveEventIds))
    (invites : mgr.inviteIds.Sound idLimit mgr.liveInviteIds) : (mgr.addEvent event).Sound where
  events := by
    refine events.perm ?_
    unfold liveEventIds addEvent
    rw [map_append]
    exact perm_append_singleton _ _
  invites := invites

theorem handleCalendarAddEvent_sound (sound : mgr.Sound) {player : Who} {details : Details}
    {creatorGuild : Option Nat} {invitees : List Invitee} {whole : Bool}
    (careful : mgr.Careful (.addEvent player details creatorGuild invitees whole)) :
    (mgr.handleCalendarAddEvent player details creatorGuild invitees whole).Sound := by
  have events := sound.events.take careful.events
  have room := careful.invites
  unfold invitesWanted at room
  unfold handleCalendarAddEvent
  simp only at room ⊢
  generalize made : (if _ || _ then _ else _ : CalendarEvent) = event
  have id_eq : event.eventId = mgr.getFreeEventId.1 := by
    rw [← made]
    split <;> rfl
  have announces : event.isGuildAnnouncement = decide (details.flags &&& flagWithoutInvites ≠ 0) := by
    rw [← made]
    split <;> rfl
  have live : (mgr.eventIds.take idLimit).2.Sound idLimit (event.eventId :: mgr.liveEventIds) := by
    rw [id_eq]
    exact events
  split
  · rename_i announcement
    unfold addInvite
    rw [if_pos announcement]
    exact addEvent_sound mgr.getFreeEventId.2 _ live sound.invites
  rename_i kept
  rw [announces] at kept
  rw [if_neg (fun some => kept (decide_eq_true some))] at room
  have invited := foldl_invited (fun mgr (invitee : Invitee) count sound room =>
    newInvite_invited sound room event invitee.guid player.guid defaultResponseTime invitee.status
      invitee.rank) mgr.getFreeEventId.2 sound.invites room
  split
  · refine addEvent_sound _ _ ?_ invited.invites
    unfold liveEventIds
    rw [invited.events, invited.eventIds]
    exact live
  · have kept : mgr.getFreeEventId.2.Sound := ⟨events.tail, sound.invites⟩
    exact invited.sound kept

theorem handleCalendarCopyEvent_sound (sound : mgr.Sound) {eventId time : Nat}
    (careful : mgr.Careful (.copyEvent eventId time)) :
    (mgr.handleCalendarCopyEvent eventId time).1.Sound := by
  unfold handleCalendarCopyEvent
  cases found : mgr.getEvent eventId with
  | none => exact sound
  | some oldEvent =>
    have wanted : mgr.eventsWanted (.copyEvent eventId time) = 1 := if_pos (by rw [found]; rfl)
    have wanted' : mgr.invitesWanted (.copyEvent eventId time) =
        (mgr.getEventInvites eventId).length := if_pos (by rw [found]; rfl)
    have events := sound.events.take (wanted ▸ careful.events)
    have room := careful.invites
    rw [wanted'] at room
    have added := addEvent_sound mgr.getFreeEventId.2 { oldEvent with
      eventId := mgr.getFreeEventId.1, eventTime := time } events sound.invites
    refine (foldl_invited ?_ _ added.invites room).sound added
    intro mgr invite count sound room
    exact addInvite_invited sound room _ rfl

theorem freeAll_eq (mgr : CalendarMgr) :
    invites.foldl (fun mgr invite => mgr.freeInviteId invite.inviteId) mgr =
      { mgr with
        inviteIds := (invites.map (·.inviteId)).foldl (IdPool.give idLimit) mgr.inviteIds } := by
  induction invites generalizing mgr with
  | nil => rfl
  | cons invite invites ih => exact ih _

theorem map_eraseP_perm {α β : Type} {p : α → Bool} {f : α → β} {id : β}
    (same : ∀ a, p a = true → f a = id) {l : List α} {a : α} (there : a ∈ l) (holds : p a = true) :
    (id :: (l.eraseP p).map f).Perm (l.map f) := by
  obtain ⟨b, front, back, -, chosen, split, erased⟩ := exists_of_eraseP there holds
  rw [erased, split, map_append, map_append, map_cons, same b chosen]
  exact perm_middle.symm

theorem removeEvent_sound (sound : mgr.Sound) (eventId : Nat) : (mgr.removeEvent eventId).1.Sound := by
  unfold removeEvent
  cases found : mgr.getEvent eventId with
  | none => exact sound
  | some event =>
    simp only [freeAll_eq]
    refine ⟨?_, ?_⟩
    · refine IdPool.Sound.give (sound.events.perm ?_)
      obtain ⟨there, same⟩ := getEvent_some found
      exact map_eraseP_perm (fun event same => of_decide_eq_true same) there (decide_eq_true same)
    · refine IdPool.Sound.giveAll (sound.invites.perm ?_)
      unfold liveInviteIds freeEventId getEventInvites
      simp only [← map_append]
      have split := filter_append_perm (fun invite : CalendarInvite =>
        decide (invite.eventId = eventId)) mgr.invites
      refine List.Perm.map _ (List.Perm.trans ?_ split)
      simp only [ne_eq, decide_not]
      exact List.Perm.refl _

theorem removeInvite_sound (sound : mgr.Sound) (inviteId eventId : Nat) :
    (mgr.removeInvite inviteId eventId).Sound := by
  unfold removeInvite
  split
  · exact sound
  split
  · rename_i there
    obtain ⟨invite, within, same⟩ := any_eq_true.mp there
    obtain ⟨within, event⟩ := mem_filter.mp within
    refine ⟨sound.events, IdPool.Sound.give (sound.invites.perm ?_)⟩
    exact map_eraseP_perm (fun invite same => (of_decide_eq_true same).2) within
      (decide_eq_true ⟨of_decide_eq_true event, of_decide_eq_true same⟩)
  · exact sound

theorem map_modify {α β : Type} (f : α → β) (change : α → α) (kept : ∀ a, f (change a) = f a)
    (i : Nat) (l : List α) : (l.modify i change).map f = l.map f := by
  rcases Nat.lt_or_ge i l.length with inside | outside
  · obtain ⟨front, a, back, split, -, modified⟩ := exists_of_modify change inside
    rw [modified, split, map_append, map_append, map_cons, map_cons, kept]
  · rw [modify_eq_self outside]

variable {change : CalendarInvite → CalendarInvite}

theorem updateInvite_sound (sound : mgr.Sound) (inviteId : Nat)
    (kept : ∀ invite, (change invite).inviteId = invite.inviteId) :
    (mgr.updateInvite inviteId change).Sound := by
  refine ⟨sound.events, ?_⟩
  unfold liveInviteIds updateInvite
  simp only [map_modify _ change kept]
  exact sound.invites

theorem changeInvite_sound (sound : mgr.Sound) (eventId inviteId : Nat)
    (kept : ∀ invite, (change invite).inviteId = invite.inviteId) :
    (mgr.changeInvite eventId inviteId change).1.Sound := by
  unfold changeInvite
  split
  · exact sound
  split
  · exact sound
  · exact updateInvite_sound sound inviteId kept

theorem handleCalendarUpdateEvent_sound (sound : mgr.Sound) (eventId : Nat) (details : Details) :
    (mgr.handleCalendarUpdateEvent eventId details).1.Sound := by
  unfold handleCalendarUpdateEvent
  split
  · exact sound
  refine ⟨?_, sound.invites⟩
  unfold liveEventIds
  rw [map_modify]
  · exact sound.events
  · exact fun event => rfl

theorem handleCalendarEventRsvp_sound (sound : mgr.Sound) (eventId inviteId status now : Nat) :
    (mgr.handleCalendarEventRsvp eventId inviteId status now).1.Sound := by
  unfold handleCalendarEventRsvp
  split
  · exact sound
  split
  · exact sound
  split
  · exact sound
  · exact updateInvite_sound sound inviteId fun _ => rfl

theorem not_and_decide {b : Bool} {p : Prop} [Decidable p] (free : ¬ (b = true ∧ p)) :
    (!(b && decide p)) = true := by
  cases b with
  | false => rfl
  | true => exact congrArg (!·) (decide_eq_false fun holds => free ⟨rfl, holds⟩)

theorem handleCalendarEventSignup_sound (sound : mgr.Sound) {player : Who} {eventId : Nat}
    {tentative : Bool} {now : Nat}
    (careful : mgr.Careful (.eventSignup player eventId tentative now)) :
    (mgr.handleCalendarEventSignup player eventId tentative now).1.Sound := by
  have room := careful.invites
  unfold invitesWanted at room
  unfold handleCalendarEventSignup
  cases found : mgr.getEvent eventId with
  | none => exact sound
  | some event =>
    simp only [found] at room ⊢
    split
    · exact sound
    rename_i free
    rw [Option.any_some, not_and_decide free] at room
    exact (newInvite_invited sound.invites room ..).sound sound

theorem handleCalendarEventInvite_sound (sound : mgr.Sound) {player : Who} {eventId inviteId : Nat}
    {invitee : Option Who} {twoSide ignores isPreInvite isGuildEvent : Bool}
    (careful : mgr.Careful (.eventInvite player eventId inviteId invitee twoSide ignores isPreInvite
      isGuildEvent)) :
    (mgr.handleCalendarEventInvite player eventId inviteId invitee twoSide ignores isPreInvite
      isGuildEvent).1.Sound := by
  unfold handleCalendarEventInvite
  cases invitee with
  | none => exact sound
  | some invitee =>
    simp only
    split
    · exact sound
    rename_i allied
    split
    · exact sound
    rename_i heeds
    have welcome : isRefused player invitee twoSide ignores = false := by
      refine Bool.or_eq_false_iff.mpr ⟨Bool.eq_false_iff.mpr fun both => ?_,
        Bool.eq_false_iff.mpr heeds⟩
      obtain ⟨other, oneSide⟩ := (Bool.and_eq_true ..).mp both
      exact allied ⟨of_decide_eq_true other, oneSide⟩
    cases isPreInvite with
    | false =>
      have room := careful.invites
      unfold invitesWanted at room
      simp only [welcome] at room
      cases found : mgr.getEvent eventId with
      | none => exact sound
      | some event =>
        rw [found, Option.any_some] at room
        simp only [Bool.not_false, ↓reduceIte]
        split
        · exact sound
        rename_i free
        rw [not_and_decide free] at room
        exact (newInvite_invited sound.invites room ..).sound sound
    | true =>
      simp only [Bool.not_true, Bool.false_eq_true, ↓reduceIte]
      split
      · exact sound
      rename_i free
      have lost := careful.preInvite inviteId (by
        have open_ := not_and_decide free
        rw [Bool.not_eq_true'] at open_
        simp only [preInviteId, welcome, open_, Bool.or_self, Bool.false_eq_true, ↓reduceIte])
      exact ⟨sound.events, IdPool.Sound.give (sound.invites.claim lost)⟩

theorem step_sound (sound : mgr.Sound) {request : Request} (careful : mgr.Careful request) :
    (mgr.step request).1.Sound := by
  cases request with
  | addEvent player details creatorGuild invitees whole =>
    exact handleCalendarAddEvent_sound sound careful
  | updateEvent eventId details => exact handleCalendarUpdateEvent_sound sound eventId details
  | removeEvent eventId => exact removeEvent_sound sound eventId
  | copyEvent eventId time => exact handleCalendarCopyEvent_sound sound careful
  | eventInvite player eventId inviteId invitee twoSide ignores isPreInvite isGuildEvent =>
    exact handleCalendarEventInvite_sound sound careful
  | eventSignup player eventId tentative now =>
    exact handleCalendarEventSignup_sound sound careful
  | eventRsvp eventId inviteId status now =>
    exact handleCalendarEventRsvp_sound sound eventId inviteId status now
  | eventRemoveInvite invitee eventId inviteId =>
    unfold step handleCalendarEventRemoveInvite
    simp only
    split
    · exact sound
    split
    · exact sound
    · exact removeInvite_sound sound inviteId eventId
  | eventStatus eventId inviteId status =>
    exact changeInvite_sound sound eventId inviteId fun _ => rfl
  | eventModeratorStatus eventId inviteId rank =>
    exact changeInvite_sound sound eventId inviteId fun _ => rfl

section
variable {events : List CalendarEvent} {invites : List CalendarInvite}
  (distinct : (events.map (·.eventId)).Nodup)
  (range : ∀ event ∈ events, 0 < event.eventId ∧ event.eventId < idLimit)
  (distinct' : (invites.map (·.inviteId)).Nodup)
  (range' : ∀ invite ∈ invites, 0 < invite.inviteId ∧ invite.inviteId < idLimit)
include distinct range distinct' range'

theorem loadFromDB_sound :
    (loadFromDB events invites).Sound := by
  refine ⟨IdPool.load_sound (by decide) distinct (by simpa using range), ?_⟩
  have perm : ∀ (rows kept : List CalendarInvite),
      ((rows.foldl (fun invites invite => insertInvite invite invites) kept).map (·.inviteId)).Perm
        (rows.map (·.inviteId) ++ kept.map (·.inviteId)) := by
    intro rows
    induction rows with
    | nil => exact fun kept => List.Perm.refl _
    | cons row rows ih =>
      intro kept
      refine (ih (insertInvite row kept)).trans ?_
      exact ((insertInvite_ids row kept).append_left _).trans perm_middle
  exact (IdPool.load_sound (by decide) distinct' (by simpa using range')).perm
    ((perm invites []).trans (by rw [map_nil, append_nil]))

/-- Ids stay unique over every run whose pre-invites name only ids that were given out and are neither in
use nor free. -/
theorem unique_of_careful
    (requests : List Request)
    (careful : ∀ t ∈ Run.trace step (loadFromDB events invites) requests, t.before.Careful t.input) :
    (Run.final step (loadFromDB events invites) requests).Unique ∧
      ∀ t ∈ Run.trace step (loadFromDB events invites) requests, t.before.Unique := by
  have start := loadFromDB_sound distinct range distinct' range'
  have keep : ∀ (mgr : CalendarMgr) request, mgr.Sound → mgr.Careful request → (mgr.step request).1.Sound :=
    fun mgr request sound careful => step_sound sound careful
  constructor
  · exact Sound.unique (Run.history step Careful (fun _ mgr => mgr.Sound)
      (fun _ mgr request => keep mgr request) [] _ requests start careful)
  · exact fun t there => Sound.unique
      (Run.invariant step Careful Sound keep _ start careful t there)

end

/-- A raid with two invites, which one more player signs up for. -/
theorem unique_of_careful_signup :
    let raid : CalendarEvent := ⟨1, 7, 0, 0, 0, 0, 0, 0, [], []⟩
    let first : CalendarInvite := ⟨1, 1, 7, 7, 0, 0, 2, []⟩
    let second : CalendarInvite := ⟨2, 1, 8, 7, 0, 0, 0, []⟩
    (Run.final step (loadFromDB [raid] [first, second]) [.eventSignup ⟨9, 0, 0⟩ 1 false 5]).Unique := by
  intro raid first second
  exact (unique_of_careful (by decide) (by decide) (by decide) (by decide)
    [.eventSignup ⟨9, 0, 0⟩ 1 false 5] (by decide)).1

/-- A pre-invite that names the first invite frees its id, and the next player who signs up gets it. -/
theorem unique_fails : ¬ ∀ (events : List CalendarEvent) (invites : List CalendarInvite)
    (requests : List Request), (events.map (·.eventId)).Nodup →
      (∀ event ∈ events, 0 < event.eventId ∧ event.eventId < idLimit) →
      (invites.map (·.inviteId)).Nodup →
      (∀ invite ∈ invites, 0 < invite.inviteId ∧ invite.inviteId < idLimit) →
        (Run.final step (loadFromDB events invites) requests).Unique := by
  intro all
  have unique := all [⟨1, 7, 0, 0, 0, 0, 0, 0, [], []⟩]
    [⟨1, 1, 7, 7, 0, 0, 2, []⟩, ⟨2, 1, 8, 7, 0, 0, 0, []⟩]
    [.eventInvite ⟨9, 0, 0⟩ 0 1 (some ⟨8, 0, 0⟩) false false true false, .eventSignup ⟨9, 0, 0⟩ 1 false 5]
    (by decide) (by decide) (by decide) (by decide)
  exact absurd unique.invites_nodup (by decide)

end CalendarMgr

end OpenWoW.Calendar
