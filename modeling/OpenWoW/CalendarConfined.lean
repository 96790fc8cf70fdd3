import OpenWoW.Calendar

/-! Which invites a request can touch. -/
namespace OpenWoW.Calendar

open List

def CalendarInvite.visible (invite : CalendarInvite) : CalendarInvite := { invite with statusTime := 0 }

namespace CalendarMgr

variable (mgr : CalendarMgr)

/-- The invites of an event, as the claims of its guests see them. -/
def visibleInvites (eventId : Nat) : List CalendarInvite :=
  (mgr.getEventInvites eventId).map CalendarInvite.visible

def namedEvent : Request → Option Nat
  | .eventSignup _ eventId _ _ => some eventId
  | .eventRsvp eventId _ _ _ => some eventId
  | .eventRemoveInvite _ eventId _ => some eventId
  | .eventStatus eventId _ _ => some eventId
  | .eventModeratorStatus eventId _ _ => some eventId
  | _ => none

/-- Only invites of the event are different. -/
def Confined (after : CalendarMgr) (eventId : Nat) : Prop :=
  ∀ other, other ≠ eventId → after.visibleInvites other = mgr.visibleInvites other

/-- An answer other than a removal leaves the invites of locked events alone. -/
def KeepsLocked (after : CalendarMgr) : Request → Prop
  | .eventRsvp _ _ status _ => status ≠ statusRemoved → ∀ event ∈ mgr.events, event.isLocked = true →
      after.visibleInvites event.eventId = mgr.visibleInvites event.eventId
  | _ => True

/-- The invite that a handler finds is one of the event and of no locked one, or is as it should be
already. -/
def FindsOwn : Request → Prop
  | .eventRsvp eventId inviteId status _ => ∀ event, mgr.getEvent eventId = some event →
      (status = statusRemoved ∨ event.isLocked = false) →
        ∀ invite, mgr.getInvite inviteId = some invite → invite.status = status ∨
          invite.eventId = eventId ∧ (status = statusRemoved ∨
            ∀ other ∈ mgr.events, other.eventId = eventId → other.isLocked = false)
  | .eventStatus eventId inviteId status => (mgr.getEvent eventId).isSome →
      ∀ invite, mgr.getInvite inviteId = some invite → invite.status = status ∨ invite.eventId = eventId
  | .eventModeratorStatus eventId inviteId rank => (mgr.getEvent eventId).isSome →
      ∀ invite, mgr.getInvite inviteId = some invite → invite.rank = rank ∨ invite.eventId = eventId
  | _ => True

variable {mgr}

theorem confined_refl (eventId : Nat) : mgr.Confined mgr eventId := fun _ _ => rfl

theorem keepsLocked_refl (request : Request) : mgr.KeepsLocked mgr request := by
  cases request with
  | eventRsvp eventId inviteId status now => exact fun _ _ _ _ => rfl
  | _ => trivial

theorem modify_findIdx {α : Type} {p : α → Bool} {a : α} {l : List α} (found : l.find? p = some a)
    (change : α → α) :
    ∃ front back, l = front ++ a :: back ∧ l.modify (l.findIdx p) change = front ++ change a :: back := by
  induction l with
  | nil => cases found
  | cons b l ih =>
    rw [find?_cons] at found
    rw [findIdx_cons]
    cases first : p b with
    | true =>
      rw [first] at found
      cases found
      exact ⟨[], l, rfl, rfl⟩
    | false =>
      rw [first] at found
      obtain ⟨front, back, split, modified⟩ := ih found
      refine ⟨b :: front, back, by rw [split, cons_append], ?_⟩
      exact (modify_succ_cons ..).trans (congrArg (b :: ·) modified)

variable {inviteId : Nat} {invite : CalendarInvite}

section
variable (found : mgr.getInvite inviteId = some invite) (change : CalendarInvite → CalendarInvite)
  (kept : ∀ invite, (change invite).eventId = invite.eventId)
include found change kept

theorem updateInvite_visible (other : Nat) :
    (mgr.updateInvite inviteId change).visibleInvites other = mgr.visibleInvites other ↔
      invite.eventId ≠ other ∨ (change invite).visible = invite.visible := by
  obtain ⟨front, back, before, after⟩ := modify_findIdx found change
  unfold visibleInvites getEventInvites updateInvite
  simp only [after]
  rw [before, filter_append, filter_append, map_append, map_append, append_cancel_left_eq]
  by_cases own : invite.eventId = other
  · rw [filter_cons, filter_cons, if_pos (decide_eq_true ((kept invite).trans own)),
      if_pos (decide_eq_true own), map_cons, map_cons, List.cons.injEq]
    exact ⟨fun same => .inr same.1, fun same => ⟨same.resolve_left (not_not.mpr own), rfl⟩⟩
  have no : ¬ decide (invite.eventId = other) = true := fun same => own (of_decide_eq_true same)
  rw [filter_cons, filter_cons, kept, if_neg no, if_neg no]
  exact iff_of_true rfl (.inl own)

theorem updateInvite_confined (eventId : Nat) :
    mgr.Confined (mgr.updateInvite inviteId change) eventId ↔
      (change invite).visible = invite.visible ∨ invite.eventId = eventId := by
  unfold Confined
  simp only [updateInvite_visible found change kept]
  constructor
  · intro all
    by_cases own : invite.eventId = eventId
    · exact .inr own
    · exact .inl ((all invite.eventId own).resolve_left (not_not.mpr rfl))
  · rintro (same | rfl) other different
    · exact .inr same
    · exact .inl different.symm

theorem updateInvite_keepsLocked :
    (∀ event ∈ mgr.events, event.isLocked = true →
        (mgr.updateInvite inviteId change).visibleInvites event.eventId =
          mgr.visibleInvites event.eventId) ↔
      (change invite).visible = invite.visible ∨
        ∀ other ∈ mgr.events, other.eventId = invite.eventId → other.isLocked = false := by
  simp only [updateInvite_visible found change kept]
  constructor
  · intro all
    by_cases same : (change invite).visible = invite.visible
    · exact .inl same
    · refine .inr fun other there own => Bool.eq_false_iff.mpr fun locked => ?_
      exact (all other there locked).elim (fun different => different own.symm) same
  · rintro (same | none) event there locked
    · exact .inr same
    · refine .inl fun own => ?_
      exact absurd ((none event there own.symm).symm.trans locked) Bool.false_ne_true

end

theorem visible_status {invite : CalendarInvite} {status now : Nat} :
    CalendarInvite.visible { invite with status := status, statusTime := now } = invite.visible ↔
      invite.status = status := by
  unfold CalendarInvite.visible
  cases invite
  simp only [CalendarInvite.mk.injEq, true_and, and_true]
  exact eq_comm

theorem visible_rank {rank : Nat} :
    CalendarInvite.visible { invite with rank := rank } = invite.visible ↔ invite.rank = rank := by
  unfold CalendarInvite.visible
  cases invite
  simp only [CalendarInvite.mk.injEq, true_and, and_true]
  exact eq_comm

theorem addInvite_confined (event : CalendarEvent) (invite : CalendarInvite) :
    mgr.Confined (mgr.addInvite event invite) invite.eventId := by
  intro other different
  unfold addInvite
  split
  · rfl
  have no : ¬ decide (invite.eventId = other) = true :=
    fun same => different (of_decide_eq_true same).symm
  unfold visibleInvites getEventInvites insertInvite
  rw [filter_append, filter_cons, if_neg no, ← filter_append, takeWhile_append_dropWhile]

theorem newInvite_confined (event : CalendarEvent) (guid sender statusTime status rank : Nat) :
    mgr.Confined (mgr.newInvite event guid sender statusTime status rank) event.eventId :=
  @addInvite_confined mgr.getFreeInviteId.2 event
    ⟨mgr.getFreeInviteId.1, event.eventId, guid, sender, statusTime, status, rank, []⟩

theorem removeInvite_confined (inviteId eventId : Nat) :
    mgr.Confined (mgr.removeInvite inviteId eventId) eventId := by
  intro other different
  unfold removeInvite
  split
  · rfl
  split
  · unfold visibleInvites getEventInvites
    rcases exists_or_eq_self_of_eraseP (fun invite : CalendarInvite =>
        decide (invite.eventId = eventId ∧ invite.inviteId = inviteId)) mgr.invites with
      same | ⟨invite, front, back, -, chosen, split, erased⟩
    · rw [same]
    have no : ¬ decide (invite.eventId = other) = true := fun same =>
      different ((of_decide_eq_true same).symm.trans (of_decide_eq_true chosen).1)
    rw [erased, split, filter_append, filter_append, filter_cons, if_neg no]
  · rfl

theorem changeInvite_confined {eventId : Nat} (change : CalendarInvite → CalendarInvite)
    (kept : ∀ invite, (change invite).eventId = invite.eventId) :
    mgr.Confined (mgr.changeInvite eventId inviteId change).1 eventId ↔
      ((mgr.getEvent eventId).isSome → ∀ invite, mgr.getInvite inviteId = some invite →
        (change invite).visible = invite.visible ∨ invite.eventId = eventId) := by
  unfold changeInvite
  cases event : mgr.getEvent eventId with
  | none => exact iff_of_true (confined_refl eventId) fun some => absurd some Bool.false_ne_true
  | some event =>
    cases found : mgr.getInvite inviteId with
    | none => exact iff_of_true (confined_refl eventId) fun _ _ absent => nomatch absent
    | some invite =>
      refine (updateInvite_confined found change kept eventId).trans ⟨?_, ?_⟩
      · rintro own - other same
        rwa [← Option.some.inj same]
      · exact fun all => all rfl invite rfl

theorem rsvp_confined {eventId status now : Nat} :
    mgr.Confined (mgr.handleCalendarEventRsvp eventId inviteId status now).1 eventId ∧
        mgr.KeepsLocked (mgr.handleCalendarEventRsvp eventId inviteId status now).1
          (.eventRsvp eventId inviteId status now) ↔
      mgr.FindsOwn (.eventRsvp eventId inviteId status now) := by
  unfold handleCalendarEventRsvp
  simp only [FindsOwn]
  cases named : mgr.getEvent eventId with
  | none => exact iff_of_true ⟨confined_refl eventId, keepsLocked_refl _⟩ fun _ absent => nomatch absent
  | some event =>
    simp only [Option.some.injEq, forall_eq']
    split
    · rename_i refused
      refine iff_of_true ⟨confined_refl eventId, keepsLocked_refl _⟩ fun free => ?_
      rcases free with removal | unlocked
      · exact absurd removal refused.1
      · exact absurd (unlocked.symm.trans refused.2) Bool.false_ne_true
    · rename_i passes
      have free : status = statusRemoved ∨ event.isLocked = false := by
        by_cases removal : status = statusRemoved
        · exact .inl removal
        · exact .inr (Bool.eq_false_iff.mpr fun locked => passes ⟨removal, locked⟩)
      cases found : mgr.getInvite inviteId with
      | none =>
        exact iff_of_true ⟨confined_refl eventId, keepsLocked_refl _⟩
          fun _ _ absent => nomatch absent
      | some invite =>
        have confined := updateInvite_confined found (fun invite =>
          { invite with status := status, statusTime := now }) (fun _ => rfl) eventId
        have keeps := updateInvite_keepsLocked found (fun invite =>
          { invite with status := status, statusTime := now }) (fun _ => rfl)
        rw [visible_status] at confined keeps
        simp only [Option.isNone_some, Bool.false_eq_true, ↓reduceIte, Option.some.injEq,
          forall_eq', free, true_implies, KeepsLocked, confined, keeps]
        by_cases same : invite.status = status
        · exact iff_of_true ⟨.inl same, fun _ => .inl same⟩ (.inl same)
        constructor
        · rintro ⟨own, locked⟩
          have own := own.resolve_left same
          refine .inr ⟨own, ?_⟩
          by_cases removal : status = statusRemoved
          · exact .inl removal
          · rw [← own]
            exact .inr ((locked removal).resolve_left same)
        · intro either
          obtain ⟨own, locked⟩ := either.resolve_left same
          refine ⟨.inr own, fun removal => .inr ?_⟩
          rw [own]
          exact locked.resolve_left removal

theorem signup_confined (player : Who) (eventId : Nat) (tentative : Bool) (now : Nat) :
    mgr.Confined (mgr.handleCalendarEventSignup player eventId tentative now).1 eventId := by
  unfold handleCalendarEventSignup
  cases found : mgr.getEvent eventId with
  | none => exact confined_refl eventId
  | some event =>
    simp only
    split
    · exact confined_refl eventId
    · rw [← (getEvent_some found).2]
      exact newInvite_confined event player.guid player.guid now _ rankPlayer

theorem removal_confined (invitee eventId inviteId : Nat) :
    mgr.Confined (mgr.handleCalendarEventRemoveInvite invitee eventId inviteId).1 eventId := by
  unfold handleCalendarEventRemoveInvite
  split
  · exact confined_refl eventId
  split
  · exact confined_refl eventId
  · exact removeInvite_confined inviteId eventId

/-- A request about one event touches only its invites, and no answer touches those of a locked event,
exactly when the invite that it names is one of that event and of no locked one, or looks the same
afterwards. -/
theorem confined_iff (mgr : CalendarMgr) {request : Request} {eventId : Nat}
    (named : namedEvent request = some eventId) :
    mgr.Confined (mgr.step request).1 eventId ∧ mgr.KeepsLocked (mgr.step request).1 request ↔
      mgr.FindsOwn request := by
  cases request with
  | eventSignup player event tentative now =>
    cases named
    exact iff_of_true ⟨signup_confined player eventId tentative now, trivial⟩ trivial
  | eventRsvp event inviteId status now =>
    cases named
    exact rsvp_confined
  | eventRemoveInvite invitee event inviteId =>
    cases named
    exact iff_of_true ⟨removal_confined invitee eventId inviteId, trivial⟩ trivial
  | eventStatus event inviteId status =>
    cases named
    refine (and_iff_left trivial).trans ((changeInvite_confined
      (fun invite => { invite with status := status }) fun _ => rfl).trans ?_)
    exact forall_congr' fun _ => forall_congr' fun invite => forall_congr' fun _ =>
      or_congr (@visible_status invite status invite.statusTime) Iff.rfl
  | eventModeratorStatus event inviteId rank =>
    cases named
    refine (and_iff_left trivial).trans ((changeInvite_confined
      (fun invite => { invite with rank := rank }) fun _ => rfl).trans ?_)
    exact forall_congr' fun _ => forall_congr' fun invite => forall_congr' fun _ =>
      or_congr visible_rank Iff.rfl
  | addEvent => cases named
  | updateEvent => cases named
  | removeEvent => cases named
  | copyEvent => cases named
  | eventInvite => cases named

/-- A guest answers an invite of the event that the answer names. -/
theorem confined_iff_own :
    let raid : CalendarEvent := ⟨1, 7, 0, 0, 0, 0, 0, 0, [], []⟩
    let mgr := loadFromDB [raid] [⟨1, 1, 8, 7, 0, statusInvited, rankPlayer, []⟩]
    mgr.Confined (mgr.step (.eventRsvp 1 1 6 5)).1 1 ∧
      mgr.KeepsLocked (mgr.step (.eventRsvp 1 1 6 5)).1 (.eventRsvp 1 1 6 5) := by
  intro raid mgr
  refine (confined_iff mgr rfl).mpr ?_
  rintro event - - invite found
  refine .inr ⟨?_, .inr (by decide)⟩
  cases found
  rfl

/-- An answer that names an open event changes an invite of a locked one. -/
theorem confined_fails : ¬ ∀ (mgr : CalendarMgr) (request : Request) (eventId : Nat),
    namedEvent request = some eventId →
      mgr.Confined (mgr.step request).1 eventId ∧ mgr.KeepsLocked (mgr.step request).1 request := by
  intro all
  let mgr := loadFromDB [⟨1, 7, 0, 0, 0, 0, 0, 0, [], []⟩, ⟨2, 7, 0, 0, 0, 0, flagInvitesLocked, 0, [], []⟩]
    [⟨1, 2, 8, 7, 0, statusInvited, rankPlayer, []⟩]
  have confined := (all mgr (.eventRsvp 1 1 6 5) 1 rfl).1 2 (by decide)
  exact absurd confined (by decide)

end CalendarMgr

end OpenWoW.Calendar
