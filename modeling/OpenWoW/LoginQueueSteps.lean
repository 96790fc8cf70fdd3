import OpenWoW.LoginQueueRuns

/-! What an arrival and a departure do to the login queue, and which arrivals jump it. -/
namespace OpenWoW.LoginQueue

open List Function

namespace World

variable {playerLimit tolerance : Nat} {w : World}

/-- The account was lost some time, and the tolerance is not switched off. -/
def Recorded (tolerance : Nat) (w : World) (account : Nat) : Prop :=
  tolerance ≠ 0 ∧ ∃ time, (account, time) ∈ w.disconnects

def Recent (tolerance : Nat) (w : World) (account : Nat) : Prop :=
  ∃ time, (account, time) ∈ w.disconnects ∧ w.time < time + tolerance

theorem searchDisconnects_eq {now : Nat} (account : Nat) {disconnects : List (Nat × Nat)}
    (some : tolerance ≠ 0) (past : ∀ entry ∈ disconnects, entry.2 ≤ now) :
    (searchDisconnects tolerance now account disconnects).2 = disconnects ∧
      ((searchDisconnects tolerance now account disconnects).1 = true ↔
        ∃ time, (account, time) ∈ disconnects) := by
  induction disconnects with
  | nil => exact ⟨rfl, nofun, nofun⟩
  | cons entry rest ih =>
    obtain ⟨same, found⟩ := ih fun other there => past other (mem_cons_of_mem _ there)
    have before := past entry mem_cons_self
    unfold searchDisconnects
    rw [if_pos (by omega)]
    split
    · rename_i isAccount
      exact ⟨rfl, fun _ => ⟨entry.2, isAccount ▸ mem_cons_self⟩, fun _ => rfl⟩
    next other =>
    refine ⟨congrArg _ same, found.trans ⟨fun ⟨time, there⟩ =>
      ⟨time, mem_cons_of_mem _ there⟩, fun ⟨time, there⟩ => ⟨time, ?_⟩⟩⟩
    rcases mem_cons.mp there with rfl | later
    · exact absurd rfl other
    · exact later

theorem hasRecentlyDisconnected_eq (tolerance : Nat)
    (past : ∀ entry ∈ w.disconnects, entry.2 ≤ w.time) (account : Nat) :
    (w.hasRecentlyDisconnected tolerance account).1 = w ∧
      ((w.hasRecentlyDisconnected tolerance account).2 = true ↔ w.Recorded tolerance account) := by
  unfold hasRecentlyDisconnected Recorded
  split
  · next none => exact ⟨rfl, nofun, fun recorded => absurd none recorded.1⟩
  next some =>
  obtain ⟨same, found⟩ := searchDisconnects_eq account some past
  refine ⟨?_, found.trans ⟨fun there => ⟨some, there⟩, And.right⟩⟩
  dsimp only
  rw [same]

theorem change_sendAuthResponse (sess : Nat) : w.change sess (·.sendAuthResponse false 0) = w := by
  unfold World.change WorldSession.sendAuthResponse
  dsimp only
  rw [if_neg Bool.false_ne_true, update_eq_self]

variable {account : Nat}

theorem length_filter_account (distinct : (w.sessions.map (·.1)).Nodup)
    (member : account ∈ w.sessions.map (·.1)) :
    (w.sessions.filter (·.1 ≠ account)).length + 1 = w.sessions.length := by
  obtain ⟨entry, there, rfl⟩ := mem_map.mp member
  obtain ⟨before, after, whole⟩ := append_of_mem there
  rw [whole, map_append, map_cons] at distinct
  have outside := (nodup_cons.mp (nodup_middle.mp distinct)).1
  have others : ∀ other ∈ before ++ after, other.1 ≠ entry.1 := fun other inside same =>
    outside (same ▸ map_append ▸ mem_map_of_mem inside)
  rw [whole, filter_append, filter_cons_of_neg (by simp),
    filter_eq_self.mpr fun other inside => decide_eq_true (others other (mem_append_left _ inside)),
    filter_eq_self.mpr fun other inside => decide_eq_true
      (others other (mem_append_right _ inside))]
  simp
  omega

namespace Orderly

variable (orderly : Orderly playerLimit w)
include orderly

theorem advance (elapsed : Nat) : Orderly playerLimit { w with time := w.time + elapsed } :=
  { orderly with
    past := fun entry there =>
      Nat.le_trans (orderly.past entry there) (Nat.le_add_right _ _) }

theorem not_mem_entered_of_created {sess : Nat} (new : w.created ≤ sess) : sess ∉ w.entered :=
  fun there => absurd (orderly.enteredOld sess there) (Nat.not_lt.mpr new)

theorem store {account : Nat} (skipQueue : Bool)
    (gone : ∀ sess, (account, sess) ∈ w.sessions → sess ∉ w.queuedPlayer)
    (full : w.queuedPlayer ≠ [] → playerLimit ≤ (w.store account skipQueue).activeSessionCount) :
    Orderly playerLimit (w.store account skipQueue) := by
  have older : ∀ sess ∈ w.queuedPlayer, sess ≠ w.created := fun sess there same =>
    absurd (orderly.old sess (orderly.stored there)) (same ▸ Nat.lt_irrefl _)
  have kept : ∀ sess ∈ ((w.sessions.filter (·.1 ≠ account)).map (·.2)), sess ∈ w.addresses :=
    fun sess there => map_subset _ filter_sublist.subset there
  refine ⟨?_, ?_, fun sess there => ?_, orderly.queue, fun sess there => ?_,
    fun sess there => ?_, full, fun sess there => ?_, orderly.order, orderly.once,
    fun sess there => Nat.lt_succ_of_lt (orderly.enteredOld sess there), orderly.lost,
    orderly.past⟩
  · refine nodup_cons.mpr ⟨fun inside => ?_,
      orderly.accounts.sublist (filter_sublist.map _)⟩
    obtain ⟨entry, there, same⟩ := mem_map.mp inside
    exact of_decide_eq_true (mem_filter.mp there).2 same
  · exact nodup_cons.mpr ⟨fun inside => absurd (orderly.old _ (kept _ inside))
      (Nat.lt_irrefl _), orderly.distinct.sublist (filter_sublist.map _)⟩
  · rcases mem_cons.mp there with rfl | inside
    · exact Nat.lt_succ_self _
    · exact Nat.lt_succ_of_lt (orderly.old sess (kept sess inside))
  · obtain ⟨entry, inside, rfl⟩ := mem_map.mp (orderly.stored there)
    refine mem_cons_of_mem _ (mem_map_of_mem (mem_filter.mpr ⟨inside, ?_⟩))
    exact decide_eq_true fun same => gone entry.2 (same ▸ inside) there
  · change (Function.update w.session w.created _ sess).inQueue = true ↔ sess ∈ w.queuedPlayer
    rcases mem_cons.mp there with rfl | inside
    · dsimp only
      rw [update_self]
      exact ⟨nofun, fun waits => absurd rfl (older _ waits)⟩
    have old := orderly.old sess (kept sess inside)
    rw [update_of_ne (Nat.ne_of_lt old)]
    exact orderly.flagged sess (kept sess inside)
  · change (Function.update w.session w.created _ sess).position = _
    rw [update_of_ne (older sess there)]
    exact orderly.positions sess there

theorem addQueuedPlayer {sess : Nat} (member : sess ∈ w.addresses) (absent : sess ∉ w.queuedPlayer)
    (new : sess ∉ w.entered) (spare : playerLimit < w.activeSessionCount) :
    Orderly playerLimit (w.addQueuedPlayer sess) := by
  have place : (w.queuedPlayer ++ [sess]).idxOf sess = w.queuedPlayer.length := by
    rw [idxOf_append_of_notMem absent, idxOf_cons_self, Nat.add_zero]
  have here : (w.addQueuedPlayer sess).session sess =
      { w.session sess with inQueue := true, position := some (w.queuedPlayer.length + 1) } := by
    unfold World.addQueuedPlayer World.change queuePos
    simp [place, WorldSession.sendAuthResponse]
  have there (other : Nat) (different : other ≠ sess) :
      (w.addQueuedPlayer sess).session other = w.session other := by
    unfold World.addQueuedPlayer World.change
    simp [different]
  refine ⟨orderly.accounts, orderly.distinct, orderly.old,
    nodup_append.mpr ⟨orderly.queue, nodup_singleton _, fun one inside other last =>
      fun same => absent (mem_singleton.mp last ▸ same ▸ inside)⟩,
    append_subset.mpr ⟨orderly.stored, fun _ last => mem_singleton.mp last ▸ member⟩,
    fun other inside => ?_, fun _ => ?_, fun other inside => ?_, ?_,
    nodup_append.mpr ⟨orderly.once, nodup_singleton _, fun one inside other last =>
      fun same => new (mem_singleton.mp last ▸ same ▸ inside)⟩, fun other inside => ?_,
    orderly.lost, orderly.past⟩
  · by_cases same : other = sess
    · subst same
      rw [here]
      exact ⟨fun _ => mem_append_right _ (mem_singleton_self _), fun _ => rfl⟩
    · rw [there other same, orderly.flagged other inside]
      refine ⟨fun waits => mem_append_left _ waits, fun waits => ?_⟩
      exact (mem_append.mp waits).resolve_right fun last => same (mem_singleton.mp last)
  · unfold activeSessionCount at spare ⊢
    change _ ≤ w.sessions.length - (w.queuedPlayer ++ [sess]).length
    rw [length_append, length_singleton]
    omega
  · change _ = some ((w.queuedPlayer ++ [sess]).idxOf other + 1)
    by_cases same : other = sess
    · subst same
      rw [here, place]
    have waits := (mem_append.mp inside).resolve_right fun last =>
      same (mem_singleton.mp last)
    rw [there other same, orderly.positions other waits, idxOf_append_of_mem waits]
  · change (w.admitted ++ (w.queuedPlayer ++ [sess])).Sublist (w.entered ++ [sess])
    rw [← append_assoc]
    exact orderly.order.append_right _
  · rcases mem_append.mp inside with old | last
    · exact orderly.enteredOld other old
    · exact mem_singleton.mp last ▸ orderly.old sess member

end Orderly

/-- What becomes of a session that has just been stored. -/
structure Entered (playerLimit tolerance : Nat) (w : World) (sess sessions : Nat)
    (result : World × Option Nat) : Prop where
  orderly : Orderly playerLimit result.1
  room : ∀ others, result.2 = some others → (others < playerLimit ↔ sessions < playerLimit)
  waits : result.2 = none ↔ playerLimit ≤ sessions ∧ (w.session sess).skipQueue = false ∧
    ¬w.Recorded tolerance (w.session sess).account
  active : result.2 ≠ none → result.1.queuedPlayer = w.queuedPlayer
  queued : result.2 = none → sess ∈ result.1.queuedPlayer ∧
    (result.1.session sess).sent = (w.session sess).sent

theorem Orderly.enter (tolerance : Nat) (orderly : Orderly playerLimit w) (limited : 0 < playerLimit)
    (sess : Nat)
    (member : sess ∈ w.addresses) (absent : sess ∉ w.queuedPlayer) (new : sess ∉ w.entered)
    (decreaseSession : Bool)
    (spare : playerLimit ≤ w.activeAndQueuedSessionCount - (if decreaseSession then 1 else 0) →
      playerLimit < w.activeSessionCount) :
    Entered playerLimit tolerance w sess
      (w.activeAndQueuedSessionCount - if decreaseSession then 1 else 0)
      (w.enter playerLimit tolerance sess decreaseSession) := by
  obtain ⟨same, recorded⟩ := hasRecentlyDisconnected_eq tolerance orderly.past
    (w.session sess).account
  have count := orderly.others_of_active member absent (.inl rfl)
  have few : w.activeSessionCount ≤ w.activeAndQueuedSessionCount := Nat.sub_le _ _
  have active (letIn : ¬(playerLimit ≤ w.activeAndQueuedSessionCount -
        (if decreaseSession then 1 else 0) ∧ (w.session sess).skipQueue = false ∧
        ¬w.Recorded tolerance (w.session sess).account)) :
      Entered playerLimit tolerance w sess
        (w.activeAndQueuedSessionCount - if decreaseSession then 1 else 0)
        (w.change sess (·.sendAuthResponse false 0), some (w.others sess sess)) := by
    rw [change_sendAuthResponse]
    refine ⟨orderly, fun others isOthers => ?_,
      ⟨(fun none => by cases none), fun waits => absurd waits letIn⟩, fun _ => rfl,
      (fun none => by cases none)⟩
    obtain rfl := Option.some.inj isOthers
    constructor
    · intro room
      by_contra crowded
      omega
    · split <;> omega
  by_cases crowded : 0 < playerLimit ∧ playerLimit ≤ w.activeAndQueuedSessionCount -
      (if decreaseSession then 1 else 0) ∧ ¬(w.session sess).skipQueue
  · unfold World.enter
    dsimp only
    rw [if_pos crowded]
    cases found : (w.hasRecentlyDisconnected tolerance (w.session sess).account).2 with
    | true =>
      rw [show w.hasRecentlyDisconnected tolerance (w.session sess).account = (w, true) from
        Prod.ext same found]
      exact active fun waits => waits.2.2 (recorded.mp found)
    | false =>
      rw [show w.hasRecentlyDisconnected tolerance (w.session sess).account = (w, false) from
        Prod.ext same found]
      have unknown : ¬w.Recorded tolerance (w.session sess).account := fun there => by
        rw [recorded.mpr there] at found
        cases found
      refine ⟨orderly.addQueuedPlayer member absent new (spare crowded.2.1),
        (fun _ none => by cases none),
        ⟨fun _ => ⟨crowded.2.1, by simpa using crowded.2.2, unknown⟩, fun _ => rfl⟩,
        fun none => absurd rfl none,
        fun _ => ⟨mem_append_right _ (mem_singleton_self _), ?_⟩⟩
      unfold World.addQueuedPlayer World.change WorldSession.sendAuthResponse
      simp
  · have entered : w.enter playerLimit tolerance sess decreaseSession =
        (w.change sess (·.sendAuthResponse false 0), some (w.others sess sess)) := by
      exact if_neg crowded
    rw [entered]
    exact active fun waits => crowded ⟨limited, waits.1, by simp [waits.2.1]⟩

/-- The sessions that a new one of the account counts: those of other accounts, and its own old
one if that waits. -/
def crowd (w : World) (account : Nat) : Nat :=
  w.sessions.countP fun entry => entry.1 ≠ account || entry.2 ∈ w.queuedPlayer

/-- The account's old session is loading its player. -/
def Refuses (w : World) (account : Nat) (loading : Bool) : Prop :=
  loading = true ∧ account ∈ w.sessions.map (·.1)

theorem find_none (none : w.sessions.find? (·.1 = account) = none) :
    account ∉ w.sessions.map (·.1) := by
  intro inside
  obtain ⟨entry, there, same⟩ := mem_map.mp inside
  exact find?_eq_none.mp none entry there (decide_eq_true same)

theorem find_some {entry : Nat × Nat} (found : w.sessions.find? (·.1 = account) = some entry) :
    entry ∈ w.sessions ∧ entry.1 = account :=
  ⟨mem_of_find?_eq_some found, of_decide_eq_true (find?_some found :)⟩

theorem crowd_of_not_mem (absent : account ∉ w.sessions.map (·.1)) :
    w.crowd account = w.sessions.length := by
  refine countP_eq_length.mpr fun entry there => ?_
  have different : entry.1 ≠ account := fun same => absent (same ▸ mem_map_of_mem there)
  simp [different]

theorem crowd_of_mem {entry : Nat × Nat} (distinct : (w.sessions.map (·.1)).Nodup)
    (there : entry ∈ w.sessions) :
    w.crowd entry.1 + (if entry.2 ∈ w.queuedPlayer then 0 else 1) = w.sessions.length := by
  obtain ⟨before, after, whole⟩ := append_of_mem there
  rw [whole, map_append, map_cons] at distinct
  have outside := (nodup_cons.mp (nodup_middle.mp distinct)).1
  have others (part : List (Nat × Nat)) (sub : part ⊆ before ++ after) :
      part.countP (fun other => other.1 ≠ entry.1 || other.2 ∈ w.queuedPlayer) = part.length := by
    refine countP_eq_length.mpr fun other inside => ?_
    have different : other.1 ≠ entry.1 := fun same =>
      outside (same ▸ map_append ▸ mem_map_of_mem (sub inside))
    simp [different]
  unfold crowd
  rw [whole, countP_append, countP_cons, others before (subset_append_left _ _),
    others after (subset_append_right _ _)]
  simp only [ne_eq, not_true_eq_false, decide_false, Bool.false_or, decide_eq_true_eq,
    length_append, length_cons]
  split <;> omega

/-- What `AddSession_` does. -/
structure Added (playerLimit tolerance : Nat) (w : World) (account : Nat) (skipQueue : Bool)
    (result : World × Report) : Prop where
  orderly : Orderly playerLimit result.1
  one : result.2.admitted.length ≤ if result.2.left.isSome then 1 else 0
  admits : ∀ entry ∈ result.2.admitted, entry.2 < playerLimit
  room : ∀ others, result.2.active = some others →
    (others < playerLimit ↔ w.crowd account < playerLimit)
  waits : result.2.active = none ↔
    playerLimit ≤ w.crowd account ∧ skipQueue = false ∧ ¬w.Recorded tolerance account
  active : result.2.active ≠ none → w.queuedPlayer = [] → result.1.queuedPlayer = []
  queued : result.2.active = none → ∃ sess ∈ result.1.queuedPlayer,
    (result.1.session sess).sent = none

theorem store_session (account : Nat) (skipQueue : Bool) :
    (w.store account skipQueue).session w.created = { account, skipQueue } :=
  update_self ..

theorem Orderly.addSession (tolerance : Nat) (orderly : Orderly playerLimit w)
    (limited : 0 < playerLimit) (skipQueue : Bool) {loading : Bool} (lets : ¬w.Refuses account loading) :
    Added playerLimit tolerance w account skipQueue
      (w.addSession playerLimit tolerance account skipQueue loading) := by
  unfold World.addSession
  cases found : w.sessions.find? (·.1 = account) with
  | none =>
    have absent := find_none found
    have same : w.sessions.filter (·.1 ≠ account) = w.sessions :=
      filter_eq_self.mpr fun entry there => decide_eq_true fun isAccount =>
        absent (isAccount ▸ mem_map_of_mem there)
    have length : (w.store account skipQueue).activeAndQueuedSessionCount =
        w.sessions.length + 1 := by
      change ((account, w.created) :: w.sessions.filter (·.1 ≠ account)).length = _
      rw [same, length_cons]
    have short := orderly.queue_length_le
    have count : (w.store account skipQueue).activeSessionCount = w.activeSessionCount + 1 := by
      change (w.store account skipQueue).activeAndQueuedSessionCount - w.queuedPlayer.length = _
      unfold activeSessionCount
      omega
    have stored := orderly.store skipQueue
      (fun sess there => absurd (mem_map_of_mem there) absent)
      (fun waits => by have full := orderly.full waits; omega)
    have entered := stored.enter tolerance limited w.created
      mem_cons_self
      (fun there => absurd (orderly.old _ (orderly.stored there)) (Nat.lt_irrefl _))
      (orderly.not_mem_entered_of_created (Nat.le_refl _)) true (fun crowded => by
        rw [length, if_pos rfl] at crowded
        by_cases waits : w.queuedPlayer = []
        · rw [count]
          unfold activeSessionCount
          rw [waits]
          change _ < w.sessions.length - 0 + 1
          omega
        · have full := orderly.full waits
          omega)
    have crowd := crowd_of_not_mem absent
    have sessions : (w.store account skipQueue).activeAndQueuedSessionCount -
        (if true then 1 else 0) = w.crowd account := by
      rw [length, crowd, if_pos rfl]
      rfl
    rw [sessions] at entered
    refine ⟨entered.orderly, Nat.le_refl _, nofun, entered.room, ?_, fun active none => ?_,
      fun none => ?_⟩
    · have waits := entered.waits
      rw [store_session] at waits
      exact waits
    · exact (entered.active active).trans none
    · obtain ⟨there, sent⟩ := entered.queued none
      exact ⟨_, there, sent.trans (by rw [store_session])⟩
  | some entry =>
    obtain ⟨there, rfl⟩ := find_some found
    have quick : loading = false := by
      cases loading with
      | false => rfl
      | true => exact absurd ⟨rfl, mem_map_of_mem there⟩ lets
    subst quick
    dsimp only
    rw [if_neg Bool.false_ne_true]
    have removed := orderly.remove limited (mem_map_of_mem there : entry.2 ∈ w.addresses)
    generalize w.removeQueuedPlayer playerLimit entry.2 = result at removed
    obtain ⟨left, waited, admitted⟩ := result
    obtain ⟨orderlyLeft, isWaited, sessions, disconnects, _, gone, spare, one, admits, empty⟩ :=
      removed
    dsimp only at *
    have alone : ∀ sess, (entry.1, sess) ∈ left.sessions → sess ∉ left.queuedPlayer := by
      intro sess inside
      rw [sessions] at inside
      have same := inj_on_of_nodup_map orderly.accounts inside there rfl
      have address : sess = entry.2 := congrArg Prod.snd same
      exact address ▸ gone
    have length : (left.store entry.1 skipQueue).activeAndQueuedSessionCount =
        w.sessions.length := by
      change ((entry.1, left.created) :: left.sessions.filter (·.1 ≠ entry.1)).length = _
      rw [sessions, length_cons, length_filter_account orderly.accounts (mem_map_of_mem there)]
    have count : (left.store entry.1 skipQueue).activeSessionCount = left.activeSessionCount := by
      change (left.store entry.1 skipQueue).activeAndQueuedSessionCount -
        left.queuedPlayer.length = _
      rw [length, ← sessions]
      rfl
    have stored := orderlyLeft.store skipQueue alone fun waits => by
      have full := orderlyLeft.full waits
      omega
    have crowd := crowd_of_mem orderly.accounts there
    have counted : (left.store entry.1 skipQueue).activeAndQueuedSessionCount -
        (if !waited then 1 else 0) = w.crowd entry.1 := by
      rw [length, isWaited]
      by_cases waits : entry.2 ∈ w.queuedPlayer
      · rw [if_pos waits] at crowd
        rw [decide_eq_true waits, if_neg (by simp)]
        omega
      rw [if_neg waits] at crowd
      rw [decide_eq_false waits, if_pos (by simp)]
      omega
    have entered := stored.enter tolerance limited left.created
      mem_cons_self
      (fun inside => absurd (orderlyLeft.old _ (orderlyLeft.stored inside)) (Nat.lt_irrefl _))
      (orderlyLeft.not_mem_entered_of_created (Nat.le_refl _)) (!waited) (fun crowded => by
        rw [counted] at crowded
        rw [count]
        by_cases waits : left.queuedPlayer ≠ [] ∨ entry.2 ∈ w.queuedPlayer
        · exact spare waits
        obtain ⟨nobody, absent⟩ := not_or.mp waits
        rw [if_neg absent] at crowd
        unfold activeSessionCount
        rw [not_not.mp nobody, sessions]
        change _ < w.sessions.length - 0
        omega)
    rw [counted] at entered
    refine ⟨entered.orderly, one, admits, entered.room, ?_, fun active none => ?_, fun none => ?_⟩
    · have waits := entered.waits
      rw [store_session] at waits
      have same : (left.store entry.1 skipQueue).Recorded tolerance entry.1 =
          w.Recorded tolerance entry.1 := by
        unfold Recorded
        rw [← disconnects]
        rfl
      rw [same] at waits
      exact waits
    · exact (entered.active active).trans (empty none)
    · obtain ⟨inside, sent⟩ := entered.queued none
      exact ⟨_, inside, sent.trans (by rw [store_session])⟩

/-- What the removal of a closed session does. -/
structure Closed (playerLimit : Nat) (w : World) (result : World × Report) : Prop where
  orderly : Orderly playerLimit result.1
  one : result.2.admitted.length ≤ if result.2.left.isSome then 1 else 0
  admits : ∀ entry ∈ result.2.admitted, entry.2 < playerLimit
  active : result.2.active = none
  empty : w.queuedPlayer = [] → result.1.queuedPlayer = []

theorem Orderly.erase (orderly : Orderly playerLimit w) {entry : Nat × Nat}
    (there : entry ∈ w.sessions) (gone : entry.2 ∉ w.queuedPlayer)
    (spare : w.queuedPlayer ≠ [] → playerLimit < w.activeSessionCount) :
    Orderly playerLimit { w with sessions := w.sessions.filter (·.1 ≠ entry.1) } := by
  have kept : ∀ sess ∈ ((w.sessions.filter (·.1 ≠ entry.1)).map (·.2)), sess ∈ w.addresses :=
    fun sess inside => map_subset _ filter_sublist.subset inside
  have length := length_filter_account orderly.accounts (mem_map_of_mem there)
  refine ⟨orderly.accounts.sublist (filter_sublist.map _),
    orderly.distinct.sublist (filter_sublist.map _),
    fun sess inside => orderly.old sess (kept sess inside), orderly.queue, fun sess inside => ?_,
    fun sess inside => orderly.flagged sess (kept sess inside), fun waits => ?_,
    orderly.positions, orderly.order, orderly.once, orderly.enteredOld, orderly.lost,
    orderly.past⟩
  · obtain ⟨other, member, rfl⟩ := mem_map.mp (orderly.stored inside)
    refine mem_map_of_mem (mem_filter.mpr ⟨member, decide_eq_true fun same => ?_⟩)
    exact gone (inj_on_of_nodup_map orderly.accounts member there same ▸ inside)
  · have full := spare waits
    unfold activeSessionCount at full ⊢
    dsimp only
    omega

theorem Orderly.lose (orderly : Orderly playerLimit w) (account : Nat) {now : Nat}
    (past : now ≤ w.time) :
    Orderly playerLimit { w with
      disconnects := (account, now) :: w.disconnects.filter (·.1 ≠ account) } where
  accounts := orderly.accounts
  distinct := orderly.distinct
  old := orderly.old
  queue := orderly.queue
  stored := orderly.stored
  flagged := orderly.flagged
  full := orderly.full
  positions := orderly.positions
  order := orderly.order
  once := orderly.once
  enteredOld := orderly.enteredOld
  lost := by
    refine nodup_cons.mpr ⟨fun inside => ?_, orderly.lost.sublist (filter_sublist.map _)⟩
    obtain ⟨entry, there, same⟩ := mem_map.mp inside
    exact of_decide_eq_true (mem_filter.mp there).2 same
  past := by
    intro entry there
    rcases mem_cons.mp there with rfl | old
    · exact past
    · exact orderly.past entry (mem_filter.mp old).1

theorem Orderly.close (tolerance : Nat) (orderly : Orderly playerLimit w) (limited : 0 < playerLimit)
    (account : Nat) : Closed playerLimit w (w.close playerLimit tolerance account) := by
  unfold World.close
  cases found : w.sessions.find? (·.1 = account) with
  | none => exact ⟨orderly, Nat.zero_le _, nofun, rfl, id⟩
  | some entry =>
    obtain ⟨there, rfl⟩ := find_some found
    have removed := orderly.remove limited (mem_map_of_mem there : entry.2 ∈ w.addresses)
    dsimp only
    generalize w.removeQueuedPlayer playerLimit entry.2 = result at removed
    obtain ⟨first, waited, admitted⟩ := result
    obtain ⟨orderlyFirst, _, sessions, _, time, gone, spare, one, admits, empty⟩ := removed
    dsimp only at *
    -- the second removal finds the session gone and no place free
    have again (lost : World) (queue : lost.queuedPlayer = first.queuedPlayer)
        (active : lost.activeSessionCount = first.activeSessionCount) :
        lost.removeQueuedPlayer playerLimit entry.2 = (lost, false, []) :=
      removeQueuedPlayer_idle (queue ▸ gone) (fun waits => by
        have room := spare (.inl (queue ▸ waits))
        omega) limited
    split
    · rw [again { first with disconnects :=
          (entry.1, w.time) :: first.disconnects.filter (·.1 ≠ entry.1) } rfl rfl]
      refine ⟨(orderlyFirst.lose entry.1 (Nat.le_of_eq time.symm)).erase (sessions ▸ there) gone
        (fun waits => spare (.inl waits)), ?_, ?_, rfl, empty⟩
      · rw [append_nil]
        exact one
      · rw [append_nil]
        exact admits
    · rw [again first rfl rfl]
      refine ⟨orderlyFirst.erase (sessions ▸ there) gone (fun waits => spare (.inl waits)),
        ?_, ?_, rfl, empty⟩
      · rw [append_nil]
        exact one
      · rw [append_nil]
        exact admits

end World

end OpenWoW.LoginQueue
