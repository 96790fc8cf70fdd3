import Mathlib.Data.List.Count
import OpenWoW.LoginQueue

/-! What holds of the sessions and the login queue after every step. -/
namespace OpenWoW.LoginQueue

open List Function

namespace World

variable {playerLimit tolerance : Nat} {w : World}

def addresses (w : World) : List Nat := w.sessions.map (·.2)

def InQueue (w : World) (sess : Nat) : Prop := (w.session sess).inQueue = true

/-- The queue and the sessions agree, and nobody waits while there is room. -/
structure Orderly (playerLimit : Nat) (w : World) : Prop where
  accounts : (w.sessions.map (·.1)).Nodup
  distinct : w.addresses.Nodup
  old : ∀ sess ∈ w.addresses, sess < w.created
  queue : w.queuedPlayer.Nodup
  stored : w.queuedPlayer ⊆ w.addresses
  flagged : ∀ sess ∈ w.addresses, (w.session sess).inQueue = true ↔ sess ∈ w.queuedPlayer
  full : w.queuedPlayer ≠ [] → playerLimit ≤ w.activeSessionCount
  positions : ∀ sess ∈ w.queuedPlayer,
    (w.session sess).position = some (w.queuedPlayer.idxOf sess + 1)
  order : (w.admitted ++ w.queuedPlayer).Sublist w.entered
  once : w.entered.Nodup
  enteredOld : ∀ sess ∈ w.entered, sess < w.created
  lost : (w.disconnects.map (·.1)).Nodup
  past : ∀ entry ∈ w.disconnects, entry.2 ≤ w.time

theorem sendPositions_eq (position : Nat) {waiting : List Nat} (distinct : waiting.Nodup) :
    w.sendPositions position waiting =
      { w with
        session := fun sess =>
          if sess ∈ waiting then (w.session sess).sendAuthWaitQue (position + waiting.idxOf sess)
          else w.session sess } := by
  induction waiting generalizing w position with
  | nil => simp [sendPositions]
  | cons first waiting ih =>
    obtain ⟨outside, distinct⟩ := nodup_cons.mp distinct
    unfold sendPositions
    rw [ih (position + 1) distinct]
    unfold World.change
    congr 1
    funext sess
    by_cases same : sess = first
    · subst same
      simp [outside]
    simp only [update_of_ne same, mem_cons, same, false_or]
    split
    · rw [idxOf_cons_ne _ (Ne.symm same)]
      congr 1
      omega
    · rfl

theorem search_split {sess : Nat} {queue : List Nat} (found : sess ∈ queue) :
    queue = queue.takeWhile (· ≠ sess) ++ sess :: (queue.dropWhile (· ≠ sess)).tail ∧
      queue.dropWhile (· ≠ sess) = sess :: (queue.dropWhile (· ≠ sess)).tail ∧
      sess ∉ queue.takeWhile (· ≠ sess) := by
  induction queue with
  | nil => cases found
  | cons first queue ih =>
    by_cases same : first = sess
    · subst same
      simp
    have later : sess ∈ queue := (mem_cons.mp found).resolve_left (Ne.symm same)
    obtain ⟨whole, rest, before⟩ := ih later
    rw [takeWhile_cons_of_pos (by simpa using same),
      dropWhile_cons_of_pos (by simpa using same)]
    refine ⟨?_, rest, ?_⟩
    · rw [cons_append, ← whole]
    · exact fun there => (mem_cons.mp there).elim (Ne.symm same) before

theorem search_none {sess : Nat} {queue : List Nat} (absent : sess ∉ queue) :
    queue.takeWhile (· ≠ sess) = queue ∧ queue.dropWhile (· ≠ sess) = [] := by
  have all : ∀ other ∈ queue, decide (other ≠ sess) = true := fun other there =>
    decide_eq_true fun same => absent (same ▸ there)
  exact ⟨takeWhile_eq_self_iff.mpr all, dropWhile_eq_nil_iff.mpr all⟩

theorem removeQueuedPlayer_idle {sess : Nat} (absent : sess ∉ w.queuedPlayer)
    (closed : w.queuedPlayer ≠ [] → playerLimit ≤ w.activeSessionCount - 1)
    (limited : 0 < playerLimit) : w.removeQueuedPlayer playerLimit sess = (w, false, []) := by
  obtain ⟨_, rest⟩ := search_none absent
  unfold removeQueuedPlayer
  dsimp only
  rw [erased, rest, decide_eq_false absent]
  split
  · rfl
  next front others queue =>
  have full := closed (by rw [queue]; nofun)
  rw [if_neg (by rw [if_neg Bool.false_ne_true]; omega)]
  rfl

namespace Orderly

variable (orderly : Orderly playerLimit w)
include orderly

theorem countP_active :
    w.addresses.countP (fun sess => !(w.session sess).inQueue) = w.activeSessionCount := by
  have flagged : w.addresses.countP (fun sess => (w.session sess).inQueue) =
      w.queuedPlayer.length := by
    rw [countP_eq_length_filter]
    refine List.Perm.length_eq ((perm_ext_iff_of_nodup
      (orderly.distinct.filter _) orderly.queue).mpr fun sess => ?_)
    rw [mem_filter]
    exact ⟨fun both => (orderly.flagged sess both.1).mp both.2,
      fun there => ⟨orderly.stored there, (orderly.flagged sess (orderly.stored there)).mpr there⟩⟩
  have all := length_eq_countP_add_countP (fun sess => (w.session sess).inQueue) (l := w.addresses)
  have length : w.addresses.length = w.sessions.length := length_map ..
  have negated : w.addresses.countP (fun sess => decide ¬(w.session sess).inQueue = true) =
      w.addresses.countP (fun sess => !(w.session sess).inQueue) := by
    congr 1
    funext sess
    cases (w.session sess).inQueue <;> rfl
  unfold activeSessionCount
  omega

theorem queue_length_le : w.queuedPlayer.length ≤ w.sessions.length := by
  have shorter := (subperm_of_subset orderly.queue orderly.stored).length_le
  rwa [addresses, length_map] at shorter

theorem others_of_active {sess : Nat} (member : sess ∈ w.addresses) (active : sess ∉ w.queuedPlayer)
    {front : Nat} (other : front = sess ∨ front ∈ w.queuedPlayer) :
    w.others front sess + 1 = w.activeSessionCount := by
  have unflagged : (w.session sess).inQueue = false := by
    cases flag : (w.session sess).inQueue with
    | false => rfl
    | true => exact absurd ((orderly.flagged sess member).mp flag) active
  rw [← orderly.countP_active]
  have apart : w.others front sess =
      w.addresses.countP fun other => !(w.session other).inQueue && other ≠ sess := by
    unfold others World.addresses
    rw [countP_map]
    refine countP_congr fun entry there => ?_
    rcases other with rfl | queued
    · simp
    have flag := (orderly.flagged front (orderly.stored queued)).mpr queued
    simp only [comp_apply, Bool.and_eq_true, Bool.not_eq_eq_eq_not, Bool.not_true,
      decide_eq_true_eq]
    constructor
    · exact fun both => ⟨both.1.1, both.2⟩
    · refine fun both => ⟨⟨both.1, fun same => ?_⟩, both.2⟩
      rw [same, flag] at both
      cases both.1
  rw [apart]
  obtain ⟨before, after, whole⟩ := append_of_mem member
  have distinct := orderly.distinct
  rw [whole] at distinct ⊢
  have outside := nodup_middle.mp distinct
  have notHere : ∀ other ∈ before ++ after, other ≠ sess := fun other there same =>
    (nodup_cons.mp outside).1 (same ▸ there)
  have same (part : List Nat) (sub : part ⊆ before ++ after) :
      part.countP (fun other => !(w.session other).inQueue && other ≠ sess) =
        part.countP fun other => !(w.session other).inQueue :=
    countP_congr fun other there => by simp [notHere other (sub there)]
  simp only [countP_append, countP_cons, unflagged]
  rw [same before (subset_append_left _ _), same after (subset_append_right _ _)]
  simp
  omega

theorem of_found (limited : 0 < playerLimit) {sess : Nat} (found : sess ∈ w.queuedPlayer) :
    ∃ before after, w.queuedPlayer = before ++ sess :: after ∧
      w.removeQueuedPlayer playerLimit sess = ({ w with
        session := fun other =>
          if other ∈ after then
            (w.session other).sendAuthWaitQue (before.length + 1 + after.idxOf other)
          else if other = sess then { w.session sess with inQueue := false }
          else w.session other
        queuedPlayer := before ++ after }, true, []) := by
  obtain ⟨whole, rest, before⟩ := search_split found
  refine ⟨_, _, whole, ?_⟩
  have distinct := orderly.queue
  rw [whole] at distinct
  have outside := (nodup_cons.mp (nodup_middle.mp distinct)).1
  have after := (nodup_cons.mp (nodup_append.mp distinct).2.1).2
  have notAfter : sess ∉ (w.queuedPlayer.dropWhile (· ≠ sess)).tail := fun there =>
    outside (mem_append_right _ there)
  -- nobody waits while there is room, so no place becomes free
  have full := orderly.full (ne_nil_of_mem found)
  have erased : w.erased sess = { w.change sess ({ · with inQueue := false }) with
      queuedPlayer := w.queuedPlayer.takeWhile (· ≠ sess) ++
        (w.queuedPlayer.dropWhile (· ≠ sess)).tail } := by
    unfold World.erased
    rw [rest]
    rfl
  have positions := sendPositions_eq (w := w.erased sess)
    ((w.queuedPlayer.takeWhile (· ≠ sess)).length + 1) after
  have same : (fun other => if other ∈ (w.queuedPlayer.dropWhile (· ≠ sess)).tail then
        ((w.erased sess).session other).sendAuthWaitQue
          ((w.queuedPlayer.takeWhile (· ≠ sess)).length + 1 +
            (w.queuedPlayer.dropWhile (· ≠ sess)).tail.idxOf other)
      else (w.erased sess).session other) =
      fun other => if other ∈ (w.queuedPlayer.dropWhile (· ≠ sess)).tail then
        (w.session other).sendAuthWaitQue ((w.queuedPlayer.takeWhile (· ≠ sess)).length + 1 +
          (w.queuedPlayer.dropWhile (· ≠ sess)).tail.idxOf other)
      else if other = sess then { w.session sess with inQueue := false }
      else w.session other := by
    funext other
    rw [erased]
    by_cases here : other = sess
    · subst here
      rw [if_neg notAfter, if_neg notAfter, if_pos rfl]
      exact update_self ..
    rw [if_neg here]
    change (if _ then (Function.update w.session sess _ other).sendAuthWaitQue _ else
      Function.update w.session sess _ other) = _
    rw [update_of_ne here]
  rw [same] at positions
  unfold removeQueuedPlayer
  dsimp only
  rw [decide_eq_true found, if_pos rfl]
  split
  · rw [positions, erased]
    rfl
  · rw [if_neg (by omega), positions, erased]
    rfl

theorem of_admitted {sess front : Nat} {rest : List Nat} (absent : sess ∉ w.queuedPlayer)
    (queue : w.queuedPlayer = front :: rest) (room : w.activeSessionCount - 1 < playerLimit) :
    w.removeQueuedPlayer playerLimit sess = ({ w with
      session := fun other =>
        if other ∈ rest then (w.session other).sendAuthWaitQue (1 + rest.idxOf other)
        else if other = front then { w.session front with inQueue := false }.sendAuthWaitQue 0
        else w.session other
      queuedPlayer := rest
      admitted := w.admitted ++ [front] }, false, [(front, w.others front sess)]) := by
  obtain ⟨_, empty⟩ := search_none absent
  have erased : w.erased sess = w := by
    unfold World.erased
    rw [empty]
  have distinct := orderly.queue
  rw [queue] at distinct
  obtain ⟨outside, distinct⟩ := nodup_cons.mp distinct
  have same : (fun other => if other ∈ rest then
        ((w.accept front rest).session other).sendAuthWaitQue (1 + rest.idxOf other)
      else (w.accept front rest).session other) =
      fun other => if other ∈ rest then (w.session other).sendAuthWaitQue (1 + rest.idxOf other)
      else if other = front then { w.session front with inQueue := false }.sendAuthWaitQue 0
      else w.session other := by
    funext other
    change (if _ then (Function.update w.session front _ other).sendAuthWaitQue _ else
      Function.update w.session front _ other) = _
    by_cases here : other = front
    · subst here
      rw [if_neg outside, if_neg outside, if_pos rfl]
      exact update_self ..
    · rw [if_neg here, update_of_ne here]
  have positions := sendPositions_eq (w := w.accept front rest) 1 distinct
  rw [same] at positions
  unfold removeQueuedPlayer
  dsimp only
  rw [erased, decide_eq_false absent, if_neg Bool.false_ne_true]
  split
  · rename_i none
    rw [queue] at none
    cases none
  next first others isQueue =>
  rw [queue] at isQueue
  obtain ⟨rfl, rfl⟩ := List.cons.inj isQueue
  rw [if_pos (.inr room), positions]
  rfl

end Orderly

/-- What `RemoveQueuedPlayer` does for a session of the world. -/
structure Removed (playerLimit : Nat) (w : World) (sess : Nat)
    (result : World × Bool × List (Nat × Nat)) : Prop where
  orderly : Orderly playerLimit result.1
  found : result.2.1 = decide (sess ∈ w.queuedPlayer)
  sessions : result.1.sessions = w.sessions
  disconnects : result.1.disconnects = w.disconnects
  time : result.1.time = w.time
  gone : sess ∉ result.1.queuedPlayer
  spare : result.1.queuedPlayer ≠ [] ∨ sess ∈ w.queuedPlayer →
    playerLimit < result.1.activeSessionCount
  one : result.2.2.length ≤ 1
  admits : ∀ entry ∈ result.2.2, entry.2 < playerLimit
  empty : w.queuedPlayer = [] → result.1.queuedPlayer = []

theorem Orderly.remove (orderly : Orderly playerLimit w) (limited : 0 < playerLimit) {sess : Nat}
    (member : sess ∈ w.addresses) :
    Removed playerLimit w sess (w.removeQueuedPlayer playerLimit sess) := by
  have length := orderly.queue_length_le
  by_cases found : sess ∈ w.queuedPlayer
  · obtain ⟨before, after, whole, becomes⟩ := orderly.of_found limited found
    have distinct := orderly.queue
    rw [whole] at distinct
    obtain ⟨outside, fewer⟩ := nodup_cons.mp (nodup_middle.mp distinct)
    have full := orderly.full (ne_nil_of_mem found)
    unfold activeSessionCount at full
    rw [whole] at full length
    have more : playerLimit < w.sessions.length - (before ++ after).length := by
      simp only [length_append, length_cons] at full length ⊢
      omega
    have sub : before ++ after ⊆ w.queuedPlayer := by
      rw [whole]
      exact ((sublist_cons_self _ _).append_left _).subset
    have apart : ∀ other ∈ after, other ∉ before := fun other there inside =>
      (nodup_append.mp fewer).2.2 other inside other there rfl
    rw [becomes]
    refine ⟨⟨orderly.accounts, orderly.distinct, orderly.old, fewer,
      fun other there => orderly.stored (sub there), fun other there => ?_, fun _ => ?_,
      fun other there => ?_, ?_, orderly.once, orderly.enteredOld, orderly.lost, orderly.past⟩,
      (decide_eq_true found).symm, rfl, rfl, rfl, outside, fun _ => more, Nat.zero_le _, nofun,
      fun nobody => absurd (nobody ▸ found) not_mem_nil⟩
    · have flagged := orderly.flagged other there
      dsimp only
      split
      · rename_i here
        have waits : other ∈ w.queuedPlayer := sub (mem_append_right _ here)
        exact ⟨fun _ => mem_append_right _ here, fun _ => flagged.mpr waits⟩
      next notAfter =>
      split
      · rename_i same
        subst same
        exact ⟨nofun, fun inside => absurd inside outside⟩
      next different =>
      rw [flagged, whole]
      simp only [mem_append, mem_cons, different, false_or]
    · exact Nat.le_of_lt more
    · dsimp only
      split
      · rename_i here
        rw [idxOf_append_of_notMem (apart other here)]
        change some _ = some _
        congr 1
        omega
      · rename_i notAfter
        have inBefore := (mem_append.mp there).resolve_right notAfter
        have different : other ≠ sess := fun same => outside (same ▸ there)
        rw [if_neg different, orderly.positions other (sub there), whole,
          idxOf_append_of_mem inBefore,
          idxOf_append_of_mem inBefore]
    · refine List.Sublist.trans ?_ orderly.order
      rw [whole]
      exact ((sublist_cons_self _ _).append_left _).append_left _
  · by_cases closed : w.queuedPlayer ≠ [] → playerLimit ≤ w.activeSessionCount - 1
    · rw [removeQueuedPlayer_idle found closed limited]
      refine ⟨orderly, (decide_eq_false found).symm, rfl, rfl, rfl, found, fun waits => ?_,
        Nat.zero_le _, nofun, id⟩
      have full := closed (waits.resolve_right found)
      change playerLimit < w.activeSessionCount
      omega
    · obtain ⟨waits, room⟩ := Classical.not_imp.mp closed
      obtain ⟨front, rest, queue⟩ := exists_cons_of_ne_nil waits
      rw [orderly.of_admitted found queue (Nat.not_le.mp room)]
      have full := orderly.full waits
      have queued : front ∈ w.queuedPlayer := queue ▸ mem_cons_self
      have distinct := orderly.queue
      rw [queue] at distinct length
      obtain ⟨outside, distinct⟩ := nodup_cons.mp distinct
      have sub : rest ⊆ w.queuedPlayer := queue ▸ subset_cons_self _ _
      unfold activeSessionCount at full
      rw [queue] at full
      have more : playerLimit < w.sessions.length - rest.length := by
        simp only [length_cons] at full length
        omega
      refine ⟨⟨orderly.accounts, orderly.distinct, orderly.old, distinct,
        fun other there => orderly.stored (sub there), fun other there => ?_, fun _ => ?_,
        fun other there => ?_, ?_, orderly.once, orderly.enteredOld, orderly.lost, orderly.past⟩,
        (decide_eq_false found).symm, rfl, rfl, rfl, fun there => found (sub there),
        fun _ => more, Nat.le_refl _, fun entry there => ?_,
        fun nobody => absurd nobody waits⟩
      · have flagged := orderly.flagged other there
        dsimp only
        split
        · next here => exact ⟨fun _ => here, fun _ => flagged.mpr (sub here)⟩
        next notRest =>
        split
        · rename_i same
          subst same
          exact ⟨nofun, fun inside => absurd inside outside⟩
        next different =>
        rw [flagged, queue]
        simp only [mem_cons, different, false_or]
      · exact Nat.le_of_lt more
      · dsimp only
        rw [if_pos there]
        change some _ = some _
        congr 1
        omega
      · rw [append_assoc, singleton_append, ← queue]
        exact orderly.order
      · obtain rfl := mem_singleton.mp there
        have count := orderly.others_of_active member found (.inr queued)
        change w.others front sess < playerLimit
        omega

end World

end OpenWoW.LoginQueue
