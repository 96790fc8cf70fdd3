import OpenWoW.LoginQueueSteps

/-! Who passes the login queue in a run of updates, and what those who wait are told. -/
namespace OpenWoW.LoginQueue

open List

open World

variable (playerLimit tolerance : Nat)

/-- What a full world lets a new session in for. -/
def Excused (w : World) : Input → Prop
  | .addSession elapsed account skipQueue _ =>
    skipQueue = true ∨ Recent tolerance { w with time := w.time + elapsed } account
  | .close _ _ => False

/-- The queue after a step, and whom the step let in. -/
structure Fair (t : Run.Taken World Input Report) : Prop where
  queue : t.after.queuedPlayer.Nodup
  stored : t.after.queuedPlayer ⊆ t.after.addresses
  flagged : ∀ sess ∈ t.after.addresses, t.after.InQueue sess ↔ sess ∈ t.after.queuedPlayer
  once : t.after.entered.Nodup
  /-- Whoever left the queue for the game entered it before all who left later or still wait. -/
  order : (t.after.admitted ++ t.after.queuedPlayer).Sublist t.after.entered
  one : t.out.admitted.length ≤ if t.out.left.isSome then 1 else 0
  admits : ∀ entry ∈ t.out.admitted, entry.2 < playerLimit
  active : ∀ others, t.out.active = some others →
    others < playerLimit ∨ Excused tolerance t.before t.input
  positions : ∀ sess ∈ t.after.queuedPlayer,
    (t.after.session sess).position = some (t.after.queuedPlayer.idxOf sess + 1)

/-- The packets told each waiting session its place. -/
def Told (t : Run.Taken World Input Report) : Prop :=
  ∀ sess ∈ t.after.queuedPlayer,
    (t.after.session sess).sent = some (t.after.queuedPlayer.idxOf sess + 1)

/-- A new session does not find a full world and an old disconnect of its account. -/
def Timely (w : World) : Input → Prop
  | .addSession elapsed account skipQueue loading =>
    let now := { w with time := w.time + elapsed }
    now.Refuses account loading ∨ now.crowd account < playerLimit ∨ skipQueue = true ∨
      (now.Recorded tolerance account → now.Recent tolerance account)
  | .close _ _ => True

/-- A new session has room or an excuse. -/
def LetsIn (w : World) : Input → Prop
  | .addSession elapsed account skipQueue loading =>
    let now := { w with time := w.time + elapsed }
    now.Refuses account loading ∨ now.crowd account < playerLimit ∨ skipQueue = true ∨
      now.Recent tolerance account
  | .close _ _ => True

variable {playerLimit tolerance} {w : World}

theorem orderly_new : Orderly playerLimit {} where
  accounts := nodup_nil
  distinct := nodup_nil
  old := nofun
  queue := nodup_nil
  stored := nofun
  flagged := nofun
  full := nofun
  positions := nofun
  order := List.Sublist.refl _
  once := nodup_nil
  enteredOld := nofun
  lost := nodup_nil
  past := nofun

theorem addSession_refused (playerLimit tolerance : Nat) {account : Nat} (skipQueue : Bool)
    {loading : Bool} (refuses : w.Refuses account loading) :
    w.addSession playerLimit tolerance account skipQueue loading = (w, {}) := by
  obtain ⟨rfl, member⟩ := refuses
  unfold World.addSession
  cases found : w.sessions.find? (·.1 = account) with
  | none => exact absurd member (find_none found)
  | some entry => rfl

theorem World.Orderly.step (tolerance : Nat) (orderly : Orderly playerLimit w)
    (limited : 0 < playerLimit)
    (input : Input) : Orderly playerLimit (step playerLimit tolerance w input).1 := by
  cases input with
  | addSession elapsed account skipQueue loading =>
    have now := orderly.advance elapsed
    by_cases refuses : Refuses { w with time := w.time + elapsed } account loading
    · have same := addSession_refused playerLimit tolerance skipQueue refuses
      exact (congrArg (fun result => Orderly playerLimit result.1) same).mpr now
    · exact (now.addSession tolerance limited skipQueue refuses).orderly
  | close elapsed account => exact ((orderly.advance elapsed).close tolerance limited account).orderly

theorem recorded_of_recent (orderly : Orderly playerLimit w) {account : Nat}
    (recent : w.Recent tolerance account) : w.Recorded tolerance account := by
  obtain ⟨time, there, close⟩ := recent
  have past := orderly.past _ there
  refine ⟨?_, time, there⟩
  rintro rfl
  omega

theorem fair_iff (orderly : Orderly playerLimit w) (limited : 0 < playerLimit) (input : Input) :
    Fair playerLimit tolerance (Run.take (step playerLimit tolerance) w input) ↔
      Timely playerLimit tolerance w input := by
  have after := orderly.step tolerance limited input
  have rest (one : (step playerLimit tolerance w input).2.admitted.length ≤
        if (step playerLimit tolerance w input).2.left.isSome then 1 else 0)
      (admits : ∀ entry ∈ (step playerLimit tolerance w input).2.admitted, entry.2 < playerLimit) :
      Fair playerLimit tolerance (Run.take (step playerLimit tolerance) w input) ↔
        ∀ others, (step playerLimit tolerance w input).2.active = some others →
          others < playerLimit ∨ Excused tolerance w input :=
    ⟨fun fair => fair.active, fun active =>
      ⟨after.queue, after.stored, after.flagged, after.once, after.order, one, admits, active,
        after.positions⟩⟩
  cases input with
  | close elapsed account =>
    have closed := (orderly.advance elapsed).close tolerance limited account
    refine (rest closed.one closed.admits).trans ⟨fun _ => trivial, fun _ others active => ?_⟩
    exact absurd (closed.active.symm.trans active) nofun
  | addSession elapsed account skipQueue loading =>
    have now := orderly.advance elapsed
    by_cases refuses : Refuses { w with time := w.time + elapsed } account loading
    · have same : step playerLimit tolerance w (.addSession elapsed account skipQueue loading) =
          ({ w with time := w.time + elapsed }, {}) :=
        addSession_refused playerLimit tolerance skipQueue refuses
      rw [same] at rest
      exact (rest (Nat.le_refl _) nofun).trans ⟨fun _ => .inl refuses, fun _ => nofun⟩
    · have added := now.addSession tolerance limited skipQueue refuses
      refine (rest added.one added.admits).trans ⟨fun active => ?_, fun timely others isActive =>
        ?_⟩
      · refine .inr ?_
        by_cases room : crowd { w with time := w.time + elapsed } account < playerLimit
        · exact .inl room
        refine .inr ?_
        cases jumper : skipQueue with
        | true => exact .inl rfl
        | false =>
          refine .inr fun recorded => ?_
          cases isActive : (step playerLimit tolerance w
              (.addSession elapsed account skipQueue loading)).2.active with
          | none => exact absurd recorded (added.waits.mp isActive).2.2
          | some others =>
            rcases active others isActive with spacious | skips | recent
            · exact absurd ((added.room others isActive).mp spacious) room
            · rw [jumper] at skips
              cases skips
            · exact recent
      · rcases timely with refused | room | skips | recent
        · exact absurd refused refuses
        · exact .inl ((added.room others isActive).mpr room)
        · exact .inr (.inl skips)
        · by_cases room : crowd { w with time := w.time + elapsed } account < playerLimit
          · exact .inl ((added.room others isActive).mpr room)
          · cases jumper : skipQueue with
            | true => exact .inr (.inl rfl)
            | false =>
              refine .inr (.inr (recent ?_))
              by_contra unknown
              have waits := added.waits.mpr ⟨Nat.not_lt.mp room, jumper, unknown⟩
              exact absurd (waits.symm.trans isActive) nofun

theorem timely_of_letsIn {input : Input} (letsIn : LetsIn playerLimit tolerance w input) :
    Timely playerLimit tolerance w input := by
  cases input with
  | close elapsed account => trivial
  | addSession elapsed account skipQueue loading =>
    rcases letsIn with refuses | room | skips | recent
    · exact .inl refuses
    · exact .inr (.inl room)
    · exact .inr (.inr (.inl skips))
    · exact .inr (.inr (.inr fun _ => recent))

theorem World.Orderly.nobody_waits (orderly : Orderly playerLimit w) (limited : 0 < playerLimit)
    (nobody : w.queuedPlayer = []) {input : Input} (letsIn : LetsIn playerLimit tolerance w input) :
    (LoginQueue.step playerLimit tolerance w input).1.queuedPlayer = [] := by
  cases input with
  | close elapsed account => exact ((orderly.advance elapsed).close tolerance limited account).empty nobody
  | addSession elapsed account skipQueue loading =>
    have now := orderly.advance elapsed
    by_cases refuses : Refuses { w with time := w.time + elapsed } account loading
    · have same := addSession_refused playerLimit tolerance skipQueue refuses
      exact (congrArg (fun result => result.1.queuedPlayer) same).trans nobody
    have added := now.addSession tolerance limited skipQueue refuses
    refine added.active (fun waits => ?_) nobody
    obtain ⟨crowded, jumper, unknown⟩ := added.waits.mp waits
    rcases letsIn with refused | room | skips | recent
    · exact refuses refused
    · exact absurd room (Nat.not_lt.mpr crowded)
    · rw [jumper] at skips
      cases skips
    · exact unknown (recorded_of_recent now recent)

theorem told_iff (orderly : Orderly playerLimit w) (limited : 0 < playerLimit)
    (nobody : w.queuedPlayer = []) (input : Input) :
    (Fair playerLimit tolerance (Run.take (step playerLimit tolerance) w input) ∧
      Told (Run.take (step playerLimit tolerance) w input)) ↔
      LetsIn playerLimit tolerance w input := by
  rw [fair_iff orderly limited]
  constructor
  · intro ⟨timely, told⟩
    cases input with
    | close elapsed account => trivial
    | addSession elapsed account skipQueue loading =>
      rcases timely with refuses | room | skips | recent
      · exact .inl refuses
      · exact .inr (.inl room)
      · exact .inr (.inr (.inl skips))
      by_cases refuses : Refuses { w with time := w.time + elapsed } account loading
      · exact .inl refuses
      have added := (orderly.advance elapsed).addSession tolerance limited skipQueue refuses
      refine .inr ?_
      by_cases room : crowd { w with time := w.time + elapsed } account < playerLimit
      · exact .inl room
      refine .inr ?_
      cases jumper : skipQueue with
      | true => exact .inl rfl
      | false =>
        refine .inr (recent ?_)
        by_contra unknown
        -- whoever is put into the queue has not been sent a place
        obtain ⟨sess, there, untold⟩ := added.queued
          (added.waits.mpr ⟨Nat.not_lt.mp room, jumper, unknown⟩)
        have place := told sess there
        exact absurd (untold.symm.trans place) nofun
  · intro letsIn
    refine ⟨timely_of_letsIn letsIn, fun sess there => ?_⟩
    have empty := orderly.nobody_waits limited nobody letsIn
    rw [Run.take_after, empty] at there
    cases there

/-- The queue is fair exactly when no arrival at a full world finds a disconnect that is too old;
and fair, with every place told to whoever waits, exactly when every arrival is let in. -/
theorem login_queue_iff (playerLimit tolerance : Nat) (limited : 0 < playerLimit)
    (updates : List Update) :
    ((∀ t ∈ Run.trace (step playerLimit tolerance) {} (updates.flatMap Update.inputs),
        Fair playerLimit tolerance t) ↔
      ∀ t ∈ Run.trace (step playerLimit tolerance) {} (updates.flatMap Update.inputs),
        Timely playerLimit tolerance t.before t.input) ∧
    ((∀ t ∈ Run.trace (step playerLimit tolerance) {} (updates.flatMap Update.inputs),
        Fair playerLimit tolerance t ∧ Told t) ↔
      ∀ t ∈ Run.trace (step playerLimit tolerance) {} (updates.flatMap Update.inputs),
        LetsIn playerLimit tolerance t.before t.input) := by
  constructor
  · exact Run.good_iff (step playerLimit tolerance) (Timely playerLimit tolerance)
      (Orderly playerLimit) _ (fun w input orderly => fair_iff orderly limited input)
      (fun w input orderly _ => orderly.step tolerance limited input) {} _ orderly_new
  · exact Run.good_iff (step playerLimit tolerance) (LetsIn playerLimit tolerance)
      (fun w => Orderly playerLimit w ∧ w.queuedPlayer = []) _
      (fun w input holds => told_iff holds.1 limited holds.2 input)
      (fun w input holds letsIn =>
        ⟨holds.1.step tolerance limited input, holds.1.nobody_waits limited holds.2 letsIn⟩)
      {} _ ⟨orderly_new, rfl⟩

/-- Two accounts come to a world for one. -/
theorem login_queue_iff_two :
    ((∀ t ∈ Run.trace (step 1 60) {} ([⟨[(0, 1, false, false), (0, 2, false, false)], []⟩].flatMap
          Update.inputs), Fair 1 60 t) ↔
      ∀ t ∈ Run.trace (step 1 60) {} ([⟨[(0, 1, false, false), (0, 2, false, false)], []⟩].flatMap
          Update.inputs), Timely 1 60 t.before t.input) ∧
    ((∀ t ∈ Run.trace (step 1 60) {} ([⟨[(0, 1, false, false), (0, 2, false, false)], []⟩].flatMap
          Update.inputs), Fair 1 60 t ∧ Told t) ↔
      ∀ t ∈ Run.trace (step 1 60) {} ([⟨[(0, 1, false, false), (0, 2, false, false)], []⟩].flatMap
          Update.inputs), LetsIn 1 60 t.before t.input) :=
  login_queue_iff 1 60 (by decide) _

/-- Account 1 is lost and comes back a day later, when account 2 fills the world for one. -/
def lateReturn : List Update :=
  [⟨[(0, 1, false, false)], [(0, 1)]⟩, ⟨[(0, 2, false, false), (86400, 1, false, false)], []⟩]

/-- A disconnect of yesterday lets account 1 into a full world; and a session that has to wait is
not told its place. -/
theorem login_queue_jumped :
    (∃ t ∈ Run.trace (step 1 60) {} (lateReturn.flatMap Update.inputs), ¬Fair 1 60 t) ∧
      ∃ t ∈ Run.trace (step 1 60) {}
        (Update.inputs ⟨[(0, 1, false, false), (0, 2, false, false)], []⟩), ¬Told t := by
  refine ⟨⟨(Run.trace (step 1 60) {} (lateReturn.flatMap Update.inputs)).get ⟨3, by decide⟩,
    get_mem _ _, fun fair => ?_⟩,
    ⟨(Run.trace (step 1 60) {}
      (Update.inputs ⟨[(0, 1, false, false), (0, 2, false, false)], []⟩)).get ⟨1, by decide⟩,
    get_mem _ _, fun told => ?_⟩⟩
  · rcases fair.active 1 rfl with room | skips | ⟨time, there, close⟩
    · exact absurd room (by decide)
    · cases skips
    · have there : (1, time) ∈ [(1, 0)] := there
      have close : 86400 < time + 60 := close
      obtain ⟨_, rfl⟩ := Prod.mk.inj (mem_singleton.mp there)
      omega
  · exact absurd (told 1 (by decide)) (by decide)

/-- Nobody waits while a place is free, and no account has two sessions. -/
theorem no_place_free (playerLimit tolerance : Nat) (limited : 0 < playerLimit)
    (updates : List Update) :
    let w := Run.final (step playerLimit tolerance) {} (updates.flatMap Update.inputs)
    (w.queuedPlayer ≠ [] → playerLimit ≤ w.activeSessionCount) ∧ (w.sessions.map (·.1)).Nodup := by
  have orderly := Run.history (step playerLimit tolerance) (fun _ _ => True)
    (fun _ => Orderly playerLimit)
    (fun _ _ input orderly _ => orderly.step tolerance limited input) [] {}
    (updates.flatMap Update.inputs) orderly_new (fun _ _ => trivial)
  exact ⟨orderly.full, orderly.accounts⟩

theorem no_place_free_one :
    ((Run.final (step 1 60) {} (lateReturn.flatMap Update.inputs)).sessions.map (·.1)).Nodup :=
  (no_place_free 1 60 (by decide) lateReturn).2

end OpenWoW.LoginQueue
