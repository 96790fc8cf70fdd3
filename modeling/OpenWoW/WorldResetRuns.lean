import OpenWoW.WorldResetTimes

/-! Runs of a server that is started and stopped, updates and resets. -/
namespace OpenWoW.WorldResets

open List

variable {config : Config} {w : World} {offset : Int} {hour : Nat}

def resetTimes (reset : Resets → Bool) (trace : List (Run.Taken World Input Resets)) : List Int :=
  (trace.filter fun t => reset t.out).map (·.input.time)

/-- Between two resets the hour comes, and an update after it leaves nothing from before it. -/
structure OnSchedule (offset : Int) (hour : Nat) (reset : Resets → Bool)
    (records : World → List Int) (trace : List (Run.Taken World Input Resets)) : Prop where
  once : (resetTimes reset trace).Pairwise fun first second =>
    ∃ o, Occurrence offset hour o ∧ first ≤ o ∧ o < second
  cleared : ∀ t ∈ trace, t.before.running = true → ∀ time new, t.input = .update time new →
    ∀ o, Occurrence offset hour o → o < time → ∀ r ∈ records t.after, o ≤ r

structure Sound (config : Config) (trace : List (Run.Taken World Input Resets)) : Prop where
  daily : OnSchedule config.offset 6 (·.daily) (·.dailies) trace
  randomBg : OnSchedule config.offset config.randomBgResetHour (·.randomBg) (·.randomBg.records)
    trace
  guild : OnSchedule config.offset config.guildResetHour (·.guild) (·.guild.records) trace
  /-- No update came since the hour of the week day. -/
  currency : ∀ t ∈ trace, t.out.currency = true → t.before.currencyWasReset = true →
    ∃ o, Occurrence config.offset config.currencyResetHour o ∧
      weekday config.offset o = config.currencyResetDay ∧ t.before.gameTime ≤ o ∧
      o < t.input.time

/-- Time does not run backwards. -/
def Timely (w : World) : Input → Prop
  | .start time => w.now ≤ time
  | .update time records => w.now ≤ time ∧ (∀ r ∈ records.dailies, time ≤ r) ∧
      (∀ r ∈ records.winners, time ≤ r) ∧ ∀ r ∈ records.caps, time ≤ r
  | .stop => True

/-- The times fit in 32 bits without sign; no quest is left from before the last reset time, or the
newest one is of that very second; the day of a start is the one of the currency reset. -/
structure CarefulStart (config : Config) (w : World) (time : Int) : Prop where
  late : day < time
  soon : time + day < 2 ^ 32
  daily : (∀ r ∈ w.dailies, lastResetTime config.offset 6 time ≤ r) ∨
    mostRecentQuestTime w.dailies = lastResetTime config.offset 6 time
  randomBg : Clear w.randomBg time
  guild : Clear w.guild time
  weeks : config.currencyPeriod % (7 * day) = 0
  weekday : weekday config.offset time = config.currencyResetDay

/-- No reset is more than its period late. -/
structure CarefulUpdate (config : Config) (w : World) (time : Int) : Prop where
  soon : time + day < 2 ^ 32
  daily : Punctual w.nextDailyQuestReset time w.dailies
  randomBg : Punctual w.randomBg.next time w.randomBg.records
  guild : Punctual w.guild.next time w.guild.records
  currency : w.nextCurrencyReset < time → time ≤ w.nextCurrencyReset + config.currencyPeriod

def Careful (config : Config) (w : World) : Input → Prop
  | .start time => CarefulStart config w time
  | .update time _ => w.running = true → CarefulUpdate config w time
  | .stop => True

theorem resetTimes_snoc (reset : Resets → Bool) (past : List (Run.Taken World Input Resets))
    (t : Run.Taken World Input Resets) :
    resetTimes reset (past ++ [t]) =
      resetTimes reset past ++ if reset t.out = true then [t.input.time] else [] := by
  unfold resetTimes
  rw [filter_append, map_append]
  congr 1
  by_cases resets : reset t.out = true <;> simp [resets]

variable {past : List (Run.Taken World Input Resets)}

variable {t : Run.Taken World Input Resets}

section
variable {reset : Resets → Bool} {records : World → List Int}
  (schedule : OnSchedule offset hour reset records past)
include schedule

theorem OnSchedule.snoc
    (once : reset t.out = true → ∀ u ∈ resetTimes reset past,
      ∃ o, Occurrence offset hour o ∧ u ≤ o ∧ o < t.input.time)
    (cleared : t.before.running = true → ∀ time new, t.input = .update time new →
      ∀ o, Occurrence offset hour o → o < time → ∀ r ∈ records t.after, o ≤ r) :
    OnSchedule offset hour reset records (past ++ [t]) := by
  refine ⟨?_, fun other there => ?_⟩
  · rw [resetTimes_snoc]
    refine pairwise_append.mpr ⟨schedule.once, ?_, fun u before second this => ?_⟩
    · split
      · exact pairwise_singleton _ _
      · exact List.Pairwise.nil
    · split at this
      · rename_i resets
        rw [mem_singleton.mp this]
        exact once resets u before
      · cases this
  · rcases mem_append.mp there with before | this
    · exact schedule.cleared other before
    · rw [mem_singleton.mp this]
      exact cleared

theorem OnSchedule.quiet (none : reset t.out = false)
    (other : t.before.running = true → ∀ time new, t.input ≠ .update time new) :
    OnSchedule offset hour reset records (past ++ [t]) :=
  schedule.snoc (fun resets => by rw [none] at resets; cases resets)
    fun running time new same => absurd same (other running time new)

end

/-- What is known of the rows while no server runs. -/
structure Dailies (dailies past : List Int) (now : Int) : Prop where
  before : ∀ u ∈ past, u ≤ now
  order : ∀ u ∈ past, ∀ r ∈ dailies, u ≤ r
  known : ∀ r ∈ dailies, 0 < r ∧ r ≤ now

theorem foldl_max_spec (list : List Int) (first : Int) :
    first ≤ list.foldl max first ∧ (∀ r ∈ list, r ≤ list.foldl max first) ∧
      (list.foldl max first = first ∨ list.foldl max first ∈ list) := by
  induction list generalizing first with
  | nil => exact ⟨Int.le_refl _, nofun, .inl rfl⟩
  | cons second rest ih =>
    obtain ⟨least, all, some⟩ := ih (max first second)
    rw [foldl_cons]
    refine ⟨by omega, fun r there => ?_, ?_⟩
    · rcases mem_cons.mp there with rfl | later
      · omega
      · exact all r later
    · rcases some with start | later
      · rw [start]
        rcases Int.le_total first second with up | down
        · exact .inr (by rw [Int.max_eq_right up]; exact mem_cons_self)
        · exact .inl (Int.max_eq_left down)
      · exact .inr (mem_cons_of_mem _ later)

variable {now : Int}

theorem mostRecentQuestTime_spec {dailies : List Int}
    (known : ∀ r ∈ dailies, 0 < r ∧ r ≤ now) (small : now < 2 ^ 32) :
    (dailies = [] ∧ mostRecentQuestTime dailies = 0) ∨
      mostRecentQuestTime dailies ∈ dailies ∧ ∀ r ∈ dailies, r ≤ mostRecentQuestTime dailies := by
  cases dailies with
  | nil => exact .inl ⟨rfl, rfl⟩
  | cons first rest =>
    obtain ⟨_, all, some⟩ := foldl_max_spec (first :: rest) 0
    have positive := (known first mem_cons_self).1
    have reached := all first mem_cons_self
    have member := some.resolve_left (by omega)
    have same : mostRecentQuestTime (first :: rest) = (first :: rest).foldl max 0 :=
      uint32_eq (by omega) (Int.lt_of_le_of_lt (known _ member).2 small)
    rw [same]
    exact .inr ⟨member, all⟩

theorem Dailies.start {dailies past : List Int} {time : Int}
    (saved : Dailies dailies past now) (forward : now ≤ time) (late : day < time)
    (soon : time + day < 2 ^ 32)
    (careful : (∀ r ∈ dailies, lastResetTime offset 6 time ≤ r) ∨
      mostRecentQuestTime dailies = lastResetTime offset 6 time) :
    Due offset 6 (initDailyQuestResetTime offset dailies time) dailies past time := by
  have six : 6 < 24 := by decide
  obtain ⟨occurs, before, after⟩ := lastResetTime_spec offset six time
  have newest := mostRecentQuestTime_spec saved.known (by unfold day at soon; omega)
  unfold initDailyQuestResetTime
  dsimp only
  rw [nextResetTime_eq]
  split
  · rename_i overdue
    -- the newest row is of the last reset time itself
    obtain ⟨some, old⟩ := overdue
    obtain ⟨member, _⟩ := newest.resolve_left fun empty => some empty.2
    have same : mostRecentQuestTime dailies = lastResetTime offset 6 time :=
      careful.elim (fun all => Int.le_antisymm old (all _ member)) id
    rw [same]
    refine ⟨occurs, .inr before, fun u there => ?_, by unfold day; omega⟩
    rw [← same]
    exact saved.order u there _ member
  · rename_i recent
    have all : ∀ r ∈ dailies, lastResetTime offset 6 time ≤ r := by
      refine careful.elim id fun same r there => absurd ⟨?_, Int.le_of_eq same⟩ recent
      rw [same]
      unfold day at late
      unfold day at after
      omega
    refine ⟨occurs.add_day, .inl fun r there => ?_, fun u there => ?_, by omega⟩
    · have := all r there
      omega
    · have := saved.before u there
      omega

def WeekHour (config : Config) (time : Int) : Prop :=
  Occurrence config.offset config.currencyResetHour time ∧
    weekday config.offset time = config.currencyResetDay

theorem WeekHour.add_period {time : Int} (occurs : WeekHour config time)
    (weeks : config.currencyPeriod % (7 * day) = 0) :
    WeekHour config (time + config.currencyPeriod) ∧
      WeekHour config (time - config.currencyPeriod) := by
  unfold WeekHour Occurrence weekday day at *
  omega

theorem initCurrencyResetTime_spec {time : Int} (stored : Int)
    (weeks : config.currencyPeriod % (7 * day) = 0)
    (isDay : weekday config.offset time = config.currencyResetDay) :
    WeekHour config (initCurrencyResetTime config stored time) := by
  have isHour := config.currency_lt
  have today : WeekHour config (dayResetTime config.offset config.currencyResetHour time) := by
    refine ⟨dayResetTime_occurrence _ isHour time, ?_⟩
    rw [← isDay]
    unfold weekday dayResetTime day
    omega
  have next : WeekHour config
      (if dayResetTime config.offset config.currencyResetHour time ≤ time then
        dayResetTime config.offset config.currencyResetHour time + config.currencyPeriod
      else dayResetTime config.offset config.currencyResetHour time) := by
    split
    · exact (today.add_period weeks).1
    · exact today
  unfold initCurrencyResetTime
  split
  · exact (next.add_period weeks).2
  · exact next

structure Kept (config : Config) (past : List (Run.Taken World Input Resets)) (w : World) :
    Prop where
  sound : Sound config past
  dailies : Dailies w.dailies (resetTimes (·.daily) past) w.now
  randomBg : Saved config.offset config.randomBgResetHour w.randomBg
    (resetTimes (·.randomBg) past) w.now
  guild : Saved config.offset config.guildResetHour w.guild (resetTimes (·.guild) past) w.now
  dailyDue : w.running = true → Due config.offset 6 w.nextDailyQuestReset w.dailies
    (resetTimes (·.daily) past) w.now
  randomBgDue : w.running = true → Scheduled config.offset config.randomBgResetHour w.randomBg
    (resetTimes (·.randomBg) past) w.now
  guildDue : w.running = true → Scheduled config.offset config.guildResetHour w.guild
    (resetTimes (·.guild) past) w.now
  late : w.running = true → 0 < w.now
  weeks : w.running = true → config.currencyPeriod % (7 * day) = 0
  currency : w.running = true → WeekHour config w.nextCurrencyReset
  onTime : w.running = true → w.currencyWasReset = true → w.gameTime ≤ w.nextCurrencyReset

theorem Sound.quiet (sound : Sound config past) (none : t.out = {})
    (other : t.before.running = true → ∀ time new, t.input ≠ .update time new) :
    Sound config (past ++ [t]) := by
  refine ⟨sound.daily.quiet (by rw [none]) other, sound.randomBg.quiet (by rw [none]) other,
    sound.guild.quiet (by rw [none]) other, fun one there resets => ?_⟩
  rcases mem_append.mp there with before | this
  · exact sound.currency one before resets
  · rw [mem_singleton.mp this, none] at resets
    cases resets

theorem resetTimes_quiet (reset : Resets → Bool) (past : List (Run.Taken World Input Resets))
    (none : reset t.out = false) :
    resetTimes reset (past ++ [t]) = resetTimes reset past := by
  rw [resetTimes_snoc, none, if_neg Bool.false_ne_true, append_nil]

theorem Kept.start (kept : Kept config past w)
    {time : Int} (forward : w.now ≤ time) (careful : CarefulStart config w time) :
    Kept config (past ++ [Run.take (step config) w (.start time)]) (w.start config time) := by
  have same (reset : Resets → Bool) (none : reset {} = false) :
      resetTimes reset (past ++ [Run.take (step config) w (.start time)]) = resetTimes reset past :=
    resetTimes_quiet reset past none
  have randomBg := kept.randomBg.init config.random_lt forward careful.late careful.soon
    careful.randomBg
  have guild := kept.guild.init config.guild_lt forward careful.late careful.soon careful.guild
  have daily := kept.dailies.start forward careful.late careful.soon careful.daily
  have dailies : Dailies w.dailies (resetTimes (·.daily) past) time :=
    ⟨fun u there => Int.le_trans (kept.dailies.before u there) forward, kept.dailies.order,
      fun r there => ⟨(kept.dailies.known r there).1,
        Int.le_trans (kept.dailies.known r there).2 forward⟩⟩
  exact {
    sound := kept.sound.quiet rfl fun _ _ _ => nofun
    dailies := by rw [same _ rfl]; exact dailies
    randomBg := by rw [same _ rfl]; exact randomBg.saved
    guild := by rw [same _ rfl]; exact guild.saved
    dailyDue := fun _ => by rw [same _ rfl]; exact daily
    randomBgDue := fun _ => by rw [same _ rfl]; exact randomBg
    guildDue := fun _ => by rw [same _ rfl]; exact guild
    late := fun _ => Int.lt_trans (by decide) careful.late
    weeks := fun _ => careful.weeks
    currency := fun _ => initCurrencyResetTime_spec _ careful.weeks careful.weekday
    onTime := fun _ => nofun }

theorem Kept.idle (kept : Kept config past w) {input : Input} (none : (step config w input).2 = {})
    (other : w.running = true → ∀ time new, input ≠ .update time new) :
    Kept config (past ++ [Run.take (step config) w input]) { w with running := false } := by
  have same (reset : Resets → Bool) (quiet : reset {} = false) :
      resetTimes reset (past ++ [Run.take (step config) w input]) = resetTimes reset past :=
    resetTimes_quiet reset past (by rw [Run.take_out, none]; exact quiet)
  exact {
    sound := kept.sound.quiet none other
    dailies := by rw [same _ rfl]; exact kept.dailies
    randomBg := by rw [same _ rfl]; exact kept.randomBg
    guild := by rw [same _ rfl]; exact kept.guild
    dailyDue := nofun
    randomBgDue := nofun
    guildDue := nofun
    late := nofun
    weeks := nofun
    currency := nofun
    onTime := nofun }

theorem le_now (time : Int) (records : Records) :
    time ≤ (records.dailies ++ records.winners ++ records.caps).foldl max time ∧
      ∀ r ∈ records.dailies,
        r ≤ (records.dailies ++ records.winners ++ records.caps).foldl max time := by
  obtain ⟨least, all, _⟩ := foldl_max_spec (records.dailies ++ records.winners ++ records.caps) time
  exact ⟨least, fun r there => all r (by simp [there])⟩

theorem Dailies.update {dailies past new : List Int} {time after : Int}
    (saved : Dailies dailies past now) (positive : 0 < time) (forward : now ≤ time)
    (onward : time ≤ after) (later : ∀ r ∈ new, time ≤ r) (seen : ∀ r ∈ new, r ≤ after)
    (resets : Prop) [Decidable resets] :
    Dailies ((if resets then [] else dailies) ++ new) (past ++ if resets then [time] else [])
      after := by
  by_cases isReset : resets
  · rw [if_pos isReset, if_pos isReset, nil_append]
    refine ⟨fun u there => ?_, fun u there r recorded => ?_, fun r recorded => ?_⟩
    · rcases mem_append.mp there with before | this
      · have := saved.before u before
        omega
      · rwa [mem_singleton.mp this]
    · have := later r recorded
      rcases mem_append.mp there with before | this
      · have := saved.before u before
        omega
      · rwa [mem_singleton.mp this]
    · exact ⟨Int.lt_of_lt_of_le positive (later r recorded), seen r recorded⟩
  · rw [if_neg isReset, if_neg isReset, append_nil]
    refine ⟨fun u there => ?_, fun u there r recorded => ?_, fun r recorded => ?_⟩
    · have := saved.before u there
      omega
    · rcases mem_append.mp recorded with old | this
      · exact saved.order u there r old
      · have reached := Int.le_trans (saved.before u there) forward
        exact Int.le_trans reached (later r this)
    · rcases mem_append.mp recorded with old | this
      · have := saved.known r old
        omega
      · exact ⟨Int.lt_of_lt_of_le positive (later r this), seen r this⟩

theorem Due.update {next time after : Int} {records past new : List Int}
    (due : Due offset hour next records past now) (forward : now ≤ time)
    (punctual : Punctual next time records) (later : ∀ r ∈ new, time ≤ r) (onward : time ≤ after) :
    Due offset hour (if next < time then next + day else next)
        ((if next < time then [] else records) ++ new)
        (past ++ if next < time then [time] else []) after ∧
      ∀ o, Occurrence offset hour o → o < time →
        ∀ r ∈ (if next < time then [] else records) ++ new, o ≤ r := by
  by_cases overdue : next < time
  · rw [if_pos overdue, if_pos overdue, if_pos overdue, nil_append]
    refine ⟨due.reset overdue punctual later onward, fun o _ before r there => ?_⟩
    have := later r there
    omega
  · rw [if_neg overdue, if_neg overdue, if_neg overdue, append_nil]
    exact due.wait overdue forward punctual later onward

theorem Due.between {next time : Int} {records past : List Int}
    (due : Due offset hour next records past now) (overdue : next < time) :
    ∀ u ∈ past, ∃ o, Occurrence offset hour o ∧ u ≤ o ∧ o < time :=
  fun u there => ⟨next, due.occurs, due.past u there, overdue⟩

section

variable (time : Int) (records : Records)

theorem update_dailies : (w.update config time records).1.dailies =
    (if w.nextDailyQuestReset < time then [] else w.dailies) ++ records.dailies := by
  simp only [World.update, decide_eq_true_eq]

theorem update_nextDailyQuestReset : (w.update config time records).1.nextDailyQuestReset =
    if w.nextDailyQuestReset < time then w.nextDailyQuestReset + day
    else w.nextDailyQuestReset := by
  simp only [World.update, decide_eq_true_eq]

theorem update_nextCurrencyReset : (w.update config time records).1.nextCurrencyReset =
    if w.nextCurrencyReset < time then w.nextCurrencyReset + config.currencyPeriod
    else w.nextCurrencyReset := by
  simp only [World.update, decide_eq_true_eq]

end

theorem Kept.update (kept : Kept config past w)
    (running : w.running = true) {time : Int} {records : Records}
    (timely : Timely w (.update time records)) (careful : CarefulUpdate config w time) :
    Kept config (past ++ [Run.take (step config) w (.update time records)])
      (w.update config time records).1 := by
  obtain ⟨forward, dailies, winners, caps⟩ := timely
  obtain ⟨onward, seen⟩ := le_now time records
  have positive : 0 < time := Int.lt_of_lt_of_le (kept.late running) forward
  have result : step config w (.update time records) = w.update config time records :=
    if_pos running
  have out : (Run.take (step config) w (.update time records)).out =
      (w.update config time records).2 := congrArg Prod.snd result
  have after : (Run.take (step config) w (.update time records)).after =
      (w.update config time records).1 := congrArg Prod.fst result
  have times (reset : Resets → Bool) (next : Int)
      (is : reset (w.update config time records).2 = decide (next < time)) :
      resetTimes reset (past ++ [Run.take (step config) w (.update time records)]) =
        resetTimes reset past ++ if next < time then [time] else [] := by
    rw [resetTimes_snoc, out, is]
    simp only [decide_eq_true_eq]
    rfl
  obtain ⟨daily, dailyCleared⟩ := (kept.dailyDue running).update forward careful.daily dailies onward
  obtain ⟨randomBg, randomBgCleared⟩ :=
    (kept.randomBgDue running).update forward careful.soon careful.randomBg winners onward
  obtain ⟨guild, guildCleared⟩ :=
    (kept.guildDue running).update forward careful.soon careful.guild caps onward
  have rows := kept.dailies.update positive forward onward dailies seen (w.nextDailyQuestReset < time)
  refine ⟨⟨?_, ?_, ?_, ?_⟩, ?_, ?_, ?_, fun _ => ?_, fun _ => ?_, fun _ => ?_, fun _ => ?_,
    fun _ => kept.weeks running, fun _ => ?_, fun _ _ => ?_⟩
  · refine kept.sound.daily.snoc (fun resets => ?_) fun _ one new same => ?_
    · rw [out] at resets
      exact (kept.dailyDue running).between (of_decide_eq_true resets)
    · cases same
      rw [after, update_dailies]
      exact dailyCleared
  · refine kept.sound.randomBg.snoc (fun resets => ?_) fun _ one new same => ?_
    · rw [out] at resets
      exact (kept.randomBgDue running).due.between (of_decide_eq_true resets)
    · cases same
      rw [after]
      exact randomBgCleared
  · refine kept.sound.guild.snoc (fun resets => ?_) fun _ one new same => ?_
    · rw [out] at resets
      exact (kept.guildDue running).due.between (of_decide_eq_true resets)
    · cases same
      rw [after]
      exact guildCleared
  · intro one there resets again
    rcases mem_append.mp there with before | this
    · exact kept.sound.currency one before resets again
    obtain rfl := mem_singleton.mp this
    rw [out] at resets
    obtain ⟨occurs, isDay⟩ := kept.currency running
    exact ⟨w.nextCurrencyReset, occurs, isDay, kept.onTime running again, of_decide_eq_true resets⟩
  · rw [times _ w.nextDailyQuestReset rfl, update_dailies]
    exact rows
  · rw [times _ w.randomBg.next rfl]
    exact randomBg.saved
  · rw [times _ w.guild.next rfl]
    exact guild.saved
  · rw [times _ w.nextDailyQuestReset rfl, update_dailies, update_nextDailyQuestReset]
    exact daily
  · rw [times _ w.randomBg.next rfl]
    exact randomBg
  · rw [times _ w.guild.next rfl]
    exact guild
  · exact Int.lt_of_lt_of_le positive onward
  · rw [update_nextCurrencyReset]
    split
    · exact ((kept.currency running).add_period (kept.weeks running)).1
    · exact kept.currency running
  · rw [update_nextCurrencyReset]
    change time ≤ _
    split
    · next overdue => exact careful.currency overdue
    · next early => exact Int.not_lt.mp early

theorem kept_step (past : List (Run.Taken World Input Resets)) (w : World) (input : Input)
    (kept : Kept config past w) (allowed : Timely w input ∧ Careful config w input) :
    Kept config (past ++ [Run.take (step config) w input]) (step config w input).1 := by
  cases input with
  | start time => exact kept.start allowed.1 allowed.2
  | stop => exact kept.idle rfl fun _ _ _ => nofun
  | update time records =>
    by_cases running : w.running = true
    · have result : (step config w (.update time records)).1 =
          (w.update config time records).1 := congrArg Prod.fst (if_pos running)
      rw [result]
      exact kept.update running allowed.1 (allowed.2 running)
    have result : step config w (.update time records) = (w, {}) := if_neg running
    have idle := kept.idle (congrArg Prod.snd result) fun on => absurd on running
    have same : { w with running := false } = w := by
      rw [← (Bool.not_eq_true _).mp running]
    have stays : (step config w (.update time records)).1 = w := congrArg Prod.fst result
    rw [same] at idle
    rw [stays]
    exact idle

theorem OnSchedule.nil (offset : Int) (hour : Nat) (reset : Resets → Bool)
    (records : World → List Int) : OnSchedule offset hour reset records [] :=
  ⟨List.Pairwise.nil, fun _ here => absurd here not_mem_nil⟩

theorem Saved.new (offset : Int) (hour : Nat) : Saved offset hour {} [] 0 where
  fresh _ := ⟨rfl, rfl⟩
  occurs some := absurd rfl some
  near some := absurd rfl some
  past _ here := absurd here not_mem_nil
  records _ here := absurd here not_mem_nil

theorem kept_new (config : Config) : Kept config [] {} where
  sound := ⟨.nil _ _ _ _, .nil _ _ _ _, .nil _ _ _ _, fun _ here => absurd here not_mem_nil⟩
  dailies := ⟨fun _ here => absurd here not_mem_nil,
    fun _ here => absurd here not_mem_nil, fun _ here => absurd here not_mem_nil⟩
  randomBg := .new _ _
  guild := .new _ _
  dailyDue := nofun
  randomBgDue := nofun
  guildDue := nofun
  late := nofun
  weeks := nofun
  currency := nofun
  onTime := nofun

/-- Resets happen once a day and clear what came before, as long as no start finds quests from
before the last reset time and no update comes more than a period late. -/
theorem resets_on_schedule (config : Config) (inputs : List Input)
    (timely : ∀ t ∈ Run.trace (step config) {} inputs, Timely t.before t.input)
    (careful : ∀ t ∈ Run.trace (step config) {} inputs, Careful config t.before t.input) :
    Sound config (Run.trace (step config) {} inputs) :=
  (Run.history (step config) (fun w input => Timely w input ∧ Careful config w input)
    (Kept config) kept_step [] {} inputs (kept_new config)
    fun t there => ⟨timely t there, careful t there⟩).sound

def utc (currencyResetDay : Nat) : Config where
  offset := 0
  randomBgResetHour := 6
  guildResetHour := 6
  currencyResetHour := 3
  currencyResetDay
  currencyResetInterval := 7
  random_lt := by decide
  guild_lt := by decide
  currency_lt := by decide

/-- A quest and a battleground on a Friday, and the reset on the next morning. -/
theorem resets_on_schedule_friday :
    Sound (utc 5) (Run.trace (step (utc 5)) {}
      [.start 1728036000,
       .update 1728036010 { dailies := [1728036020], winners := [1728036020] },
       .update 1728108005 {}]) :=
  resets_on_schedule (utc 5) _
    (by
      intro t here
      simp only [Run.trace, mem_cons, not_mem_nil, or_false] at here
      rcases here with rfl | rfl | rfl
      · exact (by decide : (0 : Int) ≤ 1728036000)
      · exact ⟨by decide, by decide, by decide, by decide⟩
      · exact ⟨by decide, by decide, by decide, by decide⟩)
    (by
      intro t here
      simp only [Run.trace, mem_cons, not_mem_nil, or_false] at here
      rcases here with rfl | rfl | rfl
      · exact ⟨by decide, by decide, .inl (by decide), fun _ => by decide, fun _ => by decide,
          by decide, by decide⟩
      · exact fun _ => ⟨by decide, ⟨fun _ => by decide, fun _ => by decide⟩,
          ⟨fun _ => by decide, fun _ => by decide⟩, ⟨fun _ => by decide, fun _ => by decide⟩,
          fun _ => by decide⟩
      exact fun _ => ⟨by decide, ⟨fun _ => by decide, fun same => absurd same (by decide)⟩,
        ⟨fun _ => by decide, fun same => absurd same (by decide)⟩,
        ⟨fun _ => by decide, fun same => absurd same (by decide)⟩, fun _ => by decide⟩)

/-- A quest at eight in the evening, and a server that is down until ten in the morning. -/
def overnight : List Input :=
  [.start 1728036000, .update 1728036010 { dailies := [1728072000] }, .stop, .start 1728122400,
   .update 1728122410 {}, .update 1728158401 {}]

/-- A server that is started on a Friday, where the currencies are to be reset on Wednesdays. -/
def fridays : List Input :=
  [.start 1728036000, .update 1728036010 {}, .update 1728615590 {}, .update 1728615601 {}]

/-- The daily quests are reset twice a day, and the currencies on the day of the start. -/
theorem reset_twice_a_day :
    ¬(∀ inputs, (∀ t ∈ Run.trace (step (utc 3)) {} inputs, Timely t.before t.input) →
      Sound (utc 3) (Run.trace (step (utc 3)) {} inputs)) ∧
    ¬Sound (utc 3) (Run.trace (step (utc 3)) {} fridays) := by
  constructor
  · intro always
    have sound := always overnight (by
      intro t here
      simp only [overnight, Run.trace, mem_cons, not_mem_nil, or_false] at here
      rcases here with rfl | rfl | rfl | rfl | rfl | rfl
      · exact (by decide : (0 : Int) ≤ 1728036000)
      · exact ⟨by decide, by decide, by decide, by decide⟩
      · trivial
      · exact (by decide : (1728072000 : Int) ≤ 1728122400)
      · exact ⟨by decide, by decide, by decide, by decide⟩
      · exact ⟨by decide, by decide, by decide, by decide⟩)
    have times : resetTimes (·.daily) (Run.trace (step (utc 3)) {} overnight) =
        [1728122410, 1728158401] := by decide
    have once := sound.daily.once
    rw [times] at once
    obtain ⟨o, occurs, after, before⟩ := rel_of_pairwise_cons once mem_cons_self
    change (o + 0) % 86400 = 6 * 3600 at occurs
    omega
  · intro sound
    obtain ⟨o, _, isDay, after, before⟩ := sound.currency _
      (mem_cons_of_mem _ (mem_cons_of_mem _ (mem_cons_of_mem _ mem_cons_self)))
      (by decide) (by decide)
    change ((o + 0) / 86400 + 4) % 7 = 3 at isDay
    change 1728615590 ≤ o at after
    change o < 1728615601 at before
    omega

end OpenWoW.WorldResets
