import Mathlib
import OpenWoW.Lib.Run

/-! The resets that a world makes every day or every week, over starts and stops of the server. -/
namespace OpenWoW.WorldResets

/-- `DAY` in seconds. -/
def day : Int := 86400

structure Config where
  /-- Local time less UTC. -/
  offset : Int
  randomBgResetHour : Nat
  guildResetHour : Nat
  currencyResetHour : Nat
  currencyResetDay : Nat
  currencyResetInterval : Nat
  random_lt : randomBgResetHour < 24
  guild_lt : guildResetHour < 24
  currency_lt : currencyResetHour < 24

/-- `getIntConfig(CONFIG_CURRENCY_RESET_INTERVAL) * DAY`, on 32 bits without sign. -/
def Config.currencyPeriod (config : Config) : Int := config.currencyResetInterval * 86400 % 2 ^ 32

/-- What a column of 32 bits keeps. -/
def uint32 (value : Int) : Int := value % 2 ^ 32

/-- `mktime` of the local time with another hour. It pays no attention to `tm_wday`. -/
def dayResetTime (offset : Int) (hour : Nat) (curTime : Int) : Int :=
  (curTime + offset) / day * day + hour * 3600 - offset

/-- `tm_wday`, where Sunday is zero. -/
def weekday (offset time : Int) : Int := ((time + offset) / day + 4) % 7

/-- A daily reset whose next time is kept in a world state. -/
structure Schedule where
  /-- The world state, zero where there is none. -/
  stored : Int := 0
  next : Int := 0
  /-- When what the reset clears was recorded. -/
  records : List Int := []
  deriving DecidableEq, Repr

/-- `InitRandomBGResetTime` and `InitGuildResetTime`. -/
def Schedule.init (offset : Int) (hour : Nat) (curTime : Int) (s : Schedule) : Schedule :=
  let nextDayResetTime := dayResetTime offset hour curTime
  let nextDayResetTime :=
    if nextDayResetTime ≤ curTime then nextDayResetTime + day else nextDayResetTime
  let next := if s.stored < curTime then nextDayResetTime - day else nextDayResetTime
  { s with next, stored := if s.stored = 0 then uint32 next else s.stored }

/-- `ResetRandomBG` and `ResetGuildCap`. -/
def Schedule.reset (s : Schedule) : Schedule :=
  { stored := uint32 (s.next + day), next := s.next + day, records := [] }

/-- The newest row of `character_queststatus_daily`, zero where there is none. -/
def mostRecentQuestTime (dailies : List Int) : Int := uint32 (dailies.foldl max 0)

def lastResetTime (offset : Int) (hour : Nat) (curTime : Int) : Int :=
  let curDayResetTime := dayResetTime offset hour curTime
  if curTime < curDayResetTime then curDayResetTime - day else curDayResetTime

def initDailyQuestResetTime (offset : Int) (dailies : List Int) (curTime : Int) : Int :=
  let mostRecentQuestTime := mostRecentQuestTime dailies
  let curDayResetTime := dayResetTime offset 6 curTime
  let resetTime := lastResetTime offset 6 curTime
  if mostRecentQuestTime ≠ 0 ∧ mostRecentQuestTime ≤ resetTime then mostRecentQuestTime
  else if curDayResetTime ≤ curTime then curDayResetTime + day else curDayResetTime

def initCurrencyResetTime (config : Config) (stored curTime : Int) : Int :=
  let nextWeekResetTime := dayResetTime config.offset config.currencyResetHour curTime
  let nextWeekResetTime :=
    if nextWeekResetTime ≤ curTime then nextWeekResetTime + config.currencyPeriod
    else nextWeekResetTime
  if stored < curTime then nextWeekResetTime - config.currencyPeriod else nextWeekResetTime

structure World where
  running : Bool := false
  gameTime : Int := 0
  /-- The latest moment that has been seen. -/
  now : Int := 0
  nextDailyQuestReset : Int := 0
  /-- When the rows of `character_queststatus_daily` were recorded. -/
  dailies : List Int := []
  randomBg : Schedule := {}
  guild : Schedule := {}
  nextCurrencyReset : Int := 0
  storedCurrencyReset : Int := 0
  /-- The run has had a currency reset. -/
  currencyWasReset : Bool := false

/-- What the players do in one update, each at its time: daily quests, random battlegrounds that
they win, gains under the caps of guilds. -/
structure Records where
  dailies : List Int := []
  winners : List Int := []
  caps : List Int := []

inductive Input where
  | start (time : Int)
  | update (time : Int) (records : Records)
  | stop

structure Resets where
  daily : Bool := false
  randomBg : Bool := false
  guild : Bool := false
  currency : Bool := false
  deriving DecidableEq, Repr

def Input.time : Input → Int
  | .start time => time
  | .update time _ => time
  | .stop => 0

section

variable (config : Config)

def World.start (w : World) (time : Int) : World :=
  let next := initCurrencyResetTime config w.storedCurrencyReset time
  { w with
    running := true
    gameTime := time
    now := time
    nextDailyQuestReset := initDailyQuestResetTime config.offset w.dailies time
    randomBg := w.randomBg.init config.offset config.randomBgResetHour time
    guild := w.guild.init config.offset config.guildResetHour time
    nextCurrencyReset := next
    storedCurrencyReset := if w.storedCurrencyReset = 0 then uint32 next else w.storedCurrencyReset
    currencyWasReset := false }

/-- `Update` of a schedule, and what is recorded after it. -/
def Schedule.update (s : Schedule) (gameTime : Int) (records : List Int) : Schedule :=
  let s := if s.next < gameTime then s.reset else s
  { s with records := s.records ++ records }

def World.update (w : World) (time : Int) (records : Records) : World × Resets :=
  let resets : Resets :=
    { daily := w.nextDailyQuestReset < time
      randomBg := w.randomBg.next < time
      guild := w.guild.next < time
      currency := w.nextCurrencyReset < time }
  let nextCurrencyReset :=
    if resets.currency then w.nextCurrencyReset + config.currencyPeriod else w.nextCurrencyReset
  ({ w with
    gameTime := time
    now := (records.dailies ++ records.winners ++ records.caps).foldl max time
    nextDailyQuestReset :=
      if resets.daily then w.nextDailyQuestReset + day else w.nextDailyQuestReset
    dailies := (if resets.daily then [] else w.dailies) ++ records.dailies
    randomBg := w.randomBg.update time records.winners
    guild := w.guild.update time records.caps
    nextCurrencyReset
    storedCurrencyReset :=
      if resets.currency then uint32 nextCurrencyReset else w.storedCurrencyReset
    currencyWasReset := w.currencyWasReset || resets.currency }, resets)

def step (w : World) : Input → World × Resets
  | .start time => (w.start config time, {})
  | .update time records => if w.running then w.update config time records else (w, {})
  | .stop => ({ w with running := false }, {})

end

end OpenWoW.WorldResets
