import OpenWoW.BattlegroundRuns
import OpenWoW.Lib.Clock

/-! How long premade groups and rated teams wait. -/
namespace OpenWoW.Battlegrounds

open Option Function

variable {q : Queue}

/-- `getMSTime` after the server has run for this long. -/
def getMSTime (uptime : Nat) : UInt32 := UInt32.ofNat uptime

/-- Each group carries the clock of the time it joined, which is past. -/
def Stamped (q : Queue) (joined : Nat → Nat) (uptime : Nat) : Prop :=
  ∀ ginfo group, q.groups ginfo = some group →
    joined ginfo ≤ uptime ∧ group.joinTime = getMSTime (joined ginfo)

variable {joined : Nat → Nat} {uptime : Nat}

theorem Stamped.later {now : Nat} (stamped : Stamped q joined uptime)
    (passed : uptime ≤ now) : Stamped q joined now := by
  intro ginfo group stands
  obtain ⟨past, stamp⟩ := stamped ginfo group stands
  exact ⟨Nat.le_trans past passed, stamp⟩

theorem Stamped.addGroup (stamped : Stamped q joined uptime)
    {joining : Queue.Joining} (now : joining.now = getMSTime uptime) :
    Stamped (q.addGroup joining) (Function.update joined q.nextGroup uptime) uptime := by
  intro ginfo group stands
  by_cases new : ginfo = q.nextGroup
  · subst new
    rw [update_self]
    have entry : (q.addGroup joining).groups q.nextGroup = some _ := update_self _ _ _
    rw [entry] at stands
    rw [← some.inj stands]
    exact ⟨Nat.le_refl _, now⟩
  · rw [update_of_ne new]
    rw [addGroup_other joining new] at stands
    exact stamped ginfo group stands

variable (q)

variable {q}

/-- The clock has reached a timer, or has started again since the group joined. -/
def Settled (timer : UInt32) (since now : Nat) : Prop := Clock.Settled (2 ^ 32) timer.toNat since now

theorem joinTime_lt_iff (timer : UInt32) (since now : Nat) :
    getMSTime since < getMSTime now - timer ↔
      Clock.stale (2 ^ 32) timer.toNat (Clock.reading (2 ^ 32) since)
        (Clock.reading (2 ^ 32) now) := by
  have shown : ∀ time, (getMSTime time).toNat = Clock.reading (2 ^ 32) time := fun _ => rfl
  rw [UInt32.lt_iff_toNat_lt, UInt32.toNat_sub, shown, shown, Nat.add_comm]
  rfl

theorem waited_iff_settled (timer : UInt32) {since now : Nat} (order : since ≤ now) :
    (getMSTime since < getMSTime now - timer → timer.toNat < now - since) ↔
      Settled timer since now := by
  rw [joinTime_lt_iff]
  exact Clock.stale_sound_iff timer.toNat_lt order

/-- The group stands at the front of its premade list, is not invited, and looks old or is small. -/
def Ready (q : Queue) (bracketId : Fin maxBattlegroundBrackets) (minPlayersPerTeam : Nat)
    (timeBefore : UInt32) (team : Team) (ginfo : Nat) : Prop :=
  (q.queuedGroups ⟨bracketId, .premade, team⟩).head? = some ginfo ∧
    ∃ group, q.groups ginfo = some group ∧ group.isInvitedToBGInstanceGUID = 0 ∧
      (group.joinTime < timeBefore ∨ group.players.card < minPlayersPerTeam)

section

variable (q) (bracketId : Fin maxBattlegroundBrackets) (minPlayersPerTeam : Nat)
  (timeBefore : UInt32)

theorem releasePremade_groups (team : Team) :
    (q.releasePremade bracketId minPlayersPerTeam timeBefore team).groups = q.groups := by
  unfold Queue.releasePremade
  split
  · rfl
  split
  · rfl
  · split <;> rfl

theorem releasePremade_other {side team : Team} (apart : team ≠ side) :
    (q.releasePremade bracketId minPlayersPerTeam timeBefore side).queuedGroups
      ⟨bracketId, .premade, team⟩ = q.queuedGroups ⟨bracketId, .premade, team⟩ := by
  have elsewhere : (⟨bracketId, .premade, team⟩ : Place) ≠ ⟨bracketId, .premade, side⟩ :=
    fun same => apart (congrArg Place.team same)
  have kind : (⟨bracketId, .premade, team⟩ : Place) ≠ ⟨bracketId, .normal, side⟩ :=
    fun same => nomatch congrArg Place.kind same
  unfold Queue.releasePremade
  split
  · rfl
  split
  · rfl
  split
  · unfold Queue.pushFront Queue.setList
    simp only
    rw [update_of_ne elsewhere, update_of_ne kind]
  · rfl

theorem releasePremade_moves (team : Team) (ginfo : Nat) :
    ((q.releasePremade bracketId minPlayersPerTeam timeBefore team).queuedGroups
      ⟨bracketId, .premade, team⟩).count ginfo <
        (q.queuedGroups ⟨bracketId, .premade, team⟩).count ginfo ↔
      Ready q bracketId minPlayersPerTeam timeBefore team ginfo := by
  unfold Queue.releasePremade Ready
  cases list : q.queuedGroups ⟨bracketId, .premade, team⟩ with
  | nil => simp [list]
  | cons front rest =>
    simp only [List.head?_cons, some.injEq]
    cases here : q.groups front with
    | none =>
      simp only [list, Nat.lt_irrefl, false_iff, not_and]
      rintro rfl ⟨group, stands, _⟩
      rw [here] at stands
      cases stands
    | some group =>
      simp only
      split
      · rename_i ready
        simp only [Queue.setList, update_self, List.count_cons, beq_iff_eq]
        constructor
        · intro fewer
          by_cases same : front = ginfo
          · exact ⟨same, group, same ▸ here, ready⟩
          · rw [if_neg same] at fewer
            exact absurd fewer (Nat.lt_irrefl _)
        · rintro ⟨same, _⟩
          rw [if_pos same]
          exact Nat.lt_succ_self _
      · rename_i notReady
        simp only [list, Nat.lt_irrefl, false_iff, not_and]
        rintro rfl ⟨other, stands, ready⟩
        obtain rfl := some.inj (here.symm.trans stands)
        exact notReady ready

end

def PremadeMatch (q : Queue) (bracketId : Fin maxBattlegroundBrackets) : Prop :=
  ∀ team, ∃ ginfo ∈ q.queuedGroups ⟨bracketId, .premade, team⟩, q.invited ginfo = false

/-- `CheckPremadeMatch` moves the groups that are ready, unless a match is possible. -/
theorem checkPremadeMatch_moves (q : Queue) (update : Queue.Update)
    (minPlayersPerTeam maxPlayersPerTeam : Nat) (team : Team) (ginfo : Nat) :
    ((q.checkPremadeMatch update minPlayersPerTeam maxPlayersPerTeam).1.queuedGroups
      ⟨update.bracketId, .premade, team⟩).count ginfo <
        (q.queuedGroups ⟨update.bracketId, .premade, team⟩).count ginfo ↔
      ¬ PremadeMatch q update.bracketId ∧ Ready q update.bracketId minPlayersPerTeam
        (update.now - update.premadeGroupWaitForMatch) team ginfo := by
  have found : ∀ side, (∃ group, (q.queuedGroups ⟨update.bracketId, .premade, side⟩).find?
      (!q.invited ·) = some group) ↔
        ∃ ginfo ∈ q.queuedGroups ⟨update.bracketId, .premade, side⟩, q.invited ginfo = false := by
    intro side
    rw [← isSome_iff_exists, List.find?_isSome]
    simp
  unfold Queue.checkPremadeMatch
  simp only
  split
  · rename_i ali horde aliFound hordeFound
    have possible : PremadeMatch q update.bracketId := by
      intro side
      cases side with
      | alliance => exact (found .alliance).mp ⟨ali, aliFound⟩
      | horde => exact (found .horde).mp ⟨horde, hordeFound⟩
    exact ⟨fun fewer => absurd fewer (Nat.lt_irrefl _), fun moves => absurd possible moves.1⟩
  · rename_i alone
    have impossible : ¬ PremadeMatch q update.bracketId := by
      intro possible
      obtain ⟨ali, aliFound⟩ := (found .alliance).mpr (possible .alliance)
      obtain ⟨horde, hordeFound⟩ := (found .horde).mpr (possible .horde)
      exact alone ali horde aliFound hordeFound
    simp only [impossible, not_false_eq_true, true_and]
    generalize update.now - update.premadeGroupWaitForMatch = timeBefore
    cases team with
    | alliance =>
      rw [releasePremade_other _ _ _ _ (by decide)]
      exact releasePremade_moves q _ _ _ .alliance ginfo
    | horde =>
      have same : ((q.releasePremade update.bracketId minPlayersPerTeam timeBefore
          .alliance).queuedGroups ⟨update.bracketId, .premade, .horde⟩) =
            q.queuedGroups ⟨update.bracketId, .premade, .horde⟩ :=
        releasePremade_other q _ _ _ (by decide)
      rw [← same, releasePremade_moves]
      unfold Ready
      rw [same, releasePremade_groups]

/-- A group leaves its premade list only if it has waited longer than the timer or is too small. -/
def PremadeWaits (q : Queue) (joined : Nat → Nat) (uptime : Nat) (update : Queue.Update)
    (minPlayersPerTeam maxPlayersPerTeam : Nat) : Prop :=
  ∀ team ginfo,
    ((q.checkPremadeMatch update minPlayersPerTeam maxPlayersPerTeam).1.queuedGroups
      ⟨update.bracketId, .premade, team⟩).count ginfo <
        (q.queuedGroups ⟨update.bracketId, .premade, team⟩).count ginfo →
    ∃ group, q.groups ginfo = some group ∧
      (update.premadeGroupWaitForMatch.toNat < uptime - joined ginfo ∨
        group.players.card < minPlayersPerTeam)

/-- A match is possible, or the clock is settled for each large enough group at the front. -/
def PremadeSettled (q : Queue) (joined : Nat → Nat) (uptime : Nat) (update : Queue.Update)
    (minPlayersPerTeam : Nat) : Prop :=
  PremadeMatch q update.bracketId ∨ ∀ team ginfo group,
    (q.queuedGroups ⟨update.bracketId, .premade, team⟩).head? = some ginfo →
    q.groups ginfo = some group → group.isInvitedToBGInstanceGUID = 0 →
    minPlayersPerTeam ≤ group.players.card →
    Settled update.premadeGroupWaitForMatch (joined ginfo) uptime

variable {update : Queue.Update}

theorem premadeWaits_iff (stamped : Stamped q joined uptime) (now : update.now = getMSTime uptime)
    (minPlayersPerTeam maxPlayersPerTeam : Nat) :
    PremadeWaits q joined uptime update minPlayersPerTeam maxPlayersPerTeam ↔
      PremadeSettled q joined uptime update minPlayersPerTeam := by
  unfold PremadeWaits PremadeSettled
  simp only [checkPremadeMatch_moves, now]
  constructor
  · intro waits
    by_cases possible : PremadeMatch q update.bracketId
    · exact Or.inl possible
    refine Or.inr fun team ginfo group front stands uninvited large => ?_
    obtain ⟨past, stamp⟩ := stamped ginfo group stands
    rw [← waited_iff_settled _ past]
    intro stale
    rw [← stamp] at stale
    obtain ⟨other, there, waited | small⟩ := waits team ginfo
      ⟨possible, front, group, stands, uninvited, Or.inl stale⟩
    · exact waited
    · obtain rfl := some.inj (stands.symm.trans there)
      omega
  · rintro (possible | settled) team ginfo ⟨impossible, front, group, stands, uninvited, ready⟩
    · exact absurd possible impossible
    · refine ⟨group, stands, ?_⟩
      obtain ⟨past, stamp⟩ := stamped ginfo group stands
      rcases Nat.lt_or_ge group.players.card minPlayersPerTeam with small | large
      · exact Or.inr small
      have stale := ready.resolve_right (Nat.not_lt.mpr large)
      rw [stamp] at stale
      exact Or.inl ((waited_iff_settled _ past).mpr
        (settled team ginfo group front stands uninvited large) stale)

structure RatedMatch where
  arenaRating : UInt32
  aTeam : Nat
  hTeam : Nat
  instanceId : Nat
  deriving DecidableEq, Repr

def Queue.ratingFor (q : Queue) (update : Queue.Update) : Option UInt32 :=
  if update.arenaRating = 0 then q.waitingRating update.bracketId else some update.arenaRating

def Queue.canPlayFor (q : Queue) (update : Queue.Update) (arenaRating : UInt32) : Nat → Bool :=
  q.canPlay
    (if arenaRating ≤ update.maxRatingDifference then 0
      else arenaRating - update.maxRatingDifference)
    (arenaRating + update.maxRatingDifference) (update.now - update.ratingDiscardTimer)

def Queue.ratedMatch (q : Queue) (update : Queue.Update) : Option RatedMatch :=
  match q.ratingFor update with
  | none => none
  | some arenaRating =>
    match q.findTeams update.bracketId (q.canPlayFor update arenaRating), update.newMatch with
    | some (aTeam, hTeam), some instanceId => some ⟨arenaRating, aTeam, hTeam, instanceId⟩
    | _, _ => none

def FirstOf (p : Nat → Bool) (list : List Nat) (ginfo : Nat) : Prop :=
  ∃ before after, list = before ++ ginfo :: after ∧ p ginfo = true ∧ ∀ other ∈ before, p other = false

theorem find_iff_firstOf (p : Nat → Bool) (list : List Nat) (ginfo : Nat) :
    list.find? p = some ginfo ↔ FirstOf p list ginfo := by
  rw [List.find?_eq_some_iff_append]
  constructor
  · rintro ⟨holds, before, after, eq, fails⟩
    exact ⟨before, after, eq, holds, fun other there => by simpa using fails other there⟩
  · rintro ⟨before, after, eq, holds, fails⟩
    exact ⟨holds, before, after, eq, fun other there => by simp [fails other there]⟩

def Queue.opposes (q : Queue) (canPlay : Nat → Bool) (first ginfo : Nat) : Bool :=
  canPlay ginfo && ((q.groups first).map (·.arenaTeamId)) != ((q.groups ginfo).map (·.arenaTeamId))

/-- The teams that come first: one of each side, or two arena teams of the only side with any. -/
inductive Opponents (q : Queue) (bracketId : Fin maxBattlegroundBrackets) (canPlay : Nat → Bool) :
    Nat → Nat → Prop where
  | sides {aTeam hTeam : Nat}
      (ali : FirstOf canPlay (q.queuedGroups ⟨bracketId, .premade, .alliance⟩) aTeam)
      (horde : FirstOf canPlay (q.queuedGroups ⟨bracketId, .premade, .horde⟩) hTeam) :
      Opponents q bracketId canPlay aTeam hTeam
  | oneSide {first second : Nat} (side : Team)
      (nobody : ∀ ginfo ∈ q.queuedGroups ⟨bracketId, .premade, side.other⟩, canPlay ginfo = false)
      (before after : List Nat)
      (list : q.queuedGroups ⟨bracketId, .premade, side⟩ = before ++ first :: after)
      (unable : ∀ ginfo ∈ before, canPlay ginfo = false) (able : canPlay first = true)
      (opponent : FirstOf (q.opposes canPlay first) (first :: after) second) :
      Opponents q bracketId canPlay first second

theorem findOpponent_iff (q : Queue) (canPlay : Nat → Bool) {first : Nat} (second : Nat)
    {before after : List Nat} (unable : ∀ ginfo ∈ before, canPlay ginfo = false)
    (able : canPlay first = true) :
    q.findOpponent canPlay first (before ++ first :: after) = some second ↔
      FirstOf (q.opposes canPlay first) (first :: after) second := by
  have skipped : (before ++ first :: after).dropWhile (· ≠ first) = first :: after := by
    rw [List.dropWhile_append_of_pos]
    · simp
    · intro ginfo there
      simp only [ne_eq, decide_not, Bool.not_eq_eq_eq_not, Bool.not_true, decide_eq_false_iff_not]
      rintro rfl
      rw [unable ginfo there] at able
      cases able
  unfold Queue.findOpponent
  rw [skipped, ← find_iff_firstOf]
  rfl

theorem findTeams_iff (q : Queue) (bracketId : Fin maxBattlegroundBrackets) (canPlay : Nat → Bool)
    (aTeam hTeam : Nat) :
    q.findTeams bracketId canPlay = some (aTeam, hTeam) ↔
      Opponents q bracketId canPlay aTeam hTeam := by
  have nobody : ∀ side, (q.queuedGroups ⟨bracketId, .premade, side⟩).find? canPlay = none ↔
      ∀ ginfo ∈ q.queuedGroups ⟨bracketId, .premade, side⟩, canPlay ginfo = false := by
    intro side
    simp [List.find?_eq_none]
  have alone : ∀ side first,
      (q.queuedGroups ⟨bracketId, .premade, side.other⟩).find? canPlay = none →
      (q.queuedGroups ⟨bracketId, .premade, side⟩).find? canPlay = some first →
      ((q.findOpponent canPlay first (q.queuedGroups ⟨bracketId, .premade, side⟩)).map
        (first, ·) = some (aTeam, hTeam) ↔ Opponents q bracketId canPlay aTeam hTeam) := by
    intro side first none_ found
    obtain ⟨before, after, list, able, unable⟩ := (find_iff_firstOf _ _ _).mp found
    rw [map_eq_some_iff]
    constructor
    · rintro ⟨second, opponent, eq⟩
      obtain ⟨rfl, rfl⟩ := Prod.mk.inj eq
      rw [list, findOpponent_iff q canPlay _ unable able] at opponent
      exact .oneSide side ((nobody _).mp none_) before after list unable able opponent
    · intro opponents
      cases opponents with
      | sides ali horde =>
        rw [← find_iff_firstOf] at ali horde
        cases side with
        | alliance => exact nomatch none_.symm.trans horde
        | horde => exact nomatch none_.symm.trans ali
      | oneSide other nobody_ before_ after_ list_ unable_ able_ opponent =>
        have stands := (find_iff_firstOf canPlay _ _).mpr ⟨before_, after_, list_, able_, unable_⟩
        have same : other = side := by
          by_contra apart
          have opposite : other = side.other := by cases other <;> cases side <;> trivial
          rw [opposite] at stands
          exact nomatch none_.symm.trans stands
        subst same
        obtain rfl := some.inj (found.symm.trans stands)
        refine ⟨hTeam, ?_, rfl⟩
        rw [list_]
        exact (findOpponent_iff q canPlay _ unable_ able_).mpr opponent
  unfold Queue.findTeams
  simp only
  split
  · rename_i ali horde aliFound hordeFound
    constructor
    · intro eq
      obtain ⟨rfl, rfl⟩ := Prod.mk.inj (some.inj eq)
      exact .sides ((find_iff_firstOf _ _ _).mp aliFound) ((find_iff_firstOf _ _ _).mp hordeFound)
    · intro opponents
      cases opponents with
      | sides aliFirst hordeFirst =>
        rw [← find_iff_firstOf] at aliFirst hordeFirst
        rw [aliFound] at aliFirst
        rw [hordeFound] at hordeFirst
        rw [some.inj aliFirst, some.inj hordeFirst]
      | oneSide side nobody_ _ _ _ _ _ _ =>
        rw [← nobody] at nobody_
        cases side with
        | alliance => exact nomatch nobody_.symm.trans hordeFound
        | horde => exact nomatch nobody_.symm.trans aliFound
  · rename_i first aliFound hordeNone
    exact alone .alliance first hordeNone aliFound
  · rename_i first aliNone hordeFound
    exact alone .horde first aliNone hordeFound
  · rename_i aliNone hordeNone
    constructor
    · intro eq
      cases eq
    · intro opponents
      cases opponents with
      | sides aliFirst _ =>
        rw [← find_iff_firstOf] at aliFirst
        exact nomatch aliNone.symm.trans aliFirst
      | oneSide side _ before after list unable able _ =>
        have stands := (find_iff_firstOf canPlay _ _).mpr ⟨before, after, list, able, unable⟩
        cases side with
        | alliance => exact nomatch aliNone.symm.trans stands
        | horde => exact nomatch hordeNone.symm.trans stands

theorem Opponents.able {q : Queue} {bracketId : Fin maxBattlegroundBrackets} {canPlay : Nat → Bool}
    {aTeam hTeam : Nat} (opponents : Opponents q bracketId canPlay aTeam hTeam) :
    canPlay aTeam = true ∧ canPlay hTeam = true := by
  cases opponents with
  | sides ali horde =>
    obtain ⟨_, _, _, aPlays, _⟩ := ali
    obtain ⟨_, _, _, hPlays, _⟩ := horde
    exact ⟨aPlays, hPlays⟩
  | oneSide _ _ _ _ _ _ able opponent =>
    obtain ⟨_, _, _, opposes, _⟩ := opponent
    exact ⟨able, (Bool.and_eq_true _ _ ▸ opposes).1⟩

def InRange (maxRatingDifference arenaRating rating : UInt32) : Prop :=
  arenaRating.toNat ≤ rating.toNat + maxRatingDifference.toNat ∧
    rating.toNat ≤ arenaRating.toNat + maxRatingDifference.toNat

theorem inRange_of_bounds {maxRatingDifference arenaRating rating : UInt32}
    (above : (if arenaRating ≤ maxRatingDifference then 0
      else arenaRating - maxRatingDifference) ≤ rating)
    (below : rating ≤ arenaRating + maxRatingDifference) :
    InRange maxRatingDifference arenaRating rating := by
  have sum := UInt32.toNat_add arenaRating maxRatingDifference
  rw [UInt32.le_iff_toNat_le, sum] at below
  constructor
  · split at above
    · rename_i small
      rw [UInt32.le_iff_toNat_le] at small
      omega
    · rename_i large
      rw [UInt32.le_iff_toNat_le] at large
      rw [UInt32.le_iff_toNat_le, UInt32.toNat_sub_of_le _ _ (by
        rw [UInt32.le_iff_toNat_le]; omega)] at above
      omega
  · exact Nat.le_trans below (Nat.mod_le _ _)

/-- Two teams are only paired if each one's rating is in range or it has waited longer than the
timer. -/
def RatedWaits (q : Queue) (joined : Nat → Nat) (uptime : Nat) (update : Queue.Update) : Prop :=
  ∀ made, q.ratedMatch update = some made → ∀ ginfo, ginfo = made.aTeam ∨ ginfo = made.hTeam →
    ∃ group, q.groups ginfo = some group ∧
      (InRange update.maxRatingDifference made.arenaRating group.arenaMatchmakerRating ∨
        update.ratingDiscardTimer.toNat < uptime - joined ginfo)

/-- The clock is settled for each of the teams that come first and are out of range. -/
def RatedSettled (q : Queue) (joined : Nat → Nat) (uptime : Nat) (update : Queue.Update) : Prop :=
  update.newMatch = none ∨ ∀ arenaRating, q.ratingFor update = some arenaRating →
    ∀ aTeam hTeam, Opponents q update.bracketId (q.canPlayFor update arenaRating) aTeam hTeam →
    ∀ ginfo, ginfo = aTeam ∨ ginfo = hTeam → ∀ group, q.groups ginfo = some group →
    ¬ InRange update.maxRatingDifference arenaRating group.arenaMatchmakerRating →
    Settled update.ratingDiscardTimer (joined ginfo) uptime

theorem ratedMatch_iff (q : Queue) (update : Queue.Update) (made : RatedMatch) :
    q.ratedMatch update = some made ↔
      q.ratingFor update = some made.arenaRating ∧ update.newMatch = some made.instanceId ∧
        Opponents q update.bracketId (q.canPlayFor update made.arenaRating) made.aTeam
          made.hTeam := by
  unfold Queue.ratedMatch
  simp only [← findTeams_iff]
  obtain ⟨arenaRating, aTeam, hTeam, instanceId⟩ := made
  cases rating : q.ratingFor update with
  | none => simp
  | some rated =>
    simp only [some.injEq]
    generalize chosen : q.findTeams update.bracketId (q.canPlayFor update rated) = found
    constructor
    · intro eq
      split at eq
      · rename_i new
        rw [some.injEq, RatedMatch.mk.injEq] at eq
        obtain ⟨rfl, rfl, rfl, rfl⟩ := eq
        exact ⟨rfl, new, chosen⟩
      · cases eq
    · rintro ⟨rfl, new, teams⟩
      rw [← chosen, teams, new]

theorem canPlayFor_group {q : Queue} {arenaRating : UInt32} {ginfo : Nat}
    (able : q.canPlayFor update arenaRating ginfo = true) :
    ∃ group, q.groups ginfo = some group ∧
      (InRange update.maxRatingDifference arenaRating group.arenaMatchmakerRating ∨
        group.joinTime < update.now - update.ratingDiscardTimer) := by
  unfold Queue.canPlayFor Queue.canPlay at able
  cases stands : q.groups ginfo with
  | none => simp [stands] at able
  | some group =>
    refine ⟨group, rfl, ?_⟩
    simp only [stands, any_some, Bool.and_eq_true, Bool.or_eq_true, decide_eq_true_eq] at able
    rcases able.2 with ⟨above, below⟩ | old
    · exact Or.inl (inRange_of_bounds above below)
    · exact Or.inr old

theorem ratedWaits_iff (stamped : Stamped q joined uptime) (now : update.now = getMSTime uptime) :
    RatedWaits q joined uptime update ↔ RatedSettled q joined uptime update := by
  unfold RatedWaits RatedSettled
  constructor
  · intro waits
    cases new : update.newMatch with
    | none => exact Or.inl rfl
    | some instanceId =>
      refine Or.inr fun arenaRating rating aTeam hTeam opponents ginfo one group stands out => ?_
      obtain ⟨other, there, inside | waited⟩ := waits ⟨arenaRating, aTeam, hTeam, instanceId⟩
        ((ratedMatch_iff _ _ _).mpr ⟨rating, new, opponents⟩) ginfo one
      · obtain rfl := some.inj (stands.symm.trans there)
        exact absurd inside out
      · exact (waited_iff_settled _ (stamped ginfo group stands).1).mp fun _ => waited
  · intro settled made isMade ginfo one
    obtain ⟨rating, new, opponents⟩ := (ratedMatch_iff _ _ _).mp isMade
    have able : q.canPlayFor update made.arenaRating ginfo = true := by
      rcases one with rfl | rfl
      · exact opponents.able.1
      · exact opponents.able.2
    obtain ⟨group, stands, inside | old⟩ := canPlayFor_group able
    · exact ⟨group, stands, Or.inl inside⟩
    · refine ⟨group, stands, ?_⟩
      by_cases inside : InRange update.maxRatingDifference made.arenaRating
          group.arenaMatchmakerRating
      · exact Or.inl inside
      obtain ⟨past, stamp⟩ := stamped ginfo group stands
      rw [stamp, now] at old
      rcases settled with none_ | settled
      · exact nomatch none_.symm.trans new
      · exact Or.inr ((waited_iff_settled _ past).mpr
          (settled _ rating _ _ opponents ginfo one group stands inside) old)

/-- At every uptime, groups are moved and paired by their true waiting times exactly where the clock
is settled for those that come first. -/
theorem waiting_times_iff {joined : Nat → Nat} {uptime : Nat} (stamped : Stamped q joined uptime)
    (update : Queue.Update) (now : update.now = getMSTime uptime)
    (minPlayersPerTeam maxPlayersPerTeam : Nat) :
    (PremadeWaits q joined uptime update minPlayersPerTeam maxPlayersPerTeam ↔
      PremadeSettled q joined uptime update minPlayersPerTeam) ∧
    (RatedWaits q joined uptime update ↔ RatedSettled q joined uptime update) :=
  ⟨premadeWaits_iff stamped now minPlayersPerTeam maxPlayersPerTeam, ratedWaits_iff stamped now⟩

section

local instance someBrackets : NeZero maxBattlegroundBrackets := ⟨by decide⟩

/-- An update of the bracket of rated teams, with the timers at their defaults. -/
def Queue.Update.early (uptime : Nat) : Queue.Update where
  bgTypeId := 6
  bracketId := 15
  arenaType := 2
  isRated := true
  arenaRating := 1500
  now := getMSTime uptime
  freeSlotQueue := []
  battlegroundTemplate := none
  hasBracketEntry := true
  invitationType := 0
  premadeGroupWaitForMatch := 1800000
  isTesting := false
  isArenaTesting := false
  maxRatingDifference := 150
  ratingDiscardTimer := 600000
  newPremade := none
  newMatch := some 1

end

/-- Two rated teams far apart, which joined a second after the start. -/
def Queue.early : Queue :=
  (Queue.new.addGroup .pair).addGroup
    { Joining.pair with members := [9, 10], team := .alliance, matchmakerRating := 2500,
                        arenaTeamId := 4 }

/-- A premade group of two, which joined a second after the start. -/
def Queue.earlyPremade : Queue :=
  Queue.new.addGroup { Joining.pair with isRated := false, isPremade := true }

theorem early_stamped (later : 1000 ≤ uptime) :
    Stamped Queue.early (fun _ => 1000) uptime ∧
      Stamped Queue.earlyPremade (fun _ => 1000) uptime := by
  have new : Stamped Queue.new (fun _ => 1000) 1000 := fun _ _ stands => nomatch stands
  have joins : ∀ q joining, joining.now = getMSTime 1000 → Stamped q (fun _ => 1000) 1000 →
      Stamped (q.addGroup joining) (fun _ => 1000) 1000 := by
    intro q joining now stamped
    have added := stamped.addGroup now
    have same := update_eq_self q.nextGroup fun _ : Nat => 1000
    rwa [same] at added
  exact ⟨(joins _ _ rfl (joins _ _ rfl new)).later later, (joins _ _ rfl new).later later⟩

theorem waiting_times_iff_early :
    PremadeWaits Queue.early (fun _ => 1000) 700000 (.early 700000) 2 2 ∧
      RatedWaits Queue.early (fun _ => 1000) 700000 (.early 700000) := by
  have both := waiting_times_iff (early_stamped (by decide)).1 (.early 700000) rfl 2 2
  constructor
  · apply both.1.mpr
    left
    intro team
    cases team with
    | alliance => exact ⟨1, by decide, by decide⟩
    | horde => exact ⟨0, by decide, by decide⟩
  · apply both.2.mpr
    right
    intros
    left
    decide

/-- Two seconds after the start both timers are taken to have passed. -/
theorem early_clock_mistaken :
    (Stamped Queue.earlyPremade (fun _ => 1000) 2000 ∧
      ¬ PremadeWaits Queue.earlyPremade (fun _ => 1000) 2000 (.early 2000) 2 2) ∧
    (Stamped Queue.early (fun _ => 1000) 2000 ∧
      ¬ RatedWaits Queue.early (fun _ => 1000) 2000 (.early 2000)) := by
  refine ⟨⟨(early_stamped (by decide)).2, fun waits => ?_⟩,
    ⟨(early_stamped (by decide)).1, fun waits => ?_⟩⟩
  · obtain ⟨group, stands, waited | small⟩ := waits .horde 0 (by decide +kernel)
    · exact absurd waited (by decide)
    · rw [← some.inj stands] at small
      exact absurd small (by decide)
  · have made : Queue.early.ratedMatch (.early 2000) = some ⟨1500, 1, 0, 1⟩ := by decide +kernel
    obtain ⟨group, stands, inside | waited⟩ := waits _ made 1 (Or.inl rfl)
    · rw [← some.inj stands] at inside
      exact absurd inside.2 (by decide)
    · exact absurd waited (by decide)

end OpenWoW.Battlegrounds
