import Mathlib.Data.List.Basic
import Mathlib.Order.Basic

/-! The two cursors with which arena teams are loaded. -/
namespace OpenWoW.ArenaTeams

open List

/-- A row of `arena_team`. -/
structure TeamRow where
  arenaTeamId : Nat
  name : String
  captainGuid : Nat
  type : Nat
deriving DecidableEq

/-- A row of `arena_team_member` in its join with the statistics. -/
structure MemberRow where
  arenaTeamId : Nat
  guid : Nat
  weekGames : Nat
  weekWins : Nat
  seasonGames : Nat
  seasonWins : Nat
  personalRating : Nat
  matchMakerRating : Nat
deriving DecidableEq

/-- What the join finds in `characters`: no name where there is no character. -/
structure Character where
  name : String
  class_ : Nat

structure ArenaTeamMember where
  guid : Nat
  weekGames : Nat
  weekWins : Nat
  seasonGames : Nat
  seasonWins : Nat
  name : String
  class_ : Nat
  personalRating : Nat
  matchMakerRating : Nat

structure ArenaTeam where
  teamId : Nat
  teamName : String
  captainGuid : Nat
  type : Nat
  members : List ArenaTeamMember

inductive Statement
  | delArenaTeamMember (teamId guid : Nat)
  | delArenaTeam (teamId : Nat)
  | delArenaTeamMembers (teamId : Nat)

def Statement.dropsTeam (row : TeamRow) : Statement → Bool
  | .delArenaTeam teamId => row.arenaTeamId == teamId
  | _ => false

def Statement.dropsMember (row : MemberRow) : Statement → Bool
  | .delArenaTeamMember teamId guid => row.arenaTeamId == teamId && row.guid == guid
  | .delArenaTeamMembers teamId => row.arenaTeamId == teamId
  | .delArenaTeam _ => false

def loadArenaTeamFromDB (row : TeamRow) : ArenaTeam :=
  ⟨row.arenaTeamId, row.name, row.captainGuid, row.type, []⟩

def ArenaTeam.delMember (guid : Nat) (team : ArenaTeam) : ArenaTeam :=
  { team with members := team.members.eraseP (·.guid == guid) }

section

variable (characters : Nat → Character)

def MemberRow.member (row : MemberRow) : ArenaTeamMember where
  guid := row.guid
  weekGames := row.weekGames
  weekWins := row.weekWins
  seasonGames := row.seasonGames
  seasonWins := row.seasonWins
  name := (characters row.guid).name
  class_ := (characters row.guid).class_
  personalRating := row.personalRating
  matchMakerRating := if 0 < row.matchMakerRating then row.matchMakerRating else 1500

/-- The loop of `LoadMembersFromDB`: the team, whether its captain was among the members, the rows
that were read, those the cursor leaves, and the statements. -/
def loadMembers (team : ArenaTeam) (captainPresentInTeam : Bool) : List MemberRow →
    ArenaTeam × Bool × List MemberRow × List MemberRow × List Statement
  | [] => (team, captainPresentInTeam, [], [], [])
  | row :: rows =>
    if team.teamId < row.arenaTeamId then (team, captainPresentInTeam, [], row :: rows, [])
    else if (row.member characters).name = "" then
      let (team', present, read, left, statements) :=
        loadMembers (team.delMember row.guid) captainPresentInTeam rows
      (team', present, row :: read, left, .delArenaTeamMember team.teamId row.guid :: statements)
    else
      let (team', present, read, left, statements) :=
        loadMembers { team with members := team.members ++ [row.member characters] }
          (captainPresentInTeam || row.guid == team.captainGuid) rows
      (team', present, row :: read, left, statements)

structure Loaded where
  arenaTeamStore : Nat → Option ArenaTeam
  /-- The teams that read member rows, with the rows. -/
  reads : List (Nat × MemberRow)
  statements : List Statement

def ArenaTeam.disband (team : ArenaTeam) : List Statement :=
  [.delArenaTeam team.teamId, .delArenaTeamMembers team.teamId]

/-- The loop of `LoadArenaTeams`. -/
def loadArenaTeams (loaded : Loaded) : List TeamRow → List MemberRow → Loaded
  | [], _ => loaded
  | row :: teams, rows =>
    let (team, present, read, left, statements) :=
      loadMembers characters (loadArenaTeamFromDB row) false rows
    let reads := loaded.reads ++ read.map (team.teamId, ·)
    if team.members.isEmpty || !present then
      loadArenaTeams ⟨fun id => if id = team.teamId then none else loaded.arenaTeamStore id, reads,
        loaded.statements ++ statements ++ team.disband⟩ teams left
    else
      loadArenaTeams ⟨fun id => if id = team.teamId then some team else loaded.arenaTeamStore id, reads,
        loaded.statements ++ statements⟩ teams left

def MemberRow.named (row : MemberRow) : Bool := (characters row.guid).name ≠ ""

def TeamRow.captained (rows : List MemberRow) (team : TeamRow) : Bool :=
  rows.any fun row => row.arenaTeamId == team.arenaTeamId && row.guid == team.captainGuid &&
    row.named characters

variable {characters}

theorem loadMembers_own {team : ArenaTeam} (known : ∀ member ∈ team.members, member.name ≠ "" ∧
      member.name = (characters member.guid).name) {own rest : List MemberRow} (present : Bool)
    (same : ∀ row ∈ own, row.arenaTeamId = team.teamId)
    (later : ∀ row ∈ rest, team.teamId < row.arenaTeamId) :
    loadMembers characters team present (own ++ rest) =
      ({ team with members := team.members ++
        (own.filter (·.named characters)).map (·.member characters) },
        present || own.any (fun row => row.guid == team.captainGuid && row.named characters), own, rest,
        (own.filter (!·.named characters)).map fun row => .delArenaTeamMember team.teamId row.guid) := by
  induction own generalizing team present with
  | nil =>
    cases rest with
    | nil => simp [loadMembers]
    | cons row rest =>
      rw [forall_mem_cons] at later
      simp [loadMembers, later.1]
  | cons row own ih =>
    rw [forall_mem_cons] at same
    rw [cons_append, loadMembers, if_neg (by omega)]
    by_cases missing : (row.member characters).name = ""
    · have nameless : (characters row.guid).name = "" := missing
      have kept : team.delMember row.guid = team := by
        have apart : ∀ member ∈ team.members, ¬ (member.guid == row.guid) = true := by
          intro member listed alike
          obtain ⟨name, found⟩ := known member listed
          rw [beq_iff_eq.mp alike, nameless] at found
          exact name found
        rw [ArenaTeam.delMember, eraseP_of_forall_not apart]
      rw [if_pos missing, kept, ih known present same.2 later]
      simp [MemberRow.named, nameless]
    · have named : ¬ (characters row.guid).name = "" := missing
      have joined : ∀ member ∈ team.members ++ [row.member characters],
          member.name ≠ "" ∧ member.name = (characters member.guid).name := by
        intro member listed
        rcases mem_append.mp listed with old | new
        · exact known member old
        · rw [mem_singleton.mp new]
          exact ⟨missing, rfl⟩
      have rest_ := @ih { team with members := team.members ++ [row.member characters] } joined
        (present || row.guid == team.captainGuid) same.2 later
      rw [if_neg missing, rest_]
      simp [MemberRow.named, named, Bool.or_assoc]

theorem split_rows (id : Nat) {rows : List MemberRow}
    (sorted : rows.Pairwise (·.arenaTeamId ≤ ·.arenaTeamId)) : ∃ own rest, rows = own ++ rest ∧
      (∀ row ∈ own, row.arenaTeamId ≤ id) ∧ ∀ row ∈ rest, id < row.arenaTeamId := by
  induction rows with
  | nil => exact ⟨[], [], rfl, nofun, nofun⟩
  | cons row rows ih =>
    rw [pairwise_cons] at sorted
    by_cases beyond : id < row.arenaTeamId
    · refine ⟨[], row :: rows, rfl, nofun, forall_mem_cons.mpr ⟨beyond, fun next listed => ?_⟩⟩
      exact Nat.lt_of_lt_of_le beyond (sorted.1 next listed)
    · obtain ⟨own, rest, rfl, early, late⟩ := ih sorted.2
      exact ⟨row :: own, rest, rfl, forall_mem_cons.mpr ⟨by omega, early⟩, late⟩

def Statement.teamId : Statement → Nat
  | .delArenaTeamMember teamId _ | .delArenaTeam teamId | .delArenaTeamMembers teamId => teamId

theorem Statement.of_dropsTeam {statement : Statement} {team : TeamRow}
    (drops : statement.dropsTeam team = true) : team.arenaTeamId = statement.teamId := by
  cases statement <;> simp_all [dropsTeam, teamId]

theorem Statement.of_dropsMember {statement : Statement} {row : MemberRow}
    (drops : statement.dropsMember row = true) : row.arenaTeamId = statement.teamId := by
  cases statement <;> simp_all [dropsMember, teamId]

def TeamRow.loaded (characters : Nat → Character) (rows : List MemberRow) (team : TeamRow) : ArenaTeam :=
  { loadArenaTeamFromDB team with
    members := (rows.filter fun row => row.arenaTeamId == team.arenaTeamId && row.named characters).map
      (·.member characters) }

structure Complete (characters : Nat → Character) (teams : List TeamRow) (rows : List MemberRow)
    (before after : Loaded) : Prop where
  reads : after.reads = before.reads ++ rows.map fun row => (row.arenaTeamId, row)
  store : ∀ id, after.arenaTeamStore id = match teams.find? (·.arenaTeamId == id) with
    | none => before.arenaTeamStore id
    | some team => if team.captained characters rows then some (team.loaded characters rows) else none
  statements : ∃ more, after.statements = before.statements ++ more ∧
    (∀ statement ∈ more, ∃ team ∈ teams, statement.teamId = team.arenaTeamId) ∧
    (∀ team ∈ teams, more.any (·.dropsTeam team) = !team.captained characters rows) ∧
    ∀ row ∈ rows, more.any (·.dropsMember row) = !(row.named characters &&
      teams.any fun team => team.arenaTeamId == row.arenaTeamId && team.captained characters rows)

theorem loadArenaTeams_cons {team : TeamRow} {own rest : List MemberRow} (loaded : Loaded)
    (teams : List TeamRow) (same : ∀ row ∈ own, row.arenaTeamId = team.arenaTeamId)
    (later : ∀ row ∈ rest, team.arenaTeamId < row.arenaTeamId) :
    loadArenaTeams characters loaded (team :: teams) (own ++ rest) =
      loadArenaTeams characters ⟨fun id => if id = team.arenaTeamId then
          if team.captained characters own then some (team.loaded characters own) else none
          else loaded.arenaTeamStore id,
        loaded.reads ++ own.map fun row => (row.arenaTeamId, row),
        loaded.statements ++ (((own.filter (!·.named characters)).map fun row =>
          .delArenaTeamMember team.arenaTeamId row.guid) ++
          if team.captained characters own then []
            else (loadArenaTeamFromDB team).disband)⟩ teams rest := by
  have members := @loadMembers_own characters (loadArenaTeamFromDB team) nofun own rest false same later
  have captain : (own.any fun row => row.guid == team.captainGuid && row.named characters) =
      team.captained characters own := by
    rw [TeamRow.captained, Bool.eq_iff_iff, any_eq_true, any_eq_true]
    refine exists_congr fun row => and_congr_right fun listed => ?_
    simp [same row listed]
  have mine : own.filter (·.named characters) =
      own.filter fun row => row.arenaTeamId == team.arenaTeamId && row.named characters :=
    filter_congr fun row listed => by simp [same row listed]
  have tagged : own.map (team.arenaTeamId, ·) = own.map fun row => (row.arenaTeamId, row) :=
    map_congr_left fun row listed => by rw [same row listed]
  rw [loadArenaTeams, members]
  dsimp only [loadArenaTeamFromDB, Bool.false_or, nil_append]
  rw [show own.any (fun row => row.guid == team.captainGuid && row.named characters) =
    team.captained characters own from captain]
  cases found : team.captained characters own with
  | false =>
    rw [if_pos (by simp)]
    simp [tagged, ArenaTeam.disband]
  | true =>
    have some : own.filter (·.named characters) ≠ [] := by
      intro none
      obtain ⟨row, listed, fits⟩ := any_eq_true.mp found
      simp only [Bool.and_eq_true] at fits
      have there := mem_filter.mpr ⟨listed, fits.2⟩
      rw [none] at there
      cases there
    rw [if_neg (by simpa using some)]
    simp [tagged, TeamRow.loaded, loadArenaTeamFromDB, mine]

theorem TeamRow.apart {team : TeamRow} {others : List MemberRow} (rows : List MemberRow)
    (apart : ∀ row ∈ others, row.arenaTeamId ≠ team.arenaTeamId) :
    (team.captained characters (others ++ rows) = team.captained characters rows ∧
      team.captained characters (rows ++ others) = team.captained characters rows) ∧
    team.loaded characters (others ++ rows) = team.loaded characters rows ∧
      team.loaded characters (rows ++ others) = team.loaded characters rows := by
  have captain : team.captained characters others = false := by
    rw [captained, any_eq_false]
    intro row listed
    simp [apart row listed]
  have none : (others.filter fun row => row.arenaTeamId == team.arenaTeamId && row.named characters) =
      [] := by
    rw [filter_eq_nil_iff]
    intro row listed
    simp [apart row listed]
  unfold captained at captain
  simp only [captained, loaded, any_append, filter_append, captain, none, Bool.false_or, Bool.or_false,
    nil_append, append_nil, and_self]

theorem turn_drops {team : TeamRow} {own : List MemberRow}
    (same : ∀ row ∈ own, row.arenaTeamId = team.arenaTeamId) {turn : List Statement}
    (is : turn = ((own.filter (!·.named characters)).map fun row =>
      .delArenaTeamMember team.arenaTeamId row.guid) ++
        if team.captained characters own then [] else (loadArenaTeamFromDB team).disband) :
    (∀ statement ∈ turn, statement.teamId = team.arenaTeamId) ∧
      turn.any (·.dropsTeam team) = !team.captained characters own ∧
      ∀ row ∈ own, turn.any (·.dropsMember row) =
        !(row.named characters && team.captained characters own) := by
  have nameless : ∀ row ∈ own, ((own.filter (!·.named characters)).map fun row =>
      Statement.delArenaTeamMember team.arenaTeamId row.guid).any (·.dropsMember row) =
        !row.named characters := by
    intro row listed
    rw [Bool.eq_iff_iff, any_map, any_filter, any_eq_true]
    constructor
    · rintro ⟨other, -, drops⟩
      simp only [Function.comp_apply, Statement.dropsMember, Bool.and_eq_true, beq_iff_eq] at drops
      rw [MemberRow.named, drops.2.2]
      exact drops.1
    · intro missing
      exact ⟨row, listed, by simp [Statement.dropsMember, same row listed, missing]⟩
  subst is
  cases found : team.captained characters own with
  | false =>
    refine ⟨?_, ?_, fun row listed => ?_⟩
    · simp only [Bool.false_eq_true, if_false, mem_append, mem_map, ArenaTeam.disband, mem_cons,
        not_mem_nil, or_false]
      rintro statement (⟨row, -, rfl⟩ | rfl | rfl) <;> rfl
    · simp [ArenaTeam.disband, Statement.dropsTeam, loadArenaTeamFromDB]
    · rw [any_append, nameless row listed]
      simp [ArenaTeam.disband, Statement.dropsMember, loadArenaTeamFromDB, same row listed]
  | true =>
    refine ⟨?_, ?_, fun row listed => ?_⟩
    · simp only [if_true, append_nil, mem_map]
      rintro statement ⟨row, -, rfl⟩
      rfl
    · simp [Statement.dropsTeam]
    · rw [if_pos rfl, append_nil, nameless row listed, Bool.and_true]

theorem loadArenaTeams_complete {teams : List TeamRow} {rows : List MemberRow} (loaded : Loaded)
    (ids : teams.Pairwise (·.arenaTeamId < ·.arenaTeamId))
    (sorted : rows.Pairwise (·.arenaTeamId ≤ ·.arenaTeamId))
    (joined : ∀ row ∈ rows, ∃ team ∈ teams, team.arenaTeamId = row.arenaTeamId) :
    Complete characters teams rows loaded (loadArenaTeams characters loaded teams rows) := by
  induction teams generalizing rows loaded with
  | nil =>
    obtain rfl : rows = [] := eq_nil_iff_forall_not_mem.mpr fun row listed => by
      obtain ⟨team, inside, -⟩ := joined row listed
      cases inside
    exact ⟨(append_nil _).symm, fun _ => rfl, [], (append_nil _).symm, nofun, nofun, nofun⟩
  | cons team teams ih =>
    rw [pairwise_cons] at ids
    obtain ⟨own, rest, rfl, early, late⟩ := split_rows team.arenaTeamId sorted
    simp only [mem_append, mem_cons, exists_eq_or_imp] at joined
    have same : ∀ row ∈ own, row.arenaTeamId = team.arenaTeamId := by
      intro row listed
      rcases joined row (.inl listed) with here | ⟨other, inside, is⟩
      · exact here.symm
      · have above := ids.1 other inside
        have below := early row listed
        omega
    have others : ∀ row ∈ rest, ∃ other ∈ teams, other.arenaTeamId = row.arenaTeamId := by
      intro row listed
      have above := late row listed
      exact (joined row (.inr listed)).resolve_left fun here => by omega
    have after := fun next => ih next ids.2 (pairwise_append.mp sorted).2.1 others
    rw [loadArenaTeams_cons loaded teams same late]
    generalize turn_ : ((own.filter (!·.named characters)).map fun row =>
      Statement.delArenaTeamMember team.arenaTeamId row.guid) ++
        (if team.captained characters own then [] else (loadArenaTeamFromDB team).disband) = turn
    obtain ⟨reads, store, more, statements, names, teamDrops, rowDrops⟩ := after ⟨fun id =>
      if id = team.arenaTeamId then
        if team.captained characters own then some (team.loaded characters own) else none
      else loaded.arenaTeamStore id,
      loaded.reads ++ own.map fun row => (row.arenaTeamId, row), loaded.statements ++ turn⟩
    obtain ⟨turnTeam, turnDrops, turnRows⟩ := turn_drops same turn_.symm
    have head := @TeamRow.apart characters team rest own fun row listed =>
      Nat.ne_of_gt (late row listed)
    have tail : ∀ other ∈ teams, _ := fun other inside => @TeamRow.apart characters other own rest
      fun row listed => by
        rw [same row listed]
        exact Nat.ne_of_lt (ids.1 other inside)
    have apart : ∀ {statement : Statement}, statement ∈ more → statement.teamId ≠ team.arenaTeamId := by
      intro statement listed
      obtain ⟨other, inside, is⟩ := names statement listed
      rw [is]
      exact Nat.ne_of_gt (ids.1 other inside)
    refine ⟨?_, fun id => ?_, turn ++ more, ?_, ?_, ?_, ?_⟩
    · rw [reads, map_append, append_assoc]
    · rw [store, find?_cons]
      by_cases here : team.arenaTeamId = id
      · subst here
        have alone : teams.find? (·.arenaTeamId == team.arenaTeamId) = none := find?_eq_none.mpr
          fun other inside => by simp [(Nat.ne_of_gt (ids.1 other inside))]
        simp only [alone, BEq.rfl, if_true, head.1.2, head.2.2]
      · rw [beq_false_of_ne here]
        cases found : teams.find? (·.arenaTeamId == id) with
        | none => exact if_neg (Ne.symm here)
        | some other =>
          have inside := mem_of_find?_eq_some found
          dsimp only
          rw [(tail other inside).1.1, (tail other inside).2.1]
    · rw [statements, append_assoc]
    · intro statement listed
      rcases mem_append.mp listed with now | later
      · exact ⟨team, mem_cons_self, turnTeam statement now⟩
      · obtain ⟨other, inside, is⟩ := names statement later
        exact ⟨other, mem_cons_of_mem team inside, is⟩
    · rw [forall_mem_cons]
      constructor
      · have none : more.any (·.dropsTeam team) = false := any_eq_false.mpr fun statement listed drops =>
          apart listed (Statement.of_dropsTeam drops).symm
        rw [any_append, turnDrops, none, Bool.or_false, head.1.2]
      · intro other inside
        have none : turn.any (·.dropsTeam other) = false := any_eq_false.mpr fun statement listed drops =>
          (Nat.ne_of_gt (ids.1 other inside)) ((Statement.of_dropsTeam drops).trans
            (turnTeam statement listed))
        rw [any_append, none, Bool.false_or, teamDrops other inside, (tail other inside).1.1]
    · intro row listed
      rw [any_append, any_cons, head.1.2]
      rcases mem_append.mp listed with now | later
      · have none : more.any (·.dropsMember row) = false := any_eq_false.mpr fun statement listed drops =>
          apart listed ((Statement.of_dropsMember drops).symm.trans (same row now))
        have alone : (teams.any fun other => other.arenaTeamId == row.arenaTeamId &&
            other.captained characters (own ++ rest)) = false := any_eq_false.mpr fun other inside => by
          simp [same row now, Nat.ne_of_gt (ids.1 other inside)]
        rw [turnRows row now, none, alone, same row now]
        simp
      · have none : turn.any (·.dropsMember row) = false := any_eq_false.mpr fun statement listed drops =>
          Nat.ne_of_gt (late row later) ((Statement.of_dropsMember drops).trans (turnTeam statement listed))
        have alike : (teams.any fun other => other.arenaTeamId == row.arenaTeamId &&
            other.captained characters (own ++ rest)) = teams.any fun other =>
              other.arenaTeamId == row.arenaTeamId && other.captained characters rest := by
          rw [Bool.eq_iff_iff, any_eq_true, any_eq_true]
          refine exists_congr fun other => and_congr_right fun inside => ?_
          rw [(tail other inside).1.1]
        rw [none, rowDrops row later, alike, beq_false_of_ne (Nat.ne_of_lt (late row later))]
        simp

theorem arenaTeams_loaded {teams : List TeamRow} {rows : List MemberRow}
    (ids : teams.Pairwise (·.arenaTeamId < ·.arenaTeamId))
    (sorted : rows.Pairwise (·.arenaTeamId ≤ ·.arenaTeamId))
    (joined : ∀ row ∈ rows, ∃ team ∈ teams, team.arenaTeamId = row.arenaTeamId)
    {loaded : Loaded} (done : loadArenaTeams characters ⟨fun _ => none, [], []⟩ teams rows = loaded) :
    loaded.reads = rows.map (fun row => (row.arenaTeamId, row)) ∧
    (∀ id, loaded.arenaTeamStore id =
      ((teams.find? (·.arenaTeamId == id)).filter (·.captained characters rows)).map
        (·.loaded characters rows)) ∧
    (∀ team ∈ teams, loaded.statements.any (·.dropsTeam team) = !team.captained characters rows) ∧
    ∀ row ∈ rows, loaded.statements.any (·.dropsMember row) = !(row.named characters &&
      teams.any fun team => team.arenaTeamId == row.arenaTeamId && team.captained characters rows) := by
  subst done
  obtain ⟨reads, store, more, statements, -, dropsTeam, dropsMember⟩ :=
    @loadArenaTeams_complete characters teams rows ⟨fun _ => none, [], []⟩ ids sorted joined
  rw [nil_append] at reads statements
  rw [statements]
  refine ⟨reads, fun id => ?_, dropsTeam, dropsMember⟩
  rw [store]
  cases teams.find? (·.arenaTeamId == id) with
  | none => rfl
  | some team =>
    rw [Option.filter_some]
    dsimp only
    cases team.captained characters rows <;> rfl

end

theorem arenaTeams_two : (loadArenaTeams (fun guid => if guid < 12 then ⟨"Anna", 1⟩ else ⟨"", 0⟩)
    ⟨fun _ => none, [], []⟩ [⟨1, "First", 10, 2⟩, ⟨2, "Second", 20, 3⟩]
    [⟨1, 10, 0, 0, 0, 0, 0, 0⟩, ⟨2, 11, 0, 0, 0, 0, 0, 0⟩, ⟨2, 12, 0, 0, 0, 0, 0, 0⟩]).arenaTeamStore 2 =
      none :=
  ((arenaTeams_loaded (by decide) (by decide) (by decide) rfl).2.1 2).trans (by decide)

end OpenWoW.ArenaTeams
