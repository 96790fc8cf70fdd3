import Mathlib
import OpenWoW.Lib.KeyedTable
import OpenWoW.Lib.Run

/-! The guild finder: settings of guilds and requests for membership. -/
namespace OpenWoW.GuildFinder

open List

structure MembershipRequest where
  guildId : Nat
  playerGUID : Nat
  availability : UInt8
  classRoles : UInt8
  interests : UInt8
  comment : String
  time : Int
  deriving DecidableEq, Repr

inductive TeamId where
  | alliance
  | horde
  deriving DecidableEq, Repr

structure LFGuildSettings where
  listed : Bool
  team : TeamId
  guid : Nat
  roles : UInt8
  availability : UInt8
  interests : UInt8
  level : UInt8
  comment : String
  deriving DecidableEq, Repr

/-- A row of `guild_finder_applicant`. -/
structure ApplicantRow where
  guildId : Nat
  playerGuid : Nat
  availability : UInt8
  classRole : UInt8
  interests : UInt8
  comment : String
  submitTime : UInt32
  deriving DecidableEq, Repr

/-- A row of `guild_finder_guild_settings`. -/
structure SettingsRow where
  guildId : Nat
  availability : UInt8
  classRoles : UInt8
  interests : UInt8
  level : UInt8
  listed : UInt8
  comment : String
  deriving DecidableEq, Repr

def ApplicantRow.key (row : ApplicantRow) : Nat × Nat := (row.guildId, row.playerGuid)

def MembershipRequest.row (request : MembershipRequest) : ApplicantRow :=
  ⟨request.guildId, request.playerGUID, request.availability, request.classRoles,
    request.interests, request.comment, UInt32.ofNat (request.time % 2 ^ 32).toNat⟩

def ApplicantRow.request (row : ApplicantRow) : MembershipRequest :=
  ⟨row.guildId, row.playerGuid, row.availability, row.classRole, row.interests, row.comment,
    row.submitTime.toNat⟩

def LFGuildSettings.row (settings : LFGuildSettings) : SettingsRow :=
  ⟨settings.guid, settings.availability, settings.roles, settings.interests, settings.level,
    if settings.listed then 1 else 0, settings.comment⟩

def SettingsRow.settings (row : SettingsRow) (team : TeamId) : LFGuildSettings :=
  ⟨row.listed != 0, team, row.guildId, row.classRoles, row.availability, row.interests, row.level,
    row.comment⟩

structure GuildFinderMgr where
  guildSettings : Std.ExtTreeMap Nat LFGuildSettings
  membershipRequests : Std.ExtTreeMap Nat (List MembershipRequest)

structure Tables where
  settings : KeyedTable SettingsRow.guildId
  applicants : KeyedTable ApplicantRow.key

namespace GuildFinderMgr

def requestsOf (mgr : GuildFinderMgr) (guildId : Nat) : List MembershipRequest :=
  mgr.membershipRequests[guildId]?.getD []

def hasRequest (mgr : GuildFinderMgr) (playerId guildId : Nat) : Bool :=
  (mgr.requestsOf guildId).any fun request => request.playerGUID = playerId

end GuildFinderMgr

/-- What a restart finds beside the two tables. -/
structure Realm where
  /-- The races of a guild's members; a member without a character has none. -/
  memberRaces : Nat → List (Option UInt8)
  /-- `TeamID` of `ChrRaces.dbc`. -/
  raceTeam : UInt8 → Option Nat

namespace Realm

/-- The settings joined with the members of the guilds and their characters. -/
def joined (realm : Realm) (rows : List SettingsRow) : List (SettingsRow × Option UInt8) :=
  rows.flatMap fun row =>
    match realm.memberRaces row.guildId with
    | [] => [(row, none)]
    | races => races.map fun race => (row, race)

def team (realm : Realm) (race : Option UInt8) : TeamId :=
  if realm.raceTeam (race.getD 0) = some 1 then .horde else .alliance

/-- The query has `LIMIT 1`. -/
def loadGuildSettings (realm : Realm) (result : List (SettingsRow × Option UInt8)) :
    Std.ExtTreeMap Nat LFGuildSettings :=
  (result.take 1).foldl (fun settings entry =>
    settings.insert entry.1.guildId (entry.1.settings (realm.team entry.2))) ∅

end Realm

def pushBack (requests : Std.ExtTreeMap Nat (List MembershipRequest)) (guildId : Nat)
    (request : MembershipRequest) : Std.ExtTreeMap Nat (List MembershipRequest) :=
  requests.insert guildId (requests[guildId]?.getD [] ++ [request])

def loadMembershipRequests (result : List ApplicantRow) :
    Std.ExtTreeMap Nat (List MembershipRequest) :=
  result.foldl (fun requests row => pushBack requests row.guildId row.request) ∅

def Realm.loadFromDB (realm : Realm) (settings : List (SettingsRow × Option UInt8))
    (applicants : List ApplicantRow) : GuildFinderMgr :=
  ⟨realm.loadGuildSettings settings, loadMembershipRequests applicants⟩

structure State where
  mgr : GuildFinderMgr
  tables : Tables

/-- `CHAR_DEL_GUILD_FINDER_APPLICANT`. -/
def Tables.deleteApplicant (tables : Tables) (request : MembershipRequest) : Tables :=
  { tables with
    applicants := tables.applicants.delete fun row =>
      row.guildId = request.guildId ∧ row.playerGuid = request.playerGUID }

/-- `CHAR_DEL_GUILD_FINDER_GUILD_SETTINGS`. -/
def Tables.deleteSettings (tables : Tables) (guildId : Nat) : Tables :=
  { tables with settings := tables.settings.delete fun row => row.guildId = guildId }

namespace State

def addMembershipRequest (s : State) (guildGuid : Nat) (request : MembershipRequest) : State where
  mgr := { s.mgr with
    membershipRequests := pushBack s.mgr.membershipRequests guildGuid request }
  tables := { s.tables with applicants := s.tables.applicants.replace request.row }

def removeAllMembershipRequestsFromPlayer (s : State) (playerId : Nat) : State where
  mgr := { s.mgr with
    membershipRequests := s.mgr.membershipRequests.map fun _ requests =>
      requests.eraseP fun request => request.playerGUID = playerId }
  tables := s.mgr.membershipRequests.toList.foldl (fun tables entry =>
    match entry.2.find? fun request => request.playerGUID = playerId with
    | none => tables
    | some request => tables.deleteApplicant request) s.tables

def removeMembershipRequest (s : State) (playerId guildId : Nat) : State :=
  let requests := s.mgr.requestsOf guildId
  match requests.find? fun request => request.playerGUID = playerId with
  | none => { s with mgr := { s.mgr with
      membershipRequests := s.mgr.membershipRequests.insert guildId requests } }
  | some request =>
    { mgr := { s.mgr with
        membershipRequests := s.mgr.membershipRequests.insert guildId
          (requests.eraseP fun request => request.playerGUID = playerId) }
      tables := s.tables.deleteApplicant request }

def setGuildSettings (s : State) (guildGuid : Nat) (settings : LFGuildSettings) : State where
  mgr := { s.mgr with guildSettings := s.mgr.guildSettings.insert guildGuid settings }
  tables := { s.tables with settings := s.tables.settings.replace settings.row }

/-- The settings are deleted in the loop over the requests. -/
def deleteGuild (s : State) (guildId : Nat) : State where
  mgr := ⟨s.mgr.guildSettings.erase guildId, s.mgr.membershipRequests.erase guildId⟩
  tables := (s.mgr.requestsOf guildId).foldl (fun tables request =>
    (tables.deleteApplicant request).deleteSettings request.guildId) s.tables

end State

inductive Step where
  | addMembershipRequest (guildGuid : Nat) (request : MembershipRequest)
  | removeMembershipRequest (playerId guildId : Nat)
  | removeAllMembershipRequestsFromPlayer (playerId : Nat)
  | setGuildSettings (guildGuid : Nat) (settings : LFGuildSettings)
  | deleteGuild (guildId : Nat)
  deriving DecidableEq, Repr

def step (s : State) : Step → State × Unit
  | .addMembershipRequest guildGuid request => (s.addMembershipRequest guildGuid request, ())
  | .removeMembershipRequest playerId guildId => (s.removeMembershipRequest playerId guildId, ())
  | .removeAllMembershipRequestsFromPlayer playerId =>
    (s.removeAllMembershipRequestsFromPlayer playerId, ())
  | .setGuildSettings guildGuid settings => (s.setGuildSettings guildGuid settings, ())
  | .deleteGuild guildId => (s.deleteGuild guildId, ())

/-- No settings, no requests, empty tables. -/
def fresh : State := ⟨⟨∅, ∅⟩, ⟨.empty _, .empty _⟩⟩

variable {realm : Realm}

theorem joined_row {rows : List SettingsRow} {entry : SettingsRow × Option UInt8}
    (mem : entry ∈ realm.joined rows) : entry.1 ∈ rows := by
  obtain ⟨row, there, mem⟩ := mem_flatMap.mp mem
  split at mem
  · obtain rfl := mem_singleton.mp mem
    exact there
  · obtain ⟨race, _, rfl⟩ := mem_map.mp mem
    exact there

theorem mem_joined {rows : List SettingsRow} (realm : Realm) {row : SettingsRow}
    (there : row ∈ rows) : ∃ race, (row, race) ∈ realm.joined rows := by
  cases races : realm.memberRaces row.guildId with
  | nil =>
    refine ⟨none, mem_flatMap.mpr ⟨row, there, ?_⟩⟩
    rw [races]
    exact mem_singleton.mpr rfl
  | cons race rest =>
    refine ⟨race, mem_flatMap.mpr ⟨row, there, ?_⟩⟩
    rw [races]
    exact mem_map.mpr ⟨race, mem_cons_self, rfl⟩

theorem getElem?_loadGuildSettings (realm : Realm) (first : SettingsRow × Option UInt8)
    (rest : List (SettingsRow × Option UInt8)) (guild : Nat) :
    (realm.loadGuildSettings (first :: rest))[guild]? =
      if first.1.guildId = guild then some (first.1.settings (realm.team first.2)) else none := by
  unfold Realm.loadGuildSettings
  simp only [take_succ_cons, take_zero, foldl_cons, foldl_nil,
    Std.ExtTreeMap.getElem?_insert, Std.LawfulEqCmp.compare_eq_iff_eq,
    Std.ExtTreeMap.getElem?_empty]

theorem getD_pushBack (requests : Std.ExtTreeMap Nat (List MembershipRequest)) (guildId : Nat)
    (request : MembershipRequest) (guild : Nat) :
    (pushBack requests guildId request)[guild]?.getD [] =
      requests[guild]?.getD [] ++ if guildId = guild then [request] else [] := by
  unfold pushBack
  simp only [Std.ExtTreeMap.getElem?_insert, Std.LawfulEqCmp.compare_eq_iff_eq]
  split
  · subst guild
    rfl
  · rw [append_nil]

theorem getD_loadMembershipRequests (result : List ApplicantRow) (guild : Nat) :
    (loadMembershipRequests result)[guild]?.getD [] =
      (result.filter (·.guildId = guild)).map ApplicantRow.request := by
  have from_requests : ∀ requests : Std.ExtTreeMap Nat (List MembershipRequest),
      (result.foldl (fun requests row => pushBack requests row.guildId row.request)
        requests)[guild]?.getD [] =
        requests[guild]?.getD [] ++
          (result.filter (·.guildId = guild)).map ApplicantRow.request := by
    induction result with
    | nil => exact fun requests => (append_nil _).symm
    | cons row result ih =>
      intro requests
      rw [foldl_cons, ih, getD_pushBack, append_assoc, filter_cons]
      by_cases same : row.guildId = guild
      · rw [if_pos same, if_pos (decide_eq_true same)]
        rfl
      · rw [if_neg same, if_neg (by simpa using same)]
        rfl
  rw [loadMembershipRequests, from_requests, Std.ExtTreeMap.getElem?_empty]
  rfl

variable {applicants : List ApplicantRow}

theorem mem_requestsOf_loaded {settings : List (SettingsRow × Option UInt8)} {guild : Nat}
    {request : MembershipRequest} :
    request ∈ (realm.loadFromDB settings applicants).requestsOf guild ↔
      ∃ row ∈ applicants, row.guildId = guild ∧ row.request = request := by
  unfold GuildFinderMgr.requestsOf
  change request ∈ (loadMembershipRequests applicants)[guild]?.getD [] ↔ _
  rw [getD_loadMembershipRequests, mem_map]
  simp only [mem_filter, decide_eq_true_eq, and_assoc]

theorem players_loaded (realm : Realm) (settings : List (SettingsRow × Option UInt8))
    (distinct : (applicants.map ApplicantRow.key).Nodup)
    (guild : Nat) :
    (((realm.loadFromDB settings applicants).requestsOf guild).map (·.playerGUID)).Nodup := by
  unfold GuildFinderMgr.requestsOf
  change (((loadMembershipRequests applicants)[guild]?.getD []).map _).Nodup
  rw [getD_loadMembershipRequests, map_map]
  refine List.Nodup.map_on ?_ (distinct.of_map _ |>.filter _)
  intro row mem other there same
  have guilds := of_decide_eq_true (mem_filter.mp mem).2
  have others := of_decide_eq_true (mem_filter.mp there).2
  apply inj_on_of_nodup_map distinct (mem_filter.mp mem).1 (mem_filter.mp there).1
  exact Prod.ext (guilds.trans others.symm) same

def LFGuildSettings.factionAside (settings : LFGuildSettings) : LFGuildSettings :=
  { settings with team := .alliance }

/-- Whatever order the two queries return, the loaded maps are those in memory. -/
def Survives (realm : Realm) (s : State) : Prop :=
  ∀ (settings : List (SettingsRow × Option UInt8)) (applicants : List ApplicantRow),
    settings.Perm (realm.joined s.tables.settings.rows) →
    applicants.Perm s.tables.applicants.rows →
      (∀ guild : Nat, (realm.loadFromDB settings applicants).guildSettings[guild]?.map
          LFGuildSettings.factionAside =
        s.mgr.guildSettings[guild]?.map LFGuildSettings.factionAside) ∧
      ∀ guild : Nat, ((realm.loadFromDB settings applicants).requestsOf guild).Perm
        (s.mgr.requestsOf guild)

/-- A request is filed with its own guild, by a player who has none there, before the time
leaves 32 bits; settings are stored under their own guild while no other guild has any; a
deleted guild has no settings, or some request. -/
def Careful (s : State) : Step → Prop
  | .addMembershipRequest guildGuid request =>
    request.guildId = guildGuid ∧ s.mgr.hasRequest request.playerGUID guildGuid = false ∧
      0 ≤ request.time ∧ request.time < 2 ^ 32
  | .setGuildSettings guildGuid settings =>
    settings.guid = guildGuid ∧ ∀ other, other ≠ guildGuid → s.mgr.guildSettings[other]? = none
  | .deleteGuild guildId => s.mgr.guildSettings[guildId]? = none ∨ s.mgr.requestsOf guildId ≠ []
  | .removeMembershipRequest _ _ | .removeAllMembershipRequestsFromPlayer _ => True

structure MirroredSettings (guilds : Std.ExtTreeMap Nat LFGuildSettings)
    (table : KeyedTable SettingsRow.guildId) : Prop where
  row : ∀ row, row ∈ table ↔ ∃ settings, guilds[row.guildId]? = some settings ∧ settings.row = row
  own : ∀ (guild : Nat) (settings : LFGuildSettings), guilds[guild]? = some settings →
    settings.guid = guild
  single : ∀ guild other : Nat, guilds[guild]? ≠ none → guilds[other]? ≠ none → guild = other

structure MirroredRequests (requestsOf : Nat → List MembershipRequest)
    (table : KeyedTable ApplicantRow.key) : Prop where
  row : ∀ row, row ∈ table ↔ ∃ request ∈ requestsOf row.guildId, request.row = row
  ofGuild : ∀ guild, ∀ request ∈ requestsOf guild,
    request.guildId = guild ∧ 0 ≤ request.time ∧ request.time < 2 ^ 32
  players : ∀ guild, ((requestsOf guild).map (·.playerGUID)).Nodup

structure Mirrored (s : State) : Prop where
  settings : MirroredSettings s.mgr.guildSettings s.tables.settings
  requests : MirroredRequests s.mgr.requestsOf s.tables.applicants

theorem request_row {request : MembershipRequest} (early : 0 ≤ request.time)
    (late : request.time < 2 ^ 32) : request.row.request = request := by
  have kept : ((UInt32.ofNat (request.time % 2 ^ 32).toNat).toNat : Int) = request.time := by
    rw [UInt32.toNat_ofNat']
    omega
  unfold MembershipRequest.row ApplicantRow.request
  rw [kept]

theorem settings_row (settings : LFGuildSettings) (team : TeamId) :
    (settings.row.settings team).factionAside = settings.factionAside := by
  unfold LFGuildSettings.row SettingsRow.settings LFGuildSettings.factionAside
  cases settings.listed <;> rfl

variable {guilds : Std.ExtTreeMap Nat LFGuildSettings}

theorem loaded_settings {table : KeyedTable SettingsRow.guildId}
    (mirrored : MirroredSettings guilds table) {settings : List (SettingsRow × Option UInt8)}
    (order : settings.Perm (realm.joined table.rows)) (guild : Nat) :
    (realm.loadGuildSettings settings)[guild]?.map LFGuildSettings.factionAside =
      guilds[guild]?.map LFGuildSettings.factionAside := by
  cases settings with
  | nil =>
    have idle : guilds[guild]? = none := by
      by_contra has
      obtain ⟨own, found⟩ := Option.ne_none_iff_exists'.mp has
      have row : own.row ∈ table := (mirrored.row own.row).mpr
        ⟨own, by rw [← found, ← mirrored.own guild own found]; rfl, rfl⟩
      obtain ⟨race, mem⟩ := mem_joined realm (KeyedTable.mem_rows.mpr row)
      cases order.mem_iff.mpr mem
    rw [idle]
    rfl
  | cons first rest =>
    have row := joined_row (order.mem_iff.mp mem_cons_self)
    obtain ⟨own, found, same⟩ := (mirrored.row first.1).mp (KeyedTable.mem_rows.mp row)
    rw [getElem?_loadGuildSettings]
    split
    · rename_i here
      rw [← here, found, ← same, Option.map_some, Option.map_some, settings_row]
    rename_i elsewhere
    have idle : guilds[guild]? = none := by
      by_contra has
      exact elsewhere (mirrored.single _ guild (by rw [found]; nofun) has)
    rw [idle]

variable {table : KeyedTable ApplicantRow.key}

theorem loaded_requests (realm : Realm) {requestsOf : Nat → List MembershipRequest}
    (mirrored : MirroredRequests requestsOf table)
    (settings : List (SettingsRow × Option UInt8))
    (order : applicants.Perm table.rows) (guild : Nat) :
    ((realm.loadFromDB settings applicants).requestsOf guild).Perm (requestsOf guild) := by
  have distinct : (applicants.map ApplicantRow.key).Nodup :=
    (order.map _).nodup_iff.mpr table.distinct
  apply (perm_ext_iff_of_nodup ((players_loaded realm settings distinct guild).of_map _)
    ((mirrored.players guild).of_map _)).mpr
  intro request
  rw [mem_requestsOf_loaded]
  constructor
  · rintro ⟨row, mem, rfl, rfl⟩
    obtain ⟨own, there, same⟩ := (mirrored.row row).mp (order.mem_iff.mp mem)
    obtain ⟨_, early, late⟩ := mirrored.ofGuild _ own there
    rw [← same, request_row early late, same]
    exact there
  · intro mem
    obtain ⟨guilds, early, late⟩ := mirrored.ofGuild guild request mem
    refine ⟨request.row, order.mem_iff.mpr ((mirrored.row _).mpr ⟨request, ?_, rfl⟩), guilds,
      request_row early late⟩
    rw [← guilds] at mem
    exact mem

theorem survives_of_mirrored (realm : Realm) {s : State} (mirrored : Mirrored s) :
    Survives realm s :=
  fun settings _ settings_order applicants_order =>
    ⟨loaded_settings mirrored.settings settings_order,
      loaded_requests realm mirrored.requests settings applicants_order⟩

theorem MirroredRequests.filter {requestsOf : Nat → List MembershipRequest}
    (mirrored : MirroredRequests requestsOf table)
    {left : Nat → List MembershipRequest} {rest : KeyedTable ApplicantRow.key}
    (keep : Nat → Nat → Bool)
    (rows : ∀ row, row ∈ rest ↔ row ∈ table ∧ keep row.guildId row.playerGuid = true)
    (requests : ∀ guild,
      left guild = (requestsOf guild).filter fun request => keep guild request.playerGUID) :
    MirroredRequests left rest where
  row := by
    intro row
    rw [rows, mirrored.row, requests]
    constructor
    · rintro ⟨⟨request, mem, rfl⟩, kept⟩
      exact ⟨request, mem_filter.mpr ⟨mem, kept⟩, rfl⟩
    · rintro ⟨request, mem, rfl⟩
      exact ⟨⟨request, (mem_filter.mp mem).1, rfl⟩, (mem_filter.mp mem).2⟩
  ofGuild := by
    intro guild request mem
    rw [requests] at mem
    exact mirrored.ofGuild guild request (mem_filter.mp mem).1
  players := by
    intro guild
    rw [requests]
    exact (mirrored.players guild).sublist (filter_sublist.map _)

theorem MirroredRequests.add {requestsOf : Nat → List MembershipRequest}
    (mirrored : MirroredRequests requestsOf table)
    {request : MembershipRequest} (early : 0 ≤ request.time) (late : request.time < 2 ^ 32)
    (first : ∀ other ∈ requestsOf request.guildId, other.playerGUID ≠ request.playerGUID)
    {more : Nat → List MembershipRequest}
    (requests : ∀ guild, more guild =
      requestsOf guild ++ if request.guildId = guild then [request] else []) :
    MirroredRequests more (table.replace request.row) where
  row := by
    intro row
    rw [KeyedTable.mem_replace, requests, mirrored.row]
    simp only [mem_append, mem_ite_nil_right, mem_singleton]
    constructor
    · rintro (rfl | ⟨⟨other, mem, same⟩, _⟩)
      · exact ⟨request, .inr ⟨rfl, rfl⟩, rfl⟩
      · exact ⟨other, .inl mem, same⟩
    · rintro ⟨other, mem | ⟨_, rfl⟩, rfl⟩
      · refine .inr ⟨⟨other, mem, rfl⟩, fun same => ?_⟩
        obtain ⟨guilds, players⟩ := Prod.mk.inj same
        have there : other ∈ requestsOf request.guildId := by
          rw [← show other.row.guildId = request.guildId from guilds]
          exact mem
        exact first other there players
      · exact .inl rfl
  ofGuild := by
    intro guild other mem
    rw [requests] at mem
    rcases mem_append.mp mem with mem | mem
    · exact mirrored.ofGuild guild other mem
    obtain ⟨here, mem⟩ := mem_ite_nil_right.mp mem
    obtain rfl := mem_singleton.mp mem
    exact ⟨here, early, late⟩
  players := by
    intro guild
    rw [requests, map_append]
    split
    · rename_i here
      subst guild
      refine nodup_append.mpr ⟨mirrored.players _, nodup_singleton _, ?_⟩
      intro player mem other single
      obtain ⟨older, there, rfl⟩ := mem_map.mp mem
      obtain rfl := mem_singleton.mp single
      exact first older there
    · rw [map_nil, append_nil]
      exact mirrored.players guild

theorem eraseP_player {requests : List MembershipRequest}
    (players : (requests.map (·.playerGUID)).Nodup) (player : Nat) :
    (requests.eraseP fun request => request.playerGUID = player) =
      requests.filter fun request => request.playerGUID ≠ player := by
  induction requests with
  | nil => rfl
  | cons first requests ih =>
    rw [map_cons, nodup_cons] at players
    by_cases same : first.playerGUID = player
    · rw [eraseP_cons_of_pos (by simpa using same),
        filter_cons_of_neg (by simpa using same)]
      symm
      apply filter_eq_self.mpr
      intro other mem
      refine decide_eq_true fun equal => players.1 ?_
      rw [same, ← equal]
      exact mem_map.mpr ⟨other, mem, rfl⟩
    · rw [eraseP_cons_of_neg (by simpa using same),
        filter_cons_of_pos (by simpa using same), ih players.2]

theorem mem_deleteApplicant {tables : Tables} {request : MembershipRequest} {row : ApplicantRow} :
    row ∈ (tables.deleteApplicant request).applicants ↔ row ∈ tables.applicants ∧
      ¬ (row.guildId = request.guildId ∧ row.playerGuid = request.playerGUID) := by
  unfold Tables.deleteApplicant
  rw [KeyedTable.mem_delete, decide_eq_false_iff_not]

theorem mem_foldl_applicants (delete : Tables → MembershipRequest → Tables)
    (same : ∀ tables request,
      (delete tables request).applicants = (tables.deleteApplicant request).applicants)
    (requests : List MembershipRequest) (tables : Tables) (row : ApplicantRow) :
    row ∈ (requests.foldl delete tables).applicants ↔ row ∈ tables.applicants ∧
      ∀ request ∈ requests,
        ¬ (row.guildId = request.guildId ∧ row.playerGuid = request.playerGUID) := by
  induction requests generalizing tables with
  | nil => simp
  | cons first requests ih =>
    rw [foldl_cons, ih, same, mem_deleteApplicant, forall_mem_cons, and_assoc]

variable (requests : List MembershipRequest) (tables : Tables) (s : State)
  (playerId guildId guild : Nat)

theorem settings_foldl_applicants :
    (requests.foldl Tables.deleteApplicant tables).settings = tables.settings := by
  induction requests generalizing tables with
  | nil => rfl
  | cons first requests ih => exact ih _

namespace State

theorem requestsOf_add (guildGuid : Nat) (request : MembershipRequest) (guild : Nat) :
    (s.addMembershipRequest guildGuid request).mgr.requestsOf guild =
      s.mgr.requestsOf guild ++ if guildGuid = guild then [request] else [] :=
  getD_pushBack s.mgr.membershipRequests guildGuid request guild

theorem requestsOf_removeAll :
    (s.removeAllMembershipRequestsFromPlayer playerId).mgr.requestsOf guild =
      (s.mgr.requestsOf guild).eraseP fun request => request.playerGUID = playerId := by
  unfold GuildFinderMgr.requestsOf removeAllMembershipRequestsFromPlayer
  dsimp only
  rw [Std.ExtTreeMap.getElem?_map]
  cases s.mgr.membershipRequests[guild]? <;> rfl

theorem membershipRequests_remove :
    (s.removeMembershipRequest playerId guildId).mgr.membershipRequests =
      s.mgr.membershipRequests.insert guildId
        ((s.mgr.requestsOf guildId).eraseP fun request => request.playerGUID = playerId) := by
  unfold removeMembershipRequest
  dsimp only
  split
  · rename_i absent
    rw [eraseP_of_forall_not fun request mem => find?_eq_none.mp absent request mem]
  · rfl

theorem requestsOf_remove :
    (s.removeMembershipRequest playerId guildId).mgr.requestsOf guild =
      if guildId = guild then
        (s.mgr.requestsOf guild).eraseP fun request => request.playerGUID = playerId
      else s.mgr.requestsOf guild := by
  rw [GuildFinderMgr.requestsOf, membershipRequests_remove]
  simp only [Std.ExtTreeMap.getElem?_insert, Std.LawfulEqCmp.compare_eq_iff_eq]
  split
  · subst guild
    rfl
  · rfl

theorem requestsOf_delete :
    (s.deleteGuild guildId).mgr.requestsOf guild =
      if guildId = guild then [] else s.mgr.requestsOf guild := by
  unfold deleteGuild GuildFinderMgr.requestsOf
  simp only [Std.ExtTreeMap.getElem?_erase, Std.LawfulEqCmp.compare_eq_iff_eq]
  split <;> rfl

theorem applicants_remove {s : State} (mirrored : Mirrored s) (playerId guildId : Nat)
    (row : ApplicantRow) :
    row ∈ (s.removeMembershipRequest playerId guildId).tables.applicants ↔
      row ∈ s.tables.applicants ∧ ¬ (row.guildId = guildId ∧ row.playerGuid = playerId) := by
  unfold removeMembershipRequest
  dsimp only
  split
  · rename_i absent
    refine (and_iff_left_of_imp fun mem => ?_).symm
    rintro ⟨rfl, rfl⟩
    obtain ⟨request, there, same⟩ := (mirrored.requests.row row).mp mem
    have differ := find?_eq_none.mp absent request there
    exact differ (decide_eq_true (congrArg ApplicantRow.playerGuid same))
  · rename_i request found
    have player : request.playerGUID = playerId := by simpa using find?_some found
    have guild := (mirrored.requests.ofGuild _ _ (mem_of_find?_eq_some found)).1
    rw [mem_deleteApplicant, player, guild]

theorem tables_removeAll :
    (s.removeAllMembershipRequestsFromPlayer playerId).tables =
      (s.mgr.membershipRequests.toList.filterMap fun entry =>
        entry.2.find? fun request => request.playerGUID = playerId).foldl
        Tables.deleteApplicant s.tables := by
  rw [foldl_filterMap]
  unfold removeAllMembershipRequestsFromPlayer
  dsimp only
  congr 1
  funext tables entry
  cases entry.2.find? fun request => request.playerGUID = playerId <;> rfl

theorem applicants_removeAll {s : State} (mirrored : Mirrored s) (playerId : Nat)
    (row : ApplicantRow) :
    row ∈ (s.removeAllMembershipRequestsFromPlayer playerId).tables.applicants ↔
      row ∈ s.tables.applicants ∧ row.playerGuid ≠ playerId := by
  rw [tables_removeAll, mem_foldl_applicants _ fun _ _ => rfl]
  refine and_congr_right fun mem => ?_
  constructor
  · intro left same
    obtain ⟨request, there, rows⟩ := (mirrored.requests.row row).mp mem
    have player : request.playerGUID = playerId :=
      (congrArg ApplicantRow.playerGuid rows).trans same
    cases found : (s.mgr.requestsOf row.guildId).find? fun request =>
        request.playerGUID = playerId with
    | none => exact find?_eq_none.mp found request there (decide_eq_true player)
    | some first =>
      have guild := (mirrored.requests.ofGuild _ _ (mem_of_find?_eq_some found)).1
      have own : first.playerGUID = playerId := by simpa using find?_some found
      refine left first (mem_filterMap.mpr ⟨(row.guildId, s.mgr.requestsOf row.guildId),
        Std.ExtTreeMap.mem_toList_iff_getElem?_eq_some.mpr ?_, found⟩)
        ⟨guild.symm, same.trans own.symm⟩
      cases entry : s.mgr.membershipRequests[row.guildId]? with
      | none =>
        rw [GuildFinderMgr.requestsOf, entry] at there
        cases there
      | some requests =>
        rw [GuildFinderMgr.requestsOf, entry]
        rfl
  · intro differ request mem same
    obtain ⟨entry, _, found⟩ := mem_filterMap.mp mem
    have own : request.playerGUID = playerId := by simpa using find?_some found
    exact differ (same.2.trans own)

theorem applicants_delete {s : State} (mirrored : Mirrored s) (guildId : Nat) (row : ApplicantRow) :
    row ∈ (s.deleteGuild guildId).tables.applicants ↔
      row ∈ s.tables.applicants ∧ row.guildId ≠ guildId := by
  refine (mem_foldl_applicants (fun tables request =>
    (tables.deleteApplicant request).deleteSettings request.guildId) (fun _ _ => rfl)
    (s.mgr.requestsOf guildId) s.tables row).trans ?_
  refine and_congr_right fun mem => ?_
  constructor
  · rintro left rfl
    obtain ⟨request, there, rows⟩ := (mirrored.requests.row row).mp mem
    refine left request there ?_
    rw [← rows]
    exact ⟨rfl, rfl⟩
  · intro differ request there same
    exact differ (same.1.trans (mirrored.requests.ofGuild guildId request there).1)

theorem settings_foldl (row : SettingsRow) :
    row ∈ (requests.foldl (fun tables request =>
        (tables.deleteApplicant request).deleteSettings request.guildId) tables).settings ↔
      row ∈ tables.settings ∧ ∀ request ∈ requests, row.guildId ≠ request.guildId := by
  induction requests generalizing tables with
  | nil => simp
  | cons first requests ih =>
    rw [foldl_cons, ih, forall_mem_cons, ← and_assoc]
    refine and_congr_left fun _ => ?_
    change row ∈ tables.settings.delete _ ↔ _
    rw [KeyedTable.mem_delete, decide_eq_false_iff_not]

theorem settings_delete {s : State} (mirrored : Mirrored s) (guildId : Nat)
    (has : s.mgr.requestsOf guildId ≠ []) (row : SettingsRow) :
    row ∈ (s.deleteGuild guildId).tables.settings ↔
      row ∈ s.tables.settings ∧ row.guildId ≠ guildId := by
  unfold deleteGuild
  dsimp only
  rw [settings_foldl]
  refine and_congr_right fun _ => ?_
  constructor
  · rintro left rfl
    obtain ⟨request, there⟩ := exists_mem_of_ne_nil _ has
    exact left request there (mirrored.requests.ofGuild _ request there).1.symm
  · intro differ request there same
    exact differ (same.trans (mirrored.requests.ofGuild guildId request there).1)

end State

theorem MirroredSettings.set {table : KeyedTable SettingsRow.guildId}
    (mirrored : MirroredSettings guilds table) {settings : LFGuildSettings}
    (alone : ∀ other, other ≠ settings.guid → guilds[other]? = none) :
    MirroredSettings (guilds.insert settings.guid settings) (table.replace settings.row) where
  row := by
    intro row
    rw [KeyedTable.mem_replace]
    simp only [Std.ExtTreeMap.getElem?_insert, Std.LawfulEqCmp.compare_eq_iff_eq]
    constructor
    · rintro (rfl | ⟨mem, differ⟩)
      · exact ⟨settings, if_pos rfl, rfl⟩
      · obtain ⟨own, found, rfl⟩ := (mirrored.row row).mp mem
        rw [alone _ differ] at found
        cases found
    · rintro ⟨own, found, rfl⟩
      split at found
      · cases found
        exact .inl rfl
      rename_i differ
      rw [alone _ (Ne.symm differ)] at found
      cases found
  own := by
    intro guild other found
    simp only [Std.ExtTreeMap.getElem?_insert, Std.LawfulEqCmp.compare_eq_iff_eq] at found
    split at found
    · rename_i here
      cases found
      exact here
    · exact mirrored.own guild other found
  single := by
    have only : ∀ guild : Nat, (guilds.insert settings.guid settings)[guild]? ≠ none →
        settings.guid = guild := by
      intro guild has
      by_contra differ
      simp only [Std.ExtTreeMap.getElem?_insert, Std.LawfulEqCmp.compare_eq_iff_eq,
        if_neg differ] at has
      exact has (alone guild (Ne.symm differ))
    exact fun guild other has there => (only guild has).symm.trans (only other there)

theorem MirroredSettings.erase
    {table rest : KeyedTable SettingsRow.guildId} (mirrored : MirroredSettings guilds table)
    {guildId : Nat} (rows : ∀ row, row ∈ rest ↔ row ∈ table ∧ row.guildId ≠ guildId) :
    MirroredSettings (guilds.erase guildId) rest where
  row := by
    intro row
    rw [rows, mirrored.row]
    simp only [Std.ExtTreeMap.getElem?_erase, Std.LawfulEqCmp.compare_eq_iff_eq]
    constructor
    · rintro ⟨⟨own, found, same⟩, differ⟩
      exact ⟨own, (if_neg (Ne.symm differ)).trans found, same⟩
    · rintro ⟨own, found, same⟩
      split at found
      · cases found
      · rename_i differ
        exact ⟨⟨own, found, same⟩, Ne.symm differ⟩
  own := by
    intro guild other found
    simp only [Std.ExtTreeMap.getElem?_erase] at found
    split at found
    · cases found
    · exact mirrored.own guild other found
  single := by
    intro guild other has there
    simp only [Std.ExtTreeMap.getElem?_erase] at has there
    split at has
    · exact absurd rfl has
    split at there
    · exact absurd rfl there
    · exact mirrored.single guild other has there

theorem mirrored_step {s : State} (mirrored : Mirrored s) {a : Step} (careful : Careful s a) :
    Mirrored (step s a).1 := by
  cases a with
  | addMembershipRequest guildGuid request =>
    obtain ⟨rfl, first, early, late⟩ := careful
    refine ⟨mirrored.settings, mirrored.requests.add early late ?_ (s.requestsOf_add _ request)⟩
    intro other mem
    have differ := any_eq_false.mp first other mem
    simpa using differ
  | removeMembershipRequest playerId guildId =>
    refine ⟨?_, mirrored.requests.filter (fun guild player =>
      decide ¬ (guild = guildId ∧ player = playerId)) (fun row => ?_) fun guild => ?_⟩
    · unfold step State.removeMembershipRequest
      dsimp only
      split
      · exact mirrored.settings
      · exact mirrored.settings
    · rw [decide_eq_true_iff]
      exact s.applicants_remove mirrored playerId guildId row
    · refine (s.requestsOf_remove playerId guildId guild).trans ?_
      split
      · subst guild
        rw [eraseP_player (mirrored.requests.players guildId)]
        simp only [true_and, ne_eq]
      rename_i differ
      refine (filter_eq_self.mpr fun request _ => decide_eq_true ?_).symm
      exact fun same => differ same.1.symm
  | removeAllMembershipRequestsFromPlayer playerId =>
    refine ⟨?_, mirrored.requests.filter (fun _ player => decide (player ≠ playerId))
      (fun row => ?_) fun guild => ?_⟩
    · rw [step, State.tables_removeAll, settings_foldl_applicants]
      exact mirrored.settings
    · rw [decide_eq_true_iff]
      exact s.applicants_removeAll mirrored playerId row
    · rw [← eraseP_player (mirrored.requests.players guild)]
      exact s.requestsOf_removeAll playerId guild
  | setGuildSettings guildGuid settings =>
    obtain ⟨rfl, alone⟩ := careful
    exact ⟨mirrored.settings.set alone, mirrored.requests⟩
  | deleteGuild guildId =>
    refine ⟨mirrored.settings.erase fun row => ?_, mirrored.requests.filter
      (fun guild _ => decide (guild ≠ guildId)) (fun row => ?_) fun guild => ?_⟩
    · by_cases has : s.mgr.requestsOf guildId = []
      · have idle := careful.resolve_right (not_not.mpr has)
        unfold step State.deleteGuild
        dsimp only
        rw [has, foldl_nil]
        refine (and_iff_left_of_imp fun mem => ?_).symm
        rintro rfl
        obtain ⟨own, found, _⟩ := (mirrored.settings.row row).mp mem
        rw [idle] at found
        cases found
      · exact s.settings_delete mirrored guildId has row
    · rw [decide_eq_true_iff]
      exact s.applicants_delete mirrored guildId row
    · refine (s.requestsOf_delete guildId guild).trans ?_
      split
      · subst guild
        symm
        apply filter_eq_nil_iff.mpr
        intro request _ kept
        exact of_decide_eq_true kept rfl
      · rename_i differ
        exact (filter_eq_self.mpr fun _ _ => decide_eq_true (Ne.symm differ)).symm

theorem loaded_alone {settings : List (SettingsRow × Option UInt8)}
    {guild other : Nat} (has : (realm.loadGuildSettings settings)[guild]? ≠ none)
    (there : (realm.loadGuildSettings settings)[other]? ≠ none) : guild = other := by
  cases settings with
  | nil => exact absurd Std.ExtTreeMap.getElem?_empty has
  | cons first rest =>
    rw [getElem?_loadGuildSettings] at has there
    split at has
    · split at there
      · rename_i here elsewhere
        exact here.symm.trans elsewhere
      · exact absurd rfl there
    · exact absurd rfl has

theorem guid_loaded {settings : List (SettingsRow × Option UInt8)} {guild : Nat}
    {own : LFGuildSettings} (found : (realm.loadGuildSettings settings)[guild]? = some own) :
    own.guid = guild := by
  cases settings with
  | nil =>
    rw [Realm.loadGuildSettings, take_nil, foldl_nil, Std.ExtTreeMap.getElem?_empty] at found
    cases found
  | cons first rest =>
    rw [getElem?_loadGuildSettings] at found
    split at found
    · rename_i here
      cases found
      exact here
    · cases found

theorem careful_of_survives {s : State} (mirrored : Mirrored s) {a : Step}
    (survives : Survives realm (step s a).1) : Careful s a := by
  obtain ⟨settings, requests⟩ := survives _ _ (List.Perm.refl _) (List.Perm.refl _)
  have known : ∀ guild : Nat, (step s a).1.mgr.guildSettings[guild]? ≠ none →
      (realm.loadGuildSettings
        (realm.joined (step s a).1.tables.settings.rows))[guild]? ≠ none := by
    intro guild has idle
    have same := settings guild
    rw [Realm.loadFromDB, idle, Option.map_none] at same
    exact has (Option.map_eq_none_iff.mp same.symm)
  cases a with
  | addMembershipRequest guildGuid request =>
    have after := s.requestsOf_add guildGuid request guildGuid
    rw [if_pos rfl] at after
    have filed : request ∈ (step s (.addMembershipRequest guildGuid request)).1.mgr.requestsOf
        guildGuid := by
      rw [step, after]
      exact mem_append_right _ (mem_singleton.mpr rfl)
    obtain ⟨row, _, guild, same⟩ :=
      mem_requestsOf_loaded.mp ((requests guildGuid).mem_iff.mpr filed)
    have once := ((requests guildGuid).map (·.playerGUID)).nodup_iff.mp
      (players_loaded realm _ (step s (.addMembershipRequest guildGuid
        request)).1.tables.applicants.distinct guildGuid)
    rw [step, after, map_append, nodup_append] at once
    refine ⟨(congrArg MembershipRequest.guildId same).symm.trans guild, ?_, ?_, ?_⟩
    · apply any_eq_false.mpr
      intro other mem
      have differ := once.2.2 _ (mem_map.mpr ⟨other, mem, rfl⟩) _ (mem_singleton.mpr rfl)
      simpa using differ
    · rw [← same]
      exact Int.natCast_nonneg _
    · rw [← same]
      exact Int.ofNat_lt.mpr row.submitTime.toNat_lt
  | removeMembershipRequest playerId guildId => exact trivial
  | removeAllMembershipRequestsFromPlayer playerId => exact trivial
  | setGuildSettings guildGuid own =>
    have set : (step s (.setGuildSettings guildGuid own)).1.mgr.guildSettings[guildGuid]? =
        some own := Std.ExtTreeMap.getElem?_insert_self
    constructor
    · have same := settings guildGuid
      rw [set] at same
      obtain ⟨loaded, found, aside⟩ := Option.map_eq_some_iff.mp same
      have key : loaded.guid = guildGuid := guid_loaded found
      have guid : loaded.factionAside.guid = own.factionAside.guid :=
        congrArg LFGuildSettings.guid aside
      exact guid.symm.trans key
    · intro other differ
      by_contra has
      refine differ (loaded_alone (known other ?_) (known guildGuid (by rw [set]; nofun)))
      change (s.mgr.guildSettings.insert guildGuid own)[other]? ≠ none
      simpa only [Std.ExtTreeMap.getElem?_insert, Std.LawfulEqCmp.compare_eq_iff_eq,
        if_neg (Ne.symm differ)] using has
  | deleteGuild guildId =>
    rw [Careful, or_iff_not_imp_right, not_not]
    intro bare
    by_contra has
    obtain ⟨own, found⟩ := Option.ne_none_iff_exists'.mp has
    have row : own.row ∈ s.tables.settings := (mirrored.settings.row own.row).mpr
      ⟨own, by rw [← found, ← mirrored.settings.own guildId own found]; rfl, rfl⟩
    have rows : (step s (.deleteGuild guildId)).1.tables.settings = s.tables.settings := by
      unfold step State.deleteGuild
      dsimp only
      rw [bare, foldl_nil]
    obtain ⟨race, mem⟩ := mem_joined realm (KeyedTable.mem_rows.mpr row)
    rw [rows] at settings
    cases order : realm.joined s.tables.settings.rows with
    | nil =>
      rw [order] at mem
      cases mem
    | cons first rest =>
      have same := settings first.1.guildId
      rw [order, Realm.loadFromDB, getElem?_loadGuildSettings, if_pos rfl] at same
      obtain ⟨other, left, _⟩ := Option.map_eq_some_iff.mp same.symm
      change (s.mgr.guildSettings.erase guildId)[first.1.guildId]? = some other at left
      simp only [Std.ExtTreeMap.getElem?_erase, Std.LawfulEqCmp.compare_eq_iff_eq] at left
      split at left
      · cases left
      · rename_i differ
        exact differ (mirrored.settings.single guildId _ has (by rw [left]; nofun))

theorem mirrored_fresh : Mirrored fresh where
  settings :=
    { row := fun row => by
        refine iff_of_false (KeyedTable.notMem_empty row) ?_
        rintro ⟨own, found, _⟩
        rw [fresh, Std.ExtTreeMap.getElem?_empty] at found
        cases found
      own := fun guild own found => by
        rw [fresh, Std.ExtTreeMap.getElem?_empty] at found
        cases found
      single := fun guild _ has _ => absurd Std.ExtTreeMap.getElem?_empty has }
  requests :=
    have idle : ∀ guild, fresh.mgr.requestsOf guild = [] := by
      intro guild
      rw [GuildFinderMgr.requestsOf, fresh, Std.ExtTreeMap.getElem?_empty]
      rfl
    { row := fun row => by
        refine iff_of_false (KeyedTable.notMem_empty row) ?_
        rintro ⟨request, mem, _⟩
        rw [idle] at mem
        cases mem
      ofGuild := fun guild request mem => by
        rw [idle] at mem
        cases mem
      players := fun guild => by
        rw [idle]
        exact nodup_nil }

/-- A restart after any step of a run loads what is in memory exactly when every step is
careful. -/
theorem survives_iff (realm : Realm) (steps : List Step) :
    (∀ t ∈ Run.trace step fresh steps, Survives realm t.after) ↔
      ∀ t ∈ Run.trace step fresh steps, Careful t.before t.input :=
  Run.good_iff step Careful Mirrored (fun t => Survives realm t.after)
    (fun _ _ mirrored => ⟨careful_of_survives mirrored,
      fun careful => survives_of_mirrored realm (mirrored_step mirrored careful)⟩)
    (fun _ _ mirrored careful => mirrored_step mirrored careful) fresh steps mirrored_fresh

/-- Only one of two guilds with settings is loaded. -/
theorem survives_fails :
    ¬ ∀ (realm : Realm) (steps : List Step), ∀ t ∈ Run.trace step fresh steps,
      Survives realm t.after := by
  intro claim
  let own (guid : Nat) : LFGuildSettings := ⟨true, .alliance, guid, 1, 1, 1, 1, ""⟩
  have both := claim ⟨fun _ => [], fun _ => none⟩
    [.setGuildSettings 1 (own 1), .setGuildSettings 2 (own 2)] _ (.tail _ (.head _))
  obtain ⟨settings, _⟩ := both _ _ (List.Perm.refl _) (List.Perm.refl _)
  exact absurd (settings 1) (by decide)

end OpenWoW.GuildFinder
