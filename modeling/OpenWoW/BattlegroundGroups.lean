import Mathlib.Data.List.TakeWhile
import OpenWoW.BattlegroundQueue

/-! The structure of a battleground queue: players, groups and lists. -/
namespace OpenWoW.Battlegrounds

open List Option Function

/-- A group is in one list, once. -/
def PlacedAt (lists : Place → List Nat) (ginfo : Nat) (place : Place) : Prop :=
  ∀ other, (lists other).count ginfo = if other = place then 1 else 0

/-- Players, groups and lists point to each other. -/
structure Linked (q : Queue) : Prop where
  grouped : ∀ guid info, q.queuedPlayers guid = some info →
    ∃ group, q.groups info.groupInfo = some group
  members : ∀ ginfo group, q.groups ginfo = some group → ∀ guid,
    guid ∈ group.players ↔ ∃ info, q.queuedPlayers guid = some info ∧ info.groupInfo = ginfo
  nonempty : ∀ ginfo group, q.groups ginfo = some group → group.players.Nonempty
  placed : ∀ ginfo group, q.groups ginfo = some group → ∃ place, PlacedAt q.queuedGroups ginfo place
  alive : ∀ place, ∀ ginfo ∈ q.queuedGroups place, ∃ group, q.groups ginfo = some group
  fresh : ∀ ginfo, q.nextGroup ≤ ginfo → q.groups ginfo = none

/-- Groups wait in lists of their faction. -/
def Sided (q : Queue) : Prop :=
  ∀ place, ∀ ginfo ∈ q.queuedGroups place, ∀ group, q.groups ginfo = some group →
    group.team = place.team

structure Structured (q : Queue) : Prop extends Linked q where
  sided : Sided q

variable {ginfo : Nat} {place : Place}

theorem PlacedAt.mem {lists : Place → List Nat}
    (placed : PlacedAt lists ginfo place) : ginfo ∈ lists place := by
  apply count_pos_iff.mp
  rw [placed place, if_pos rfl]
  exact Nat.one_pos

theorem PlacedAt.unique {lists : Place → List Nat} {other : Place}
    (placed : PlacedAt lists ginfo place) (there : ginfo ∈ lists other) : other = place := by
  have some_ := count_pos_iff.mpr there
  rw [placed other] at some_
  by_contra apart
  rw [if_neg apart] at some_
  exact Nat.lt_irrefl 0 some_

theorem Linked.placedAt {q : Queue} (linked : Linked q)
    (there : ginfo ∈ q.queuedGroups place) : PlacedAt q.queuedGroups ginfo place := by
  obtain ⟨group, stands⟩ := linked.alive place ginfo there
  obtain ⟨source, placed⟩ := linked.placed ginfo group stands
  rw [placed.unique there]
  exact placed

/-- The lists and the players stay, and each group keeps its players and its team. -/
structure Quiet (q after : Queue) : Prop where
  players : after.queuedPlayers = q.queuedPlayers
  lists : after.queuedGroups = q.queuedGroups
  next : after.nextGroup = q.nextGroup
  groups : ∀ ginfo, (after.groups ginfo).map (fun group => (group.players, group.team)) =
    (q.groups ginfo).map fun group => (group.players, group.team)

theorem Quiet.refl (q : Queue) : Quiet q q := ⟨rfl, rfl, rfl, fun _ => rfl⟩

variable {after : Queue}

theorem Quiet.trans {q middle : Queue} (first : Quiet q middle)
    (second : Quiet middle after) : Quiet q after :=
  ⟨second.players.trans first.players, second.lists.trans first.lists,
    second.next.trans first.next, fun ginfo => (second.groups ginfo).trans (first.groups ginfo)⟩

theorem Quiet.foldl {α : Type} (step : Queue → α → Queue) (quiet : ∀ q a, Quiet q (step q a))
    (as : List α) (q : Queue) : Quiet q (as.foldl step q) := by
  induction as generalizing q with
  | nil => exact Quiet.refl q
  | cons a as ih => exact (quiet q a).trans (ih (step q a))

theorem Quiet.group {q : Queue} (quiet : Quiet q after)
    {group : GroupQueueInfo} (stands : after.groups ginfo = some group) :
    ∃ old, q.groups ginfo = some old ∧ group.players = old.players ∧ group.team = old.team := by
  have same := quiet.groups ginfo
  rw [stands, map_some] at same
  obtain ⟨old, found, eq⟩ := map_eq_some_iff.mp same.symm
  exact ⟨old, found, (congrArg Prod.fst eq).symm, (congrArg Prod.snd eq).symm⟩

theorem Quiet.group_after {q : Queue} (quiet : Quiet q after)
    {group : GroupQueueInfo} (stands : q.groups ginfo = some group) :
    ∃ new, after.groups ginfo = some new ∧ new.players = group.players := by
  have same := quiet.groups ginfo
  rw [stands, map_some] at same
  obtain ⟨new, found, eq⟩ := map_eq_some_iff.mp same
  exact ⟨new, found, congrArg Prod.fst eq⟩

theorem Structured.quiet {q : Queue} (structured : Structured q) (quiet : Quiet q after) :
    Structured after := by
  constructor
  · constructor
    · intro guid info queued
      rw [quiet.players] at queued
      obtain ⟨group, stands⟩ := structured.grouped guid info queued
      obtain ⟨new, found, _⟩ := quiet.group_after stands
      exact ⟨new, found⟩
    · intro ginfo group stands guid
      obtain ⟨old, found, players, _⟩ := quiet.group stands
      rw [players, quiet.players]
      exact structured.members ginfo old found guid
    · intro ginfo group stands
      obtain ⟨old, found, players, _⟩ := quiet.group stands
      rw [players]
      exact structured.nonempty ginfo old found
    · intro ginfo group stands
      obtain ⟨old, found, _, _⟩ := quiet.group stands
      rw [quiet.lists]
      exact structured.placed ginfo old found
    · intro place ginfo there
      rw [quiet.lists] at there
      obtain ⟨group, stands⟩ := structured.alive place ginfo there
      obtain ⟨new, found, _⟩ := quiet.group_after stands
      exact ⟨new, found⟩
    · intro ginfo above
      rw [quiet.next] at above
      have same := quiet.groups ginfo
      rw [structured.fresh ginfo above] at same
      exact map_eq_none_iff.mp same
  · intro place ginfo there group stands
    rw [quiet.lists] at there
    obtain ⟨old, found, _, team⟩ := quiet.group stands
    rw [team]
    exact structured.sided place ginfo there old found

variable (q : Queue)

theorem quiet_setPools (ali horde : SelectionPool) : Quiet q (q.setPools ali horde) :=
  ⟨rfl, rfl, rfl, fun _ => rfl⟩

theorem quiet_setPool (team : Team) (pool : SelectionPool) : Quiet q (q.setPool team pool) :=
  ⟨rfl, rfl, rfl, fun _ => rfl⟩

theorem quiet_modifyGroup (ginfo : Nat) (change : GroupQueueInfo → GroupQueueInfo)
    (kept : ∀ group, q.groups ginfo = some group →
      (change group).players = group.players ∧ (change group).team = group.team) :
    Quiet q (q.modifyGroup ginfo change) := by
  refine ⟨rfl, rfl, rfl, fun other => ?_⟩
  unfold Queue.modifyGroup
  by_cases here : other = ginfo
  · subst here
    simp only [update_self, Option.map_map]
    cases stands : q.groups other with
    | none => rfl
    | some group =>
      have ⟨players, team⟩ := kept group stands
      simp [players, team]
  · simp only [update_of_ne here]

theorem quiet_invite {group : GroupQueueInfo} (stands : q.groups ginfo = some group)
    (instanceId : Nat) (now : UInt32) :
    Quiet q (q.inviteGroupToBG ginfo instanceId group.team now) := by
  apply quiet_modifyGroup
  intro other found
  obtain rfl := some.inj (stands.symm.trans found)
  split <;> exact ⟨rfl, rfl⟩

theorem quiet_invitePool (team : Team) (instanceId : Nat) (now : UInt32) :
    Quiet q (q.invitePool team instanceId now) := by
  apply Quiet.foldl
  intro q ginfo
  cases stands : q.groups ginfo with
  | none => exact Quiet.refl q
  | some group => exact quiet_invite q stands instanceId now

theorem quiet_invitePools (instanceId : Nat) (now : UInt32) :
    Quiet q (q.invitePools instanceId now) :=
  (quiet_invitePool q .alliance instanceId now).trans (quiet_invitePool _ .horde instanceId now)

theorem quiet_fillPlayersToBG (invitationType : Nat) (bg : Queue.FreeSlots)
    (bracketId : Fin maxBattlegroundBrackets) :
    Quiet q (q.fillPlayersToBG invitationType bg bracketId) := by
  unfold Queue.fillPlayersToBG
  split
  · exact quiet_setPools q _ _
  · exact quiet_setPools q _ _

theorem quiet_fillOpen (update : Queue.Update) : Quiet q (q.fillOpen update) := by
  apply Quiet.foldl
  intro q bg
  split
  · exact ((quiet_setPools q _ _).trans (quiet_fillPlayersToBG _ _ _ _)).trans
      (quiet_invitePools _ _ _)
  · exact Quiet.refl q

theorem quiet_checkNormalMatch (update : Queue.Update) (minPlayers maxPlayers : Nat) :
    Quiet q (q.checkNormalMatch update minPlayers maxPlayers).1 := by
  unfold Queue.checkNormalMatch
  simp only
  split
  · exact quiet_setPools q _ _
  · exact quiet_setPools q _ _

/-- One group is in another list now, and all groups keep their players. -/
structure Moved (q after : Queue) (moved : Nat) (target : Place) : Prop where
  players : after.queuedPlayers = q.queuedPlayers
  next : after.nextGroup = q.nextGroup
  groups : ∀ ginfo, (after.groups ginfo).map (·.players) = (q.groups ginfo).map (·.players)
  stands : ∃ group, q.groups moved = some group
  there : PlacedAt after.queuedGroups moved target
  others : ∀ ginfo, ginfo ≠ moved → ∀ place,
    (after.queuedGroups place).count ginfo = (q.queuedGroups place).count ginfo

variable {q}

variable {target : Place}

section
variable {moved : Nat} (move : Moved q after moved target)
include move

theorem Moved.group {group : GroupQueueInfo}
    (stands : after.groups ginfo = some group) :
    ∃ old, q.groups ginfo = some old ∧ group.players = old.players := by
  have same := move.groups ginfo
  rw [stands, map_some] at same
  obtain ⟨old, found, eq⟩ := map_eq_some_iff.mp same.symm
  exact ⟨old, found, eq.symm⟩

theorem Moved.group_after {group : GroupQueueInfo}
    (stands : q.groups ginfo = some group) :
    ∃ new, after.groups ginfo = some new ∧ new.players = group.players := by
  have same := move.groups ginfo
  rw [stands, map_some] at same
  exact map_eq_some_iff.mp same

theorem Moved.mem (apart : ginfo ≠ moved) :
    ginfo ∈ after.queuedGroups place ↔ ginfo ∈ q.queuedGroups place := by
  rw [← count_pos_iff, ← count_pos_iff, move.others ginfo apart]

end

theorem Linked.moved {moved : Nat} (linked : Linked q)
    (move : Moved q after moved target) : Linked after := by
  constructor
  · intro guid info queued
    rw [move.players] at queued
    obtain ⟨group, stands⟩ := linked.grouped guid info queued
    obtain ⟨new, found, _⟩ := move.group_after stands
    exact ⟨new, found⟩
  · intro ginfo group stands guid
    obtain ⟨old, found, players⟩ := move.group stands
    rw [players, move.players]
    exact linked.members ginfo old found guid
  · intro ginfo group stands
    obtain ⟨old, found, players⟩ := move.group stands
    rw [players]
    exact linked.nonempty ginfo old found
  · intro ginfo group stands
    by_cases here : ginfo = moved
    · rw [here]
      exact ⟨target, move.there⟩
    obtain ⟨old, found, _⟩ := move.group stands
    obtain ⟨place, placed⟩ := linked.placed ginfo old found
    refine ⟨place, fun other => ?_⟩
    rw [move.others ginfo here]
    exact placed other
  · intro place ginfo there
    by_cases here : ginfo = moved
    · obtain ⟨group, stands⟩ := move.stands
      obtain ⟨new, found, _⟩ := move.group_after stands
      exact ⟨new, here ▸ found⟩
    obtain ⟨group, stands⟩ := linked.alive place ginfo ((move.mem here).mp there)
    obtain ⟨new, found, _⟩ := move.group_after stands
    exact ⟨new, found⟩
  · intro ginfo above
    rw [move.next] at above
    have same := move.groups ginfo
    rw [linked.fresh ginfo above] at same
    exact map_eq_none_iff.mp same

theorem Structured.moved {moved : Nat}
    (structured : Structured q) (move : Moved q after moved target)
    (team : ∀ group, after.groups moved = some group → group.team = target.team)
    (teams : ∀ ginfo, ginfo ≠ moved → after.groups ginfo = q.groups ginfo) : Structured after := by
  refine ⟨structured.toLinked.moved move, fun place ginfo there group stands => ?_⟩
  by_cases here : ginfo = moved
  · subst here
    rw [team group stands, move.there.unique there]
  · rw [teams ginfo here] at stands
    exact structured.sided place ginfo ((move.mem here).mp there) group stands

theorem switched_lists {lists : Place → List Nat} {moved : Nat} {source target : Place}
    (placed : PlacedAt lists moved source) (apart : source ≠ target) {left : List Nat}
    (gone : left.count moved = 0)
    (kept : ∀ ginfo, ginfo ≠ moved → left.count ginfo = (lists source).count ginfo) :
    PlacedAt (Function.update (Function.update lists target (moved :: lists target)) source left)
      moved target ∧
    ∀ ginfo, ginfo ≠ moved → ∀ place,
      ((Function.update (Function.update lists target (moved :: lists target)) source left)
        place).count ginfo = (lists place).count ginfo := by
  constructor
  · intro place
    by_cases isSource : place = source
    · rw [isSource, update_self, gone, if_neg apart]
    rw [update_of_ne isSource]
    by_cases isTarget : place = target
    · rw [isTarget, update_self, count_cons_self, placed target,
        if_neg (Ne.symm apart), if_pos rfl]
    · rw [update_of_ne isTarget, placed place, if_neg isSource, if_neg isTarget]
  · intro ginfo other place
    by_cases isSource : place = source
    · rw [isSource, update_self, kept ginfo other]
    rw [update_of_ne isSource]
    by_cases isTarget : place = target
    · rw [isTarget, update_self, count_cons_of_ne (Ne.symm other)]
    · rw [update_of_ne isTarget]

theorem structured_releasePremade (structured : Structured q)
    (bracketId : Fin maxBattlegroundBrackets) (minPlayersPerTeam : Nat) (timeBefore : UInt32)
    (team : Team) : Structured (q.releasePremade bracketId minPlayersPerTeam timeBefore team) := by
  unfold Queue.releasePremade
  cases waiting : q.queuedGroups ⟨bracketId, .premade, team⟩ with
  | nil => exact structured
  | cons ginfo rest =>
    simp only
    cases stands : q.groups ginfo with
    | none => exact structured
    | some group =>
      simp only
      split
      · have first : ginfo ∈ q.queuedGroups ⟨bracketId, .premade, team⟩ := by
          rw [waiting]
          exact mem_cons_self
        have placed := structured.toLinked.placedAt first
        have once := placed ⟨bracketId, .premade, team⟩
        rw [waiting, count_cons_self, if_pos rfl] at once
        have ⟨there, others⟩ := @switched_lists _ _ _ ⟨bracketId, .normal, team⟩ placed
          (by simp) rest (by omega) fun other apart => by
            rw [waiting, count_cons_of_ne (Ne.symm apart)]
        have move : Moved q ((q.pushFront ⟨bracketId, .normal, team⟩ ginfo).setList
            ⟨bracketId, .premade, team⟩ rest) ginfo ⟨bracketId, .normal, team⟩ :=
          ⟨rfl, rfl, fun _ => rfl, ⟨group, stands⟩, there, others⟩
        apply structured.moved move
        · intro other found
          exact structured.sided ⟨bracketId, .premade, team⟩ ginfo first other found
        · exact fun _ _ => rfl
      · exact structured

theorem structured_checkPremadeMatch (structured : Structured q) (update : Queue.Update)
    (minPlayersPerTeam maxPlayersPerTeam : Nat) :
    Structured (q.checkPremadeMatch update minPlayersPerTeam maxPlayersPerTeam).1 := by
  unfold Queue.checkPremadeMatch
  simp only
  split
  · exact structured.quiet (quiet_setPools q _ _)
  · exact structured_releasePremade (structured_releasePremade structured _ _ _ _) _ _ _ _

theorem structured_updatePremade (structured : Structured q) (update : Queue.Update)
    (minPlayersPerTeam maxPlayersPerTeam : Nat) :
    Structured (q.updatePremade update minPlayersPerTeam maxPlayersPerTeam).1 := by
  have checked := structured_checkPremadeMatch structured update minPlayersPerTeam maxPlayersPerTeam
  unfold Queue.updatePremade
  simp only
  split
  · split
    · exact checked
    · exact (checked.quiet (quiet_invitePools _ _ _)).quiet (quiet_setPools _ _ _)
  · exact checked

theorem count_eraseAfter {moved : Nat} {list : List Nat}
    (there : moved ∈ Queue.after ginfo list) (once : list.count moved = 1) :
    (Queue.eraseAfter ginfo moved list).count moved = 0 ∧
      ∀ other, other ≠ moved →
        (Queue.eraseAfter ginfo moved list).count other = list.count other := by
  have split := takeWhile_append_dropWhile (p := (· ≠ ginfo)) (l := list)
  unfold Queue.after at there
  unfold Queue.eraseAfter
  cases drop : list.dropWhile (· ≠ ginfo) with
  | nil =>
    rw [drop] at there
    cases there
  | cons marker rest =>
    rw [drop] at there split
    rw [tail_cons] at there
    constructor
    · have total : (list.takeWhile (· ≠ ginfo) ++ marker :: rest).count moved = 1 := by
        rw [split]
        exact once
      have present := count_pos_iff.mpr there
      rw [count_append, count_cons] at total ⊢
      rw [count_erase_self]
      omega
    · intro other apart
      rw [count_append, count_cons, count_erase_of_ne apart, ← count_cons, ← count_append, split]

theorem after_eraseAfter (ginfo moved : Nat) (list : List Nat) :
    Queue.after ginfo (Queue.eraseAfter ginfo moved list) =
      (Queue.after ginfo list).erase moved := by
  unfold Queue.after Queue.eraseAfter
  have before : ∀ other ∈ list.takeWhile (· ≠ ginfo), decide (other ≠ ginfo) = true :=
    fun other within => mem_takeWhile_imp (p := (· ≠ ginfo)) within
  rw [dropWhile_append_of_pos before]
  cases drop : list.dropWhile (· ≠ ginfo) with
  | nil => rfl
  | cons marker rest =>
    have stops := head_dropWhile_not (· ≠ ginfo) (l := list) (drop ▸ cons_ne_nil marker rest)
    simp only [drop, head_cons] at stops
    rw [dropWhile_cons_of_neg (by simp [stops])]
    rfl

theorem sublist_after (ginfo : Nat) (list : List Nat) :
    (Queue.after ginfo list).Sublist list :=
  (tail_sublist _).trans (dropWhile_sublist _)

theorem Structured.nodup (structured : Structured q) (place : Place) :
    (q.queuedGroups place).Nodup := by
  rw [nodup_iff_count_eq_one]
  intro ginfo there
  have once := structured.toLinked.placedAt there place
  rwa [if_pos rfl] at once

theorem addUninvited_selected (size : Nat → Nat) (invited : Nat → Bool) (desiredCount : Nat)
    (pool : SelectionPool) (list : List Nat) :
    ∃ taken, taken.Sublist list ∧
      (pool.addUninvited size invited desiredCount list).selectedGroups =
        pool.selectedGroups ++ taken := by
  induction list generalizing pool with
  | nil => exact ⟨[], List.Sublist.refl [], (append_nil _).symm⟩
  | cons ginfo rest ih =>
    unfold SelectionPool.addUninvited
    split
    · obtain ⟨taken, within, eq⟩ := ih pool
      exact ⟨taken, within.cons ginfo, eq⟩
    simp only
    have added : ∃ one, one.Sublist [ginfo] ∧
        (pool.addGroup size invited ginfo desiredCount).1.selectedGroups =
          pool.selectedGroups ++ one := by
      unfold SelectionPool.addGroup
      split
      · exact ⟨[ginfo], List.Sublist.refl _, rfl⟩
      · exact ⟨[], nil_sublist _, (append_nil _).symm⟩
    obtain ⟨one, oneWithin, oneEq⟩ := added
    split
    · obtain ⟨taken, within, eq⟩ := ih (pool.addGroup size invited ginfo desiredCount).1
      refine ⟨one ++ taken, oneWithin.append within, ?_⟩
      rw [eq, oneEq, append_assoc]
    · exact ⟨one, oneWithin.trans (singleton_sublist.mpr mem_cons_self), oneEq⟩

variable {bracketId : Fin maxBattlegroundBrackets}

theorem structured_switchTeam (structured : Structured q) {moved : Nat} {otherTeam : Team}
    (there : moved ∈ Queue.after ginfo (q.queuedGroups ⟨bracketId, .normal, otherTeam.other⟩)) :
    Structured (q.switchTeam bracketId ginfo otherTeam moved) := by
  have listed := (sublist_after ginfo _).subset there
  have placed := structured.toLinked.placedAt listed
  obtain ⟨group, stands⟩ := structured.alive _ moved listed
  have once := placed ⟨bracketId, .normal, otherTeam.other⟩
  rw [if_pos rfl] at once
  have ⟨gone, kept⟩ := count_eraseAfter there once
  have apart : (⟨bracketId, .normal, otherTeam.other⟩ : Place) ≠ ⟨bracketId, .normal, otherTeam⟩ := by
    cases otherTeam <;> simp [Team.other]
  have ⟨target, others⟩ := switched_lists placed apart gone kept
  have source : (Function.update q.queuedGroups ⟨bracketId, .normal, otherTeam⟩
      (moved :: q.queuedGroups ⟨bracketId, .normal, otherTeam⟩))
        ⟨bracketId, .normal, otherTeam.other⟩ =
      q.queuedGroups ⟨bracketId, .normal, otherTeam.other⟩ := update_of_ne apart _ _
  have move : Moved q (q.switchTeam bracketId ginfo otherTeam moved) moved
      ⟨bracketId, .normal, otherTeam⟩ := by
    refine ⟨rfl, rfl, fun other => ?_, ⟨group, stands⟩, ?_, ?_⟩
    · unfold Queue.switchTeam Queue.modifyGroup
      by_cases here : other = moved
      · subst here
        simp [Queue.pushFront, Queue.setList, stands]
      · simp [Queue.pushFront, Queue.setList, update_of_ne here]
    · unfold Queue.switchTeam Queue.pushFront Queue.modifyGroup Queue.setList
      simp only [source]
      exact target
    · unfold Queue.switchTeam Queue.pushFront Queue.modifyGroup Queue.setList
      simp only [source]
      exact others
  apply structured.moved move
  · intro new found
    unfold Queue.switchTeam Queue.pushFront Queue.modifyGroup Queue.setList at found
    simp only [update_self, stands, map_some, some.injEq] at found
    rw [← found]
  · intro other elsewhere
    exact update_of_ne elsewhere _ _

theorem structured_switches {bracketId : Fin maxBattlegroundBrackets} {ginfo : Nat}
    {otherTeam : Team} {selected : List Nat} (structured : Structured q)
    (there : ∀ moved ∈ selected,
      moved ∈ Queue.after ginfo (q.queuedGroups ⟨bracketId, .normal, otherTeam.other⟩))
    (distinct : selected.Nodup) :
    Structured (selected.foldl (fun q moved => q.switchTeam bracketId ginfo otherTeam moved) q) := by
  induction selected generalizing q with
  | nil => exact structured
  | cons moved selected ih =>
    obtain ⟨notLater, distinct⟩ := nodup_cons.mp distinct
    apply ih (structured_switchTeam structured (there moved mem_cons_self))
    · intro later within
      have list : (q.switchTeam bracketId ginfo otherTeam moved).queuedGroups
          ⟨bracketId, .normal, otherTeam.other⟩ =
        Queue.eraseAfter ginfo moved (q.queuedGroups ⟨bracketId, .normal, otherTeam.other⟩) := by
        unfold Queue.switchTeam Queue.pushFront Queue.modifyGroup Queue.setList
        simp only [update_self]
        rw [update_of_ne]
        cases otherTeam <;> simp [Team.other]
      rw [list, after_eraseAfter]
      have apart : later ≠ moved := fun same => notLater (same ▸ within)
      exact (mem_erase_of_ne apart).mpr (there later (mem_cons_of_mem _ within))
    · exact distinct

theorem structured_checkSkirmish (structured : Structured q)
    {bracketId : Fin maxBattlegroundBrackets} {minPlayersPerTeam : Nat} {checked : Queue × Bool}
    (ends : q.checkSkirmishForSameFaction bracketId minPlayersPerTeam = some checked) :
    Structured checked.1 := by
  unfold Queue.checkSkirmishForSameFaction at ends
  split at ends
  · rw [← some.inj ends]
    exact structured
  simp only at ends
  generalize (if (q.selectionPools .horde).getPlayerCount = minPlayersPerTeam then Team.horde
    else .alliance) = teamIndex at ends
  have emptied := structured.quiet (quiet_setPool q teamIndex.other .init)
  split at ends
  · cases ends
  rename_i ginfo last
  split at ends
  · rw [← some.inj ends]
    exact emptied
  have filled := emptied.quiet (quiet_setPool _ teamIndex.other
    (((q.setPool teamIndex.other .init).selectionPools teamIndex.other).addUninvited
      (q.setPool teamIndex.other .init).size (q.setPool teamIndex.other .init).invited
      minPlayersPerTeam
      (Queue.after ginfo
        ((q.setPool teamIndex.other .init).queuedGroups ⟨bracketId, .normal, teamIndex⟩))))
  split at ends
  · rw [← some.inj ends]
    exact filled
  rw [← some.inj ends]
  obtain ⟨taken, within, eq⟩ := addUninvited_selected (q.setPool teamIndex.other .init).size
    (q.setPool teamIndex.other .init).invited minPlayersPerTeam .init
    (Queue.after ginfo (q.queuedGroups ⟨bracketId, .normal, teamIndex⟩))
  have pool : (q.setPool teamIndex.other .init).selectionPools teamIndex.other = .init :=
    update_self _ _ _
  have back : teamIndex.other.other = teamIndex := by cases teamIndex <;> rfl
  have selected : (((q.setPool teamIndex.other .init).selectionPools teamIndex.other).addUninvited
      (q.setPool teamIndex.other .init).size (q.setPool teamIndex.other .init).invited
      minPlayersPerTeam
      (Queue.after ginfo
        ((q.setPool teamIndex.other .init).queuedGroups
          ⟨bracketId, .normal, teamIndex⟩))).selectedGroups = taken := by
    rw [pool]
    exact eq
  simp only [selected]
  apply structured_switches filled
  · intro moved chosen
    rw [back]
    exact within.subset chosen
  · exact (structured.nodup _).sublist (within.trans (sublist_after _ _))

theorem findTeams_some (structured : Structured q) {canPlay : Nat → Bool} {aTeam hTeam : Nat}
    (found : q.findTeams bracketId canPlay = some (aTeam, hTeam)) :
    aTeam ≠ hTeam ∧ (∃ side, aTeam ∈ q.queuedGroups ⟨bracketId, .premade, side⟩) ∧
      ∃ side, hTeam ∈ q.queuedGroups ⟨bracketId, .premade, side⟩ := by
  have opponent : ∀ side first second,
      q.findOpponent canPlay first (q.queuedGroups ⟨bracketId, .premade, side⟩) = some second →
      first ≠ second ∧ second ∈ q.queuedGroups ⟨bracketId, .premade, side⟩ := by
    intro side first second meets
    constructor
    · intro same
      have differs := find?_some meets
      simp [same] at differs
    · exact (dropWhile_sublist _).subset (mem_of_find?_eq_some meets)
  unfold Queue.findTeams at found
  simp only at found
  split at found
  · rename_i ali horde firstAli firstHorde
    obtain ⟨rfl, rfl⟩ := Prod.mk.inj (some.inj found)
    have inAli := mem_of_find?_eq_some firstAli
    have inHorde := mem_of_find?_eq_some firstHorde
    refine ⟨fun same => ?_, ⟨.alliance, inAli⟩, ⟨.horde, inHorde⟩⟩
    have one := (structured.toLinked.placedAt inAli).unique (same ▸ inHorde)
    cases congrArg Place.team one
  · rename_i first firstAli noneHorde
    obtain ⟨second, meets, eq⟩ := map_eq_some_iff.mp found
    obtain ⟨rfl, rfl⟩ := Prod.mk.inj eq
    have ⟨apart, listed⟩ := opponent .alliance _ _ meets
    exact ⟨apart, ⟨.alliance, mem_of_find?_eq_some firstAli⟩, ⟨.alliance, listed⟩⟩
  · rename_i first noneAli firstHorde
    obtain ⟨second, meets, eq⟩ := map_eq_some_iff.mp found
    obtain ⟨rfl, rfl⟩ := Prod.mk.inj eq
    have ⟨apart, listed⟩ := opponent .horde _ _ meets
    exact ⟨apart, ⟨.horde, mem_of_find?_eq_some firstHorde⟩, ⟨.horde, listed⟩⟩
  · cases found

theorem moveRated_invite (q : Queue) (bracketId : Fin maxBattlegroundBrackets) {other : Nat}
    (apart : ginfo ≠ other) (side otherSide : Team) (instanceId : Nat) (now : UInt32) :
    (q.moveRated bracketId ginfo side).inviteGroupToBG other instanceId otherSide now =
      (q.inviteGroupToBG other instanceId otherSide now).moveRated bracketId ginfo side := by
  have same : (q.inviteGroupToBG other instanceId otherSide now).groups ginfo = q.groups ginfo :=
    update_of_ne apart _ _
  unfold Queue.moveRated
  rw [same]
  cases q.groups ginfo with
  | none => rfl
  | some group =>
    simp only
    split <;> rfl

/-- A team that moves to the list of a side and is invited for it. -/
theorem structured_playFor (structured : Structured q) {own : Team}
    (there : ginfo ∈ q.queuedGroups ⟨bracketId, .premade, own⟩)
    (side : Team) (instanceId : Nat) (now : UInt32) :
    Structured ((q.moveRated bracketId ginfo side).inviteGroupToBG ginfo instanceId side now) ∧
      ∀ other, other ≠ ginfo → ∀ place, other ∈ q.queuedGroups place →
        other ∈ ((q.moveRated bracketId ginfo side).inviteGroupToBG ginfo instanceId side
          now).queuedGroups place := by
  obtain ⟨group, stands⟩ := structured.alive _ ginfo there
  have team := structured.sided _ ginfo there group stands
  unfold Queue.moveRated
  rw [stands]
  simp only
  split
  · rename_i switches
    have away : own = side.other := by
      rw [team] at switches
      cases own <;> cases side <;> simp_all [Team.other]
    have placed := structured.toLinked.placedAt there
    rw [away] at placed
    have once := placed ⟨bracketId, .premade, side.other⟩
    rw [if_pos rfl] at once
    have apart : (⟨bracketId, .premade, side.other⟩ : Place) ≠ ⟨bracketId, .premade, side⟩ := by
      cases side <;> simp [Team.other]
    have gone : ((q.queuedGroups ⟨bracketId, .premade, side.other⟩).erase ginfo).count ginfo = 0 := by
      rw [count_erase_self, once]
    have ⟨target, others⟩ := switched_lists placed apart gone fun other elsewhere =>
      count_erase_of_ne elsewhere
    have source : (Function.update q.queuedGroups ⟨bracketId, .premade, side⟩
        (ginfo :: q.queuedGroups ⟨bracketId, .premade, side⟩)) ⟨bracketId, .premade, side.other⟩ =
        q.queuedGroups ⟨bracketId, .premade, side.other⟩ := update_of_ne apart _ _
    have move : Moved q (((q.pushFront ⟨bracketId, .premade, side⟩ ginfo).setList
        ⟨bracketId, .premade, side.other⟩
        (((q.pushFront ⟨bracketId, .premade, side⟩ ginfo).queuedGroups
          ⟨bracketId, .premade, side.other⟩).erase ginfo)).inviteGroupToBG ginfo instanceId side now)
        ginfo ⟨bracketId, .premade, side⟩ := by
      refine ⟨rfl, rfl, fun other => ?_, ⟨group, stands⟩, ?_, ?_⟩
      · unfold Queue.inviteGroupToBG Queue.modifyGroup Queue.pushFront Queue.setList
        by_cases here : other = ginfo
        · subst here
          simp only [update_self, stands, map_some]
          split <;> rfl
        · simp only [update_of_ne here]
      · unfold Queue.inviteGroupToBG Queue.modifyGroup Queue.pushFront Queue.setList
        simp only [source]
        exact target
      · unfold Queue.inviteGroupToBG Queue.modifyGroup Queue.pushFront Queue.setList
        simp only [source]
        exact others
    constructor
    · apply structured.moved move
      · intro new found
        unfold Queue.inviteGroupToBG Queue.modifyGroup Queue.pushFront Queue.setList at found
        simp only [update_self, stands, map_some, some.injEq] at found
        rw [← found]
        split <;> rfl
      · intro other elsewhere
        exact update_of_ne elsewhere _ _
    · intro other elsewhere place listed
      exact (move.mem elsewhere).mpr listed
  · rename_i stays
    have quiet := quiet_invite q stands instanceId now
    rw [not_not.mp stays] at quiet
    constructor
    · exact structured.quiet quiet
    · intro other _ place listed
      rw [quiet.lists]
      exact listed

theorem structured_startRated (structured : Structured q) {aTeam hTeam : Nat} {aSide hSide : Team}
    (apart : aTeam ≠ hTeam) (aThere : aTeam ∈ q.queuedGroups ⟨bracketId, .premade, aSide⟩)
    (hThere : hTeam ∈ q.queuedGroups ⟨bracketId, .premade, hSide⟩) (instanceId : Nat)
    (now : UInt32) : Structured (q.startRated bracketId aTeam hTeam instanceId now) := by
  unfold Queue.startRated
  split
  · rename_i a h _ _
    simp only
    have rated := (quiet_modifyGroup q aTeam (fun group =>
        { group with opponentsTeamRating := h.arenaTeamRating,
                     opponentsMatchmakerRating := h.arenaMatchmakerRating })
        fun _ _ => ⟨rfl, rfl⟩).trans
      (quiet_modifyGroup _ hTeam (fun group =>
        { group with opponentsTeamRating := a.arenaTeamRating,
                     opponentsMatchmakerRating := a.arenaMatchmakerRating })
        fun _ _ => ⟨rfl, rfl⟩)
    rw [moveRated_invite _ bracketId (Ne.symm apart)]
    have ⟨aPlays, others⟩ := structured_playFor (structured.quiet rated)
      (rated.lists ▸ aThere) .alliance instanceId now
    exact (structured_playFor aPlays (others hTeam (Ne.symm apart) _ (rated.lists ▸ hThere)) .horde
      instanceId now).1
  · exact structured

theorem structured_updateRated (structured : Structured q) (update : Queue.Update) :
    Structured (q.updateRated update) := by
  unfold Queue.updateRated
  split
  · exact structured
  simp only
  split
  · rename_i aTeam hTeam instanceId found _
    obtain ⟨apart, ⟨aSide, aThere⟩, ⟨hSide, hThere⟩⟩ := findTeams_some structured found
    exact structured_startRated structured apart aThere hThere instanceId update.now
  · exact structured

variable {update : Queue.Update}

theorem structured_updateNormal (structured : Structured q)
    {template : Queue.Template} {minPlayersPerTeam maxPlayersPerTeam : Nat}
    (ends : q.updateNormal update template minPlayersPerTeam maxPlayersPerTeam = some after) :
    Structured after := by
  have invites : ∀ checked : Queue × Bool, Structured checked.1 →
      Structured (if checked.2 then update.newMatch.elim checked.1 fun instanceId =>
        checked.1.invitePools instanceId update.now else checked.1) := by
    intro checked stays
    split
    · cases update.newMatch with
      | none => exact stays
      | some instanceId => exact stays.quiet (quiet_invitePools _ instanceId update.now)
    · exact stays
  have matched := structured.quiet
    (quiet_checkNormalMatch q update minPlayersPerTeam maxPlayersPerTeam)
  unfold Queue.updateNormal at ends
  simp only at ends
  split at ends
  · obtain ⟨checked, skirmish, eq⟩ := map_eq_some_iff.mp ends
    rw [← eq]
    exact invites checked (structured_checkSkirmish matched skirmish)
  · rw [← some.inj ends]
    exact invites _ matched

theorem update_keeps (holds : Queue → Prop)
    (fill : ∀ q, holds q → holds (q.fillOpen update)) (init : ∀ q, holds q → holds q.initPools)
    (premade : ∀ q minPlayersPerTeam maxPlayersPerTeam, holds q →
      holds (q.updatePremade update minPlayersPerTeam maxPlayersPerTeam).1)
    (normal : ∀ q template minPlayersPerTeam maxPlayersPerTeam after, holds q →
      q.updateNormal update template minPlayersPerTeam maxPlayersPerTeam = some after → holds after)
    (rated : ∀ q, holds q → holds (q.updateRated update)) (start : holds q)
    (ends : q.battlegroundQueueUpdate update = some after) : holds after := by
  have filled := fill q start
  have cleared := init _ filled
  unfold Queue.battlegroundQueueUpdate at ends
  simp only at ends
  split at ends
  · rw [← some.inj ends]
    exact start
  split at ends
  · rw [← some.inj ends]
    exact filled
  split at ends
  · rw [← some.inj ends]
    exact filled
  rename_i template _ _
  generalize (if template.isArena = true then update.arenaType
    else template.maxPlayersPerTeam) = maxPlayersPerTeam at ends
  generalize (if template.isArena = true then (if update.isArenaTesting = true then 1
    else update.arenaType) else if update.isTesting = true then 1
    else template.minPlayersPerTeam) = minPlayersPerTeam at ends
  have checks : holds (if template.isBattleground = true then
      (q.fillOpen update).initPools.updatePremade update minPlayersPerTeam maxPlayersPerTeam
    else ((q.fillOpen update).initPools, true)).1 := by
    split
    · exact premade _ minPlayersPerTeam maxPlayersPerTeam cleared
    · exact cleared
  revert ends checks
  generalize (if template.isBattleground = true then
      (q.fillOpen update).initPools.updatePremade update minPlayersPerTeam maxPlayersPerTeam
    else ((q.fillOpen update).initPools, true)) = checked
  intro ends checks
  split at ends
  · rw [← some.inj ends]
    exact checks
  split at ends
  · exact normal _ template _ _ _ checks ends
  split at ends
  · rw [← some.inj ends]
    exact rated _ checks
  · rw [← some.inj ends]
    exact checks

theorem structured_update (structured : Structured q)
    (ends : q.battlegroundQueueUpdate update = some after) : Structured after :=
  update_keeps Structured
    (fun q structured => structured.quiet (quiet_fillOpen q update))
    (fun _ structured => structured.quiet (quiet_setPools _ .init .init))
    (fun _ _ _ structured => structured_updatePremade structured update _ _)
    (fun _ _ _ _ _ structured normal => structured_updateNormal structured normal)
    (fun _ structured => structured_updateRated structured update) structured ends

end OpenWoW.Battlegrounds
