import Mathlib.Data.List.FinRange
import OpenWoW.BattlegroundGroups

/-! Runs of a battleground queue: players join and leave, and updates make matches. -/
namespace OpenWoW.Battlegrounds

open List Option Function

variable {q : Queue}

theorem queued_members (members : List Nat) (entry : PlayerQueueInfo)
    (players : Nat → Option PlayerQueueInfo) (guid : Nat) :
    members.foldl (fun players guid => Function.update players guid (some entry)) players guid =
      if guid ∈ members then some entry else players guid := by
  induction members generalizing players with
  | nil => rfl
  | cons first members ih =>
    rw [foldl_cons, ih]
    by_cases later : guid ∈ members
    · rw [if_pos later, if_pos (mem_cons_of_mem first later)]
    rw [if_neg later]
    by_cases here : guid = first
    · rw [here, update_self, if_pos mem_cons_self]
    · rw [update_of_ne here, if_neg (by simp [here, later])]

/-- The list of a group that joins. -/
def Queue.Joining.place (joining : Queue.Joining) : Place :=
  ⟨joining.bracketId, if !joining.isRated && !joining.isPremade then .normal else .premade,
    joining.team⟩

variable (joining : Queue.Joining)

theorem addGroup_queued (guid : Nat) :
    (q.addGroup joining).queuedPlayers guid =
      if guid ∈ joining.members then some ⟨joining.now, q.nextGroup⟩ else q.queuedPlayers guid :=
  queued_members _ _ _ _

theorem addGroup_lists (place : Place) :
    (q.addGroup joining).queuedGroups place =
      if place = joining.place then q.queuedGroups place ++ [q.nextGroup]
      else q.queuedGroups place := by
  by_cases here : place = joining.place
  · rw [if_pos here, here]
    exact update_self _ _ _
  · rw [if_neg here]
    exact update_of_ne here _ _

theorem addGroup_other {ginfo : Nat} (old : ginfo ≠ q.nextGroup) :
    (q.addGroup joining).groups ginfo = q.groups ginfo := update_of_ne old _ _

theorem addGroup_next :
    ∃ group, (q.addGroup joining).groups q.nextGroup = some group ∧
      group.players = joining.members.toFinset ∧ group.team = joining.team :=
  ⟨_, update_self _ _ _, rfl, rfl⟩

theorem Linked.unused (linked : Linked q) (place : Place) : q.nextGroup ∉ q.queuedGroups place := by
  intro there
  obtain ⟨group, stands⟩ := linked.alive place q.nextGroup there
  rw [linked.fresh q.nextGroup (Nat.le_refl _)] at stands
  cases stands

variable {group : GroupQueueInfo}

theorem Linked.old (linked : Linked q) {ginfo : Nat}
    (stands : q.groups ginfo = some group) : ginfo ≠ q.nextGroup := by
  intro same
  rw [same, linked.fresh q.nextGroup (Nat.le_refl _)] at stands
  cases stands

theorem structured_addGroup (structured : Structured q) {joining : Queue.Joining}
    (someone : joining.members ≠ [])
    (free : ∀ guid ∈ joining.members, q.queuedPlayers guid = none) :
    Structured (q.addGroup joining) := by
  have linked := structured.toLinked
  obtain ⟨new, newStands, newPlayers, newTeam⟩ := addGroup_next (q := q) joining
  have unqueued : ∀ guid info, q.queuedPlayers guid = some info → info.groupInfo ≠ q.nextGroup := by
    intro guid info queued
    obtain ⟨group, stands⟩ := linked.grouped guid info queued
    exact linked.old stands
  constructor
  · constructor
    · intro guid info queued
      rw [addGroup_queued] at queued
      split at queued
      · rw [← some.inj queued]
        exact ⟨new, newStands⟩
      · obtain ⟨group, stands⟩ := linked.grouped guid info queued
        exact ⟨group, (addGroup_other joining (linked.old stands)).trans stands⟩
    · intro ginfo group stands guid
      rw [addGroup_queued]
      by_cases fresh : ginfo = q.nextGroup
      · subst fresh
        obtain rfl := some.inj (newStands.symm.trans stands)
        rw [newPlayers, List.mem_toFinset]
        by_cases member : guid ∈ joining.members
        · simp [member]
        simp only [member, if_false, false_iff]
        rintro ⟨info, queued, same⟩
        exact unqueued guid info queued same
      · rw [addGroup_other joining fresh] at stands
        rw [linked.members ginfo group stands guid]
        by_cases member : guid ∈ joining.members
        · simp only [free guid member, member, if_true]
          constructor
          · rintro ⟨_, queued, _⟩
            cases queued
          · rintro ⟨info, queued, same⟩
            rw [← some.inj queued] at same
            exact absurd same.symm fresh
        · rw [if_neg member]
    · intro ginfo group stands
      by_cases fresh : ginfo = q.nextGroup
      · subst fresh
        obtain rfl := some.inj (newStands.symm.trans stands)
        rw [newPlayers]
        exact toFinset_nonempty_iff _ |>.mpr someone
      · rw [addGroup_other joining fresh] at stands
        exact linked.nonempty ginfo group stands
    · intro ginfo group stands
      by_cases fresh : ginfo = q.nextGroup
      · subst fresh
        refine ⟨joining.place, fun place => ?_⟩
        have absent := count_eq_zero.mpr (linked.unused place)
        rw [addGroup_lists]
        split
        · rw [count_append, absent, count_singleton_self]
        · exact absent
      · rw [addGroup_other joining fresh] at stands
        obtain ⟨place, placed⟩ := linked.placed ginfo group stands
        refine ⟨place, fun other => ?_⟩
        rw [addGroup_lists, ← placed other]
        split
        · rw [count_append, count_singleton, if_neg (by simpa using Ne.symm fresh),
            Nat.add_zero]
        · rfl
    · intro place ginfo there
      by_cases fresh : ginfo = q.nextGroup
      · exact ⟨new, fresh ▸ newStands⟩
      have was : ginfo ∈ q.queuedGroups place := by
        rw [addGroup_lists] at there
        split at there
        · exact (mem_append.mp there).resolve_right (by simpa using fresh)
        · exact there
      obtain ⟨group, stands⟩ := linked.alive place ginfo was
      exact ⟨group, (addGroup_other joining fresh).trans stands⟩
    · intro ginfo above
      have above : q.nextGroup + 1 ≤ ginfo := above
      rw [addGroup_other joining (by omega)]
      exact linked.fresh ginfo (by omega)
  · intro place ginfo there group stands
    rw [addGroup_lists] at there
    by_cases fresh : ginfo = q.nextGroup
    · subst fresh
      obtain rfl := some.inj (newStands.symm.trans stands)
      rw [newTeam]
      split at there
      · rename_i here
        rw [here]
        rfl
      · exact absurd there (linked.unused place)
    · rw [addGroup_other joining fresh] at stands
      apply structured.sided place ginfo _ group stands
      split at there
      · exact (mem_append.mp there).resolve_right (by simpa using fresh)
      · exact there

theorem findGroup_placed {ginfo : Nat} {place : Place}
    (placed : PlacedAt q.queuedGroups ginfo place) : q.findGroup place.team ginfo = some place := by
  have there := placed.mem
  cases found : q.findGroup place.team ginfo with
  | none =>
    exfalso
    unfold Queue.findGroup at found
    rw [findSome?_eq_none_iff] at found
    have none_ := found place.bracket (mem_reverse.mpr (mem_finRange _))
    rw [findSome?_eq_none_iff] at none_
    have kind : place.kind ∈ [QueueKind.premade, .normal] := by
      cases place.kind <;> simp
    have missing := none_ place.kind kind
    rw [if_pos there] at missing
    cases missing
  | some other =>
    obtain ⟨bracket, _, found⟩ := exists_of_findSome?_eq_some found
    obtain ⟨kind, _, found⟩ := exists_of_findSome?_eq_some found
    split at found
    · rename_i listed
      rw [← some.inj found, placed.unique listed]
    · cases found

/-- The members that leave together with one of them. -/
def GroupQueueInfo.leaving (group : GroupQueueInfo) (guid : Nat) : Finset Nat :=
  if group.isInvitedToBGInstanceGUID = 0 ∧ group.isRated = true then group.players else {guid}

variable {guid : Nat}

theorem GroupQueueInfo.leaving_subset (group : GroupQueueInfo)
    (member : guid ∈ group.players) : group.leaving guid ⊆ group.players := by
  unfold GroupQueueInfo.leaving
  split
  · exact Finset.Subset.refl _
  · exact Finset.singleton_subset_iff.mpr member

def Queue.leftBy (q : Queue) (guid ginfo : Nat) (group : GroupQueueInfo) : Queue :=
  { q with
    queuedPlayers := Function.update q.queuedPlayers guid none
    groups := Function.update q.groups ginfo
      (some { group with players := group.players.erase guid }) }

def Queue.leftByLast (q : Queue) (guid ginfo : Nat) (place : Place) : Queue :=
  { q with
    queuedPlayers := Function.update q.queuedPlayers guid none
    queuedGroups := Function.update q.queuedGroups place ((q.queuedGroups place).erase ginfo)
    groups := Function.update q.groups ginfo none }

/-- What one call of `RemovePlayer` does for a queued player. -/
inductive RemovedOne (q : Queue) (guid ginfo : Nat) (group : GroupQueueInfo) :
    Queue × Queue.Removal → Prop where
  | last (place : Place) (placed : PlacedAt q.queuedGroups ginfo place)
      (alone : group.players.erase guid = ∅) :
      RemovedOne q guid ginfo group (q.leftByLast guid ginfo place, .removed none)
  | stay (others : group.players.erase guid ≠ ∅)
      (stays : ¬ (group.isInvitedToBGInstanceGUID = 0 ∧ group.isRated = true)) :
      RemovedOne q guid ginfo group (q.leftBy guid ginfo group, .removed none)
  | goOn (others : group.players.erase guid ≠ ∅)
      (all : group.isInvitedToBGInstanceGUID = 0 ∧ group.isRated = true) (next : Nat)
      (chosen : next ∈ group.players.erase guid) :
      RemovedOne q guid ginfo group (q.leftBy guid ginfo group, .removed (some next))

variable {info : PlayerQueueInfo}

theorem removeOne_queued (structured : Structured q) (queued : q.queuedPlayers guid = some info) :
    ∃ group, q.groups info.groupInfo = some group ∧ guid ∈ group.players ∧
      RemovedOne q guid info.groupInfo group (q.removeOne guid) := by
  obtain ⟨group, stands⟩ := structured.grouped guid info queued
  have member := (structured.members _ group stands guid).mpr ⟨info, queued, rfl⟩
  obtain ⟨place, placed⟩ := structured.placed _ group stands
  have team := structured.sided place _ placed.mem group stands
  refine ⟨group, stands, member, ?_⟩
  have found : q.findGroup group.team info.groupInfo = some place :=
    team ▸ findGroup_placed placed
  unfold Queue.removeOne
  simp only [queued, stands, found]
  split
  · rename_i alone
    exact .last place placed alone
  rename_i others
  split
  · rename_i all
    exact .goOn others all _ (Finset.min'_mem _ _)
  · rename_i stays
    exact .stay others stays

theorem queued_still {other : Nat} {entry : PlayerQueueInfo}
    (kept : Function.update q.queuedPlayers guid none other = some entry) :
    other ≠ guid ∧ q.queuedPlayers other = some entry := by
  by_cases same : other = guid
  · rw [same, update_self] at kept
    cases kept
  · rw [update_of_ne same] at kept
    exact ⟨same, kept⟩

theorem Linked.members_elsewhere (linked : Linked q) {ginfo : Nat}
    (queued : q.queuedPlayers guid = some info)
    (stands : q.groups ginfo = some group) (apart : ginfo ≠ info.groupInfo) (member : Nat) :
    member ∈ group.players ↔
      ∃ entry, Function.update q.queuedPlayers guid none member = some entry ∧
        entry.groupInfo = ginfo := by
  rw [linked.members ginfo group stands member]
  constructor
  · rintro ⟨entry, kept, eq⟩
    have same : member ≠ guid := by
      rintro rfl
      obtain rfl := some.inj (queued.symm.trans kept)
      exact apart eq.symm
    exact ⟨entry, by rw [update_of_ne same, kept], eq⟩
  · rintro ⟨entry, kept, eq⟩
    exact ⟨entry, (queued_still kept).2, eq⟩

section
variable (structured : Structured q) (queued : q.queuedPlayers guid = some info)
  (stands : q.groups info.groupInfo = some group)
include structured queued stands

theorem structured_leftByLast {place : Place}
    (placed : PlacedAt q.queuedGroups info.groupInfo place)
    (alone : group.players.erase guid = ∅) :
    Structured (q.leftByLast guid info.groupInfo place) := by
  have linked := structured.toLinked
  have single : ∀ other entry, Function.update q.queuedPlayers guid none other = some entry →
      entry.groupInfo ≠ info.groupInfo := by
    intro other entry kept same
    obtain ⟨apart, kept⟩ := queued_still kept
    have member := (linked.members _ group stands other).mpr ⟨entry, kept, same⟩
    have empty : other ∈ (∅ : Finset Nat) := alone ▸ Finset.mem_erase.mpr ⟨apart, member⟩
    exact absurd empty (Finset.notMem_empty other)
  have kept : ∀ ginfo other,
      Function.update q.groups info.groupInfo none ginfo = some other →
      ginfo ≠ info.groupInfo ∧ q.groups ginfo = some other := by
    intro ginfo other there
    by_cases same : ginfo = info.groupInfo
    · rw [same, update_self] at there
      cases there
    · rw [update_of_ne same] at there
      exact ⟨same, there⟩
  have lists : ∀ ginfo, ginfo ≠ info.groupInfo → ∀ other,
      (Function.update q.queuedGroups place ((q.queuedGroups place).erase info.groupInfo)
        other).count ginfo = (q.queuedGroups other).count ginfo := by
    intro ginfo apart other
    by_cases here : other = place
    · rw [here, update_self, count_erase_of_ne apart]
    · rw [update_of_ne here]
  have gone : ∀ other, info.groupInfo ∉
      Function.update q.queuedGroups place ((q.queuedGroups place).erase info.groupInfo) other := by
    intro other
    rw [← count_eq_zero]
    by_cases here : other = place
    · rw [here, update_self, count_erase_self, placed place, if_pos rfl]
    · rw [update_of_ne here, placed other, if_neg here]
  have listed : ∀ other ginfo, ginfo ∈
      Function.update q.queuedGroups place ((q.queuedGroups place).erase info.groupInfo)
        other → ginfo ≠ info.groupInfo ∧ ginfo ∈ q.queuedGroups other := by
    intro other ginfo there
    have apart : ginfo ≠ info.groupInfo := fun same => gone other (same ▸ there)
    rw [← count_pos_iff, lists ginfo apart] at there
    exact ⟨apart, count_pos_iff.mp there⟩
  constructor
  · constructor
    · intro other entry still
      obtain ⟨found, there⟩ := linked.grouped other entry (queued_still still).2
      exact ⟨found, by rw [← there]; exact update_of_ne (single other entry still) _ _⟩
    · intro ginfo other there
      obtain ⟨apart, there⟩ := kept ginfo other there
      exact linked.members_elsewhere queued there apart
    · intro ginfo other there
      exact linked.nonempty ginfo other (kept ginfo other there).2
    · intro ginfo other there
      obtain ⟨apart, there⟩ := kept ginfo other there
      obtain ⟨spot, stays⟩ := linked.placed ginfo other there
      exact ⟨spot, fun target => (lists ginfo apart target).trans (stays target)⟩
    · intro other ginfo there
      obtain ⟨apart, there⟩ := listed other ginfo there
      obtain ⟨found, stands⟩ := linked.alive other ginfo there
      exact ⟨found, by rw [← stands]; exact update_of_ne apart _ _⟩
    · intro ginfo above
      by_cases same : ginfo = info.groupInfo
      · rw [same]
        exact update_self _ _ _
      · exact (update_of_ne same _ _).trans (linked.fresh ginfo above)
  · intro other ginfo there found stands
    exact structured.sided other ginfo (listed other ginfo there).2 found
      (kept ginfo found stands).2

theorem structured_leftBy (others : group.players.erase guid ≠ ∅) :
    Structured (q.leftBy guid info.groupInfo group) := by
  have linked := structured.toLinked
  have groups : ∀ ginfo found, Function.update q.groups info.groupInfo
      (some { group with players := group.players.erase guid }) ginfo = some found →
      ∃ old, q.groups ginfo = some old ∧ found.team = old.team ∧
        ((ginfo = info.groupInfo ∧ found.players = group.players.erase guid) ∨
          (ginfo ≠ info.groupInfo ∧ found.players = old.players)) := by
    intro ginfo found there
    by_cases same : ginfo = info.groupInfo
    · rw [same, update_self] at there
      rw [← some.inj there]
      exact ⟨group, same ▸ stands, rfl, .inl ⟨same, rfl⟩⟩
    · rw [update_of_ne same] at there
      exact ⟨found, there, rfl, .inr ⟨same, rfl⟩⟩
  have alive : ∀ ginfo old, q.groups ginfo = some old →
      ∃ found, Function.update q.groups info.groupInfo
        (some { group with players := group.players.erase guid }) ginfo = some found := by
    intro ginfo old there
    by_cases same : ginfo = info.groupInfo
    · rw [same, update_self]
      exact ⟨_, rfl⟩
    · rw [update_of_ne same]
      exact ⟨old, there⟩
  constructor
  · constructor
    · intro other entry still
      obtain ⟨found, there⟩ := linked.grouped other entry (queued_still still).2
      exact alive _ found there
    · intro ginfo found there member
      obtain ⟨old, was, _, ⟨rfl, players⟩ | ⟨apart, players⟩⟩ := groups ginfo found there
      · rw [players, Finset.mem_erase, linked.members _ group stands member]
        constructor
        · rintro ⟨apart, entry, kept, eq⟩
          exact ⟨entry, (update_of_ne apart _ _).trans kept, eq⟩
        · rintro ⟨entry, kept, eq⟩
          obtain ⟨apart, kept⟩ := queued_still kept
          exact ⟨apart, entry, kept, eq⟩
      · rw [players]
        exact linked.members_elsewhere queued was apart member
    · intro ginfo found there
      obtain ⟨old, was, _, ⟨_, players⟩ | ⟨_, players⟩⟩ := groups ginfo found there
      · rw [players]
        exact Finset.nonempty_iff_ne_empty.mpr others
      · rw [players]
        exact linked.nonempty ginfo old was
    · intro ginfo found there
      obtain ⟨old, was, _⟩ := groups ginfo found there
      exact linked.placed ginfo old was
    · intro place ginfo there
      obtain ⟨old, was⟩ := linked.alive place ginfo there
      exact alive ginfo old was
    · intro ginfo above
      have apart : ginfo ≠ info.groupInfo := by
        rintro rfl
        rw [linked.fresh _ above] at stands
        cases stands
      exact (update_of_ne apart _ _).trans (linked.fresh ginfo above)
  · intro place ginfo there found stands
    obtain ⟨old, was, team, _⟩ := groups ginfo found stands
    rw [team]
    exact structured.sided place ginfo there old was

theorem structured_removeOne {ends : Queue × Queue.Removal}
    (removed : RemovedOne q guid info.groupInfo group ends) : Structured ends.1 := by
  cases removed with
  | last place placed alone => exact structured_leftByLast structured queued stands placed alone
  | stay others _ => exact structured_leftBy structured queued stands others
  | goOn others _ _ _ => exact structured_leftBy structured queued stands others

end

theorem removeOne_none {guid other : Nat} (out : q.queuedPlayers other = none) :
    (q.removeOne guid).1.queuedPlayers other = none := by
  have after : Function.update q.queuedPlayers guid none other = none := by
    by_cases self : other = guid
    · rw [self, update_self]
    · rw [update_of_ne self, out]
  unfold Queue.removeOne
  split
  · exact out
  split
  · exact out
  split
  · exact out
  · simp only
    split <;> exact after

theorem removeAll_none (calls : Nat) {other : Nat} (out : q.queuedPlayers other = none) :
    (q.removeAll calls guid).1.queuedPlayers other = none := by
  induction calls generalizing q guid with
  | zero => exact out
  | succ calls ih =>
    have next := @removeOne_none q guid other out
    unfold Queue.removeAll
    split
    · rename_i after goesOn ends
      rw [ends] at next
      exact ih next
    · exact next

/-- `RemovePlayer` with as many calls as the group has players: each call finds its group, and those
who leave are out. -/
theorem removeAll_queued {calls : Nat} : ∀ {q : Queue}, Structured q → ∀ {guid : Nat}
    {info : PlayerQueueInfo} {group : GroupQueueInfo}, q.queuedPlayers guid = some info →
    q.groups info.groupInfo = some group → group.players.card ≤ calls →
    Structured (q.removeAll calls guid).1 ∧ (q.removeAll calls guid).2 = .removed none ∧
      ∀ member ∈ group.leaving guid, (q.removeAll calls guid).1.queuedPlayers member = none := by
  induction calls with
  | zero =>
    intro q structured guid info group queued stands enough
    have someone := structured.nonempty _ group stands
    rw [Nat.le_zero, Finset.card_eq_zero] at enough
    exact absurd enough someone.ne_empty
  | succ calls ih =>
    intro q structured guid info group queued stands enough
    obtain ⟨same, stands', member, removed⟩ := removeOne_queued structured queued
    obtain rfl := some.inj (stands.symm.trans stands')
    have kept := structured_removeOne structured queued stands removed
    unfold Queue.removeAll
    generalize q.removeOne guid = ends at removed kept
    cases removed with
    | last place placed alone =>
      refine ⟨kept, rfl, fun other leaves => ?_⟩
      have inGroup := group.leaving_subset member leaves
      have self : other = guid := by
        by_contra apart
        have left := Finset.mem_erase.mpr ⟨apart, inGroup⟩
        rw [alone] at left
        exact Finset.notMem_empty other left
      rw [self]
      exact update_self _ _ _
    | stay others stays =>
      refine ⟨kept, rfl, fun other leaves => ?_⟩
      unfold GroupQueueInfo.leaving at leaves
      rw [if_neg stays, Finset.mem_singleton] at leaves
      rw [leaves]
      exact update_self _ _ _
    | goOn others all next chosen =>
      have ⟨apart, nextMember⟩ := Finset.mem_erase.mp chosen
      obtain ⟨entry, nextQueued, together⟩ :=
        (structured.members _ group stands next).mp nextMember
      have fewer : (group.players.erase guid).card ≤ calls := by
        rw [Finset.card_erase_of_mem member]
        omega
      have ⟨after, ends, out⟩ := @ih _ kept next entry
        { group with players := group.players.erase guid }
        ((update_of_ne apart _ _).trans nextQueued)
        (together ▸ update_self _ _ _) fewer
      refine ⟨after, ends, fun other leaves => ?_⟩
      have inGroup := group.leaving_subset member leaves
      by_cases self : other = guid
      · rw [self]
        exact removeAll_none calls (update_self _ _ _)
      apply out
      unfold GroupQueueInfo.leaving
      rw [if_pos all]
      exact Finset.mem_erase.mpr ⟨self, inGroup⟩

theorem removePlayer_queued (structured : Structured q) (queued : q.queuedPlayers guid = some info)
    (stands : q.groups info.groupInfo = some group) :
    Structured (q.removePlayer guid).1 ∧ (q.removePlayer guid).2 = .removed none ∧
      ∀ member ∈ group.leaving guid, (q.removePlayer guid).1.queuedPlayers member = none := by
  apply removeAll_queued structured queued stands
  unfold Queue.sizeAround Queue.size
  rw [queued, elim_some, stands, elim_some]
  exact Nat.le_succ _

theorem structured_removePlayer (structured : Structured q) (guid : Nat) :
    Structured (q.removePlayer guid).1 := by
  cases queued : q.queuedPlayers guid with
  | none =>
    have stays : q.removePlayer guid = (q, .notQueued) := by
      unfold Queue.removePlayer Queue.sizeAround Queue.removeAll Queue.removeOne
      rw [queued]
    rw [stays]
    exact structured
  | some info =>
    obtain ⟨group, stands⟩ := structured.grouped guid info queued
    exact (removePlayer_queued structured queued stands).1

/-- The queues that are reached by joining, leaving and updates. -/
inductive Reachable : Queue → Prop where
  | new : Reachable .new
  | addGroup {q : Queue} (reachable : Reachable q) (joining : Queue.Joining)
      (someone : joining.members ≠ [])
      (free : ∀ guid ∈ joining.members, q.queuedPlayers guid = none) :
      Reachable (q.addGroup joining)
  | removePlayer {q : Queue} (reachable : Reachable q) (guid : Nat) :
      Reachable (q.removePlayer guid).1
  | update {q after : Queue} (reachable : Reachable q) (update : Queue.Update)
      (ends : q.battlegroundQueueUpdate update = some after) : Reachable after

theorem structured_new : Structured .new := by
  constructor
  · constructor
    · intro guid info queued
      cases queued
    · intro ginfo group stands
      cases stands
    · intro ginfo group stands
      cases stands
    · intro ginfo group stands
      cases stands
    · intro place ginfo there
      cases there
    · exact fun _ _ => rfl
  · intro place ginfo there
    cases there

theorem Reachable.structured (reachable : Reachable q) : Structured q := by
  induction reachable with
  | new => exact structured_new
  | addGroup _ joining someone free ih => exact structured_addGroup ih someone free
  | removePlayer _ guid ih => exact structured_removePlayer ih guid
  | update _ update ends ih => exact structured_update ih ends

/-- A queued player is in one group, which waits once, in a list of its faction. -/
theorem queued_in_one_group (reachable : Reachable q) {guid : Nat} {info : PlayerQueueInfo}
    (queued : q.queuedPlayers guid = some info) :
    ∃ group, q.groups info.groupInfo = some group ∧
      (∀ ginfo other, q.groups ginfo = some other →
        (guid ∈ other.players ↔ ginfo = info.groupInfo)) ∧
      group.players.Nonempty ∧
      (∀ member, member ∈ group.players ↔
        ∃ entry, q.queuedPlayers member = some entry ∧ entry.groupInfo = info.groupInfo) ∧
      (∃ place, PlacedAt q.queuedGroups info.groupInfo place ∧ place.team = group.team) ∧
      (q.removePlayer guid).2 = .removed none ∧
      (group.isRated = true → group.isInvitedToBGInstanceGUID = 0 →
        ∀ member ∈ group.players, (q.removePlayer guid).1.queuedPlayers member = none) := by
  have structured := reachable.structured
  obtain ⟨group, stands⟩ := structured.grouped guid info queued
  have ⟨_, removed, out⟩ := removePlayer_queued structured queued stands
  obtain ⟨place, placed⟩ := structured.placed _ group stands
  refine ⟨group, stands, ?_, structured.nonempty _ group stands, structured.members _ group stands,
    ⟨place, placed, (structured.sided place _ placed.mem group stands).symm⟩, removed, ?_⟩
  · intro ginfo other there
    rw [structured.members ginfo other there guid, queued]
    constructor
    · rintro ⟨entry, eq, same⟩
      rw [← same, some.inj eq]
    · intro same
      exact ⟨info, rfl, same.symm⟩
  · intro isRated uninvited member inGroup
    apply out
    unfold GroupQueueInfo.leaving
    rw [if_pos ⟨uninvited, isRated⟩]
    exact inGroup

/-- A rated team of two players. -/
def Queue.Joining.pair : Queue.Joining where
  members := [7, 8]
  team := .horde
  bgTypeId := 6
  bracketId := 15
  arenaType := 2
  isRated := true
  isPremade := false
  arenaRating := 1500
  matchmakerRating := 1500
  arenaTeamId := 3
  now := 1000

theorem queued_in_one_group_pair :
    ((Queue.new.addGroup .pair).removePlayer 7).2 = .removed none ∧
      ((Queue.new.addGroup .pair).removePlayer 7).1.queuedPlayers 8 = none := by
  have reachable : Reachable (Queue.new.addGroup .pair) :=
    .addGroup .new .pair (by decide) fun _ _ => rfl
  have queued : (Queue.new.addGroup .pair).queuedPlayers 7 = some ⟨1000, 0⟩ := by decide
  obtain ⟨group, stands, _, _, members, _, removed, all⟩ := queued_in_one_group reachable queued
  have team : group = _ := (some.inj stands).symm
  refine ⟨removed, all ?_ ?_ 8 ?_⟩
  · rw [team]
    rfl
  · rw [team]
  · exact (members 8).mpr ⟨⟨1000, 0⟩, by decide, rfl⟩

/-- A group is kept just while it has players, in one list of the queue; and the lists hold no group
that was deleted. -/
theorem groups_listed (reachable : Reachable q) (ginfo : Nat) :
    (∀ group, q.groups ginfo = some group →
      group.players.Nonempty ∧ ∃ place, PlacedAt q.queuedGroups ginfo place) ∧
    ((∃ place, ginfo ∈ q.queuedGroups place) → (q.groups ginfo).isSome = true) := by
  have linked := reachable.structured.toLinked
  refine ⟨fun group there => ⟨linked.nonempty ginfo group there, linked.placed ginfo group there⟩, ?_⟩
  rintro ⟨place, there⟩
  exact Option.isSome_iff_exists.mpr (linked.alive place ginfo there)

theorem groups_listed_pair :
    ∃ place, PlacedAt (Queue.new.addGroup .pair).queuedGroups 0 place :=
  ((groups_listed (.addGroup .new .pair (by decide) fun _ _ => rfl) 0).1 _ rfl).2

end OpenWoW.Battlegrounds
