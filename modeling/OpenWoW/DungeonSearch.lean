import OpenWoW.DungeonCache

/-! What the search of `FindNewGroups` finds, and what it misses. -/
namespace OpenWoW.DungeonFinder

open List

variable {w : World} {q : LFGQueue}

def LFGQueue.players (q : LFGQueue) (check : List Nat) : Nat := (check.flatMap q.rolesOf).length

open Classical in
/-- Each entry is taken that fits with those taken before. -/
noncomputable def takeFitting (w : World) (q : LFGQueue) (check all : List Nat) : List Nat :=
  all.foldl (fun check next => if Fits w q (check ++ [next]) then check ++ [next] else check) check

variable {check : List Nat}

theorem takeFitting_fits {next : Nat} (all : List Nat) (fits : Fits w q (check ++ [next])) :
    takeFitting w q check (next :: all) = takeFitting w q (check ++ [next]) all := by
  rw [takeFitting, foldl_cons, if_pos fits]
  rfl

theorem takeFitting_not {next : Nat} (all : List Nat) (apart : ¬Fits w q (check ++ [next])) :
    takeFitting w q check (next :: all) = takeFitting w q check all := by
  rw [takeFitting, foldl_cons, if_neg apart]
  rfl

/-- Every entry has data, and at least one player with it. -/
def Present (q : LFGQueue) (check : List Nat) : Prop :=
  ∀ guid ∈ check, ∃ data, q.queueData guid = some data

theorem players_append (first second : List Nat) :
    q.players (first ++ second) = q.players first + q.players second := by
  rw [LFGQueue.players, flatMap_append, length_append]
  rfl

theorem players_pos (populated : Populated q) {guid : Nat}
    (present : ∃ data, q.queueData guid = some data) : 0 < q.players [guid] := by
  obtain ⟨data, found⟩ := present
  rw [LFGQueue.players, flatMap_singleton, LFGQueue.rolesOf, found]
  exact length_pos_iff.mpr (populated guid data found).1

theorem length_le_players (populated : Populated q) {check : List Nat} (present : Present q check) :
    check.length ≤ q.players check := by
  induction check with
  | nil => exact Nat.zero_le _
  | cons guid check ih =>
    have one := players_pos populated (present guid mem_cons_self)
    have rest := ih fun other later => present other (mem_cons_of_mem _ later)
    have split := players_append (q := q) [guid] check
    rw [length_cons]
    show _ ≤ q.players ([guid] ++ check)
    omega

theorem takeFitting_full (populated : Populated q)
    (five : q.players check = maxGroupSize) (all : List Nat) (present : Present q all) :
    takeFitting w q check all = check := by
  induction all with
  | nil => rfl
  | cons next all ih =>
    have apart : ¬Fits w q (check ++ [next]) := by
      intro fits
      have few : q.players (check ++ [next]) ≤ maxGroupSize := fits.five
      have one := players_pos populated (present next mem_cons_self)
      rw [players_append] at few
      omega
    rw [takeFitting_not all apart]
    exact ih fun other later => present other (mem_cons_of_mem _ later)

/-- A proposal for the entries has been added, as the last one. -/
def Proposed (q : LFGQueue) (check : List Nat) (after : LFGQueue) : Prop :=
  ∃ added proposal, after.proposals = q.proposals ++ added ++ [proposal] ∧ proposal.queues = check

/-- A single entry, or entries that fit together. -/
def Joins (w : World) (q : LFGQueue) (check : List Nat) : Prop := check.length = 1 ∨ Fits w q check

/-- What is said about entries that all wait: five players who fit together become a proposal. -/
inductive Verdict (w : World) (q : LFGQueue) (check : List Nat) :
    LFGQueue × LfgCompatibility → Prop
  | matched (after : LFGQueue) (joins : Joins w q check) (five : q.players check = maxGroupSize)
      (proposed : Proposed q check after) : Verdict w q check (after, .matched)
  | less (after : LFGQueue) (joins : Joins w q check) (notFive : q.players check ≠ maxGroupSize) :
      Verdict w q check (after, .withLessPlayers)
  | refused (after : LFGQueue) (compatibles : LfgCompatibility) (apart : ¬Joins w q check)
      (refuses : compatibles.notCompatible = true) : Verdict w q check (after, compatibles)

theorem propose_verdict (queued : w.allQueued check = true)
    {counted : LFGQueue.Counted} (roles : LfgRolesMap) (dungeons : Finset Nat)
    (players : counted.numPlayers = q.players check) (joins : Joins w q check) :
    Verdict w q check (q.propose w check counted roles dungeons) := by
  unfold LFGQueue.propose
  split
  · next notFive => exact .less _ joins (players ▸ notFive)
  next five =>
  have isFive : counted.numPlayers = maxGroupSize := not_not.mp five
  rw [if_neg (by simp [queued])]
  refine .matched _ joins (players ▸ isFive)
    ⟨[], q.makeProposal w check counted roles dungeons, ?_, rfl⟩
  rw [append_nil]
  show _ ++ _ = _
  rw [(removeAll_data check q).2]

theorem checkEntries_verdict (populated : Populated q) (someone : check ≠ [])
    (present : Present q check) (queued : w.allQueued check = true) :
    Verdict w q check (q.checkEntries w check) := by
  have small := populated.small
  have right := right_checkEntries (w := w) populated someone present
  by_cases compatible : (q.checkEntries w check).2.notCompatible = true
  · refine .refused _ _ ?_ compatible
    intro joins
    rw [right.mpr joins] at compatible
    cases compatible
  have joins : Joins w q check := right.mp (by simpa using compatible)
  obtain ⟨counted, counts⟩ := @LFGQueue.count_present w q check ⟨0, 0, 0, fun _ => 0⟩ present
  have whole : counted.numLfgGroups ≤ 1 → counted.numPlayers ≤ maxGroupSize →
      counted.numPlayers = q.players check := by
    intro groups players
    have counts := (LFGQueue.count_ok small counts groups players).2.1
    rwa [Nat.zero_add] at counts
  unfold LFGQueue.checkEntries at compatible ⊢
  simp only [counts] at compatible ⊢
  split at compatible
  · rename_i single
    rw [if_pos single]
    obtain ⟨guid, rfl⟩ := length_eq_one_iff.mp single.1
    refine .less _ joins ?_
    have few : 0 + ([guid].flatMap q.rolesOf).length ≤ maxGroupSize := by
      obtain ⟨data, found⟩ := present guid mem_cons_self
      rw [flatMap_singleton, LFGQueue.rolesOf, found, Nat.zero_add]
      exact small guid data found
    have one : 0 + [guid].countP w.isLfgGroup ≤ 1 := by
      rw [Nat.zero_add]
      exact countP_le_length
    have within := LFGQueue.count_few small counts one few
    rw [← whole within.1 within.2]
    exact single.2
  rename_i notSingle
  rw [if_neg notSingle]
  split at compatible
  · exact absurd rfl compatible
  rename_i groups
  rw [if_neg groups]
  split at compatible
  · exact absurd rfl compatible
  rename_i players
  rw [if_neg players]
  have isWhole := whole (Nat.not_lt.mp groups) (Nat.not_lt.mp players)
  split at compatible
  · rename_i several
    rw [if_pos several]
    split at compatible
    · exact absurd rfl compatible
    rename_i nobodyMissing
    rw [if_neg nobodyMissing]
    split at compatible
    · exact absurd rfl compatible
    rename_i roles
    rw [if_neg roles]
    split at compatible
    · exact absurd rfl compatible
    rename_i dungeons
    rw [if_neg dungeons]
    exact propose_verdict queued _ _ isWhole joins
  · rename_i single
    rw [if_neg single]
    exact propose_verdict queued _ _ isWhole joins

theorem Joins.congr {after : LFGQueue} (same : after.queueData = q.queueData) (check : List Nat) :
    Joins w after check ↔ Joins w q check :=
  or_congr Iff.rfl ⟨fun fits => fits.congr fun entry _ => (congrFun same entry).symm,
    fun fits => fits.congr fun entry _ => congrFun same entry⟩

theorem players_congr {after : LFGQueue} (same : after.queueData = q.queueData) (check : List Nat) :
    after.players check = q.players check := by
  unfold LFGQueue.players LFGQueue.rolesOf
  rw [same]

theorem Proposed.since {middle after : LFGQueue} (before : Extends w q middle)
    (proposed : Proposed middle check after) : Proposed q check after := by
  obtain ⟨_, first, adds, _⟩ := before
  obtain ⟨added, proposal, proposals, queues⟩ := proposed
  refine ⟨first ++ added, proposal, ?_, queues⟩
  rw [proposals, adds, append_assoc q.proposals]

theorem Verdict.since {middle : LFGQueue} (before : Extends w q middle)
    {ends : LFGQueue × LfgCompatibility} (verdict : Verdict w middle check ends) :
    Verdict w q check ends := by
  have same := before.1
  cases verdict with
  | matched last joins five proposed =>
    exact .matched last ((Joins.congr same check).mp joins) (players_congr same check ▸ five)
      (proposed.since before)
  | less last joins notFive =>
    exact .less last ((Joins.congr same check).mp joins) (players_congr same check ▸ notFive)
  | refused last compatibles apart refuses =>
    exact .refused last compatibles (fun joins => apart ((Joins.congr same check).mpr joins)) refuses

theorem checkCompatibility_verdict (populated : Populated q)
    (distinct : check.Nodup) (someone : check ≠ []) (few : check.length ≤ maxGroupSize)
    (present : Present q check) (queued : w.allQueued check = true) :
    Verdict w q check (q.checkCompatibility w check) := by
  obtain ⟨right, _, _⟩ := checkCompatibility_right (w := w) populated check distinct someone few
    present
  cases check with
  | nil => exact absurd rfl someone
  | cons front rest =>
    by_cases compatible : (q.checkCompatibility w (front :: rest)).2.notCompatible = true
    · refine .refused _ _ ?_ compatible
      intro joins
      rw [right.mpr joins] at compatible
      cases compatible
    unfold LFGQueue.checkCompatibility at compatible ⊢
    rw [if_neg (Nat.not_lt.mpr few)] at compatible ⊢
    split at compatible
    · rename_i several
      rw [if_pos several]
      simp only at compatible ⊢
      have nonempty : rest ≠ [] := by
        rintro rfl
        exact absurd several (by simp)
      have shrinks := (checkCompatibility_right (w := w) populated rest
        (nodup_cons.mp distinct).2 nonempty ((Nat.le_succ _).trans few)
        fun guid there => present guid (mem_cons_of_mem _ there)).2.1
      split at compatible
      · next refused => exact absurd refused compatible
      next child =>
      rw [if_neg child]
      have there : Present (q.checkCompatibility w rest).1 (front :: rest) := by
        unfold Present
        rw [shrinks.data]
        exact present
      exact (checkEntries_verdict (populated.congr shrinks.data) someone there
        queued).since (extends_checkCompatibility rest q)
    · rename_i pair
      rw [if_neg pair]
      exact checkEntries_verdict populated someone present queued

/-- Only keys without the searching entry, or about entries that were looked at, are cached. -/
def Fresh (g : Nat) (all : List Nat) (q : LFGQueue) : Prop :=
  ∀ key, q.compatibleMap key ≠ none → g ∈ key → ∀ a ∈ all, a ∉ key

theorem Fresh.tail {g next : Nat} {all : List Nat} (fresh : Fresh g (next :: all) q) :
    Fresh g all q :=
  fun key cached there a later => fresh key cached there a (mem_cons_of_mem _ later)

/-- A check caches verdicts about the entries, and about the last ones of them. -/
theorem cached_checkCompatibility (check : List Nat) : ∀ {q : LFGQueue},
    Populated q → check.Nodup → check ≠ [] → check.length ≤ maxGroupSize → Present q check →
    ∀ key, (q.checkCompatibility w check).1.compatibleMap key ≠ none →
      q.compatibleMap key ≠ none ∨ key = check.toFinset ∨ key ⊆ check.tail.toFinset := by
  induction check with
  | nil => exact fun _ _ someone => absurd rfl someone
  | cons front rest ih =>
    intro q populated distinct someone few present key cached
    have direct : ∀ after : LFGQueue, after.queueData = q.queueData →
        (after.checkEntries w (front :: rest)).1.compatibleMap key ≠ none →
        after.compatibleMap key ≠ none ∨ key = (front :: rest).toFinset := by
      intro after same cached
      have there : Present after (front :: rest) := by
        unfold Present
        rw [same]
        exact present
      rw [(checked_checkEntries (w := w) there).cached] at cached
      by_cases here : key = (front :: rest).toFinset
      · exact .inr here
      · rw [Function.update_of_ne here] at cached
        exact .inl cached
    unfold LFGQueue.checkCompatibility at cached
    rw [if_neg (Nat.not_lt.mpr few)] at cached
    split at cached
    · rename_i several
      have nonempty : rest ≠ [] := by
        rintro rfl
        exact absurd several (by simp)
      have shorter : rest.length ≤ maxGroupSize := (Nat.le_succ _).trans few
      have there : Present q rest := fun guid mem => present guid (mem_cons_of_mem _ mem)
      have apart := (nodup_cons.mp distinct).2
      have child : (q.checkCompatibility w rest).1.compatibleMap key ≠ none →
          q.compatibleMap key ≠ none ∨ key ⊆ rest.toFinset := by
        intro cached
        rcases ih populated apart nonempty shorter there key cached with old | whole | part
        · exact .inl old
        · exact .inr (whole ▸ Finset.Subset.refl _)
        refine .inr (part.trans ?_)
        intro guid mem
        exact mem_toFinset.mpr (mem_of_mem_tail (mem_toFinset.mp mem))
      simp only at cached
      split at cached
      · rw [LFGQueue.setCompatibles] at cached
        dsimp only at cached
        by_cases here : key = (front :: rest).toFinset
        · exact .inr (.inl here)
        · rw [Function.update_of_ne here] at cached
          exact (child cached).imp_right .inr
      · have shrinks := (checkCompatibility_right (w := w) populated rest apart nonempty shorter
          there).2.1
        rcases direct _ shrinks.data cached with old | whole
        · exact (child old).imp_right .inr
        · exact .inr (.inl whole)
    · exact (direct q rfl cached).imp_right .inl

theorem compatibilityOf_fresh (populated : Populated q) {g next : Nat} {rest all : List Nat}
    (distinct : (g :: rest ++ next :: all).Nodup) (few : (g :: rest ++ [next]).length ≤ maxGroupSize)
    (present : Present q (g :: rest ++ [next]))
    (queued : w.allQueued (g :: rest ++ [next]) = true) (fresh : Fresh g (next :: all) q) :
    Verdict w q (g :: rest ++ [next]) (q.compatibilityOf w (g :: rest ++ [next])) ∧
      Shrinks q (q.compatibilityOf w (g :: rest ++ [next])).1 ∧
      Fresh g all (q.compatibilityOf w (g :: rest ++ [next])).1 := by
  have split : g :: rest ++ next :: all = (g :: rest ++ [next]) ++ all := by
    rw [append_assoc]
    rfl
  rw [split] at distinct
  have apart := List.Nodup.of_append_left distinct
  have someone : g :: rest ++ [next] ≠ [] := nofun
  have uncached : q.getCompatibles (g :: rest ++ [next]).toFinset = .pending := by
    have none_ : q.compatibleMap (g :: rest ++ [next]).toFinset = none := by
      by_contra cached
      apply fresh _ cached (by simp) next mem_cons_self
      simp
    rw [LFGQueue.getCompatibles, none_]
    rfl
  have verdict := checkCompatibility_verdict (w := w) populated apart someone few present queued
  have looked : q.compatibilityOf w (g :: rest ++ [next]) =
      q.checkCompatibility w (g :: rest ++ [next]) := by
    simp only [LFGQueue.compatibilityOf, LFGQueue.cachedOrChecked, uncached, if_true]
    rw [if_neg]
    intro bad
    generalize q.checkCompatibility w (g :: rest ++ [next]) = ends at verdict bad
    cases verdict with
    | matched => cases bad.1
    | less => cases bad.1
    | refused last compatibles _ refuses =>
      rw [show compatibles = .badStates from bad.1] at refuses
      cases refuses
  rw [looked]
  refine ⟨verdict, (checkCompatibility_right (w := w) populated _ apart someone few
    present).2.1, ?_⟩
  intro key cached there a later
  rcases cached_checkCompatibility _ populated apart someone few present key cached with
    old | whole | part
  · exact fresh.tail key old there a later
  · rw [whole, mem_toFinset]
    exact fun mem => (nodup_append.mp distinct).2.2 a mem a later rfl
  exfalso
  have inTail := mem_toFinset.mp (part there)
  exact (nodup_cons.mp apart).1 inTail

theorem tryOthers_nil (calls : Nat) (q : LFGQueue) (check : List Nat) :
    LFGQueue.tryOthers w calls q check [] = ((q, []), false) := by
  cases calls <;> rfl

theorem allQueued_of (someone : check ≠ [])
    (waiting : ∀ guid ∈ check, w.state guid = .queued) : w.allQueued check = true := by
  rw [World.allQueued, Bool.and_eq_true, all_eq_true]
  refine ⟨by simpa using someone, fun guid there => ?_⟩
  rw [waiting guid there]
  rfl

theorem Joins.fits (joins : Joins w q check) (several : check.length ≠ 1) :
    Fits w q check :=
  joins.resolve_left several

/-- What the search among the other entries says: whether taking each that fits makes five. -/
structure Searched (w : World) (q : LFGQueue) (check all : List Nat)
    (ends : (LFGQueue × List Nat) × Bool) : Prop where
  found : ends.2 = true ↔ q.players (takeFitting w q check all) = maxGroupSize
  spent : ends.2 = false → ends.1.2 = []
  proposed : ends.2 = true → Proposed q (takeFitting w q check all) ends.1.1

theorem Searched.none (few : q.players check < maxGroupSize) (now : LFGQueue) :
    Searched w q check [] ((now, []), false) :=
  ⟨iff_of_false Bool.false_ne_true (Nat.ne_of_lt few), fun _ => rfl, nofun⟩

/-- The calls share the list of the other entries, so that the search goes through it once: it takes
each entry that fits, and never gives one back. -/
theorem tryOthers_searched (populated : Populated q) {g : Nat} {calls : Nat} :
    ∀ {now : LFGQueue} {rest all : List Nat}, Extends w q now →
    (g :: rest ++ all).Nodup → Present q (g :: rest ++ all) →
    (∀ guid ∈ g :: rest ++ all, w.state guid = .queued) → Fresh g all now →
    q.players (g :: rest) < maxGroupSize → all.length ≤ calls →
    Searched w q (g :: rest) all (LFGQueue.tryOthers w calls now (g :: rest) all) := by
  induction calls with
  | zero =>
    intro now rest all before distinct present waiting fresh few enough
    obtain rfl := eq_nil_of_length_eq_zero (Nat.le_zero.mp enough)
    exact Searched.none few now
  | succ calls ih =>
    intro now rest all before distinct present waiting fresh few enough
    cases all with
    | nil =>
      rw [tryOthers_nil]
      exact Searched.none few now
    | cons next all =>
      have moved : g :: rest ++ next :: all = g :: (rest ++ [next]) ++ all := by
        rw [cons_append, cons_append, append_assoc]
        rfl
      have part : (g :: rest ++ [next]).Sublist (g :: rest ++ next :: all) :=
        (List.Sublist.refl _).append (singleton_sublist.mpr mem_cons_self)
      have without : (g :: rest ++ all).Sublist (g :: rest ++ next :: all) :=
        (List.Sublist.refl _).append (sublist_cons_self next all)
      have here : Present q (g :: rest ++ [next]) := fun guid mem => present guid (part.subset mem)
      have checked := length_le_players populated
        fun guid mem => present guid (mem_append_left _ mem)
      have short : (g :: rest ++ [next]).length ≤ maxGroupSize := by
        rw [length_append, length_singleton]
        omega
      have several : (g :: rest ++ [next]).length ≠ 1 := by simp
      have others : Present q all := fun guid mem =>
        present guid (mem_append_right _ (mem_cons_of_mem _ mem))
      obtain ⟨verdict, _, later⟩ := compatibilityOf_fresh (w := w)
        (populated.congr before.1) distinct short (by rwa [Present, before.1])
        (allQueued_of (cons_ne_nil _ _) fun guid mem => waiting guid (part.subset mem)) fresh
      have verdict := verdict.since before
      have same := before.trans (extends_compatibilityOf (w := w) now (g :: rest ++ [next]))
      unfold LFGQueue.tryOthers
      simp only
      generalize now.compatibilityOf w (g :: rest ++ [next]) = looked at verdict same later
      cases verdict with
      | matched after joins five proposed =>
        have taken : takeFitting w q (g :: rest) (next :: all) = g :: rest ++ [next] := by
          rw [takeFitting_fits all (joins.fits several)]
          exact takeFitting_full populated five all others
        refine ⟨iff_of_true rfl (taken ▸ five), (fun wrong => by cases wrong), fun _ => ?_⟩
        rw [taken]
        exact proposed
      | less after joins notFive =>
        have fits := joins.fits several
        have taken := takeFitting_fits all fits
        have inner : Searched w q (g :: rest ++ [next]) all
            (LFGQueue.tryOthers w calls after (g :: rest ++ [next]) all) :=
          ih same (moved ▸ distinct) (moved ▸ present) (moved ▸ waiting) later
            (Nat.lt_of_le_of_ne fits.five notFive) (Nat.le_of_succ_le_succ enough)
        rw [if_pos rfl]
        generalize LFGQueue.tryOthers w calls after (g :: rest ++ [next]) all = ends at inner
        by_cases found : ends.2 = true
        · rw [if_pos found]
          exact ⟨taken ▸ inner.found, inner.spent, taken ▸ inner.proposed⟩
        have missed : ends.2 = false := Bool.not_eq_true _ ▸ found
        rw [if_neg found, inner.spent missed, tryOthers_nil]
        refine ⟨iff_of_false Bool.false_ne_true ?_, fun _ => rfl, (fun wrong => by cases wrong)⟩
        rw [taken]
        exact fun five => found (inner.found.mpr five)
      | refused after compatibles apart refuses =>
        have skipped := takeFitting_not all fun fits => apart (.inr fits)
        have notLess : compatibles ≠ .withLessPlayers := by
          rintro rfl
          cases refuses
        have notMatched : (compatibles == .matched) = false := by
          rw [beq_eq_false_iff_ne]
          rintro rfl
          cases refuses
        rw [if_neg notLess, notMatched]
        have rest := ih same (distinct.sublist without)
          (fun guid mem => present guid (without.subset mem))
          (fun guid mem => waiting guid (without.subset mem)) later few
          (Nat.le_of_succ_le_succ enough)
        exact ⟨skipped ▸ rest.found, rest.spent, skipped ▸ rest.proposed⟩

theorem findNewGroups_searched (populated : Populated q) (empty : ∀ key, q.compatibleMap key = none)
    {g : Nat} {all : List Nat} (distinct : (g :: all).Nodup) (present : Present q (g :: all))
    (waiting : ∀ guid ∈ g :: all, w.state guid = .queued) :
    ((q.findNewGroups w [g] all).2 = .matched ↔
        q.players (takeFitting w q [g] all) = maxGroupSize) ∧
      ((q.findNewGroups w [g] all).2 = .matched →
        Proposed q (takeFitting w q [g] all) (q.findNewGroups w [g] all).1) := by
  have alone : Present q [g] := fun guid mem => present guid (mem_cons.mpr
    (.inl (mem_singleton.mp mem)))
  have queued : w.allQueued [g] = true := allQueued_of nofun fun guid mem =>
    waiting guid (mem_cons.mpr (.inl (mem_singleton.mp mem)))
  have others : Present q all := fun guid mem => present guid (mem_cons_of_mem _ mem)
  have one : [g].length ≤ maxGroupSize := Nat.succ_le_succ (Nat.zero_le 4)
  have verdict := checkCompatibility_verdict (w := w) populated (nodup_singleton g) nofun
    one alone queued
  have single : Joins w q [g] := .inl rfl
  have looked : q.compatibilityOf w [g] = q.checkCompatibility w [g] := by
    have uncached : q.getCompatibles [g].toFinset = .pending := by
      rw [LFGQueue.getCompatibles, empty]
      rfl
    simp only [LFGQueue.compatibilityOf, LFGQueue.cachedOrChecked, uncached, if_true]
    rw [if_neg]
    intro bad
    generalize q.checkCompatibility w [g] = ends at verdict bad
    cases verdict with
    | matched => cases bad.1
    | less => cases bad.1
    | refused _ _ apart _ => exact apart single
  have before := extends_compatibilityOf (w := w) q [g]
  have fresh : Fresh g all (q.compatibilityOf w [g]).1 := by
    intro key cached _ a mem inKey
    rw [looked] at cached
    rcases cached_checkCompatibility (w := w) [g] populated (nodup_singleton g) nofun
      one alone key cached with old | whole | part
    · exact old (empty key)
    · rw [whole, mem_toFinset, mem_singleton] at inKey
      exact (nodup_cons.mp distinct).1 (inKey ▸ mem)
    · exact absurd (part inKey) (by simp)
  unfold LFGQueue.findNewGroups
  rw [← looked] at verdict
  generalize q.compatibilityOf w [g] = found at verdict before fresh
  cases verdict with
  | matched after _ five proposed =>
    have taken := takeFitting_full (w := w) populated five all others
    rw [if_pos nofun, taken]
    exact ⟨iff_of_true rfl five, fun _ => proposed⟩
  | less after _ notFive =>
    have few : q.players [g] < maxGroupSize := by
      obtain ⟨data, there⟩ := present g mem_cons_self
      refine Nat.lt_of_le_of_ne ?_ notFive
      rw [LFGQueue.players, flatMap_singleton, LFGQueue.rolesOf, there]
      exact (populated g data there).2
    have searched : Searched w q [g] all (LFGQueue.tryOthers w all.length after [g] all) :=
      tryOthers_searched populated before distinct present waiting fresh few (Nat.le_refl _)
    rw [if_neg (not_not.mpr rfl)]
    simp only
    generalize LFGQueue.tryOthers w all.length after [g] all = ends at searched
    by_cases found : ends.2 = true
    · rw [if_pos found]
      exact ⟨iff_of_true rfl (searched.found.mp found), fun _ => searched.proposed found⟩
    · rw [if_neg found]
      exact ⟨iff_of_false nofun fun five => found (searched.found.mpr five), nofun⟩
  | refused _ _ apart _ => exact absurd single apart

/-- Some of the current queue and a new entry pass the tests, with five players. -/
def Findable (w : World) (q : LFGQueue) (g : Nat) : Prop :=
  ∃ others, others.Sublist q.currentQueue ∧ Joins w q (g :: others) ∧
    q.players (g :: others) = maxGroupSize

/-- The search matches the new entry, and a proposal with it has been added. -/
def Found (w : World) (q : LFGQueue) (g : Nat) : Prop :=
  (q.findNewGroups w [g] q.currentQueue).2 = .matched ∧
    ∃ check, g ∈ check ∧ Proposed q check (q.findNewGroups w [g] q.currentQueue).1

/-- The entries wait, with one to five players each, and nothing is cached. -/
structure Ready (w : World) (q : LFGQueue) (g : Nat) : Prop where
  populated : Populated q
  uncached : ∀ key, q.compatibleMap key = none
  distinct : (g :: q.currentQueue).Nodup
  present : Present q (g :: q.currentQueue)
  waiting : ∀ guid ∈ g :: q.currentQueue, w.state guid = .queued

theorem subset_takeFitting (check all : List Nat) : check ⊆ takeFitting w q check all := by
  induction all generalizing check with
  | nil => exact List.Subset.refl check
  | cons next all ih =>
    by_cases fits : Fits w q (check ++ [next])
    · rw [takeFitting_fits all fits]
      exact List.Subset.trans (subset_append_left check [next]) (ih _)
    · rw [takeFitting_not all fits]
      exact ih check

/-- The search finds a party if one is found by taking each entry that fits with those before. -/
theorem party_found_iff {g : Nat} (ready : Ready w q g) : (Findable w q g → Found w q g) ↔
    (Findable w q g → q.players (takeFitting w q [g] q.currentQueue) = maxGroupSize) := by
  obtain ⟨finds, proposes⟩ := findNewGroups_searched ready.populated ready.uncached ready.distinct
    ready.present ready.waiting
  refine forall_congr' fun _ => ⟨fun found => finds.mp found.1, fun five => ?_⟩
  have matched := finds.mpr five
  exact ⟨matched, _, subset_takeFitting [g] _ mem_cons_self, proposes matched⟩

/-- Some players who wait for one dungeon. -/
def LfgQueueData.together (roles : LfgRolesMap) (ordered : OrderedMap.Ordered roles) :
    LfgQueueData :=
  ⟨{6}, roles, Finset.singleton_nonempty 6, ordered⟩

/-- A damage dealer waits, and three others who have come together. -/
def LFGQueue.dealers : LFGQueue :=
  { LFGQueue.empty with
    queueData := fun guid => match guid with
      | 1 => some (.together [(1, 2), (2, 4)] (by simp [OrderedMap.Ordered, OrderedMap.keys]))
      | 3 => some (.together [(3, 8)] (by simp [OrderedMap.Ordered, OrderedMap.keys]))
      | 4 => some (.together [(4, 8), (5, 8), (6, 8)] (by simp [OrderedMap.Ordered, OrderedMap.keys]))
      | _ => none
    currentQueue := [3, 4] }

theorem ready_dealers : Ready .waiting .dealers 1 := by
  refine ⟨?_, fun _ => rfl, by decide, ?_, fun _ _ => rfl⟩
  · intro guid data found
    simp only [LFGQueue.dealers] at found
    split at found
    all_goals cases found
    all_goals exact ⟨cons_ne_nil _ _, by decide⟩
  · intro guid there
    simp only [LFGQueue.dealers, mem_cons, not_mem_nil, or_false] at there
    rcases there with rfl | rfl | rfl <;> exact ⟨_, rfl⟩

/-- A tank and a healer come together. With the three they were five, but they are first put with the
one, and the three are too many then. -/
theorem party_missed : ¬ ∀ (w : World) (q : LFGQueue) (g : Nat), Ready w q g →
    Findable w q g → Found w q g := by
  intro claim
  have right := (checkCompatibility_right (w := .waiting) ready_dealers.populated [1, 4] (by decide)
    nofun (by decide) fun guid mem => ready_dealers.present guid
      (cons_subset_cons 1 (subset_cons_self 3 [4]) mem)).1
  have fits : Joins .waiting .dealers [1, 4] := right.mp (by decide +kernel)
  have found := claim .waiting .dealers 1 ready_dealers
    ⟨[4], sublist_cons_self 3 [4], fits, by decide⟩
  exact absurd found.1 (by decide +kernel)

/-- The one alone: with the three the tank and the healer are five. -/
def LFGQueue.threeDealers : LFGQueue := { LFGQueue.dealers with currentQueue := [4] }

theorem party_found_iff_three : Found .waiting .threeDealers 1 := by
  have ready : Ready .waiting .threeDealers 1 :=
    ⟨ready_dealers.populated, fun _ => rfl, by decide,
      fun guid mem => ready_dealers.present guid
        (cons_subset_cons 1 (subset_cons_self 3 [4]) mem), fun _ _ => rfl⟩
  have right := (checkCompatibility_right (w := .waiting) ready.populated [1, 4] (by decide)
    nofun (by decide) ready.present).1
  have fits : Fits .waiting .threeDealers [1, 4] :=
    Joins.fits (right.mp (by decide +kernel)) (by decide)
  have taken : takeFitting .waiting .threeDealers [1] [4] = [1, 4] := takeFitting_fits [] fits
  refine (party_found_iff ready).mpr (fun _ => ?_) ⟨[4], List.Sublist.refl _, .inr fits, by decide⟩
  show LFGQueue.players _ (takeFitting .waiting .threeDealers [1] [4]) = _
  rw [taken]
  decide

end OpenWoW.DungeonFinder
