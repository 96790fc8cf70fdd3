import OpenWoW.BattlegroundRuns

/-! Filling a battleground that has begun. -/
namespace OpenWoW.Battlegrounds

open List Option

inductive BattlegroundStatus where
  | none | waitQueue | waitJoin | inProgress | waitLeave
  deriving DecidableEq, Repr

structure Battleground where
  instanceId : Nat
  isRated : Bool
  typeId : Nat
  bracketId : Fin maxBattlegroundBrackets
  status : BattlegroundStatus
  invitedCount : Team → UInt32
  playersCount : Team → UInt32
  /-- The limits are columns of 16 bits. -/
  minPlayersPerTeam : UInt16
  maxPlayersPerTeam : UInt16

variable (team : Team) (online : Nat → Bool) (now : UInt32) (wanted : Nat)

namespace Battleground

variable (bg : Battleground)

def getMinPlayersPerTeam : UInt32 := bg.minPlayersPerTeam.toUInt32

def getMaxPlayersPerTeam : UInt32 := bg.maxPlayersPerTeam.toUInt32

def getFreeSlotsForTeam (team : Team) : UInt32 :=
  let invited := bg.invitedCount team
  let room := if invited < bg.getMaxPlayersPerTeam then bg.getMaxPlayersPerTeam - invited else 0
  match bg.status with
  | .waitJoin => room
  | .inProgress =>
    let otherTeam := bg.invitedCount team.other
    let otherIn := bg.playersCount team.other
    let diff := if otherTeam = invited then 1
      else if invited < otherTeam then otherTeam - invited
      else 0
    let diff3 := if otherIn = bg.playersCount team then 1
      else if bg.playersCount team < otherIn then otherIn - bg.playersCount team
      else if invited ≤ bg.getMinPlayersPerTeam then bg.getMinPlayersPerTeam - invited + 1
      else 0
    min (min diff room) diff3
  | _ => 0

/-- What a filling reads of a battleground. -/
def freeSlots : Queue.FreeSlots where
  instanceId := bg.instanceId
  isRated := bg.isRated
  typeId := bg.typeId
  bracketId := bg.bracketId
  isOpen := bg.status = .waitJoin ∨ bg.status = .inProgress
  freeSlotsForTeam := fun team => toInt32 (bg.getFreeSlotsForTeam team).toNat

def increaseInvitedCount (team : Team) : Battleground :=
  { bg with invitedCount := Function.update bg.invitedCount team (bg.invitedCount team + 1) }

@[simp] theorem increaseInvitedCount_self :
    (bg.increaseInvitedCount team).invitedCount team = bg.invitedCount team + 1 :=
  Function.update_self team _ bg.invitedCount

@[simp] theorem increaseInvitedCount_other {team other : Team} (apart : other ≠ team) :
    (bg.increaseInvitedCount team).invitedCount other = bg.invitedCount other :=
  Function.update_of_ne apart _ bg.invitedCount

/-- What `InviteGroupToBG` counts: the players of a new group who are in the world. -/
def countInvited (online : Nat → Bool) (group : GroupQueueInfo) : Battleground :=
  if group.isInvitedToBGInstanceGUID = 0 then
    (·.increaseInvitedCount group.team)^[(group.players.filter (online · = true)).card] bg
  else bg

theorem toNat_min_le (a b : UInt32) : (min a b).toNat ≤ a.toNat ∧ (min a b).toNat ≤ b.toNat := by
  rw [show min a b = if a ≤ b then a else b from rfl]
  split
  · next le => exact ⟨Nat.le_refl _, UInt32.le_iff_toNat_le.mp le⟩
  · next more => exact ⟨Nat.le_of_lt (UInt32.lt_iff_toNat_lt.mp (UInt32.not_le.mp more)), Nat.le_refl _⟩

theorem getFreeSlotsForTeam_le : (bg.getFreeSlotsForTeam team).toNat ≤
    bg.getMaxPlayersPerTeam.toNat - (bg.invitedCount team).toNat := by
  have room : (if bg.invitedCount team < bg.getMaxPlayersPerTeam then
      bg.getMaxPlayersPerTeam - bg.invitedCount team else 0).toNat ≤
      bg.getMaxPlayersPerTeam.toNat - (bg.invitedCount team).toNat := by
    split
    · next less => rw [UInt32.toNat_sub_of_le _ _ (UInt32.le_of_lt less)]
    · exact Nat.zero_le _
  unfold getFreeSlotsForTeam
  cases bg.status with
  | waitJoin => exact room
  | inProgress =>
    exact ((toNat_min_le _ _).1.trans (toNat_min_le _ _).2).trans room
  | none => exact Nat.zero_le _
  | waitQueue => exact Nat.zero_le _
  | waitLeave => exact Nat.zero_le _

theorem getFreeSlotsForTeam_small : (bg.getFreeSlotsForTeam team).toNat < 2 ^ 31 := by
  have within := bg.getFreeSlotsForTeam_le team
  have column : bg.getMaxPlayersPerTeam.toNat < 2 ^ 16 := by
    rw [getMaxPlayersPerTeam, UInt16.toNat_toUInt32]
    exact bg.maxPlayersPerTeam.toNat_lt
  omega

theorem freeSlots_team :
    bg.freeSlots.freeSlotsForTeam team = (bg.getFreeSlotsForTeam team).toNat := by
  have small := bg.getFreeSlotsForTeam_small team
  simp only [freeSlots]
  exact toInt32_of_lt small

end Battleground

section Pool

variable {size : Nat → Nat} {invited : Nat → Bool} {list : List Nat} {free : Nat}
  {pool : SelectionPool} {rest : List Nat}

/-- A pool has some groups of the list before the ones that were not looked at yet. -/
structure Pooled (size : Nat → Nat) (invited : Nat → Bool) (list : List Nat) (free : Nat)
    (pool : SelectionPool) (rest : List Nat) : Prop where
  drawn : ∃ passed, list = passed ++ rest ∧ pool.selectedGroups.Sublist passed
  uninvited : ∀ ginfo ∈ pool.selectedGroups, invited ginfo = false
  counted : pool.playerCount = (pool.selectedGroups.map size).sum
  few : pool.playerCount ≤ free

theorem pooled_init (size : Nat → Nat) (invited : Nat → Bool) (list : List Nat) (free : Nat) :
    Pooled size invited list free .init list :=
  ⟨⟨[], rfl, List.Sublist.refl _⟩, nofun, rfl, Nat.zero_le _⟩

theorem Pooled.pass {ginfo : Nat} (pooled : Pooled size invited list free pool (ginfo :: rest)) :
    Pooled size invited list free pool rest := by
  obtain ⟨passed, split, drawn⟩ := pooled.drawn
  refine ⟨⟨passed ++ [ginfo], ?_, drawn.trans (sublist_append_left _ _)⟩,
    pooled.uninvited, pooled.counted, pooled.few⟩
  rw [split, append_assoc]
  rfl

theorem Pooled.take {ginfo : Nat} (pooled : Pooled size invited list free pool (ginfo :: rest))
    (new : invited ginfo = false) (fits : pool.playerCount + size ginfo ≤ free) :
    Pooled size invited list free
      ⟨pool.selectedGroups ++ [ginfo], pool.playerCount + size ginfo⟩ rest := by
  obtain ⟨passed, split, drawn⟩ := pooled.drawn
  refine ⟨⟨passed ++ [ginfo], ?_, drawn.append_right [ginfo]⟩, ?_, ?_, fits⟩
  · rw [split, append_assoc]
    rfl
  · intro other there
    rcases mem_append.mp there with old | last
    · exact pooled.uninvited other old
    · rw [mem_singleton.mp last]
      exact new
  · rw [pooled.counted, map_append, sum_append, map_singleton, sum_singleton]

theorem Pooled.addWhile {desiredCount : Nat} (few : desiredCount ≤ free) :
    ∀ {pool : SelectionPool} {rest : List Nat}, Pooled size invited list free pool rest →
    Pooled size invited list free (pool.addWhile size invited desiredCount rest).1
      (pool.addWhile size invited desiredCount rest).2 := by
  intro pool rest
  induction rest generalizing pool with
  | nil => exact fun pooled => pooled
  | cons ginfo rest ih =>
    intro pooled
    unfold SelectionPool.addWhile SelectionPool.addGroup
    by_cases taken : invited ginfo = false ∧ pool.playerCount + size ginfo ≤ desiredCount
    · rw [if_pos taken]
      exact ih (pooled.take taken.1 (taken.2.trans few))
    rw [if_neg taken]
    simp only
    split
    · exact ih pooled.pass
    · exact pooled

theorem addWhile_work (size : Nat → Nat) (invited : Nat → Bool) (desiredCount : Nat)
    (pool : SelectionPool) (rest : List Nat) :
    2 * (pool.addWhile size invited desiredCount rest).2.length +
        (pool.addWhile size invited desiredCount rest).1.selectedGroups.length ≤
      2 * rest.length + pool.selectedGroups.length := by
  induction rest generalizing pool with
  | nil => exact Nat.le_refl _
  | cons ginfo rest ih =>
    unfold SelectionPool.addWhile SelectionPool.addGroup
    simp only [length_cons]
    split
    · simp only [if_true]
      refine (ih _).trans ?_
      rw [length_append, length_singleton]
      omega
    simp only
    split
    · exact (ih _).trans (by omega)
    · exact Nat.le_refl _

theorem addWhile_count (size : Nat → Nat) (invited : Nat → Bool) (desiredCount : Nat)
    (pool : SelectionPool) (rest : List Nat) :
    (pool.addWhile size invited desiredCount rest).1.playerCount ≤
      max pool.playerCount desiredCount := by
  induction rest generalizing pool with
  | nil => exact Nat.le_max_left _ _
  | cons ginfo rest ih =>
    unfold SelectionPool.addWhile SelectionPool.addGroup
    split
    · rename_i taken
      simp only [if_true]
      exact (ih _).trans (max_le (taken.2.trans (Nat.le_max_right _ _)) (Nat.le_max_right _ _))
    simp only
    split
    · exact ih _
    · exact Nat.le_max_left _ _

theorem groupToKick_lt (size : Nat → Nat) (wanted : Nat) {selectedGroups : List Nat}
    (someone : selectedGroups ≠ []) :
    SelectionPool.groupToKick size wanted selectedGroups < selectedGroups.length := by
  have within : ∀ (entries : List (Nat × Nat)) (kick : Nat × Bool),
      (∀ entry ∈ entries, entry.2 < selectedGroups.length) → kick.1 < selectedGroups.length →
      (entries.foldl (fun (kick : Nat × Bool) entry =>
        if (toInt32 ((size entry.1 : Int) - wanted)).natAbs ≤ 1 then (entry.2, true)
        else if kick.2 = false ∧ (selectedGroups[kick.1]?.elim 0 size) ≤ size entry.1 then
          (entry.2, false)
        else kick) kick).1 < selectedGroups.length := by
    intro entries
    induction entries with
    | nil => exact fun _ _ inside => inside
    | cons entry entries ih =>
      intro kick all inside
      refine ih _ (fun other later => all other (mem_cons_of_mem _ later)) ?_
      dsimp only
      split
      · exact all entry mem_cons_self
      split
      · exact all entry mem_cons_self
      · exact inside
  apply within
  · rintro ⟨ginfo, position⟩ there
    exact (mem_zipIdx' there).1
  · exact length_pos_iff.mpr someone

theorem kickGroup_some (pooled : Pooled size invited list free pool rest)
    (someone : pool.playerCount ≠ 0) :
    Pooled size invited list free (pool.kickGroup size wanted).1 rest ∧
      (pool.kickGroup size wanted).1.selectedGroups.length + 1 = pool.selectedGroups.length := by
  have nonempty : pool.selectedGroups ≠ [] := by
    intro empty
    rw [pooled.counted, empty] at someone
    exact someone rfl
  have inside := groupToKick_lt size wanted nonempty
  unfold SelectionPool.kickGroup
  rw [if_pos someone]
  generalize SelectionPool.groupToKick size wanted pool.selectedGroups = position at inside
  have left := length_eraseIdx_of_lt inside
  have total : (pool.selectedGroups.map size).sum = size pool.selectedGroups[position] +
      ((pool.selectedGroups.eraseIdx position).map size).sum := by
    have perm := (getElem_cons_eraseIdx_perm inside).map size
    rw [← perm.sum_nat, map_cons, sum_cons]
  obtain ⟨passed, split, drawn⟩ := pooled.drawn
  simp only [getElem?_eq_getElem inside, elim_some]
  refine ⟨⟨⟨passed, split, (eraseIdx_sublist _ _).trans drawn⟩, ?_, ?_, ?_⟩, ?_⟩
  · exact fun ginfo there => pooled.uninvited ginfo ((eraseIdx_sublist _ _).subset there)
  · rw [pooled.counted, total, Nat.add_sub_cancel_left]
  · exact (Nat.sub_le _ _).trans pooled.few
  · omega

theorem Pooled.kickGroup (pooled : Pooled size invited list free pool rest) :
    Pooled size invited list free (pool.kickGroup size wanted).1 rest ∧
      (pool.kickGroup size wanted).1.selectedGroups.length ≤ pool.selectedGroups.length := by
  by_cases someone : pool.playerCount = 0
  · rw [SelectionPool.kickGroup, if_neg (not_not.mpr someone)]
    exact ⟨pooled, Nat.le_refl _⟩
  · obtain ⟨kept, shorter⟩ := kickGroup_some wanted pooled someone
    exact ⟨kept, by omega⟩

/-- A kick, and what is added instead. -/
def SelectionPool.refill (size : Nat → Nat) (invited : Nat → Bool) (wanted desiredCount : Nat)
    (pool : SelectionPool) (rest : List Nat) : SelectionPool × List Nat :=
  if (pool.kickGroup size wanted).2 then
    (pool.kickGroup size wanted).1.addWhile size invited desiredCount rest
  else ((pool.kickGroup size wanted).1, rest)

/-- What is left to do with a pool: to kick a group, or to add one and kick it. -/
def SelectionPool.work (pool : SelectionPool) (rest : List Nat) : Nat :=
  2 * rest.length + pool.selectedGroups.length

theorem Pooled.refill {desiredCount : Nat} (few : desiredCount ≤ free)
    (pooled : Pooled size invited list free pool rest) :
    Pooled size invited list free (pool.refill size invited wanted desiredCount rest).1
      (pool.refill size invited wanted desiredCount rest).2 := by
  unfold SelectionPool.refill
  split
  · exact (pooled.kickGroup wanted).1.addWhile few
  · exact (pooled.kickGroup wanted).1

theorem refill_work (desiredCount : Nat)
    (pooled : Pooled size invited list free pool rest) (someone : pool.playerCount ≠ 0) :
    (pool.refill size invited wanted desiredCount rest).1.work
      (pool.refill size invited wanted desiredCount rest).2 < pool.work rest := by
  have shorter := (kickGroup_some wanted pooled someone).2
  unfold SelectionPool.refill SelectionPool.work
  split
  · have added := addWhile_work size invited desiredCount
      (pool.kickGroup size wanted).1 rest
    omega
  · simp only
    omega

theorem refill_empty (nobody : pool.playerCount = 0) :
    (pool.refill size invited wanted 0 rest).1.playerCount = 0 := by
  have idle : pool.kickGroup size wanted = (pool, true) := if_neg (not_not.mpr nobody)
  have count := addWhile_count size invited 0 pool rest
  rw [SelectionPool.refill, idle, if_pos rfl]
  simp only
  omega

end Pool

namespace Filling

section Loop

variable (size : Nat → Nat) (invited : Nat → Bool) (aliFree hordeFree : Int)

/-- The condition of the loop. -/
def Unbalanced (f : Filling) : Prop :=
  1 < (f.diffAli aliFree - f.diffHorde hordeFree).natAbs ∧
    (0 < f.horde.playerCount ∨ 0 < f.ali.playerCount)

/-- The body of the loop, and whether it is left by a `break`. -/
def turn (f : Filling) : Filling × Bool :=
  if f.diffAli aliFree < f.diffHorde hordeFree then kickAli size invited aliFree hordeFree f
  else kickHorde size invited aliFree hordeFree f

/-- The loop comes to its end. -/
inductive Balances : Filling → Filling → Prop
  | balanced (f : Filling) (done : ¬f.Unbalanced aliFree hordeFree) : Balances f f
  | stopped (f : Filling) (goes : f.Unbalanced aliFree hordeFree)
      (stops : (f.turn size invited aliFree hordeFree).2 = false) :
      Balances f (f.turn size invited aliFree hordeFree).1
  | again (f after : Filling) (goes : f.Unbalanced aliFree hordeFree)
      (goesOn : (f.turn size invited aliFree hordeFree).2 = true)
      (rest : Balances (f.turn size invited aliFree hordeFree).1 after) : Balances f after

end Loop

/-- The other side first. -/
def swap (f : Filling) : Filling := ⟨f.horde, f.ali, f.hordeRest, f.aliRest⟩

variable {size : Nat → Nat} {invited : Nat → Bool} {aliList hordeList : List Nat}
  {aliFree hordeFree : Nat}

theorem kickAli_eq (f : Filling) (aliFree hordeFree : Int) :
    kickAli size invited aliFree hordeFree f =
      let wanted := toUInt32 (f.diffHorde hordeFree - f.diffAli aliFree)
      let ali := f.ali.refill size invited wanted
        (if f.diffHorde hordeFree ≤ aliFree then toUInt32 (aliFree - f.diffHorde hordeFree) else 0)
        f.aliRest
      if ali.1.playerCount = 0 then
        if aliFree ≤ f.diffHorde hordeFree + 1 then (⟨ali.1, f.horde, ali.2, f.hordeRest⟩, false)
        else (⟨ali.1, (f.horde.kickGroup size wanted).1, ali.2, f.hordeRest⟩, true)
      else (⟨ali.1, f.horde, ali.2, f.hordeRest⟩, true) := by
  unfold kickAli SelectionPool.refill
  by_cases more : (f.ali.kickGroup size (toUInt32 (f.diffHorde hordeFree - f.diffAli aliFree))).2
  · simp only [if_pos more]
  · simp only [if_neg more]

theorem kickHorde_swap (f : Filling) (aliFree hordeFree : Int) :
    kickHorde size invited aliFree hordeFree f =
      ((kickAli size invited hordeFree aliFree f.swap).1.swap,
        (kickAli size invited hordeFree aliFree f.swap).2) := by
  have sides : f.swap.diffHorde aliFree = f.diffAli aliFree ∧
      f.swap.diffAli hordeFree = f.diffHorde hordeFree := ⟨rfl, rfl⟩
  unfold kickHorde kickAli
  rw [sides.1, sides.2]
  dsimp only [swap]
  split_ifs <;> rfl

/-- Both pools are within their free slots. -/
structure Filled (size : Nat → Nat) (invited : Nat → Bool) (aliList hordeList : List Nat)
    (aliFree hordeFree : Nat) (f : Filling) : Prop where
  ali : Pooled size invited aliList aliFree f.ali f.aliRest
  horde : Pooled size invited hordeList hordeFree f.horde f.hordeRest

variable {f : Filling}

theorem Filled.swap (filled : Filled size invited aliList hordeList aliFree hordeFree f) :
    Filled size invited hordeList aliList hordeFree aliFree f.swap := ⟨filled.horde, filled.ali⟩

theorem work_swap (f : Filling) : f.swap.work = f.work := by
  unfold work
  show 2 * (f.hordeRest.length + f.aliRest.length) +
    (f.horde.selectedGroups.length + f.ali.selectedGroups.length) = _
  omega

theorem Filled.diffHorde (small : hordeFree < 2 ^ 31)
    (filled : Filled size invited aliList hordeList aliFree hordeFree f) :
    0 ≤ f.diffHorde hordeFree := by
  have few := filled.horde.few
  rw [Filling.diffHorde, toInt32_of_lt (by omega)]
  omega

theorem Filled.desired (smallAli : aliFree < 2 ^ 31) (smallHorde : hordeFree < 2 ^ 31)
    (filled : Filled size invited aliList hordeList aliFree hordeFree f) :
    (if f.diffHorde hordeFree ≤ aliFree then toUInt32 (aliFree - f.diffHorde hordeFree) else 0) ≤
      aliFree := by
  have zero := filled.diffHorde smallHorde
  split
  · unfold toUInt32
    omega
  · exact Nat.zero_le _

theorem work_eq (f : Filling) : f.work = f.ali.work f.aliRest + f.horde.work f.hordeRest := by
  unfold work SelectionPool.work
  omega

section
variable (smallAli : aliFree < 2 ^ 31) (smallHorde : hordeFree < 2 ^ 31)
  (filled : Filled size invited aliList hordeList aliFree hordeFree f)
include smallAli smallHorde filled

theorem Filled.kickAli
    (behind : f.diffAli aliFree < f.diffHorde hordeFree) :
    Filled size invited aliList hordeList aliFree hordeFree
        (Filling.kickAli size invited aliFree hordeFree f).1 ∧
      ((Filling.kickAli size invited aliFree hordeFree f).2 = true →
        (Filling.kickAli size invited aliFree hordeFree f).1.work < f.work) := by
  have desired := filled.desired smallAli smallHorde
  -- an empty pool of the alliance gets nobody, and the loop is left
  have empty : f.ali.playerCount = 0 → (aliFree : Int) < f.diffHorde hordeFree := by
    intro nobody
    rw [Filling.diffAli, nobody] at behind
    simpa [toInt32] using behind
  rw [kickAli_eq]
  simp only
  generalize toUInt32 (f.diffHorde hordeFree - f.diffAli aliFree) = wanted
  have idle : f.ali.playerCount = 0 → (if f.diffHorde hordeFree ≤ aliFree then
      toUInt32 (aliFree - f.diffHorde hordeFree) else 0) = 0 :=
    fun nobody => if_neg (not_le.mpr (empty nobody))
  generalize (if f.diffHorde hordeFree ≤ aliFree then toUInt32 (aliFree - f.diffHorde hordeFree)
    else 0) = desiredCount at desired idle
  have kept := filled.ali.refill wanted desired
  have less := refill_work wanted desiredCount filled.ali
  obtain ⟨others, fewer⟩ := filled.horde.kickGroup wanted
  split_ifs with nobody last
  · exact ⟨⟨kept, filled.horde⟩, nofun⟩
  · refine ⟨⟨kept, others⟩, fun _ => ?_⟩
    have someone : f.ali.playerCount ≠ 0 := by
      intro none_
      omega
    rw [work_eq, work_eq]
    simp only [SelectionPool.work] at less ⊢
    omega
  · refine ⟨⟨kept, filled.horde⟩, fun _ => ?_⟩
    have someone : f.ali.playerCount ≠ 0 := by
      intro none_
      rw [idle none_] at nobody
      exact nobody (refill_empty wanted none_)
    rw [work_eq, work_eq]
    simp only
    omega

theorem Filled.turn
    (goes : f.Unbalanced aliFree hordeFree) :
    Filled size invited aliList hordeList aliFree hordeFree
        (f.turn size invited aliFree hordeFree).1 ∧
      ((f.turn size invited aliFree hordeFree).2 = true →
        (f.turn size invited aliFree hordeFree).1.work < f.work) := by
  unfold Filling.turn
  split
  · next behind => exact filled.kickAli smallAli smallHorde behind
  next ahead =>
  have behind : f.swap.diffAli hordeFree < f.swap.diffHorde aliFree := by
    have apart := goes.1
    show f.diffHorde hordeFree < f.diffAli aliFree
    omega
  obtain ⟨kept, less⟩ := filled.swap.kickAli smallHorde smallAli behind
  rw [kickHorde_swap]
  refine ⟨kept.swap, fun goesOn => ?_⟩
  rw [work_swap, ← work_swap f]
  exact less goesOn

end

theorem balance_done {aliFree hordeFree : Int}
    (done : ¬f.Unbalanced aliFree hordeFree) : f.balance size invited aliFree hordeFree = f := by
  rw [balance]
  exact if_neg done

theorem balance_goes {aliFree hordeFree : Int}
    (goes : f.Unbalanced aliFree hordeFree) : f.balance size invited aliFree hordeFree =
      if (f.turn size invited aliFree hordeFree).2 then
        if (f.turn size invited aliFree hordeFree).1.work < f.work then
          (f.turn size invited aliFree hordeFree).1.balance size invited aliFree hordeFree
        else (f.turn size invited aliFree hordeFree).1
      else (f.turn size invited aliFree hordeFree).1 := by
  rw [balance]
  exact if_pos goes

theorem Filled.balance (smallAli : aliFree < 2 ^ 31) (smallHorde : hordeFree < 2 ^ 31)
    (filled : Filled size invited aliList hordeList aliFree hordeFree f) :
    Balances size invited aliFree hordeFree f (f.balance size invited aliFree hordeFree) ∧
      Filled size invited aliList hordeList aliFree hordeFree
        (f.balance size invited aliFree hordeFree) := by
  induction work : f.work using Nat.strong_induction_on generalizing f with
  | h n ih =>
    subst work
    by_cases goes : f.Unbalanced aliFree hordeFree
    · obtain ⟨kept, less⟩ := filled.turn smallAli smallHorde goes
      rw [balance_goes goes]
      by_cases goesOn : (f.turn size invited aliFree hordeFree).2 = true
      · rw [if_pos goesOn, if_pos (less goesOn)]
        obtain ⟨ends, within⟩ := ih _ (less goesOn) kept rfl
        exact ⟨.again f _ goes goesOn ends, within⟩
      · rw [if_neg goesOn]
        exact ⟨.stopped f goes (Bool.not_eq_true _ ▸ goesOn), kept⟩
    · rw [balance_done goes]
      exact ⟨.balanced f goes, filled⟩

end Filling

variable {q : Queue}

/-- The pools when the loops over the lists are through. -/
def Queue.firstFilling (q : Queue) (bg : Queue.FreeSlots) (bracketId : Fin maxBattlegroundBrackets) :
    Filling :=
  let fill := fun team => (q.selectionPools team).addWhile q.size q.invited
    (toUInt32 (bg.freeSlotsForTeam team)) (q.queuedGroups ⟨bracketId, .normal, team⟩)
  ⟨(fill .alliance).1, (fill .horde).1, (fill .alliance).2, (fill .horde).2⟩

/-- `FillPlayersToBG` returns, with this queue. -/
def Queue.FillReturns (q : Queue) (invitationType : Nat) (bg : Queue.FreeSlots)
    (bracketId : Fin maxBattlegroundBrackets) (after : Queue) : Prop :=
  if invitationType = 0 then
    after = q.setPools (q.firstFilling bg bracketId).ali (q.firstFilling bg bracketId).horde
  else ∃ filling, Filling.Balances q.size q.invited (bg.freeSlotsForTeam .alliance)
      (bg.freeSlotsForTeam .horde) (q.firstFilling bg bracketId) filling ∧
    after = q.setPools filling.ali filling.horde

structure Selected (q : Queue) (bracketId : Fin maxBattlegroundBrackets) (bg : Battleground)
    (team : Team) (pool : SelectionPool) : Prop where
  distinct : pool.selectedGroups.Nodup
  waiting : ∀ ginfo ∈ pool.selectedGroups,
    ginfo ∈ q.queuedGroups ⟨bracketId, .normal, team⟩ ∧ q.invited ginfo = false
  counted : pool.playerCount = (pool.selectedGroups.map q.size).sum
  few : pool.playerCount ≤ (bg.getFreeSlotsForTeam team).toNat

/-- The normal lists of a bracket have distinct groups, each of the side of its list. -/
structure Queue.Lined (q : Queue) (bracketId : Fin maxBattlegroundBrackets) : Prop where
  distinct : ∀ team, (q.queuedGroups ⟨bracketId, .normal, team⟩).Nodup
  sided : ∀ team, ∀ ginfo ∈ q.queuedGroups ⟨bracketId, .normal, team⟩,
    ∃ group, q.groups ginfo = some group ∧ group.team = team

theorem Structured.lined (structured : Structured q) (bracketId : Fin maxBattlegroundBrackets) :
    q.Lined bracketId := by
  constructor
  · intro team
    rw [nodup_iff_count_le_one]
    intro ginfo
    by_cases there : ginfo ∈ q.queuedGroups ⟨bracketId, .normal, team⟩
    · rw [structured.toLinked.placedAt there ⟨bracketId, .normal, team⟩, if_pos rfl]
    · rw [count_eq_zero.mpr there]
      exact Nat.zero_le 1
  · intro team ginfo there
    obtain ⟨group, stands⟩ := structured.alive _ ginfo there
    exact ⟨group, stands, structured.sided _ ginfo there group stands⟩

variable {bracketId : Fin maxBattlegroundBrackets}

theorem Quiet.lined {after : Queue} (quiet : Quiet q after) (lined : q.Lined bracketId) :
    after.Lined bracketId := by
  constructor
  · intro team
    rw [quiet.lists]
    exact lined.distinct team
  · intro team ginfo there
    rw [quiet.lists] at there
    obtain ⟨old, found, side⟩ := lined.sided team ginfo there
    have same := quiet.groups ginfo
    rw [found, map_some] at same
    obtain ⟨new, stands, eq⟩ := map_eq_some_iff.mp same
    exact ⟨new, stands, (congrArg Prod.snd eq).trans side⟩

theorem Pooled.selected (lined : q.Lined bracketId)
    {bg : Battleground} {team : Team} {pool : SelectionPool} {rest : List Nat}
    (pooled : Pooled q.size q.invited (q.queuedGroups ⟨bracketId, .normal, team⟩)
      (bg.getFreeSlotsForTeam team).toNat pool rest) : Selected q bracketId bg team pool := by
  obtain ⟨passed, split, drawn⟩ := pooled.drawn
  have part : pool.selectedGroups.Sublist (q.queuedGroups ⟨bracketId, .normal, team⟩) := by
    rw [split]
    exact drawn.trans (sublist_append_left _ _)
  exact ⟨(lined.distinct team).sublist part,
    fun ginfo there => ⟨part.subset there, pooled.uninvited ginfo there⟩, pooled.counted, pooled.few⟩

theorem fillPlayersToBG_selected
    (lined : q.Lined bracketId) (bg : Battleground) (invitationType : Nat) :
    q.initPools.FillReturns invitationType bg.freeSlots bracketId
        (q.initPools.fillPlayersToBG invitationType bg.freeSlots bracketId) ∧
      ∀ team, Selected q bracketId bg team
        ((q.initPools.fillPlayersToBG invitationType bg.freeSlots bracketId).selectionPools team) := by
  have slots := bg.freeSlots_team
  have within : ∀ team, toUInt32 (bg.freeSlots.freeSlotsForTeam team) ≤
      (bg.getFreeSlotsForTeam team).toNat := by
    intro team
    rw [slots, toUInt32_of_lt _ (UInt32.toNat_lt _)]
  have fill : ∀ team, _ := fun team => (pooled_init q.size q.invited
    (q.queuedGroups ⟨bracketId, .normal, team⟩) (bg.getFreeSlotsForTeam team).toNat).addWhile
      (within team)
  have first : Filling.Filled q.size q.invited (q.queuedGroups ⟨bracketId, .normal, .alliance⟩)
      (q.queuedGroups ⟨bracketId, .normal, .horde⟩) (bg.getFreeSlotsForTeam .alliance).toNat
      (bg.getFreeSlotsForTeam .horde).toNat (q.initPools.firstFilling bg.freeSlots bracketId) :=
    ⟨fill .alliance, fill .horde⟩
  obtain ⟨ends, filled⟩ := first.balance (bg.getFreeSlotsForTeam_small _)
    (bg.getFreeSlotsForTeam_small _)
  rw [← slots, ← slots] at ends
  unfold Queue.FillReturns Queue.fillPlayersToBG
  split
  · refine ⟨rfl, fun team => ?_⟩
    cases team with
    | alliance => exact first.ali.selected lined
    | horde => exact first.horde.selected lined
  refine ⟨⟨_, ends, rfl⟩, fun team => ?_⟩
  rw [← slots, ← slots] at filled
  cases team with
  | alliance => exact filled.ali.selected lined
  | horde => exact filled.horde.selected lined

/-- `InviteGroupToBG` of a group for its own side, with what the battleground counts. -/
def inviteGroup (online : Nat → Bool) (now : UInt32) (state : Queue × Battleground) (ginfo : Nat) :
    Queue × Battleground :=
  match state.1.groups ginfo with
  | some group => (state.1.inviteGroupToBG ginfo state.2.instanceId group.team now,
      state.2.countInvited online group)
  | none => state

/-- The invitations of a pool. -/
def inviteSelected (online : Nat → Bool) (now : UInt32) (team : Team) (state : Queue × Battleground) :
    Queue × Battleground :=
  (state.1.selectionPools team).selectedGroups.foldl (inviteGroup online now) state

/-- What the invitations of some groups of a team leave. -/
structure Invites (team : Team) (players : Nat) (before after : Queue × Battleground) : Prop where
  quiet : Quiet before.1 after.1
  pools : after.1.selectionPools = before.1.selectionPools
  limit : after.2.maxPlayersPerTeam = before.2.maxPlayersPerTeam
  counted : ∃ more ≤ players,
    (after.2.invitedCount team).toNat = (before.2.invitedCount team).toNat + more
  others : ∀ other, other ≠ team → after.2.invitedCount other = before.2.invitedCount other

theorem Invites.trans {team : Team} {few more : Nat} {before middle after : Queue × Battleground}
    (first : Invites team few before middle) (second : Invites team more middle after) :
    Invites team (few + more) before after := by
  obtain ⟨some_, fewer, count⟩ := first.counted
  obtain ⟨rest, less, counts⟩ := second.counted
  refine ⟨first.quiet.trans second.quiet, second.pools.trans first.pools,
    second.limit.trans first.limit, ⟨some_ + rest, by omega, by omega⟩, ?_⟩
  exact fun other apart => (second.others other apart).trans (first.others other apart)

theorem countInvited_counts {bg : Battleground} {group : GroupQueueInfo}
    (room : (bg.invitedCount group.team).toNat + group.players.card < 2 ^ 32) :
    (bg.countInvited online group).maxPlayersPerTeam = bg.maxPlayersPerTeam ∧
      (∃ more ≤ group.players.card, ((bg.countInvited online group).invitedCount group.team).toNat =
        (bg.invitedCount group.team).toNat + more) ∧
      ∀ other, other ≠ group.team →
        (bg.countInvited online group).invitedCount other = bg.invitedCount other := by
  have times : ∀ n, (bg.invitedCount group.team).toNat + n < 2 ^ 32 →
      ((·.increaseInvitedCount group.team)^[n] bg).maxPlayersPerTeam = bg.maxPlayersPerTeam ∧
      (((·.increaseInvitedCount group.team)^[n] bg).invitedCount group.team).toNat =
        (bg.invitedCount group.team).toNat + n ∧
      ∀ other, other ≠ group.team →
        ((·.increaseInvitedCount group.team)^[n] bg).invitedCount other = bg.invitedCount other := by
    intro n
    induction n with
    | zero => exact fun _ => ⟨rfl, rfl, fun _ _ => rfl⟩
    | succ n ih =>
      intro room
      obtain ⟨limit, count, others⟩ := ih (by omega)
      rw [Function.iterate_succ_apply']
      refine ⟨limit, ?_, fun other apart => ?_⟩
      · rw [Battleground.increaseInvitedCount_self, UInt32.toNat_add, count]
        exact Nat.mod_eq_of_lt room
      · rw [Battleground.increaseInvitedCount_other _ apart]
        exact others other apart
  have few := Finset.card_filter_le group.players (online · = true)
  unfold Battleground.countInvited
  split
  · obtain ⟨limit, count, others⟩ := times _ (Nat.lt_of_le_of_lt (Nat.add_le_add_left few _) room)
    exact ⟨limit, ⟨_, few, count⟩, others⟩
  · exact ⟨rfl, ⟨0, Nat.zero_le _, rfl⟩, fun _ _ => rfl⟩

theorem inviteGroup_invites {state : Queue × Battleground}
    {ginfo : Nat} {group : GroupQueueInfo} (stands : state.1.groups ginfo = some group)
    (room : (state.2.invitedCount group.team).toNat + state.1.size ginfo < 2 ^ 32) :
    Invites group.team (state.1.size ginfo) state (inviteGroup online now state ginfo) := by
  have size : state.1.size ginfo = group.players.card := by
    rw [Queue.size, stands]
    rfl
  rw [size] at room ⊢
  obtain ⟨limit, counted, others⟩ := countInvited_counts online room
  unfold inviteGroup
  simp only [stands]
  exact ⟨quiet_invite state.1 stands _ now, rfl, limit, counted, others⟩

theorem Quiet.size {q after : Queue} (quiet : Quiet q after) (ginfo : Nat) :
    after.size ginfo = q.size ginfo := by
  have same := quiet.groups ginfo
  unfold Queue.size
  cases found : q.groups ginfo with
  | none =>
    rw [found] at same
    rw [map_eq_none_iff.mp same]
  | some group =>
    obtain ⟨new, stands, players⟩ := quiet.group_after found
    rw [stands]
    exact congrArg Finset.card players

theorem inviteGroups_invites {team : Team}
    {groups : List Nat} : ∀ {state : Queue × Battleground},
    (∀ ginfo ∈ groups, ∃ group, state.1.groups ginfo = some group ∧ group.team = team) →
    (state.2.invitedCount team).toNat + (groups.map state.1.size).sum < 2 ^ 32 →
    Invites team (groups.map state.1.size).sum state (groups.foldl (inviteGroup online now) state) := by
  induction groups with
  | nil =>
    exact fun _ _ => ⟨Quiet.refl _, rfl, rfl, ⟨0, Nat.le_refl 0, rfl⟩, fun _ _ => rfl⟩
  | cons ginfo groups ih =>
    intro state stand room
    obtain ⟨group, stands, rfl⟩ := stand ginfo mem_cons_self
    rw [map_cons, sum_cons] at room ⊢
    have first := inviteGroup_invites online now stands (by omega)
    have sizes : groups.map (inviteGroup online now state ginfo).1.size = groups.map state.1.size :=
      map_congr_left fun other _ => first.quiet.size other
    obtain ⟨more, few, count⟩ := first.counted
    have rest := @ih (inviteGroup online now state ginfo) (by
      intro other later
      obtain ⟨old, found, team⟩ := stand other (mem_cons_of_mem _ later)
      have same := first.quiet.groups other
      rw [found, map_some] at same
      obtain ⟨new, there, eq⟩ := map_eq_some_iff.mp same
      exact ⟨new, there, (congrArg Prod.snd eq).trans team⟩) (by
      rw [sizes]
      omega)
    rw [sizes] at rest
    exact first.trans rest

theorem inviteSelected_invites (lined : q.Lined bracketId) {bg : Battleground} {team : Team}
    (online : Nat → Bool) (now : UInt32) {state : Queue × Battleground} (quiet : Quiet q state.1)
    (count : state.2.invitedCount team = bg.invitedCount team)
    (selected : Selected q bracketId bg team (state.1.selectionPools team)) :
    ∃ players ≤ bg.getMaxPlayersPerTeam.toNat - (bg.invitedCount team).toNat,
      Invites team players state (inviteSelected online now team state) := by
  have sizes : (state.1.selectionPools team).selectedGroups.map state.1.size =
      (state.1.selectionPools team).selectedGroups.map q.size :=
    map_congr_left fun ginfo _ => quiet.size ginfo
  have few := selected.few.trans (bg.getFreeSlotsForTeam_le team)
  rw [selected.counted, ← sizes] at few
  refine ⟨_, few, inviteGroups_invites online now ?_ ?_⟩
  · intro ginfo there
    have waits := (selected.waiting ginfo there).1
    exact (quiet.lined lined).sided team ginfo (quiet.lists ▸ waits)
  · have small := UInt32.toNat_lt (bg.invitedCount team)
    have limit := UInt32.toNat_lt bg.getMaxPlayersPerTeam
    rw [count]
    omega

/-- A filling returns with two pools of distinct waiting groups, within the free slots, so that the
invitations do not bring a side over the maximum. -/
theorem filling_within_capacity {bracketId : Fin maxBattlegroundBrackets} (lined : q.Lined bracketId)
    (bg : Battleground) (invitationType : Nat) (online : Nat → Bool) (now : UInt32) :
    q.initPools.FillReturns invitationType bg.freeSlots bracketId
        (q.initPools.fillPlayersToBG invitationType bg.freeSlots bracketId) ∧
      (∀ team, Selected q bracketId bg team
        ((q.initPools.fillPlayersToBG invitationType bg.freeSlots bracketId).selectionPools team)) ∧
      ∀ team, ((inviteSelected online now .horde (inviteSelected online now .alliance
          (q.initPools.fillPlayersToBG invitationType bg.freeSlots bracketId, bg))).2.invitedCount
            team).toNat ≤ max (bg.invitedCount team).toNat bg.getMaxPlayersPerTeam.toNat := by
  obtain ⟨returns, selected⟩ := fillPlayersToBG_selected lined bg invitationType
  refine ⟨returns, selected, fun team => ?_⟩
  have quiet : Quiet q (q.initPools.fillPlayersToBG invitationType bg.freeSlots bracketId) :=
    (quiet_setPools q _ _).trans (quiet_fillPlayersToBG _ _ _ _)
  generalize q.initPools.fillPlayersToBG invitationType bg.freeSlots bracketId = filled at selected quiet
  have aliInvited : ∃ players ≤ bg.getMaxPlayersPerTeam.toNat - (bg.invitedCount .alliance).toNat,
      Invites .alliance players (filled, bg) (inviteSelected online now .alliance (filled, bg)) :=
    inviteSelected_invites lined online now quiet rfl (selected .alliance)
  obtain ⟨aliPlayers, fewAli, ali⟩ := aliInvited
  have untouched := ali.others .horde nofun
  have hordeInvited : ∃ players ≤ bg.getMaxPlayersPerTeam.toNat - (bg.invitedCount .horde).toNat,
      Invites .horde players _ (inviteSelected online now .horde
        (inviteSelected online now .alliance (filled, bg))) :=
    inviteSelected_invites lined online now (quiet.trans ali.quiet) untouched
      (ali.pools ▸ selected .horde)
  obtain ⟨hordePlayers, fewHorde, horde⟩ := hordeInvited
  obtain ⟨aliMore, aliLess, aliCount⟩ := ali.counted
  obtain ⟨hordeMore, hordeLess, hordeCount⟩ := horde.counted
  cases team with
  | alliance =>
    rw [horde.others .alliance nofun, aliCount]
    show (bg.invitedCount .alliance).toNat + aliMore ≤ _
    omega
  | horde =>
    rw [hordeCount, untouched]
    show (bg.invitedCount .horde).toNat + hordeMore ≤ _
    omega

section

local instance brackets_neZero : NeZero maxBattlegroundBrackets := ⟨by decide⟩

/-- An alliance group of two and one player of the horde wait for a battleground in progress, which
has one place for each side. -/
def Queue.Joining.normal (members : List Nat) (team : Team) : Queue.Joining where
  members := members
  team := team
  bgTypeId := 2
  bracketId := 0
  arenaType := 0
  isRated := false
  isPremade := false
  arenaRating := 0
  matchmakerRating := 0
  arenaTeamId := 0
  now := 1000

def Battleground.running : Battleground where
  instanceId := 1
  isRated := false
  typeId := 2
  bracketId := 0
  status := .inProgress
  invitedCount := fun _ => 9
  playersCount := fun _ => 9
  minPlayersPerTeam := 5
  maxPlayersPerTeam := 10

end

def Queue.three : Queue :=
  (Queue.new.addGroup (.normal [7, 8] .alliance)).addGroup (.normal [9] .horde)

theorem filling_within_capacity_three : ((inviteSelected (fun _ => true) 0 .horde
    (inviteSelected (fun _ => true) 0 .alliance
      (Queue.three.initPools.fillPlayersToBG 1 Battleground.running.freeSlots 0,
        Battleground.running))).2.invitedCount .alliance).toNat ≤ 10 := by
  have structured : Structured Queue.three := by
    refine structured_addGroup (structured_addGroup structured_new (by decide) fun _ _ => rfl)
      (by decide) ?_
    intro guid there
    obtain rfl := mem_singleton.mp there
    decide
  exact (filling_within_capacity (structured.lined 0) .running 1 (fun _ => true) 0).2.2 .alliance

end OpenWoW.Battlegrounds
