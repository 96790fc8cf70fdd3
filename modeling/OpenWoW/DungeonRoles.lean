import Mathlib.Data.List.Forall2
import OpenWoW.Lib.OrderedMap

/-! The roles of a dungeon group: which of the roles that its players offer each of them gets. -/
namespace OpenWoW.DungeonFinder

open List

namespace PlayerRole

abbrev none : UInt8 := 0x00
abbrev leader : UInt8 := 0x01
abbrev tank : UInt8 := 0x02
abbrev healer : UInt8 := 0x04
abbrev damage : UInt8 := 0x08

end PlayerRole

abbrev tanksNeeded : Nat := 1
abbrev healersNeeded : Nat := 1
abbrev dpsNeeded : Nat := 3

/-- `LfgRolesMap`: masks of roles by the guids of the players. -/
abbrev LfgRolesMap := List (Nat × UInt8)

/-- What looking at one role of a player comes to: the group cannot be formed, it was formed without
that role of the player, or the next role is looked at. -/
inductive Visit where
  | failed
  | found (groles : LfgRolesMap)
  | goOn (counted : Nat)

/-- A role that is not the player's only one is taken away on trial; an only role is counted. -/
def visit (again : LfgRolesMap → Option LfgRolesMap) (done rest : LfgRolesMap) (guid : Nat)
    (role bit : UInt8) (needed counted : Nat) : Visit :=
  if role &&& bit = 0 then .goOn counted
  else if role ≠ bit then
    match again (done ++ (guid, role - bit) :: rest) with
    | some groles => .found groles
    | none => .goOn counted
  else if counted = needed then .failed
  else .goOn (counted + 1)

/-- The loop of `CheckGroupRoles`, which calls the function again on trial. -/
def walk (again : LfgRolesMap → Option LfgRolesMap) :
    LfgRolesMap → LfgRolesMap → Nat → Nat → Nat → Option LfgRolesMap
  | done, [], damage, healer, tank =>
    if tank + healer + damage = done.length % 2 ^ 8 then some done else none
  | done, (guid, role) :: rest, damage, healer, tank =>
    if role = PlayerRole.none then none
    else
      match visit again done rest guid role PlayerRole.damage dpsNeeded damage with
      | .failed => none
      | .found groles => some groles
      | .goOn damage =>
        match visit again done rest guid role PlayerRole.healer healersNeeded healer with
        | .failed => none
        | .found groles => some groles
        | .goOn healer =>
          match visit again done rest guid role PlayerRole.tank tanksNeeded tank with
          | .failed => none
          | .found groles => some groles
          | .goOn tank => walk again (done ++ [(guid, role)]) rest damage healer tank

/-- `CheckGroupRoles` without the leader flags, as many calls deep as there are roles to take away; a
call that fails leaves the map as it was. -/
def assign : Nat → LfgRolesMap → Option LfgRolesMap
  | 0, _ => none
  | calls + 1, groles => walk (assign calls) [] groles 0 0 0

def withoutLeader (groles : LfgRolesMap) : LfgRolesMap :=
  groles.map fun entry => (entry.1, entry.2 &&& ~~~PlayerRole.leader)

def checkGroupRoles (groles : LfgRolesMap) : LfgRolesMap × Bool :=
  if groles.isEmpty then (groles, false)
  else
    match assign (3 * groles.length + 1) (withoutLeader groles) with
    | some assigned => (assigned, true)
    | none => (withoutLeader groles, false)

def Single (role : UInt8) : Prop :=
  role = PlayerRole.damage ∨ role = PlayerRole.healer ∨ role = PlayerRole.tank

instance : DecidablePred Single := fun _ => inferInstanceAs (Decidable (_ ∨ _))

/-- The roles other than the leader's. -/
abbrev allRoles : UInt8 := PlayerRole.damage ||| PlayerRole.healer ||| PlayerRole.tank

/-- A single role is taken out of a mask of roles. -/
def Offers (entry chosen : Nat × UInt8) : Prop :=
  chosen.1 = entry.1 ∧ Single chosen.2 ∧ chosen.2 &&& entry.2 = chosen.2 ∧
    entry.2 &&& allRoles = entry.2

/-- How many players have a role. -/
def having (role : UInt8) (groles : LfgRolesMap) : Nat := groles.countP (·.2 = role)

/-- A choice of one offered role for each player, with no more of each role than needed. -/
structure Assigned (groles assigned : LfgRolesMap) : Prop where
  each : List.Forall₂ Offers groles assigned
  damage : having PlayerRole.damage assigned ≤ dpsNeeded
  healer : having PlayerRole.healer assigned ≤ healersNeeded
  tank : having PlayerRole.tank assigned ≤ tanksNeeded

theorem forall_roles {P : UInt8 → Prop} (all : ∀ i : Fin (2 ^ 8), P ⟨⟨i⟩⟩) (role : UInt8) : P role :=
  all role.toBitVec.toFin

theorem part_trans {part middle whole : UInt8} (first : part &&& middle = part)
    (second : middle &&& whole = middle) : part &&& whole = part := by
  rw [← first, UInt8.and_assoc, second]

/-- A mask without some of the three roles, but not empty. -/
def Keeps (role kept : UInt8) : Prop :=
  kept ≠ PlayerRole.none ∧
    ∃ taken, taken &&& allRoles = taken ∧ taken &&& role = taken ∧ kept = role - taken

def Narrows (entry kept : Nat × UInt8) : Prop := kept.1 = entry.1 ∧ Keeps entry.2 kept.2

variable {role : UInt8}

theorem keeps_self (some : role ≠ PlayerRole.none) : Keeps role role :=
  ⟨some, 0, rfl, UInt8.zero_and, by simp⟩

theorem takeable : ∀ taken, taken &&& allRoles = taken → taken ∈ [0, 2, 4, 6, 8, 10, 12, 14] := by
  apply forall_roles
  decide +kernel

variable {bit : UInt8}

theorem Keeps.widen {kept : UInt8} (isRole : Single bit) (has : role &&& bit ≠ 0)
    (keeps : Keeps (role - bit) kept) : Keeps role kept := by
  have wider : ∀ bit ∈ [PlayerRole.damage, PlayerRole.healer, PlayerRole.tank],
      ∀ taken ∈ [0, 2, 4, 6, 8, 10, 12, 14], ∀ role, role &&& bit ≠ 0 →
      taken &&& (role - bit) = taken →
      (taken ||| bit) &&& allRoles = taken ||| bit ∧ (taken ||| bit) &&& role = taken ||| bit ∧
        role - bit - taken = role - (taken ||| bit) := by
    intro bit isRole taken few
    apply forall_roles
    revert bit taken
    decide +kernel
  obtain ⟨some, taken, few, part, rfl⟩ := keeps
  have among : bit ∈ [PlayerRole.damage, PlayerRole.healer, PlayerRole.tank] := by
    simpa [Single] using isRole
  exact ⟨some, taken ||| bit, wider bit among taken (takeable taken few) role has part⟩

theorem Keeps.spare {kept : UInt8} (keeps : Keeps role kept) (less : kept ≠ role) :
    ¬Single role ∧ ∃ bit, Single bit ∧ role &&& bit ≠ 0 ∧ Keeps (role - bit) kept := by
  have each : ∀ taken ∈ [0, 2, 4, 6, 8, 10, 12, 14], ∀ role, taken &&& role = taken →
      role - taken ≠ PlayerRole.none → role - taken ≠ role → ¬Single role ∧
      ∃ bit ∈ [PlayerRole.damage, PlayerRole.healer, PlayerRole.tank], role &&& bit ≠ 0 ∧
        (taken - bit) &&& allRoles = taken - bit ∧ (taken - bit) &&& (role - bit) = taken - bit ∧
        role - taken = role - bit - (taken - bit) := by
    intro taken few
    apply forall_roles
    revert taken
    decide +kernel
  obtain ⟨some, taken, few, part, rfl⟩ := keeps
  obtain ⟨several, bit, among, has, clean, within, eq⟩ :=
    each taken (takeable taken few) role part some less
  refine ⟨several, bit, ?_, has, some, taken - bit, clean, within, eq⟩
  simpa [Single] using among

theorem offers_iff {entry chosen : Nat × UInt8} :
    Offers entry chosen ↔ Narrows entry chosen ∧ Single chosen.2 := by
  obtain ⟨guid, role⟩ := entry
  obtain ⟨guid', kept⟩ := chosen
  constructor
  · intro ⟨same, single, part, clean⟩
    have rest : ∀ kept ∈ [PlayerRole.damage, PlayerRole.healer, PlayerRole.tank], ∀ role,
        kept &&& role = kept → role &&& allRoles = role →
        kept ≠ 0 ∧ (role - kept) &&& allRoles = role - kept ∧
          (role - kept) &&& role = role - kept ∧ kept = role - (role - kept) := by
      intro kept isRole
      apply forall_roles
      revert kept
      decide +kernel
    have among : kept ∈ [PlayerRole.damage, PlayerRole.healer, PlayerRole.tank] := by
      simpa [Single] using single
    obtain ⟨some, within⟩ := rest kept among role part clean
    exact ⟨⟨same, some, role - kept, within⟩, single⟩
  · intro ⟨⟨same, _, taken, few, part, eq⟩, single⟩
    have whole : ∀ taken ∈ [0, 2, 4, 6, 8, 10, 12, 14], ∀ role, taken &&& role = taken →
        Single (role - taken) →
        (role - taken) &&& role = role - taken ∧ role &&& allRoles = role := by
      intro taken few
      apply forall_roles
      revert taken
      decide +kernel
    subst eq
    exact ⟨same, single, whole taken (takeable taken few) role part single⟩

theorem exists_partner {α β : Type} {R : α → β → Prop} {as : List α} {bs : List β}
    (related : List.Forall₂ R as bs) {a : α} (there : a ∈ as) : ∃ b ∈ bs, R a b := by
  induction related with
  | nil => cases there
  | cons first _ ih =>
    rcases mem_cons.mp there with rfl | later
    · exact ⟨_, mem_cons_self, first⟩
    · obtain ⟨b, mem, rel⟩ := ih later
      exact ⟨b, mem_cons_of_mem _ mem, rel⟩

theorem forall₂_middle {α β : Type} {R : α → β → Prop} {before rest : List α} {bs : List β}
    {a : α} : List.Forall₂ R (before ++ a :: rest) bs ↔
      ∃ first b last, bs = first ++ b :: last ∧
        List.Forall₂ R before first ∧ R a b ∧ List.Forall₂ R rest last := by
  constructor
  · intro each
    induction before generalizing bs with
    | nil =>
      obtain ⟨b, last, related, others, rfl⟩ := forall₂_cons_left_iff.mp each
      exact ⟨[], b, last, rfl, .nil, related, others⟩
    | cons head before ih =>
      obtain ⟨b, tail, related, others, rfl⟩ := forall₂_cons_left_iff.mp each
      obtain ⟨first, chosen, last, rfl, left, middle, right⟩ := ih others
      exact ⟨b :: first, chosen, last, rfl, .cons related left, middle, right⟩
  · rintro ⟨first, chosen, last, rfl, left, middle, right⟩
    exact rel_append left (.cons middle right)

/-- A part of each mask, in which as many players as the loop asks for have one role, and no more of
each role than needed. -/
structure PartlyAssigned (groles kept : LfgRolesMap) : Prop where
  each : List.Forall₂ Narrows groles kept
  damage : having PlayerRole.damage kept ≤ dpsNeeded
  healer : having PlayerRole.healer kept ≤ healersNeeded
  tank : having PlayerRole.tank kept ≤ tanksNeeded
  total : kept.countP (fun entry => Single entry.2) = groles.length % 2 ^ 8

variable {rest : LfgRolesMap}

theorem PartlyAssigned.widen {before kept : LfgRolesMap} {guid : Nat} (isRole : Single bit)
    (has : role &&& bit ≠ 0) (narrow : PartlyAssigned (before ++ (guid, role - bit) :: rest) kept) :
    PartlyAssigned (before ++ (guid, role) :: rest) kept := by
  have total := narrow.total
  rw [length_append, length_cons] at total
  refine ⟨?_, narrow.damage, narrow.healer, narrow.tank, ?_⟩
  · obtain ⟨first, one, last, eq, left, ⟨same, keeps⟩, right⟩ := forall₂_middle.mp narrow.each
    exact forall₂_middle.mpr ⟨first, one, last, eq, left, ⟨same, keeps.widen isRole has⟩, right⟩
  · rw [length_append, length_cons]
    exact total

variable {groles assigned : LfgRolesMap}

theorem Assigned.length (chosen : Assigned groles assigned) :
    assigned.length = groles.length := chosen.each.length_eq.symm

theorem Assigned.keys (chosen : Assigned groles assigned) :
    OrderedMap.keys assigned = OrderedMap.keys groles := by
  have each := chosen.each
  clear chosen
  induction each with
  | nil => rfl
  | cons offer _ ih => rw [OrderedMap.keys_cons, OrderedMap.keys_cons, ih, offer.1]

theorem having_append (role : UInt8) (done rest : LfgRolesMap) :
    having role (done ++ rest) = having role done + having role rest := countP_append

theorem having_one (role : UInt8) (guid : Nat) (other : UInt8) :
    having role [(guid, other)] = if other = role then 1 else 0 := by
  simp [having, countP_cons]

variable {again : LfgRolesMap → Option LfgRolesMap}

theorem visit_goOn {done : LfgRolesMap} {guid needed counted now : Nat} (isRole : Single bit)
    (ends : visit again done rest guid role bit needed counted = .goOn now)
    (few : counted ≤ needed) : now = counted + having bit [(guid, role)] ∧ now ≤ needed := by
  rw [having_one]
  unfold visit at ends
  split at ends
  · rename_i without
    have other : role ≠ bit := by
      rintro rfl
      rcases isRole with rfl | rfl | rfl <;> exact absurd without (by decide)
    rw [if_neg other, ← Visit.goOn.inj ends]
    exact ⟨rfl, few⟩
  · split at ends
    · rename_i more
      split at ends
      · cases ends
      · rw [if_neg more, ← Visit.goOn.inj ends]
        exact ⟨rfl, few⟩
    · rename_i only
      split at ends
      · cases ends
      rename_i notAll
      rw [if_pos (not_not.mp only), ← Visit.goOn.inj ends]
      exact ⟨rfl, Nat.lt_of_le_of_ne few notAll⟩

theorem visit_found {done : LfgRolesMap} {guid needed counted : Nat}
    (ends : visit again done rest guid role bit needed counted = .found groles) :
    role &&& bit ≠ 0 ∧ again (done ++ (guid, role - bit) :: rest) = some groles := by
  unfold visit at ends
  split at ends
  · cases ends
  rename_i has
  split at ends
  · split at ends
    · rename_i assigned found
      rw [← Visit.found.inj ends]
      exact ⟨has, found⟩
    · cases ends
  · split at ends <;> cases ends

theorem having_total (groles : LfgRolesMap) :
    having PlayerRole.tank groles + having PlayerRole.healer groles +
      having PlayerRole.damage groles = groles.countP (fun entry => Single entry.2) := by
  induction groles with
  | nil => rfl
  | cons entry groles ih =>
    have once : (if entry.2 = PlayerRole.tank then 1 else 0) +
        (if entry.2 = PlayerRole.healer then 1 else 0) +
        (if entry.2 = PlayerRole.damage then 1 else 0) = if Single entry.2 then 1 else 0 := by
      generalize entry.2 = role
      revert role
      apply forall_roles
      decide +kernel
    unfold having at ih ⊢
    simp only [countP_cons, decide_eq_true_eq]
    omega

theorem offers_forall₂ :
    List.Forall₂ Offers groles assigned ↔
      List.Forall₂ Narrows groles assigned ∧ ∀ entry ∈ assigned, Single entry.2 := by
  constructor
  · intro each
    refine ⟨each.imp fun _ _ offer => (offers_iff.mp offer).1, ?_⟩
    intro entry there
    obtain ⟨_, _, offer⟩ := exists_partner each.flip there
    exact (offers_iff.mp offer).2
  · intro ⟨each, single⟩
    induction each with
    | nil => exact .nil
    | cons narrows _ ih =>
      refine .cons (offers_iff.mpr ⟨narrows, single _ mem_cons_self⟩) (ih ?_)
      exact fun entry there => single entry (mem_cons_of_mem _ there)

theorem assigned_iff :
    Assigned groles assigned ↔ PartlyAssigned groles assigned ∧ groles.length < 2 ^ 8 := by
  constructor
  · intro chosen
    obtain ⟨each, single⟩ := offers_forall₂.mp chosen.each
    have total := having_total assigned
    rw [countP_eq_length.mpr fun entry there => decide_eq_true (single entry there),
      chosen.length] at total
    have damage : _ ≤ 3 := chosen.damage
    have healer : _ ≤ 1 := chosen.healer
    have tank : _ ≤ 1 := chosen.tank
    have small : groles.length < 2 ^ 8 := by omega
    refine ⟨⟨each, damage, healer, tank, ?_⟩, small⟩
    rw [Nat.mod_eq_of_lt small, ← chosen.length, countP_eq_length]
    exact fun entry there => decide_eq_true (single entry there)
  · intro ⟨kept, small⟩
    have total := kept.total
    rw [Nat.mod_eq_of_lt small, kept.each.length_eq, countP_eq_length] at total
    have single : ∀ entry ∈ assigned, Single entry.2 :=
      fun entry there => of_decide_eq_true (total entry there)
    exact ⟨offers_forall₂.mpr ⟨kept.each, single⟩, kept.damage, kept.healer, kept.tank⟩

/-- What the loop finds is a choice, when the trials find choices. -/
theorem walk_sound
    (trial : ∀ groles kept, again groles = some kept → PartlyAssigned groles kept) :
    ∀ (done : LfgRolesMap) (damage healer tank : Nat) {kept : LfgRolesMap},
    (∀ entry ∈ done, entry.2 ≠ PlayerRole.none) → damage = having PlayerRole.damage done →
    healer = having PlayerRole.healer done → tank = having PlayerRole.tank done →
    damage ≤ dpsNeeded → healer ≤ healersNeeded → tank ≤ tanksNeeded →
    walk again done rest damage healer tank = some kept → PartlyAssigned (done ++ rest) kept := by
  induction rest with
  | nil =>
    intro done damage healer tank kept some_ isDamage isHealer isTank few1 few2 few3 found
    rw [append_nil]
    unfold walk at found
    split at found
    · rename_i total
      obtain rfl := Option.some.inj found
      rw [isDamage, isHealer, isTank, having_total] at total
      refine ⟨?_, isDamage ▸ few1, isHealer ▸ few2, isTank ▸ few3, total⟩
      rw [forall₂_same]
      exact fun entry there => ⟨rfl, keeps_self (some_ entry there)⟩
    · cases found
  | cons entry rest ih =>
    intro done damage healer tank kept some_ isDamage isHealer isTank few1 few2 few3 found
    obtain ⟨guid, role⟩ := entry
    -- A trial that finds a choice ends the walk with it.
    have ended : ∀ bit needed counted groles, Single bit →
        visit again done rest guid role bit needed counted = .found groles →
        PartlyAssigned (done ++ (guid, role) :: rest) groles := by
      intro bit needed counted groles isRole ends
      have ⟨has, chosen⟩ := visit_found ends
      exact (trial _ _ chosen).widen isRole has
    unfold walk at found
    split at found
    · cases found
    rename_i notNone
    split at found
    · cases found
    · rename_i groles ends
      rw [← Option.some.inj found]
      exact ended _ _ _ _ (.inl rfl) ends
    rename_i damage' damageEnds
    split at found
    · cases found
    · rename_i groles ends
      rw [← Option.some.inj found]
      exact ended _ _ _ _ (.inr (.inl rfl)) ends
    rename_i healer' healerEnds
    split at found
    · cases found
    · rename_i groles ends
      rw [← Option.some.inj found]
      exact ended _ _ _ _ (.inr (.inr rfl)) ends
    rename_i tank' tankEnds
    have ⟨damageIs, damageFew⟩ := visit_goOn (.inl rfl) damageEnds few1
    have ⟨healerIs, healerFew⟩ := visit_goOn (.inr (.inl rfl)) healerEnds few2
    have ⟨tankIs, tankFew⟩ := visit_goOn (.inr (.inr rfl)) tankEnds few3
    rw [append_cons]
    apply ih _ damage' healer' tank' _ _ _ _ damageFew healerFew tankFew found
    · intro entry there
      rcases mem_append.mp there with old | new
      · exact some_ entry old
      · rw [mem_singleton.mp new]
        exact notNone
    · rw [having_append, damageIs, isDamage]
    · rw [having_append, healerIs, isHealer]
    · rw [having_append, tankIs, isTank]

theorem assign_sound {calls : Nat} : ∀ (groles kept : LfgRolesMap),
    assign calls groles = some kept → PartlyAssigned groles kept := by
  induction calls with
  | zero =>
    intro groles kept found
    cases found
  | succ calls ih =>
    intro groles kept found
    exact walk_sound ih [] 0 0 0 (fun _ there => (not_mem_nil there).elim) rfl rfl
      rfl (Nat.zero_le _) (Nat.zero_le _) (Nat.zero_le _) found

theorem checkGroupRoles_sound (small : groles.length < 2 ^ 8)
    (checked : checkGroupRoles groles = (assigned, true)) :
    Assigned (withoutLeader groles) assigned := by
  unfold checkGroupRoles at checked
  split at checked
  · cases (Prod.mk.inj checked).2
  split at checked
  · rename_i found
    rw [← (Prod.mk.inj checked).1]
    refine assigned_iff.mpr ⟨assign_sound _ _ found, ?_⟩
    rw [withoutLeader, length_map]
    exact small
  · cases (Prod.mk.inj checked).2

/-- How many roles can still be taken away. -/
def weight (groles : LfgRolesMap) : Nat :=
  (groles.map fun entry => (if entry.2 &&& PlayerRole.damage ≠ 0 then 1 else 0) +
    (if entry.2 &&& PlayerRole.healer ≠ 0 then 1 else 0) +
    (if entry.2 &&& PlayerRole.tank ≠ 0 then 1 else 0)).sum

theorem weight_take_away (before rest : LfgRolesMap) (guid : Nat)
    (isRole : Single bit) (has : role &&& bit ≠ 0) :
    weight (before ++ (guid, role - bit) :: rest) < weight (before ++ (guid, role) :: rest) := by
  have lighter : ∀ bit, Single bit → ∀ role, role &&& bit ≠ 0 →
      (if (role - bit) &&& PlayerRole.damage ≠ 0 then 1 else 0) +
        (if (role - bit) &&& PlayerRole.healer ≠ 0 then 1 else 0) +
        (if (role - bit) &&& PlayerRole.tank ≠ 0 then 1 else 0) <
      (if role &&& PlayerRole.damage ≠ 0 then 1 else 0) +
        (if role &&& PlayerRole.healer ≠ 0 then 1 else 0) +
        (if role &&& PlayerRole.tank ≠ 0 then 1 else 0) := by
    rintro bit (rfl | rfl | rfl) <;>
    · apply forall_roles
      decide +kernel
  have less := lighter bit isRole role has
  unfold weight
  rw [map_append, map_append, sum_append, sum_append, map_cons, map_cons, sum_cons, sum_cons]
  dsimp only
  omega

theorem visit_room {again : LfgRolesMap → Option LfgRolesMap} {done rest : LfgRolesMap}
    {guid needed counted : Nat} {role bit : UInt8} (isRole : Single bit)
    (room : counted + having bit [(guid, role)] ≤ needed) :
    (∃ groles, visit again done rest guid role bit needed counted = .found groles) ∨
      visit again done rest guid role bit needed counted =
        .goOn (counted + having bit [(guid, role)]) := by
  rw [having_one] at room ⊢
  unfold visit
  by_cases same : role = bit
  · subst same
    have has : role &&& role ≠ 0 := by
      rcases isRole with rfl | rfl | rfl <;> decide
    rw [if_pos rfl] at room ⊢
    rw [if_neg has, if_neg (not_not.mpr rfl), if_neg (by omega)]
    exact .inr rfl
  · rw [if_neg same]
    split
    · exact .inr rfl
    split
    · exact .inl ⟨_, rfl⟩
    · exact .inr rfl

theorem visit_several {again : LfgRolesMap → Option LfgRolesMap} {done rest : LfgRolesMap}
    {guid needed counted : Nat} {role bit : UInt8} (several : role ≠ bit) :
    (∃ groles, visit again done rest guid role bit needed counted = .found groles) ∨
      (visit again done rest guid role bit needed counted = .goOn counted ∧
        (role &&& bit ≠ 0 → again (done ++ (guid, role - bit) :: rest) = none)) := by
  unfold visit
  split
  · rename_i without
    exact .inr ⟨rfl, fun has => absurd without has⟩
  cases trial : again (done ++ (guid, role - bit) :: rest) with
  | some groles => exact .inl ⟨groles, rfl⟩
  | none => exact .inr ⟨rfl, fun _ => rfl⟩

/-- The loop finds a choice, when the trials find one for each lighter map that has one: the walk
goes on while nothing has to be taken away. -/
theorem walk_complete {n : Nat}
    (trial : ∀ groles kept, PartlyAssigned groles kept → weight groles < n →
      (again groles).isSome) : ∀ (done last : LfgRolesMap) (damage healer tank : Nat),
    PartlyAssigned (done ++ rest) (done ++ last) →
    weight (done ++ rest) ≤ n → damage = having PlayerRole.damage done →
    healer = having PlayerRole.healer done → tank = having PlayerRole.tank done →
    (walk again done rest damage healer tank).isSome := by
  induction rest with
  | nil =>
    intro done last damage healer tank chosen _ isDamage isHealer isTank
    have length := chosen.each.length_eq
    rw [append_nil, length_append] at length
    have noMore : last = [] := eq_nil_of_length_eq_zero (by omega)
    have total := chosen.total
    rw [noMore, append_nil] at total
    unfold walk
    rw [if_pos]
    · rfl
    · rw [isDamage, isHealer, isTank, having_total]
      exact total
  | cons entry rest ih =>
    intro done last damage healer tank chosen light isDamage isHealer isTank
    obtain ⟨guid, role⟩ := entry
    obtain ⟨first, pick, last', eq, left, ⟨same, keeps⟩, right⟩ := forall₂_middle.mp chosen.each
    obtain ⟨rfl, rfl⟩ := append_inj eq left.length_eq
    have notNone : role ≠ PlayerRole.none := by
      obtain ⟨some_, taken, _, part, eq⟩ := keeps
      rintro rfl
      rw [show taken &&& PlayerRole.none = 0 from UInt8.and_zero] at part
      rw [← part] at eq
      exact some_ (eq.trans (UInt8.sub_self _))
    unfold walk
    rw [if_neg notNone]
    by_cases all : pick.2 = role
    · obtain rfl : pick = (guid, role) := Prod.ext same all
      have room : ∀ bit, having bit done + having bit [(guid, role)] ≤
          having bit (done ++ (guid, role) :: last') := by
        intro bit
        rw [append_cons, having_append, having_append]
        exact Nat.le_add_right _ _
      have room1 := Nat.le_trans (room _) chosen.damage
      have room2 := Nat.le_trans (room _) chosen.healer
      have room3 := Nat.le_trans (room _) chosen.tank
      rw [← isDamage] at room1
      rw [← isHealer] at room2
      rw [← isTank] at room3
      rcases @visit_room again done rest guid _ _ role _ (.inl rfl) room1 with ⟨_, ends⟩ | ends
      · rw [ends]
        rfl
      rw [ends]
      rcases @visit_room again done rest guid _ _ role _ (.inr (.inl rfl)) room2 with
        ⟨_, ends⟩ | ends
      · rw [ends]
        rfl
      rw [ends]
      rcases @visit_room again done rest guid _ _ role _ (.inr (.inr rfl)) room3 with
        ⟨_, ends⟩ | ends
      · rw [ends]
        rfl
      rw [ends]
      apply ih (done ++ [(guid, role)]) last'
      · rw [← append_cons, ← append_cons]
        exact chosen
      · rw [← append_cons]
        exact light
      · rw [having_append, isDamage]
      · rw [having_append, isHealer]
      · rw [having_append, isTank]
    · -- The trial without a role that is not kept ends the walk at the latest.
      obtain ⟨severalRoles, spare, isRole, has, less⟩ := keeps.spare all
      have several : ∀ bit, Single bit → role ≠ bit := by
        rintro bit isRole rfl
        exact severalRoles isRole
      have total := chosen.total
      rw [length_append, length_cons] at total
      have narrow : PartlyAssigned (done ++ (guid, role - spare) :: rest) (done ++ pick :: last') := by
        refine ⟨forall₂_middle.mpr ⟨done, pick, last', rfl, left, ⟨same, less⟩, right⟩,
          chosen.damage, chosen.healer, chosen.tank, ?_⟩
        rw [length_append, length_cons]
        exact total
      have lighter := Nat.lt_of_lt_of_le (weight_take_away done rest guid isRole has) light
      have succeeds := trial _ _ narrow lighter
      rcases @visit_several again done rest guid dpsNeeded damage role PlayerRole.damage
        (several _ (.inl rfl)) with ⟨groles, ends⟩ | ⟨ends, failed1⟩
      · rw [ends]
        rfl
      rw [ends]
      rcases @visit_several again done rest guid healersNeeded healer role PlayerRole.healer
        (several _ (.inr (.inl rfl))) with ⟨groles, ends⟩ | ⟨ends, failed2⟩
      · rw [ends]
        rfl
      rw [ends]
      rcases @visit_several again done rest guid tanksNeeded tank role PlayerRole.tank
        (several _ (.inr (.inr rfl))) with ⟨groles, ends⟩ | ⟨ends, failed3⟩
      · rw [ends]
        rfl
      have none_ : again (done ++ (guid, role - spare) :: rest) = none := by
        rcases isRole with rfl | rfl | rfl
        · exact failed1 has
        · exact failed2 has
        · exact failed3 has
      rw [none_] at succeeds
      cases succeeds

theorem assign_complete {calls : Nat} : ∀ {groles kept : LfgRolesMap},
    PartlyAssigned groles kept → weight groles < calls → (assign calls groles).isSome := by
  induction calls with
  | zero => exact fun _ light => absurd light (Nat.not_lt_zero _)
  | succ calls ih =>
    intro groles kept chosen light
    exact walk_complete (fun groles kept chosen light => ih chosen light) [] kept 0 0 0
      chosen (Nat.le_of_lt_succ light) rfl rfl rfl

theorem weight_le (groles : LfgRolesMap) : weight groles ≤ 3 * groles.length := by
  unfold weight
  induction groles with
  | nil => exact Nat.le_refl _
  | cons entry groles ih =>
    rw [map_cons, sum_cons, length_cons]
    split <;> split <;> split <;> omega

theorem checkGroupRoles_iff {groles : LfgRolesMap} (small : groles.length < 2 ^ 8)
    (someone : groles ≠ []) :
    (checkGroupRoles groles).2 = true ↔ ∃ assigned, Assigned (withoutLeader groles) assigned := by
  constructor
  · intro checked
    exact ⟨_, checkGroupRoles_sound small (Prod.ext rfl checked)⟩
  · rintro ⟨assigned, chosen⟩
    have light := weight_le (withoutLeader groles)
    rw [withoutLeader, length_map] at light
    have found := assign_complete (assigned_iff.mp chosen).1 (Nat.lt_succ_of_le light)
    unfold checkGroupRoles
    rw [if_neg (by simpa using someone)]
    split
    · rfl
    rename_i none_
    rw [none_] at found
    cases found

end OpenWoW.DungeonFinder
