import OpenWoW.DungeonRoles

/-! `CheckGroupRoles` as it edits the map in place. -/
namespace OpenWoW.DungeonFinder

open List

/-- What looking at one role of a player comes to, with the map as it is left. -/
inductive Trial where
  | failed (groles : LfgRolesMap)
  | found (groles : LfgRolesMap)
  | goOn (groles : LfgRolesMap) (counted : Nat)

/-- One of the three tests of the loop, for the player at a position; no answer if the call inside it
does not return. -/
def tryRole (again : LfgRolesMap → Option (LfgRolesMap × Bool)) (groles : LfgRolesMap)
    (pos : Nat) (bit : UInt8) (needed counted : Nat) : Option Trial :=
  match groles[pos]? with
  | none => some (.failed groles)
  | some (_, role) =>
    if role &&& bit = 0 then some (.goOn groles counted)
    else if role ≠ bit then do
      let (groles, found) ← again (groles.modify pos fun entry => (entry.1, entry.2 - bit))
      if found then some (.found groles)
      else some (.goOn (groles.modify pos fun entry => (entry.1, entry.2 + bit)) counted)
    else if counted = needed then some (.failed groles)
    else some (.goOn groles (counted + 1))

/-- The loop from a position on, with the entries that are left. -/
def searchFrom (again : LfgRolesMap → Option (LfgRolesMap × Bool)) :
    Nat → LfgRolesMap → Nat → Nat → Nat → Nat → Option (LfgRolesMap × Bool)
  | 0, groles, _, damage, healer, tank =>
    some (groles, decide (tank + healer + damage = groles.length % 2 ^ 8))
  | left + 1, groles, pos, damage, healer, tank =>
    if groles[pos]?.any (·.2 = PlayerRole.none) then some (groles, false)
    else do
      match ← tryRole again groles pos PlayerRole.damage dpsNeeded damage with
      | .failed groles => some (groles, false)
      | .found groles => some (groles, true)
      | .goOn groles damage =>
        match ← tryRole again groles pos PlayerRole.healer healersNeeded healer with
        | .failed groles => some (groles, false)
        | .found groles => some (groles, true)
        | .goOn groles healer =>
          match ← tryRole again groles pos PlayerRole.tank tanksNeeded tank with
          | .failed groles => some (groles, false)
          | .found groles => some (groles, true)
          | .goOn groles tank => searchFrom again left groles (pos + 1) damage healer tank

/-- The calls with `removeLeaderFlag` false; no answer if the calls do not return within the depth. -/
def searchRoles : Nat → LfgRolesMap → Option (LfgRolesMap × Bool)
  | 0, _ => none
  | depth + 1, groles =>
    if groles.isEmpty then some (groles, false)
    else searchFrom (searchRoles depth) groles.length groles 0 0 0 0

/-- The call with `removeLeaderFlag` true. -/
def searchGroupRoles (depth : Nat) (groles : LfgRolesMap) : Option (LfgRolesMap × Bool) :=
  if groles.isEmpty then some (groles, false)
  else searchFrom (searchRoles depth) groles.length (withoutLeader groles) 0 0 0 0

/-- The answer of a search that leaves the map as it was if it finds nothing. -/
def answer (groles : LfgRolesMap) : Option LfgRolesMap → LfgRolesMap × Bool
  | some kept => (kept, true)
  | none => (groles, false)

def visited (groles : LfgRolesMap) : Visit → Trial
  | .failed => .failed groles
  | .found kept => .found kept
  | .goOn counted => .goOn groles counted

theorem getElem?_middle (done rest : LfgRolesMap) (entry : Nat × UInt8) :
    (done ++ entry :: rest)[done.length]? = some entry := by
  rw [getElem?_append_right (Nat.le_refl _), Nat.sub_self, getElem?_cons_zero]

theorem modify_middle (f : Nat × UInt8 → Nat × UInt8) (done rest : LfgRolesMap)
    (entry : Nat × UInt8) :
    (done ++ entry :: rest).modify done.length f = done ++ f entry :: rest := by
  induction done with
  | nil => rfl
  | cons first done ih =>
    rw [cons_append, length_cons, modify_succ_cons, ih]
    rfl

section

variable {again : LfgRolesMap → Option (LfgRolesMap × Bool)}
variable {trial : LfgRolesMap → Option LfgRolesMap}

theorem tryRole_eq {done rest : LfgRolesMap} {guid : Nat} {role bit : UInt8} (isRole : Single bit)
    (same : ∀ groles, groles ≠ [] → weight groles < weight (done ++ (guid, role) :: rest) →
      again groles = some (answer groles (trial groles))) (needed counted : Nat) :
    tryRole again (done ++ (guid, role) :: rest) done.length bit needed counted =
      some (visited (done ++ (guid, role) :: rest)
        (visit trial done rest guid role bit needed counted)) := by
  unfold tryRole visit
  rw [getElem?_middle, modify_middle]
  dsimp only
  by_cases without : role &&& bit = 0
  · rw [if_pos without, if_pos without]
    rfl
  rw [if_neg without, if_neg without]
  by_cases several : role ≠ bit
  · rw [if_pos several, if_pos several,
      same _ (append_ne_nil_of_right_ne_nil _ (cons_ne_nil _ _))
        (weight_take_away done rest guid isRole without)]
    cases trial (done ++ (guid, role - bit) :: rest) with
    | some kept => rfl
    | none =>
      show some (Trial.goOn ((done ++ (guid, role - bit) :: rest).modify done.length _) counted) = _
      rw [modify_middle]
      rw [UInt8.sub_add_cancel]
      rfl
  · rw [if_neg several, if_neg several]
    split <;> rfl

theorem searchFrom_eq {rest : LfgRolesMap} : ∀ (done : LfgRolesMap) (damage healer tank : Nat),
    (∀ groles, groles ≠ [] → weight groles < weight (done ++ rest) →
      again groles = some (answer groles (trial groles))) →
    searchFrom again rest.length (done ++ rest) done.length damage healer tank =
      some (answer (done ++ rest) (walk trial done rest damage healer tank)) := by
  induction rest with
  | nil =>
    intro done damage healer tank _
    rw [append_nil]
    show some (done, _) = some (answer done (walk trial done [] damage healer tank))
    unfold walk
    by_cases total : tank + healer + damage = done.length % 2 ^ 8
    · rw [if_pos total, decide_eq_true total]
      rfl
    · rw [if_neg total, decide_eq_false total]
      rfl
  | cons entry rest ih =>
    intro done damage healer tank same
    obtain ⟨guid, role⟩ := entry
    unfold walk
    rw [length_cons, searchFrom, getElem?_middle]
    by_cases noRole : role = PlayerRole.none
    · rw [if_pos noRole, if_pos (by simpa using noRole)]
      rfl
    rw [if_neg noRole, if_neg (by simpa using noRole), tryRole_eq (.inl rfl) same]
    cases visit trial done rest guid role PlayerRole.damage dpsNeeded damage with
    | failed => rfl
    | found kept => rfl
    | goOn damage =>
      show ((tryRole again _ done.length PlayerRole.healer healersNeeded healer).bind _) = _
      rw [tryRole_eq (.inr (.inl rfl)) same]
      cases visit trial done rest guid role PlayerRole.healer healersNeeded healer with
      | failed => rfl
      | found kept => rfl
      | goOn healer =>
        show ((tryRole again _ done.length PlayerRole.tank tanksNeeded tank).bind _) = _
        rw [tryRole_eq (.inr (.inr rfl)) same]
        cases visit trial done rest guid role PlayerRole.tank tanksNeeded tank with
        | failed => rfl
        | found kept => rfl
        | goOn tank =>
          have later := ih (done ++ [(guid, role)]) damage healer tank
          rw [← append_cons, length_append] at later
          exact later same

end

theorem searchRoles_eq {depth : Nat} : ∀ groles : LfgRolesMap, groles ≠ [] → weight groles < depth →
    searchRoles depth groles = some (answer groles (assign depth groles)) := by
  induction depth with
  | zero => exact fun _ _ light => absurd light (Nat.not_lt_zero _)
  | succ depth ih =>
    intro groles someone light
    rw [searchRoles, if_neg (by simpa using someone)]
    apply searchFrom_eq [] 0 0 0
    intro groles' someone' lighter
    exact ih groles' someone' (Nat.lt_of_lt_of_le lighter (Nat.le_of_lt_succ light))

variable {groles : LfgRolesMap}

theorem searchGroupRoles_eq {depth : Nat} (someone : groles ≠ [])
    (deep : 3 * groles.length ≤ depth) :
    searchGroupRoles depth groles =
      some (answer (withoutLeader groles) (assign (depth + 1) (withoutLeader groles))) := by
  have length : (withoutLeader groles).length = groles.length := length_map _
  have light := weight_le (withoutLeader groles)
  rw [length] at light
  rw [searchGroupRoles, if_neg (by simpa using someone), ← length]
  apply searchFrom_eq [] 0 0 0
  intro groles' someone' lighter
  exact searchRoles_eq groles' someone' (Nat.lt_of_lt_of_le lighter (Nat.le_trans light deep))

variable {first second : LfgRolesMap → Option LfgRolesMap}

theorem visit_congr {done rest : LfgRolesMap}
    {guid : Nat} {role bit : UInt8} (isRole : Single bit)
    (same : ∀ groles, weight groles < weight (done ++ (guid, role) :: rest) →
      first groles = second groles) (needed counted : Nat) :
    visit first done rest guid role bit needed counted =
      visit second done rest guid role bit needed counted := by
  unfold visit
  by_cases without : role &&& bit = 0
  · rw [if_pos without, if_pos without]
  · rw [if_neg without, if_neg without, same _ (weight_take_away done rest guid isRole without)]

theorem walk_congr {rest : LfgRolesMap} :
    ∀ (done : LfgRolesMap) (damage healer tank : Nat),
    (∀ groles, weight groles < weight (done ++ rest) → first groles = second groles) →
    walk first done rest damage healer tank = walk second done rest damage healer tank := by
  induction rest with
  | nil =>
    intro done damage healer tank _
    rfl
  | cons entry rest ih =>
    intro done damage healer tank same
    obtain ⟨guid, role⟩ := entry
    have later : ∀ damage healer tank, walk first (done ++ [(guid, role)]) rest damage healer tank =
        walk second (done ++ [(guid, role)]) rest damage healer tank := by
      intro damage healer tank
      apply ih
      rw [← append_cons]
      exact same
    unfold walk
    simp only [visit_congr (.inl rfl) same, visit_congr (.inr (.inl rfl)) same,
      visit_congr (.inr (.inr rfl)) same, later]

theorem assign_deeper {depth : Nat} : ∀ {more : Nat} {groles : LfgRolesMap},
    weight groles < depth → depth ≤ more → assign more groles = assign depth groles := by
  induction depth with
  | zero => exact fun light => absurd light (Nat.not_lt_zero _)
  | succ depth ih =>
    intro more groles light deeper
    obtain ⟨more, rfl⟩ : ∃ one, more = one + 1 := ⟨more - 1, by omega⟩
    apply walk_congr
    intro groles' lighter
    exact ih (Nat.lt_of_lt_of_le lighter (Nat.le_of_lt_succ light)) (Nat.le_of_succ_le_succ deeper)

/-- The call returns, and answers if the roles can be given out; the map has them then, and is
otherwise as it was but for the leader flags. -/
def RolesDecided (groles : LfgRolesMap) : Prop :=
  ∃ after found, (∀ depth, 3 * groles.length ≤ depth →
      searchGroupRoles depth groles = some (after, found)) ∧
    (found = true ↔ groles ≠ [] ∧ ∃ assigned, Assigned (withoutLeader groles) assigned) ∧
    (found = true → Assigned (withoutLeader groles) after) ∧
    (found = false → after = withoutLeader groles)

theorem answer_eq {depth : Nat} (deep : weight groles < depth) :
    (answer groles (assign depth groles)).2 = true ↔ ∃ kept, PartlyAssigned groles kept := by
  cases found : assign depth groles with
  | some kept => exact ⟨fun _ => ⟨kept, assign_sound _ _ found⟩, fun _ => rfl⟩
  | none =>
    refine ⟨nofun, fun ⟨kept, chosen⟩ => ?_⟩
    have some_ := assign_complete chosen deep
    rw [found] at some_
    cases some_

theorem exists_answer (someone : groles ≠ []) :
    ∃ after found, (∀ depth, 3 * groles.length ≤ depth →
        searchGroupRoles depth groles = some (after, found)) ∧
      (found = true ↔ ∃ kept, PartlyAssigned (withoutLeader groles) kept) ∧
      (found = true → PartlyAssigned (withoutLeader groles) after) ∧
      (found = false → after = withoutLeader groles) := by
  have light := weight_le (withoutLeader groles)
  rw [withoutLeader, length_map] at light
  have deep : weight (withoutLeader groles) < 3 * groles.length + 1 := Nat.lt_succ_of_le light
  refine ⟨(answer (withoutLeader groles) (assign (3 * groles.length + 1) (withoutLeader groles))).1,
    _, fun depth enough => ?_, answer_eq deep, ?_, ?_⟩
  · rw [searchGroupRoles_eq someone enough, assign_deeper deep (Nat.succ_le_succ enough)]
  · cases found : assign (3 * groles.length + 1) (withoutLeader groles) with
    | some kept => exact fun _ => assign_sound _ _ found
    | none => exact fun wrong => by cases wrong
  · cases assign (3 * groles.length + 1) (withoutLeader groles) with
    | some kept => exact fun wrong => by cases wrong
    | none => exact fun _ => rfl

def tankHealers : LfgRolesMap :=
  (List.range (2 ^ 8)).map fun guid => (guid, PlayerRole.tank ||| PlayerRole.healer)

end OpenWoW.DungeonFinder
