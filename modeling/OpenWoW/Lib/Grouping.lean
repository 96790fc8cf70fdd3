import OpenWoW.Lib.OrderedMap

/-! Members of groups whose values are met: a group starts with the widest value, each member narrows
the value of its group, and a group that is left with nothing is not looked at again. -/
namespace Grouping

open List

open OrderedMap

/-- How values are met. -/
structure Meet (β : Type) where
  widest : β
  meet : β → β → β
  isEmpty : β → Bool

section

variable {α β κ : Type} [LinearOrder κ]

/-- A member joins its group; its value is not computed when the group is empty already. -/
def narrow (m : Meet β) (groups : List (κ × β)) (group : κ) (value : Option β) :
    Option (List (κ × β)) :=
  match value? groups group with
  | none => value.map fun b => insert group (m.meet m.widest b) groups
  | some held =>
    if m.isEmpty held then some groups
    else value.map fun b => assign groups group (m.meet held b)

end

/-- A test that a met value passes when both values do. -/
structure Test {β : Type} (m : Meet β) (passes : β → Bool) : Prop where
  widest : passes m.widest = true
  meet : ∀ a b, passes (m.meet a b) = (passes a && passes b)
  empty : ∀ b, m.isEmpty b = true → passes b = false

variable {α β κ : Type}

/-- Every group is that of some member, and passes a test when all of its members do. -/
structure Gathered (m : Meet β) (group : α → κ) (value : α → β) (members : List α)
    (groups : List (κ × β)) : Prop where
  named : ∀ entry ∈ groups, ∃ a ∈ members, group a = entry.1
  kept : ∀ a ∈ members, group a ∈ keys groups
  passed : ∀ entry ∈ groups, ∀ passes, Test m passes →
    (passes entry.2 = true ↔ ∀ a ∈ members, group a = entry.1 → passes (value a) = true)

variable {m : Meet β} {group : α → κ} {value : α → β} {members : List α} {groups : List (κ × β)}

section

variable [LinearOrder κ]

section
variable (gathered : Gathered m group value members groups) (a : α)
include gathered a

theorem Gathered.join_new
    (fresh : group a ∉ keys groups) :
    Gathered m group value (members ++ [a])
      (insert (group a) (m.meet m.widest (value a)) groups) := by
  have entries : ∀ entry, entry ∈ insert (group a) (m.meet m.widest (value a)) groups ↔
      entry = (group a, m.meet m.widest (value a)) ∨ entry ∈ groups := by
    intro entry
    rw [(insert_perm _ fresh).mem_iff, mem_cons]
  have apart : ∀ entry ∈ groups, group a ≠ entry.1 := by
    intro entry here same
    exact fresh (same ▸ mem_map_of_mem here)
  constructor
  · intro entry here
    rcases (entries entry).mp here with rfl | old
    · exact ⟨a, by simp, rfl⟩
    · obtain ⟨other, there, same⟩ := gathered.named entry old
      exact ⟨other, mem_append_left _ there, same⟩
  · intro other there
    rw [(keys_insert_perm _ fresh).mem_iff, mem_cons]
    rcases mem_append.mp there with old | new
    · exact Or.inr (gathered.kept other old)
    · exact Or.inl (by rw [mem_singleton.mp new])
  · intro entry here passes test
    simp only [mem_append, mem_singleton, or_imp, forall_and, forall_eq]
    rcases (entries entry).mp here with rfl | old
    · have others : ∀ other ∈ members, group other = group a → passes (value other) = true := by
        intro other there same
        exact absurd (same ▸ gathered.kept other there) fresh
      rw [test.meet, test.widest, Bool.true_and]
      exact ⟨fun passed => ⟨others, fun _ => passed⟩, fun both => both.2 rfl⟩
    · rw [gathered.passed entry old passes test]
      simp [apart entry old]

theorem Gathered.join_empty {held : β}
    (here : value? groups (group a) = some held) (empty : m.isEmpty held = true) :
    Gathered m group value (members ++ [a]) groups := by
  have stands := mem_of_value? here
  constructor
  · intro entry there
    obtain ⟨other, inside, same⟩ := gathered.named entry there
    exact ⟨other, mem_append_left _ inside, same⟩
  · intro other there
    rcases mem_append.mp there with old | new
    · exact gathered.kept other old
    · rw [mem_singleton.mp new]
      exact mem_map_of_mem stands
  · intro entry there passes test
    simp only [mem_append, mem_singleton, or_imp, forall_and, forall_eq]
    rw [gathered.passed entry there passes test]
    constructor
    · intro all
      refine ⟨all, fun same => ?_⟩
      -- the group of the new member fails already
      have failed := test.empty held empty
      rw [← Bool.not_eq_true, gathered.passed _ stands passes test] at failed
      exact absurd (same ▸ all) failed
    · exact And.left

theorem Gathered.join_held {held : β}
    (here : value? groups (group a) = some held) :
    Gathered m group value (members ++ [a]) (assign groups (group a) (m.meet held (value a))) := by
  have stands := mem_of_value? here
  constructor
  · intro entry there
    rcases mem_assign there with rfl | ⟨old, _⟩
    · exact ⟨a, by simp, rfl⟩
    · obtain ⟨other, inside, same⟩ := gathered.named entry old
      exact ⟨other, mem_append_left _ inside, same⟩
  · intro other there
    rw [keys_assign]
    rcases mem_append.mp there with old | new
    · exact gathered.kept other old
    · rw [mem_singleton.mp new]
      exact mem_map_of_mem stands
  · intro entry there passes test
    simp only [mem_append, mem_singleton, or_imp, forall_and, forall_eq]
    rcases mem_assign there with rfl | ⟨old, apart⟩
    · rw [test.meet, Bool.and_eq_true, gathered.passed _ stands passes test]
      simp
    · rw [gathered.passed entry old passes test]
      simp [Ne.symm apart]

end

theorem gather {m : Meet β} (group : α → κ) (value : α → β)
    (step : List (κ × β) → α → Option (List (κ × β))) {members : List α}
    (joins : ∀ groups, ∀ a ∈ members, step groups a = narrow m groups (group a) (some (value a))) :
    ∃ groups, members.foldlM step [] = some groups ∧ Gathered m group value members groups := by
  have more : ∀ (rest done : List α) (groups : List (κ × β)),
      (∀ groups, ∀ a ∈ rest, step groups a = narrow m groups (group a) (some (value a))) →
      Gathered m group value done groups →
      ∃ last, rest.foldlM step groups = some last ∧ Gathered m group value (done ++ rest) last := by
    intro rest
    induction rest with
    | nil =>
      intro done groups _ gathered
      exact ⟨groups, rfl, by simpa using gathered⟩
    | cons a rest ih =>
      intro done groups joins gathered
      have ⟨next, joined, gathered'⟩ : ∃ next, step groups a = some next ∧
          Gathered m group value (done ++ [a]) next := by
        rw [joins groups a mem_cons_self]
        unfold narrow
        cases here : value? groups (group a) with
        | none => exact ⟨_, rfl, gathered.join_new a (value?_eq_none.mp here)⟩
        | some held =>
          simp only
          split
          · next empty => exact ⟨_, rfl, gathered.join_empty a here empty⟩
          · exact ⟨_, rfl, gathered.join_held a here⟩
      obtain ⟨last, folded, all⟩ := ih (done ++ [a]) next
        (fun groups b inside => joins groups b (mem_cons_of_mem a inside)) gathered'
      refine ⟨last, ?_, by simpa using all⟩
      rw [foldlM_cons, joined]
      exact folded
  have start : Gathered m group value [] ([] : List (κ × β)) := by
    constructor
    · intro entry none_
      cases none_
    · intro a none_
      cases none_
    · intro entry none_
      cases none_
  exact more members [] [] joins start

end

theorem Gathered.any_passes (gathered : Gathered m group value members groups)
    {passes : β → Bool} (test : Test m passes) :
    (∃ entry ∈ groups, passes entry.2 = true) ↔
      ∃ a ∈ members, ∀ b ∈ members, group b = group a → passes (value b) = true := by
  constructor
  · intro ⟨entry, here, passed⟩
    obtain ⟨a, there, same⟩ := gathered.named entry here
    rw [gathered.passed entry here passes test] at passed
    exact ⟨a, there, fun b inside eq => passed b inside (eq.trans same)⟩
  · intro ⟨a, there, passed⟩
    obtain ⟨entry, here, same⟩ := mem_map.mp (gathered.kept a there)
    refine ⟨entry, here, (gathered.passed entry here passes test).mpr fun b inside eq => ?_⟩
    exact passed b inside (eq.trans same)

/-- A test that exactly the empty values fail. -/
structure Exact (m : Meet β) (passes : β → Bool) : Prop extends Test m passes where
  full : ∀ b, passes b = false → m.isEmpty b = true

/-- The values of members that come after a group has failed are not asked for. -/
def Asked (group : α → κ) (value : α → β) (passes : β → Bool) (before : List α) (a : α) : Prop :=
  ∀ b ∈ before, group b = group a → passes (value b) = true

section

variable [LinearOrder κ]

theorem narrow_mono {asked asked' : Option β} (more : ∀ b, asked = some b → asked' = some b) {a : κ}
    {next : List (κ × β)} (joined : narrow m groups a asked = some next) :
    narrow m groups a asked' = some next := by
  cases asked with
  | some b => rwa [more b rfl]
  | none =>
    unfold narrow at joined ⊢
    cases here : value? groups a with
    | none => simp [here] at joined
    | some held =>
      simp only [here] at joined ⊢
      split at joined
      · rename_i empty
        rw [if_pos empty]
        exact joined
      · cases joined

theorem Gathered.narrow_isSome (gathered : Gathered m group value members groups)
    {passes : β → Bool} (exact_ : Exact m passes) (a : α) (asked : Option β) :
    (narrow m groups (group a) asked).isSome ↔
      (Asked group value passes members a → asked.isSome) := by
  unfold narrow
  cases here : value? groups (group a) with
  | none =>
    have nobody : Asked group value passes members a := by
      intro b there same
      exact absurd (same ▸ gathered.kept b there) (value?_eq_none.mp here)
    simp [nobody]
  | some held =>
    have passed := gathered.passed _ (mem_of_value? here) passes exact_.toTest
    simp only
    split
    · rename_i empty
      have failed := exact_.empty held empty
      have unasked : ¬ Asked group value passes members a := by
        intro all
        rw [passed.mpr all] at failed
        cases failed
      simp [unasked]
    · rename_i full
      have all : Asked group value passes members a := by
        apply passed.mp
        by_contra failed
        exact full (exact_.full held (by simpa using failed))
      simp [all]

theorem Gathered.join (gathered : Gathered m group value members groups) (a : α) :
    ∃ next, narrow m groups (group a) (some (value a)) = some next ∧
      Gathered m group value (members ++ [a]) next := by
  unfold narrow
  cases here : value? groups (group a) with
  | none => exact ⟨_, rfl, gathered.join_new a (value?_eq_none.mp here)⟩
  | some held =>
    simp only
    split
    · rename_i empty
      exact ⟨_, rfl, gathered.join_empty a here empty⟩
    · exact ⟨_, rfl, gathered.join_held a here⟩

/-- The groups are gathered when every value that is asked for is there. -/
theorem gather_lazy {passes : β → Bool} (exact_ : Exact m passes) (found : α → Option β)
    (agrees : ∀ a ∈ members, ∀ b, found a = some b → b = value a) :
    (∀ groups, members.foldlM (fun groups a => narrow m groups (group a) (found a)) [] =
        some groups → Gathered m group value members groups) ∧
    ((members.foldlM (fun groups a => narrow m groups (group a) (found a)) []).isSome ↔
      ∀ before a after, members = before ++ a :: after →
        Asked group value passes before a → (found a).isSome) := by
  have more : ∀ (rest done : List α) (groups : List (κ × β)),
      (∀ a ∈ rest, ∀ b, found a = some b → b = value a) →
      Gathered m group value done groups →
      (∀ last, rest.foldlM (fun groups a => narrow m groups (group a) (found a)) groups =
          some last → Gathered m group value (done ++ rest) last) ∧
      ((rest.foldlM (fun groups a => narrow m groups (group a) (found a)) groups).isSome ↔
        ∀ before a after, rest = before ++ a :: after →
          Asked group value passes (done ++ before) a → (found a).isSome) := by
    intro rest
    induction rest with
    | nil =>
      intro done groups _ gathered
      refine ⟨fun last same => ?_, ?_⟩
      · rw [← Option.some.inj same, append_nil]
        exact gathered
      · simp
    | cons first rest ih =>
      intro done groups agrees gathered
      have asks := gathered.narrow_isSome exact_ first (found first)
      rw [foldlM_cons]
      cases joined : narrow m groups (group first) (found first) with
      | none =>
        rw [joined] at asks
        constructor
        · intro last none_
          cases none_
        · apply iff_of_false (by simp)
          intro all
          exact absurd (asks.mpr fun asked => all [] first rest rfl (by simpa using asked))
            (by simp)
      | some next =>
        have here := agrees first mem_cons_self
        obtain ⟨next', joined', gathered'⟩ := gathered.join first
        have same : narrow m groups (group first) (some (value first)) = some next :=
          narrow_mono (fun b there => congrArg some (here b there).symm ▸ rfl) joined
        obtain rfl := Option.some.inj (same.symm.trans joined')
        obtain ⟨last, isSome⟩ := ih (done ++ [first]) next
          (fun a there => agrees a (mem_cons_of_mem _ there)) gathered'
        rw [joined] at asks
        refine ⟨fun groups same => ?_, isSome.trans ?_⟩
        · have whole := last groups same
          rwa [append_assoc] at whole
        constructor
        · intro all before a after split asked
          cases before with
          | nil =>
            obtain ⟨rfl, _⟩ := List.cons.inj split
            exact asks.mp rfl (by simpa using asked)
          | cons b before =>
            obtain ⟨rfl, tail⟩ := List.cons.inj split
            exact all before a after tail (by simpa using asked)
        · intro all before a after split asked
          exact all (first :: before) a after (by rw [split]; rfl) (by simpa using asked)
  have start : Gathered m group value [] ([] : List (κ × β)) := by
    constructor <;> intro _ none_ <;> cases none_
  simpa using more members [] [] agrees start

theorem foldlM_narrow_mono {found found' : α → Option β}
    (more : ∀ a ∈ members, ∀ b, found a = some b → found' a = some b) {last : List (κ × β)}
    (folded : members.foldlM (fun groups a => narrow m groups (group a) (found a)) groups =
      some last) :
    members.foldlM (fun groups a => narrow m groups (group a) (found' a)) groups = some last := by
  induction members generalizing groups with
  | nil => exact folded
  | cons first rest ih =>
    rw [foldlM_cons] at folded ⊢
    obtain ⟨next, joined, folded⟩ := Option.bind_eq_some_iff.mp folded
    have joined' := narrow_mono (more first mem_cons_self) joined
    rw [joined']
    exact ih (fun a there => more a (mem_cons_of_mem _ there)) folded

end

end Grouping
