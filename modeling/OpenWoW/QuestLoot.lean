import Mathlib.Data.List.Basic
import Mathlib.Order.WellFounded

/-! Whether a loot template can drop a quest item, and what its generation can reach. -/
namespace OpenWoW.QuestLoot

structure LootStoreItem where
  itemid : Nat
  mincountOrRef : Int
  group : Nat
  needsQuest : Bool
  maxcount : Nat

structure LootGroup where
  explicitlyChanced : List LootStoreItem
  equalChanced : List LootStoreItem

structure LootTemplate where
  entries : List LootStoreItem
  groups : List (Option LootGroup)

abbrev LootTemplateMap := Nat → Option LootTemplate

def LootStoreItem.reference (item : LootStoreItem) : Nat := (-item.mincountOrRef).toNat

section

variable (test : LootStoreItem → Bool) (store : LootTemplateMap)

def LootGroup.hasDrop (group : LootGroup) : Bool :=
  group.explicitlyChanced.any test || group.equalChanced.any test

/-- The loop over the entries, with the call for what an entry refers to. -/
def hasDropEntries (call : LootTemplate → Nat → Option Bool) : List LootStoreItem → Option Bool
  | [] => some false
  | item :: entries =>
    if item.mincountOrRef < 0 then
      match store item.reference with
      | none => hasDropEntries call entries
      | some referenced => do
        if ← call referenced item.group then some true else hasDropEntries call entries
    else if test item then some true
    else hasDropEntries call entries

/-- `HasQuestDrop` and `HasQuestDropForPlayer`, which differ in their test of an item. The recursion
ends without a result where it is deeper than `depth`. -/
def hasDrop : Nat → LootTemplate → Nat → Option Bool
  | 0, _, _ => none
  | depth + 1, template, groupId =>
    if groupId ≠ 0 then
      match template.groups[groupId - 1]? with
      | some (some group) => some (group.hasDrop test)
      | _ => some false
    else do
      if ← hasDropEntries test store (hasDrop depth) template.entries then some true
      else some (template.groups.any fun group => group.any (·.hasDrop test))

/-- `HaveQuestLootFor` and `HaveQuestLootForPlayer`. -/
def haveLootFor (depth lootId groupId : Nat) : Option Bool :=
  match store lootId with
  | none => some false
  | some template => hasDrop test store depth template groupId

end

def haveQuestLootFor (store : LootTemplateMap) : Nat → Nat → Nat → Option Bool :=
  haveLootFor (·.needsQuest) store

def haveQuestLootForPlayer (hasQuestForItem : Nat → Bool) (store : LootTemplateMap) :
    Nat → Nat → Nat → Option Bool :=
  haveLootFor (fun item => hasQuestForItem item.itemid) store

variable (references : LootTemplateMap) (rated : Nat → Nat)

/-- What `Process` can come to from a template: `rated` is how often it processes a reference with a
maximum count. -/
inductive Reaches : LootTemplate → Nat → LootStoreItem → Prop
  | group {template : LootTemplate} {groupId : Nat} {group : LootGroup} {item : LootStoreItem} :
    groupId ≠ 0 → template.groups[groupId - 1]? = some (some group) →
    item ∈ group.explicitlyChanced ++ group.equalChanced → Reaches template groupId item
  | entry {template : LootTemplate} {item : LootStoreItem} :
    item ∈ template.entries → 0 ≤ item.mincountOrRef → Reaches template 0 item
  | reference {template referenced : LootTemplate} {ref item : LootStoreItem} :
    ref ∈ template.entries → ref.mincountOrRef < 0 → references ref.reference = some referenced →
    0 < rated ref.maxcount → Reaches referenced ref.group item → Reaches template 0 item
  | grouped {template : LootTemplate} {group : LootGroup} {item : LootStoreItem} :
    some group ∈ template.groups → item ∈ group.explicitlyChanced ++ group.equalChanced →
    Reaches template 0 item

/-- The references that `Process` can come to. -/
inductive Meets : LootTemplate → LootStoreItem → Prop
  | here {template : LootTemplate} {ref : LootStoreItem} :
    ref ∈ template.entries → ref.mincountOrRef < 0 → Meets template ref
  | deeper {template referenced : LootTemplate} {ref inner : LootStoreItem} :
    ref ∈ template.entries → ref.mincountOrRef < 0 → references ref.reference = some referenced →
    ref.group = 0 → Meets referenced inner → Meets template inner

/-- A reference template is referred to by another one. -/
def Refers (child parent : Nat) : Prop :=
  ∃ template, references parent = some template ∧
    ∃ ref ∈ template.entries, ref.mincountOrRef < 0 ∧ ref.reference = child

/-- The store of a template knows what its references mean to `Process`. -/
def Shared (store : LootTemplateMap) (template : LootTemplate) : Prop :=
  ∀ ref, Meets references template ref →
    store ref.reference = references ref.reference ∧ 0 < rated ref.maxcount

/-- The query ends, and finds what there is. -/
def Settles (query : Nat → Option Bool) (there : Prop) : Prop :=
  ∃ depth found, (∀ more, depth ≤ more → query more = some found) ∧ (found = true ↔ there)

def Agrees (test : LootStoreItem → Bool) (store : LootTemplateMap) (template : LootTemplate)
    (groupId : Nat) : Prop :=
  Settles (hasDrop test store · template groupId)
    (∃ item, Reaches references rated template groupId item ∧ test item = true)

section

variable {references} {rated} {test : LootStoreItem → Bool} {store : LootTemplateMap}
  {template : LootTemplate}

theorem any_iff (group : LootGroup) : group.hasDrop test = true ↔
    ∃ item ∈ group.explicitlyChanced ++ group.equalChanced, test item = true := by
  rw [LootGroup.hasDrop, ← List.any_append, List.any_eq_true]

theorem agrees_group {groupId : Nat} (some : groupId ≠ 0) :
    Agrees references rated test store template groupId := by
  refine ⟨1, match template.groups[groupId - 1]? with
    | .some (.some group) => group.hasDrop test
    | _ => false, fun more enough => ?_, ?_⟩
  · obtain ⟨depth, rfl⟩ := Nat.exists_eq_add_of_le' enough
    dsimp only
    rw [hasDrop, if_pos some]
    split <;> rfl
  · constructor
    · intro found
      split at found
      · rename_i group there
        obtain ⟨item, listed, passes⟩ := (any_iff group).mp found
        exact ⟨item, .group some there listed, passes⟩
      · cases found
    · rintro ⟨item, reached, passes⟩
      cases reached with
      | group _ there listed =>
        rw [there]
        exact (any_iff _).mpr ⟨item, listed, passes⟩
      | entry => exact absurd rfl some
      | reference => exact absurd rfl some
      | grouped => exact absurd rfl some

def Leads (references : LootTemplateMap) (rated : Nat → Nat) (test : LootStoreItem → Bool)
    (entry : LootStoreItem) : Prop :=
  if entry.mincountOrRef < 0 then ∃ referenced, references entry.reference = some referenced ∧
    ∃ item, Reaches references rated referenced entry.group item ∧ test item = true
  else test entry = true

theorem entries_scan {entries : List LootStoreItem} (each : ∀ ref ∈ entries, ref.mincountOrRef < 0 →
      store ref.reference = references ref.reference ∧ ∀ referenced,
        references ref.reference = some referenced →
          Agrees references rated test store referenced ref.group) :
    Settles (fun more => hasDropEntries test store (hasDrop test store more) entries)
      (∃ entry ∈ entries, Leads references rated test entry) := by
  induction entries with
  | nil => exact ⟨0, false, fun _ _ => rfl, by simp⟩
  | cons entry entries ih =>
    rw [List.forall_mem_cons] at each
    obtain ⟨depth, found, returns, finds⟩ := ih each.2
    dsimp only at returns
    simp only [List.exists_mem_cons_iff]
    by_cases negative : entry.mincountOrRef < 0
    · obtain ⟨same, agrees⟩ := each.1 negative
      simp only [hasDropEntries, negative, if_true, same]
      cases there : references entry.reference with
      | none =>
        refine ⟨depth, found, returns, ?_⟩
        rw [finds, Leads, if_pos negative, there]
        simp
      | some referenced =>
        obtain ⟨deep, result, ends, reaches⟩ := agrees referenced there
        dsimp only at ends
        refine ⟨max depth deep, result || found, fun more enough => ?_, ?_⟩
        · dsimp only
          rw [ends more (by omega), returns more (by omega)]
          cases result <;> rfl
        · rw [Bool.or_eq_true, reaches, finds, Leads, if_pos negative, there]
          simp
    · simp only [hasDropEntries, negative, if_false]
      refine ⟨depth, test entry || found, fun more enough => ?_, ?_⟩
      · dsimp only
        rw [returns more enough]
        cases test entry <;> rfl
      · rw [Bool.or_eq_true, finds, Leads, if_neg negative]

theorem agrees_template (shared : Shared references rated store template)
    (each : ∀ ref ∈ template.entries, ref.mincountOrRef < 0 → ∀ referenced,
      references ref.reference = some referenced → Shared references rated store referenced →
        Agrees references rated test store referenced 0) (groupId : Nat) :
    Agrees references rated test store template groupId := by
  by_cases whole : groupId ≠ 0
  · exact agrees_group whole
  obtain rfl : groupId = 0 := not_not.mp whole
  have inner : ∀ ref ∈ template.entries, ref.mincountOrRef < 0 → ∀ referenced,
      references ref.reference = some referenced →
        Agrees references rated test store referenced ref.group := by
    intro ref listed negative referenced there
    by_cases one : ref.group = 0
    · rw [one]
      exact each ref listed negative referenced there fun inner meets =>
        shared inner (.deeper listed negative there one meets)
    · exact agrees_group one
  obtain ⟨depth, found, returns, finds⟩ := @entries_scan references rated test store template.entries
    fun ref listed negative => ⟨(shared ref (.here listed negative)).1, inner ref listed negative⟩
  refine ⟨depth + 1, found || template.groups.any fun group => group.any (·.hasDrop test),
    fun more enough => ?_, ?_⟩
  · obtain ⟨more, rfl⟩ := Nat.exists_eq_add_of_le' (Nat.le_of_add_left_le enough)
    dsimp only at returns ⊢
    rw [hasDrop, if_neg (not_not.mpr rfl), returns more (by omega)]
    cases found <;> rfl
  · rw [Bool.or_eq_true, finds, List.any_eq_true]
    constructor
    · rintro (⟨entry, listed, leads⟩ | ⟨group, listed, found⟩)
      · unfold Leads at leads
        split at leads
        · rename_i negative
          obtain ⟨referenced, there, item, reached, passes⟩ := leads
          have often := (shared entry (.here listed negative)).2
          exact ⟨item, .reference listed negative there often reached, passes⟩
        · exact ⟨entry, .entry listed (by omega), leads⟩
      · obtain ⟨group', rfl, found⟩ := (Option.any_eq_true _ _).mp found
        obtain ⟨item, inside, passes⟩ := (any_iff group').mp found
        exact ⟨item, .grouped listed inside, passes⟩
    · rintro ⟨item, reached, passes⟩
      cases reached with
      | group some => exact absurd rfl some
      | entry listed plain =>
        refine .inl ⟨item, listed, ?_⟩
        rw [Leads, if_neg (by omega)]
        exact passes
      | reference listed negative there often reached =>
        refine .inl ⟨_, listed, ?_⟩
        rw [Leads, if_pos negative]
        exact ⟨_, there, item, reached, passes⟩
      | @grouped _ group _ listed inside =>
        exact .inr ⟨some group, listed, (any_iff group).mpr ⟨item, inside, passes⟩⟩

theorem agrees_shared (acyclic : WellFounded (Refers references))
    (shared : Shared references rated store template) (groupId : Nat) :
    Agrees references rated test store template groupId := by
  -- the reference templates, from those without references up
  have all : ∀ id template, references id = some template →
      Shared references rated store template → Agrees references rated test store template 0 := by
    intro id
    induction id using acyclic.induction with
    | _ id ih =>
      intro template here shared
      exact agrees_template shared (fun ref listed negative =>
        ih ref.reference ⟨template, here, ref, listed, negative, rfl⟩) 0
  exact agrees_template shared (fun ref _ _ => all ref.reference) groupId

def Faithful (references : LootTemplateMap) (rated : Nat → Nat) (store : LootTemplateMap)
    (lootId groupId : Nat) (test : LootStoreItem → Bool) (query : Nat → Option Bool) : Prop :=
  Settles query (∃ template, store lootId = some template ∧
    ∃ item, Reaches references rated template groupId item ∧ test item = true)

theorem haveLootFor_faithful (acyclic : WellFounded (Refers references)) {lootId : Nat}
    (shared : ∀ template, store lootId = some template → Shared references rated store template)
    (groupId : Nat) : Faithful references rated store lootId groupId test fun depth =>
      haveLootFor test store depth lootId groupId := by
  unfold Faithful haveLootFor
  cases here : store lootId with
  | none => exact ⟨0, false, fun _ _ => rfl, by simp⟩
  | some template =>
    obtain ⟨depth, found, returns, finds⟩ := agrees_shared acyclic (shared template here) groupId
    exact ⟨depth, found, returns, by simpa using finds⟩

end

def questItem : LootStoreItem := ⟨5, 1, 0, true, 1⟩

def questReference : LootTemplateMap := fun id =>
  if id = 1 then some ⟨[⟨100, -100, 0, false, 1⟩], []⟩
  else if id = 100 then some ⟨[questItem], []⟩ else none

theorem questReference_entries {id : Nat} {template : LootTemplate} {ref : LootStoreItem}
    (here : questReference id = some template) (listed : ref ∈ template.entries)
    (negative : ref.mincountOrRef < 0) : id = 1 ∧ ref = ⟨100, -100, 0, false, 1⟩ := by
  unfold questReference at here
  split_ifs at here with first second
  · cases here
    exact ⟨first, List.mem_singleton.mp listed⟩
  · cases here
    rw [List.mem_singleton.mp listed] at negative
    cases negative

end OpenWoW.QuestLoot
