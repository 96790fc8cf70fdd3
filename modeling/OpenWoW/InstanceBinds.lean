import Mathlib.Tactic.Ring
import OpenWoW.InstanceResets
import OpenWoW.Lib.Links

/-! The binds of the players and groups, and the lists of the saves, agree. -/
namespace OpenWoW.Instances

open List Option Function

namespace InstanceSave

@[simp] theorem list_withList (save : InstanceSave) (kind : Kind) (list : List Nat) :
    (save.withList kind list).list kind = list := by
  cases kind <;> rfl

theorem list_withList_of_ne (save : InstanceSave) {kind kind' : Kind} (list : List Nat)
    (other : kind' ≠ kind) : (save.withList kind list).list kind' = save.list kind' := by
  cases kind <;> cases kind' <;> first | rfl | exact absurd rfl other

@[simp] theorem withList_instanceid (save : InstanceSave) (kind : Kind) (list : List Nat) :
    (save.withList kind list).instanceid = save.instanceid := by
  cases kind <;> rfl

@[simp] theorem withList_mapid (save : InstanceSave) (kind : Kind) (list : List Nat) :
    (save.withList kind list).mapid = save.mapid := by
  cases kind <;> rfl

@[simp] theorem withList_difficulty (save : InstanceSave) (kind : Kind) (list : List Nat) :
    (save.withList kind list).difficulty = save.difficulty := by
  cases kind <;> rfl

theorem unused_iff (save : InstanceSave) : save.unused = true ↔ ∀ kind, save.list kind = [] := by
  unfold unused
  rw [Bool.and_eq_true, List.isEmpty_iff, List.isEmpty_iff]
  constructor
  · intro ⟨players, groups⟩ kind
    cases kind
    · exact players
    · exact groups
  · intro empty
    exact ⟨empty .player, empty .group⟩

end InstanceSave

namespace Saves

@[simp] theorem ok_bind {α β : Type} (a : α) (f : α → Except Fault β) :
    ((Except.ok a : Except Fault α) >>= f) = f a := rfl

theorem pure_eq_ok {α : Type} (a : α) : (pure a : Except Fault α) = .ok a := rfl

/-- The binds of one kind as links: the holders' slots are named by map and difficulty. -/
def book (s : Saves) (kind : Kind) : Links.Book Nat (Nat × Difficulty) Nat where
  slot := fun holder key => ((s.boundInstances kind holder key.2).lookup key.1).map (·.save)
  listed := fun address => (s.heap address).elim [] fun save => save.list kind

section

local instance difficulties_neZero : NeZero maxDifficulty := ⟨by decide⟩

def key (s : Saves) (address : Nat) : Nat × Difficulty :=
  (s.heap address).elim (0, 0) fun save => (save.mapid, save.difficulty)

end

/-- Binds and lists agree, and the saves there are, are those registered under their ids. -/
structure Coherent (s : Saves) : Prop where
  agree : ∀ kind, Links.Agree s.key (s.book kind)
  registered : ∀ address save, s.heap address = some save →
    s.getInstanceSave save.instanceid = some address
  known : ∀ instanceId address, s.getInstanceSave instanceId = some address →
    ∃ save, s.heap address = some save ∧ save.instanceid = instanceId
  fresh : ∀ address, s.next ≤ address → s.heap address = none

variable {s : Saves} {address : Nat} {save : InstanceSave}

theorem key_of_heap
    (here : s.heap address = some save) : s.key address = (save.mapid, save.difficulty) := by
  rw [key, here]
  rfl

theorem listed_of_heap (here : s.heap address = some save) (kind : Kind) :
    (s.book kind).listed address = save.list kind := by
  simp [book, here]

theorem deref_of_heap (here : s.heap address = some save) : s.deref address = .ok save := by
  rw [deref, here]

variable {kind : Kind} {holder mapid : Nat} {difficulty : Difficulty}

theorem slot_of_lookup
    {bind : Bind} (there : (s.boundInstances kind holder difficulty).lookup mapid = some bind) :
    (s.book kind).slot holder (mapid, difficulty) = some bind.save := by
  simp [book, there]

theorem Coherent.live (coherent : s.Coherent) {bind : Bind}
    (there : (s.boundInstances kind holder difficulty).lookup mapid = some bind) :
    ∃ save, s.heap bind.save = some save ∧ save.mapid = mapid ∧ save.difficulty = difficulty := by
  have points := slot_of_lookup there
  cases here : s.heap bind.save with
  | none =>
    have empty : (s.book kind).listed bind.save = [] := by simp [book, here]
    exact absurd points ((coherent.agree kind).slot_ne_of_listed_nil empty holder _)
  | some save =>
    have keyed := (coherent.agree kind).keyed holder _ _ points
    rw [key_of_heap here, Prod.mk.injEq] at keyed
    exact ⟨save, rfl, keyed⟩

theorem setBound_boundInstances (s : Saves) (kind kind' : Kind) (holder holder' : Nat)
    (difficulty difficulty' : Difficulty) (bound : BoundInstancesMap) :
    (s.setBound kind holder difficulty bound).boundInstances kind' holder' difficulty' =
      if kind' = kind ∧ holder' = holder ∧ difficulty' = difficulty then bound
      else s.boundInstances kind' holder' difficulty' := by
  by_cases who : kind' = kind
  · subst who
    by_cases same : holder' = holder
    · subst same
      by_cases level : difficulty' = difficulty
      · subst level
        simp [setBound]
      · simp [setBound, level]
    · simp [setBound, same]
  · simp [setBound, who]

theorem slot_setBound {s : Saves} {kind : Kind} {holder mapid : Nat} {difficulty : Difficulty}
    {bound : BoundInstancesMap} {to? : Option Nat}
    (own : (bound.lookup mapid).map (·.save) = to?)
    (others : ∀ mapid', mapid' ≠ mapid →
      bound.lookup mapid' = (s.boundInstances kind holder difficulty).lookup mapid') :
    ((s.setBound kind holder difficulty bound).book kind).slot =
      Function.update (s.book kind).slot holder
        (Function.update ((s.book kind).slot holder) (mapid, difficulty) to?) := by
  funext holder' key'
  rw [Links.Book.slot_update]
  obtain ⟨mapid', difficulty'⟩ := key'
  unfold book
  dsimp only
  rw [setBound_boundInstances]
  by_cases same : holder' = holder ∧ difficulty' = difficulty
  · obtain ⟨rfl, rfl⟩ := same
    by_cases map : mapid' = mapid
    · subst map
      simp [own]
    · simp [map, others mapid' map]
  · have apart : ¬ (holder' = holder ∧ (mapid', difficulty') = (mapid, difficulty)) := by
      rintro ⟨rfl, both⟩
      exact same ⟨rfl, (Prod.mk.inj both).2⟩
    have level : ¬ (kind = kind ∧ holder' = holder ∧ difficulty' = difficulty) :=
      fun all => same all.2
    rw [if_neg apart, if_neg level]

theorem slot_insert (s : Saves) (kind : Kind) (holder mapid : Nat) (difficulty : Difficulty)
    (bind : Bind) : ((s.setBound kind holder difficulty
      ((s.boundInstances kind holder difficulty).insert mapid bind)).book kind).slot =
      Function.update (s.book kind).slot holder
        (Function.update ((s.book kind).slot holder) (mapid, difficulty) (some bind.save)) :=
  slot_setBound (by rw [AList.lookup_insert]; rfl) fun _ other => AList.lookup_insert_ne other

theorem book_setBound_of_ne (s : Saves) {kind' : Kind} (holder : Nat)
    (difficulty : Difficulty) (bound : BoundInstancesMap) (other : kind' ≠ kind) :
    (s.setBound kind holder difficulty bound).book kind' = s.book kind' := by
  ext holder' key' address
  · simp [book, setBound_boundInstances, other]
  · rfl

theorem listed_setSave (s : Saves) (kind : Kind) (address : Nat) (save : InstanceSave)
    (list : List Nat) :
    ((s.setSave address (save.withList kind list)).book kind).listed =
      Function.update (s.book kind).listed address list := by
  funext address'
  by_cases same : address' = address
  · subst same
    simp [book, setSave]
  · simp [book, setSave, same]

theorem book_setSave_of_ne {s : Saves} {kind' : Kind}
    (here : s.heap address = some save) (list : List Nat) (other : kind' ≠ kind) :
    (s.setSave address (save.withList kind list)).book kind' = s.book kind' := by
  ext1
  · rfl
  · funext address'
    by_cases same : address' = address
    · subst same
      simp [book, setSave, here, InstanceSave.list_withList_of_ne save list other]
    · simp [book, setSave, same]

variable {save' : InstanceSave}

theorem key_setSave {s : Saves} (here : s.heap address = some save) (map : save'.mapid = save.mapid)
    (level : save'.difficulty = save.difficulty) : (s.setSave address save').key = s.key := by
  funext address'
  by_cases same : address' = address
  · subst same
    simp [key, setSave, here, map, level]
  · simp [key, setSave, same]

variable {t : Saves}

theorem Coherent.of_setSave (coherent : s.Coherent) (here : s.heap address = some save)
    (instanceid : save'.instanceid = save.instanceid)
    (heap : t.heap = Function.update s.heap address (some save')) (next : t.next = s.next)
    (byId : t.instanceSaveById = s.instanceSaveById)
    (agree : ∀ kind, Links.Agree t.key (t.book kind)) : t.Coherent where
  agree := agree
  registered := by
    intro address' found there
    rw [getInstanceSave, byId]
    rw [heap] at there
    by_cases same : address' = address
    · subst same
      rw [update_self] at there
      obtain rfl := some.inj there
      rw [instanceid]
      exact coherent.registered address' save here
    · rw [update_of_ne same] at there
      exact coherent.registered address' found there
  known := by
    intro id address' found
    rw [getInstanceSave, byId] at found
    obtain ⟨was, there, own⟩ := coherent.known id address' found
    rw [heap]
    by_cases same : address' = address
    · subst same
      rw [here] at there
      obtain rfl := some.inj there
      exact ⟨save', update_self .., instanceid.trans own⟩
    · exact ⟨was, (update_of_ne same ..).trans there, own⟩
  fresh := by
    intro address' late
    rw [next] at late
    have unused := coherent.fresh address' late
    have other : address' ≠ address := by
      rintro rfl
      rw [here] at unused
      cases unused
    rw [heap, update_of_ne other, unused]

/-- The state in which a bind is gone on both sides. -/
def detach (s : Saves) (kind : Kind) (holder : Nat) (address : Nat) (save : InstanceSave) :
    Saves :=
  (s.setSave address
    (save.withList kind ((save.list kind).filter fun other => other ≠ holder))).setBound kind
      holder save.difficulty ((s.boundInstances kind holder save.difficulty).erase save.mapid)

theorem detach_heap (s : Saves) (kind : Kind) (holder address : Nat) (save : InstanceSave) :
    (s.detach kind holder address save).heap = Function.update s.heap address
      (some (save.withList kind ((save.list kind).filter fun other => other ≠ holder))) := rfl

theorem detach_heap_self (s : Saves) (kind : Kind) (holder address : Nat)
    (save : InstanceSave) : (s.detach kind holder address save).heap address =
      some (save.withList kind ((save.list kind).filter fun other => other ≠ holder)) :=
  update_self ..

theorem detach_book
    (points : (s.book kind).slot holder (save.mapid, save.difficulty) = some address)
    (here : s.heap address = some save) :
    (s.detach kind holder address save).book kind =
      (s.book kind).cut holder (save.mapid, save.difficulty) := by
  have own : (((s.boundInstances kind holder save.difficulty).erase save.mapid).lookup
      save.mapid).map (·.save) = none := by rw [AList.lookup_erase]; rfl
  have slots := slot_setBound own fun mapid' other => AList.lookup_erase_ne other
  ext1
  · exact slots
  · have lists := listed_setSave s kind address save
      ((save.list kind).filter fun other => other ≠ holder)
    refine lists.trans ?_
    funext address'
    unfold Links.Book.cut
    dsimp only
    rw [points]
    by_cases same : address' = address
    · subst same
      rw [update_self, if_pos rfl, listed_of_heap here]
    · have other : ¬ some address = some address' := fun e => same (some.inj e).symm
      rw [update_of_ne same, if_neg other]

theorem Coherent.detach (coherent : s.Coherent) (here : s.heap address = some save)
    (points : (s.book kind).slot holder (save.mapid, save.difficulty) = some address) :
    (s.detach kind holder address save).Coherent := by
  refine coherent.of_setSave here (save.withList_instanceid kind _) rfl rfl rfl fun kind' => ?_
  have keys : (s.detach kind holder address save).key = s.key :=
    key_setSave here (save.withList_mapid kind _) (save.withList_difficulty kind _)
  rw [keys]
  by_cases same : kind' = kind
  · subst same
    rw [detach_book points here]
    exact (coherent.agree kind').cut holder _
  have untouched : (s.detach kind holder address save).book kind' = s.book kind' :=
    (book_setBound_of_ne _ holder _ _ same).trans (book_setSave_of_ne here _ same)
  rw [untouched]
  exact coherent.agree kind'

/-- The state in which a save is deleted and unregistered. -/
def forget (s : Saves) (address instanceId : Nat) : Saves :=
  { s with
    heap := Function.update s.heap address none
    instanceSaveById := s.instanceSaveById.erase instanceId }

theorem Coherent.forget (coherent : s.Coherent) (here : s.heap address = some save)
    (unused : save.unused = true) :
    (s.forget address save.instanceid).Coherent where
  agree := by
    intro kind
    have empty := (save.unused_iff.mp unused) kind
    have books : (s.forget address save.instanceid).book kind = s.book kind := by
      ext1
      · rfl
      · funext address'
        by_cases same : address' = address
        · subst same
          simp [book, Saves.forget, here, empty]
        · simp [book, Saves.forget, same]
    have keys : (s.forget address save.instanceid).key =
        Function.update s.key address (0, 0) := by
      funext address'
      by_cases same : address' = address
      · subst same
        simp [key, Saves.forget]
      · simp [key, Saves.forget, same]
    rw [books, keys]
    exact (coherent.agree kind).rekey address ((listed_of_heap here kind).trans empty) (0, 0)
  registered := by
    intro address' found there
    unfold Saves.forget at there
    dsimp only at there
    have other : address' ≠ address := by
      rintro rfl
      rw [update_self] at there
      cases there
    rw [update_of_ne other] at there
    have own := coherent.registered address' found there
    have apart : found.instanceid ≠ save.instanceid := by
      intro same
      rw [same, coherent.registered address save here] at own
      exact other (some.inj own).symm
    exact (AList.lookup_erase_ne apart).trans own
  known := by
    intro id address' found
    unfold getInstanceSave Saves.forget at found
    dsimp only at found
    have apart : id ≠ save.instanceid := by
      rintro rfl
      rw [AList.lookup_erase] at found
      cases found
    rw [AList.lookup_erase_ne apart] at found
    obtain ⟨was, there, own⟩ := coherent.known id address' found
    have other : address' ≠ address := by
      rintro rfl
      rw [here] at there
      obtain rfl := some.inj there
      exact apart own.symm
    exact ⟨was, (update_of_ne other ..).trans there, own⟩
  fresh := by
    intro address' late
    have none := coherent.fresh address' late
    unfold Saves.forget
    dsimp only
    by_cases same : address' = address
    · rw [same, update_self]
    · rw [update_of_ne same, none]

/-- What `UnloadIfEmpty` leaves, of a registered save. -/
def unload (s : Saves) (address : Nat) (save : InstanceSave) : Saves :=
  if save.unused && !s.lockInstLists then s.forget address save.instanceid else s

theorem unload_boundInstances (s : Saves) (address : Nat) (save : InstanceSave) :
    (s.unload address save).boundInstances = s.boundInstances := by
  unfold unload
  split <;> rfl

theorem unload_next (s : Saves) (address : Nat) (save : InstanceSave) :
    (s.unload address save).next = s.next := by
  unfold unload
  split <;> rfl

theorem unload_lock (s : Saves) (address : Nat) (save : InstanceSave) :
    (s.unload address save).lockInstLists = s.lockInstLists := by
  unfold unload
  split <;> rfl

theorem unload_setBound (s : Saves) (address : Nat) (save : InstanceSave) (kind : Kind)
    (holder : Nat) (difficulty : Difficulty) (bound : BoundInstancesMap) :
    (s.unload address save).setBound kind holder difficulty bound =
      (s.setBound kind holder difficulty bound).unload address save := by
  by_cases ends : (save.unused && !s.lockInstLists) = true
  · have after : (save.unused &&
        !(s.setBound kind holder difficulty bound).lockInstLists) = true := ends
    rw [unload, if_pos ends, unload, if_pos after]
    rfl
  have after : ¬ (save.unused &&
      !(s.setBound kind holder difficulty bound).lockInstLists) = true := ends
  rw [unload, if_neg ends, unload, if_neg after]

theorem unload_heap_of_ne (s : Saves) {other : Nat} (save : InstanceSave)
    (apart : other ≠ address) : (s.unload address save).heap other = s.heap other := by
  unfold unload
  split
  · exact update_of_ne apart ..
  · rfl

theorem Coherent.unload (coherent : s.Coherent) (here : s.heap address = some save) :
    (s.unload address save).Coherent := by
  unfold Saves.unload
  split
  · next ends => exact coherent.forget here (Bool.and_eq_true_iff.mp ends).1
  · exact coherent

theorem unloadIfEmpty_eq (here : s.heap address = some save)
    (registered : s.getInstanceSave save.instanceid = some address) :
    s.unloadIfEmpty address = .ok (s.unload address save) := by
  unfold unloadIfEmpty unload
  rw [deref_of_heap here]
  change (if _ then _ else _) = _
  split
  · rename_i ends
    have deleted : s.delete address =
        .ok { s with heap := Function.update s.heap address none } := by
      rw [delete, deref_of_heap here]
      exact if_pos (Bool.and_eq_true_iff.mp ends).1
    rw [removeInstanceSave, registered]
    dsimp only
    rw [deleted]
    rfl
  · rfl

theorem remove_eq (coherent : s.Coherent) (kind : Kind) (holder : Nat)
    (here : s.heap address = some save) :
    let left := save.withList kind ((save.list kind).filter fun other => other ≠ holder)
    s.remove kind address holder = .ok ((s.setSave address left).unload address left) := by
  intro left
  have there : (s.setSave address left).heap address = some left := update_self ..
  have registered : (s.setSave address left).getInstanceSave left.instanceid = some address := by
    rw [InstanceSave.withList_instanceid]
    exact coherent.registered address save here
  rw [remove, deref_of_heap here]
  exact unloadIfEmpty_eq there registered

theorem unbindInstance_eq (coherent : s.Coherent) {bind : Bind}
    (there : (s.boundInstances kind holder difficulty).lookup mapid = some bind) :
    ∃ save, s.heap bind.save = some save ∧ save.mapid = mapid ∧ save.difficulty = difficulty ∧
      s.unbindInstance kind holder mapid difficulty =
        .ok ((s.detach kind holder bind.save save).unload bind.save
          (save.withList kind ((save.list kind).filter fun other => other ≠ holder))) := by
  obtain ⟨save, here, rfl, rfl⟩ := coherent.live there
  refine ⟨save, here, rfl, rfl, ?_⟩
  rw [unbindInstance, there]
  dsimp only
  rw [remove_eq coherent kind holder here]
  change Except.ok _ = Except.ok _
  rw [unload_boundInstances, unload_setBound]
  rfl

/-- A save that someone is bound to. -/
def linked (s : Saves) (address : Nat) : Prop :=
  ∃ save, s.heap address = some save ∧ save.unused = false

/-- From one state to a later one without new saves: what is gone stays gone, and a save that
loses its last link is gone. -/
structure Keeps (s t : Saves) : Prop where
  next : t.next = s.next
  gone : ∀ address, s.heap address = none → t.heap address = none
  linked : ∀ address, s.linked address → t.linked address ∨ t.heap address = none

theorem Keeps.refl (s : Saves) : Keeps s s := ⟨rfl, fun _ gone => gone, fun _ there => .inl there⟩

theorem Keeps.trans {u : Saves} (first : Keeps s t) (second : Keeps t u) : Keeps s u where
  next := second.next.trans first.next
  gone := fun address gone => second.gone address (first.gone address gone)
  linked := by
    intro address there
    rcases first.linked address there with still | gone
    · exact second.linked address still
    · exact .inr (second.gone address gone)

theorem Keeps.of_heap (next : t.next = s.next) (address : Nat) (there : s.heap address ≠ none)
    (others : ∀ other, other ≠ address → t.heap other = s.heap other)
    (own : t.linked address ∨ t.heap address = none) : Keeps s t where
  next := next
  gone := by
    intro other gone
    have apart : other ≠ address := by
      rintro rfl
      exact there gone
    rw [others other apart, gone]
  linked := by
    intro other before
    by_cases same : other = address
    · subst same
      exact own
    · rw [Saves.linked, others other same]
      exact .inl before

theorem linked_of_unload (unlocked : s.lockInstLists = false) (here : s.heap address = some save) :
    (s.unload address save).linked address ∨ (s.unload address save).heap address = none := by
  by_cases ends : save.unused = true
  · right
    rw [unload, ends, unlocked]
    exact update_self ..
  left
  rw [Bool.not_eq_true] at ends
  rw [unload, ends]
  exact ⟨save, here, ends⟩

theorem Coherent.unbind (coherent : s.Coherent) (unlocked : s.lockInstLists = false)
    (kind : Kind) (holder mapid : Nat) (difficulty : Difficulty) :
    ∃ t, s.unbindInstance kind holder mapid difficulty = .ok t ∧ t.Coherent ∧
      t.lockInstLists = false ∧ Keeps s t ∧
      t.boundInstances = (s.setBound kind holder difficulty
        ((s.boundInstances kind holder difficulty).erase mapid)).boundInstances := by
  cases there : (s.boundInstances kind holder difficulty).lookup mapid with
  | none =>
    have absent : mapid ∉ (s.boundInstances kind holder difficulty).keys :=
      fun mem => (AList.lookup_eq_none.mp there) mem
    have same : (s.boundInstances kind holder difficulty).erase mapid =
        s.boundInstances kind holder difficulty := by
      apply AList.ext
      exact kerase_of_notMem_keys absent
    refine ⟨s, by rw [unbindInstance, there]; rfl, coherent, unlocked, Keeps.refl s, ?_⟩
    rw [same]
    funext kind' holder' difficulty'
    rw [setBound_boundInstances]
    split
    · next all => rw [all.1, all.2.1, all.2.2]
    · rfl
  | some bind =>
    obtain ⟨save, here, rfl, rfl, result⟩ := unbindInstance_eq coherent there
    have detached := coherent.detach here (slot_of_lookup there)
    have after := detach_heap_self s kind holder bind.save save
    refine ⟨_, result, detached.unload after, ?_, ?_, ?_⟩
    · rw [unload_lock]
      exact unlocked
    · refine Keeps.of_heap ?_ bind.save (by rw [here]; exact some_ne_none _) ?_ ?_
      · rw [unload_next]
        rfl
      · intro other apart
        rw [unload_heap_of_ne _ _ apart, detach_heap, update_of_ne apart]
      · have free : (s.detach kind holder bind.save save).lockInstLists = false := unlocked
        exact linked_of_unload free after
    · rw [unload_boundInstances]
      rfl

/-- The state with a new bind on both sides. -/
def attach (s : Saves) (kind : Kind) (holder address : Nat) (save : InstanceSave)
    (permanent : Bool) : Saves :=
  (s.setSave address (save.withList kind (save.list kind ++ [holder]))).setBound kind holder
    save.difficulty
    ((s.boundInstances kind holder save.difficulty).insert save.mapid ⟨address, permanent⟩)

theorem attach_heap_self (s : Saves) (kind : Kind) (holder address : Nat) (save : InstanceSave)
    (permanent : Bool) : (s.attach kind holder address save permanent).heap address =
      some (save.withList kind (save.list kind ++ [holder])) := update_self ..

theorem Coherent.attach (coherent : s.Coherent) (here : s.heap address = some save)
    (empty : (s.book kind).slot holder (save.mapid, save.difficulty) = none) (permanent : Bool) :
    (s.attach kind holder address save permanent).Coherent := by
  refine coherent.of_setSave here (save.withList_instanceid kind _) rfl rfl rfl fun kind' => ?_
  have keys : (s.attach kind holder address save permanent).key = s.key :=
    key_setSave here (save.withList_mapid kind _) (save.withList_difficulty kind _)
  rw [keys]
  by_cases same : kind' = kind
  · subst same
    have slots := slot_insert s kind' holder save.mapid save.difficulty ⟨address, permanent⟩
    have tied : (s.attach kind' holder address save permanent).book kind' =
        (s.book kind').tie holder (s.key address) address := by
      rw [key_of_heap here]
      ext1
      · exact slots
      · refine (listed_setSave s kind' address save (save.list kind' ++ [holder])).trans ?_
        rw [← listed_of_heap here kind']
        rfl
    rw [tied]
    apply (coherent.agree kind').tie
    rw [key_of_heap here]
    exact empty
  · have untouched : (s.attach kind holder address save permanent).book kind' = s.book kind' :=
      (book_setBound_of_ne _ holder _ _ same).trans (book_setSave_of_ne here _ same)
    rw [untouched]
    exact coherent.agree kind'

theorem keeps_attach {s : Saves} (kind : Kind) (holder : Nat) (here : s.heap address = some save)
    (permanent : Bool) :
    Keeps s (s.attach kind holder address save permanent) := by
  have there : s.heap address ≠ none := by
    rw [here]
    exact some_ne_none _
  refine Keeps.of_heap rfl address there (fun other apart => update_of_ne apart ..) ?_
  refine .inl ⟨_, s.attach_heap_self kind holder address save permanent, ?_⟩
  rw [← Bool.not_eq_true, InstanceSave.unused_iff]
  intro none
  have longer := none kind
  rw [InstanceSave.list_withList] at longer
  exact append_ne_nil_of_right_ne_nil _ (cons_ne_nil _ _) longer

theorem Coherent.again (coherent : s.Coherent)
    (points : (s.book kind).slot holder (save.mapid, save.difficulty) = some address)
    (permanent : Bool) :
    (s.setBound kind holder save.difficulty
      ((s.boundInstances kind holder save.difficulty).insert save.mapid
        ⟨address, permanent⟩)).Coherent where
  agree := by
    intro kind'
    refine Eq.subst (motive := fun b => Links.Agree s.key b) ?_ (coherent.agree kind')
    by_cases same : kind' = kind
    · subst same
      have slots := slot_insert s kind' holder save.mapid save.difficulty ⟨address, permanent⟩
      ext1
      · rw [slots, ← points, update_eq_self, update_eq_self]
      · rfl
    · exact (book_setBound_of_ne _ holder _ _ same).symm
  registered := coherent.registered
  known := coherent.known
  fresh := coherent.fresh

theorem setBound_setBound (s : Saves) (kind : Kind) (holder : Nat) (difficulty : Difficulty)
    (bound bound' : BoundInstancesMap) :
    (s.setBound kind holder difficulty bound).setBound kind holder difficulty bound' =
      s.setBound kind holder difficulty bound' := by
  simp [setBound]

theorem insert_erase (bound : BoundInstancesMap) (mapid : Nat) (bind : Bind) :
    (bound.erase mapid).insert mapid bind = bound.insert mapid bind := by
  apply AList.ext
  rw [AList.entries_insert, AList.entries_insert]
  have gone := kerase_of_notMem_keys (notMem_keys_kerase mapid bound.nodupKeys)
  exact congrArg _ gone

theorem attach_after_unbind (s : Saves)
    {old : InstanceSave} (left : InstanceSave) (map : old.mapid = save.mapid)
    (level : old.difficulty = save.difficulty) (was : Nat) (permanent : Bool) :
    let removed := (s.setSave was left).unload was left
    let list := save.withList kind (save.list kind ++ [holder])
    (removed.setSave address list).setBound kind holder save.difficulty
        (((removed.setSave address list).boundInstances kind holder save.difficulty).insert
          save.mapid ⟨address, permanent⟩) =
      (((s.setSave was left).setBound kind holder old.difficulty
        ((s.boundInstances kind holder old.difficulty).erase old.mapid)).unload was
          left).attach kind holder address save permanent := by
  intro removed list
  have bounds : removed.boundInstances = s.boundInstances := unload_boundInstances ..
  let erased := (s.boundInstances kind holder save.difficulty).erase save.mapid
  rw [map, level, ← unload_setBound]
  change _ = ((removed.setSave address list).setBound kind holder save.difficulty
    erased).setBound kind holder save.difficulty
      (((removed.setBound kind holder save.difficulty erased).boundInstances kind holder
        save.difficulty).insert save.mapid ⟨address, permanent⟩)
  rw [setBound_setBound, setBound_boundInstances, if_pos ⟨rfl, rfl, rfl⟩, insert_erase]
  change (removed.setSave address list).setBound kind holder save.difficulty
    ((removed.boundInstances kind holder save.difficulty).insert save.mapid _) = _
  rw [bounds]

theorem bindToInstance_eq (coherent : s.Coherent) (here : s.heap address = some save)
    (other : (s.book kind).slot holder (save.mapid, save.difficulty) ≠ some address)
    (permanent : Bool) :
    ∃ t, s.unbindInstance kind holder save.mapid save.difficulty = .ok t ∧
      t.heap address = some save ∧
      s.bindToInstance kind holder address permanent =
        .ok (t.attach kind holder address save permanent) := by
  cases there : (s.boundInstances kind holder save.difficulty).lookup save.mapid with
  | none =>
    have differ : ¬ (none : Option Bind).map (·.save) = some address := nofun
    refine ⟨s, by rw [unbindInstance, there]; rfl, here, ?_⟩
    rw [bindToInstance, deref_of_heap here, ok_bind]
    dsimp only
    rw [there, if_neg differ]
    dsimp only
    rw [pure_eq_ok, ok_bind, add, deref_of_heap here, ok_bind]
    rfl
  | some bind =>
    have apart : address ≠ bind.save := by
      rintro rfl
      exact other (slot_of_lookup there)
    have differ : ¬ (some bind : Option Bind).map (·.save) = some address :=
      fun same => apart (some.inj same).symm
    obtain ⟨old, found, map, level, result⟩ := unbindInstance_eq coherent there
    refine ⟨_, result, ?_, ?_⟩
    · rw [unload_heap_of_ne _ _ apart, detach_heap, update_of_ne apart, here]
    · let left := old.withList kind ((old.list kind).filter fun other => other ≠ holder)
      have removed : s.remove kind bind.save holder =
          .ok ((s.setSave bind.save left).unload bind.save left) :=
        remove_eq coherent kind holder found
      have still : ((s.setSave bind.save left).unload bind.save left).heap address =
          some save := by
        rw [unload_heap_of_ne _ _ apart]
        exact (update_of_ne apart ..).trans here
      rw [bindToInstance, deref_of_heap here, ok_bind]
      dsimp only
      rw [there, if_neg differ]
      dsimp only
      rw [removed, ok_bind, add, deref_of_heap still, ok_bind]
      exact congrArg Except.ok (attach_after_unbind s left map level bind.save permanent)

/-- What every function leaves that binds or unbinds, from a state in which no reset is
going on. -/
structure Leaves (s t : Saves) : Prop where
  coherent : t.Coherent
  unlocked : t.lockInstLists = false
  keeps : Keeps s t

theorem Leaves.refl (coherent : s.Coherent) (unlocked : s.lockInstLists = false) :
    Leaves s s := ⟨coherent, unlocked, Keeps.refl s⟩

theorem Leaves.trans {u : Saves} (first : Leaves s t) (second : Leaves t u) : Leaves s u :=
  ⟨second.coherent, second.unlocked, first.keeps.trans second.keeps⟩

/-- Outside of one map of binds nothing changes. -/
def OnlyBound (s t : Saves) (kind : Kind) (holder : Nat) : Prop :=
  ∀ kind' holder' difficulty, ¬ (kind' = kind ∧ holder' = holder) →
    t.boundInstances kind' holder' difficulty = s.boundInstances kind' holder' difficulty

variable {bound : BoundInstancesMap}

theorem onlyBound_setBound
    (after : t.boundInstances = (s.setBound kind holder difficulty bound).boundInstances) :
    OnlyBound s t kind holder := by
  intro kind' holder' difficulty' other
  rw [after, setBound_boundInstances, if_neg fun all => other ⟨all.1, all.2.1⟩]

theorem OnlyBound.trans {u : Saves}
    (first : OnlyBound s t kind holder) (second : OnlyBound t u kind holder) :
    OnlyBound s u kind holder := fun kind' holder' difficulty other =>
  (second kind' holder' difficulty other).trans (first kind' holder' difficulty other)

theorem Coherent.bind (coherent : s.Coherent) (unlocked : s.lockInstLists = false) (kind : Kind)
    (holder : Nat) (here : s.heap address = some save) (permanent : Bool) :
    ∃ t, s.bindToInstance kind holder address permanent = .ok t ∧ Leaves s t ∧
      OnlyBound s t kind holder ∧ ∃ save', t.heap address = some save' := by
  by_cases points : (s.book kind).slot holder (save.mapid, save.difficulty) = some address
  · have found : ((s.boundInstances kind holder save.difficulty).lookup save.mapid).map (·.save) =
        some address := points
    refine ⟨_, ?_, ⟨coherent.again points permanent, unlocked, ⟨rfl, fun _ gone => gone,
      fun _ there => .inl there⟩⟩, onlyBound_setBound rfl, save, here⟩
    rw [bindToInstance, deref_of_heap here, ok_bind]
    exact if_pos found
  · obtain ⟨t, unbound, still, result⟩ := bindToInstance_eq coherent here points permanent
    obtain ⟨t', unbound', first, unlocked', keeps, bounds⟩ :=
      coherent.unbind unlocked kind holder save.mapid save.difficulty
    obtain rfl := Except.ok.inj (unbound.symm.trans unbound')
    have empty : (t.book kind).slot holder (save.mapid, save.difficulty) = none := by
      unfold book
      dsimp only
      rw [bounds, setBound_boundInstances, if_pos ⟨rfl, rfl, rfl⟩, AList.lookup_erase]
      rfl
    exact ⟨_, result, ⟨first.attach still empty permanent, unlocked',
      keeps.trans (keeps_attach kind holder still permanent)⟩,
      (onlyBound_setBound bounds).trans (onlyBound_setBound rfl), _, t.attach_heap_self ..⟩

theorem Coherent.setCanReset (coherent : s.Coherent) (here : s.heap address = some save) :
    (s.setSave address { save with canReset := false }).Coherent := by
  have own : ({ save with canReset := false } : InstanceSave).instanceid = save.instanceid := rfl
  refine coherent.of_setSave here own rfl rfl rfl fun kind => ?_
  have books : (s.setSave address { save with canReset := false }).book kind = s.book kind := by
    ext1
    · rfl
    · funext address'
      by_cases same : address' = address
      · subst same
        cases kind <;> simp [book, setSave, here, InstanceSave.list]
      · simp [book, setSave, same]
  have keys : (s.setSave address { save with canReset := false }).key = s.key :=
    key_setSave here rfl rfl
  rw [books, keys]
  exact coherent.agree kind

theorem keeps_setCanReset (here : s.heap address = some save) :
    Keeps s (s.setSave address { save with canReset := false }) where
  next := rfl
  gone := by
    intro other gone
    have apart : other ≠ address := by
      rintro rfl
      rw [here] at gone
      cases gone
    exact (update_of_ne apart ..).trans gone
  linked := by
    intro other ⟨found, there, used⟩
    left
    by_cases same : other = address
    · subst same
      rw [here] at there
      obtain rfl := some.inj there
      exact ⟨_, update_self .., used⟩
    · exact ⟨found, (update_of_ne same ..).trans there, used⟩

theorem Coherent.bindPlayer (coherent : s.Coherent)
    (unlocked : s.lockInstLists = false) (player : Nat) {save? : Option Nat}
    (there : ∀ address, save? = some address → ∃ save, s.heap address = some save)
    (permanent : Bool) :
    ∃ t, Player.bindToInstance s player save? permanent = .ok t ∧ Leaves s t := by
  cases save? with
  | none => exact ⟨s, rfl, Leaves.refl coherent unlocked⟩
  | some address =>
    obtain ⟨save, here⟩ := there address rfl
    obtain ⟨t, result, leaves, -, save', still⟩ :=
      coherent.bind unlocked .player player here permanent
    rw [Player.bindToInstance, result, ok_bind, deref_of_heap still, ok_bind]
    cases permanent with
    | false => exact ⟨t, rfl, leaves⟩
    | true =>
      exact ⟨_, rfl, leaves.coherent.setCanReset still, leaves.unlocked,
        leaves.keeps.trans (keeps_setCanReset still)⟩

theorem Coherent.bindGroup (coherent : s.Coherent)
    (unlocked : s.lockInstLists = false) (w : World) (group : Nat) {save? : Option Nat}
    (there : ∀ address, save? = some address → ∃ save, s.heap address = some save)
    (permanent : Bool) :
    ∃ t, Group.bindToInstance w s group save? permanent = .ok t ∧ Leaves s t ∧
      OnlyBound s t .group group := by
  cases save? with
  | none => exact ⟨s, rfl, Leaves.refl coherent unlocked, fun _ _ _ _ => rfl⟩
  | some address =>
    obtain ⟨save, here⟩ := there address rfl
    unfold Group.bindToInstance
    dsimp only
    split
    · exact ⟨s, rfl, Leaves.refl coherent unlocked, fun _ _ _ _ => rfl⟩
    · obtain ⟨t, result, leaves, only, -⟩ := coherent.bind unlocked .group group here permanent
      exact ⟨t, result, leaves, only⟩

theorem lookup_of_mem {entry : Sigma fun _ : Nat => Bind}
    (there : entry ∈ bound.entries) : bound.lookup entry.1 = some entry.2 :=
  AList.mem_lookup_iff.mpr there

theorem Coherent.leave (leaves : Leaves s t) (player : Nat) {group : Nat}
    (only : OnlyBound s t .group group) (leaving : Bool) (difficulty : Difficulty) (mapid : Nat) :
    ∃ u, (if leaving then Player.unbindInstance t player mapid difficulty else pure t) = .ok u ∧
      Leaves s u ∧ ∀ other, other ≠ mapid →
        (u.boundInstances .player player difficulty).lookup other =
          (s.boundInstances .player player difficulty).lookup other := by
  have kept : t.boundInstances .player player difficulty =
      s.boundInstances .player player difficulty :=
    only .player player difficulty fun both => nomatch both.1
  cases leaving with
  | false => exact ⟨t, rfl, leaves, fun other _ => by rw [kept]⟩
  | true =>
    obtain ⟨u, result, coherent, unlocked, keeps, bounds⟩ :=
      leaves.coherent.unbind leaves.unlocked .player player mapid difficulty
    refine ⟨u, result, leaves.trans ⟨coherent, unlocked, keeps⟩, fun other apart => ?_⟩
    rw [bounds, setBound_boundInstances, if_pos ⟨rfl, rfl, rfl⟩, AList.lookup_erase_ne apart, kept]

theorem Coherent.convertBind (coherent : s.Coherent)
    (unlocked : s.lockInstLists = false) (w : World) {player : Nat} (group : Nat) (switchLeader : Bool)
    {difficulty : Difficulty} {entry : Sigma fun _ : Nat => Bind}
    (there : (s.boundInstances .player player difficulty).lookup entry.1 = some entry.2) :
    ∃ t, Saves.convertBind w player group switchLeader difficulty s entry = .ok t ∧ Leaves s t ∧
      ∀ other, other ≠ entry.1 → (t.boundInstances .player player difficulty).lookup other =
        (s.boundInstances .player player difficulty).lookup other := by
  obtain ⟨save, here, -, -⟩ := coherent.live there
  rw [Saves.convertBind, deref_of_heap here, ok_bind]
  dsimp only
  split
  · have found : ∀ address, some entry.2.save = some address →
        ∃ save, s.heap address = some save := by
      intro address same
      obtain rfl := some.inj same
      exact ⟨save, here⟩
    obtain ⟨t, result, leaves, only⟩ :=
      coherent.bindGroup unlocked w group found entry.2.perm
    rw [result, ok_bind]
    exact Coherent.leave leaves player only _ difficulty entry.1
  · rw [pure_eq_ok, ok_bind]
    have only : OnlyBound s s .group group := fun _ _ _ _ => rfl
    exact Coherent.leave (Leaves.refl coherent unlocked) player only _ difficulty entry.1

theorem Coherent.convertBinds (coherent : s.Coherent)
    (unlocked : s.lockInstLists = false) (w : World) {player : Nat} (group : Nat) (switchLeader : Bool)
    {difficulty : Difficulty} {entries : List (Sigma fun _ : Nat => Bind)}
    (distinct : entries.NodupKeys)
    (there : ∀ entry ∈ entries,
      (s.boundInstances .player player difficulty).lookup entry.1 = some entry.2) :
    ∃ t, entries.foldlM (Saves.convertBind w player group switchLeader difficulty) s = .ok t ∧
      Leaves s t := by
  induction entries generalizing s with
  | nil => exact ⟨s, rfl, Leaves.refl coherent unlocked⟩
  | cons entry entries ih =>
    obtain ⟨t, result, leaves, others⟩ := coherent.convertBind unlocked w group
      switchLeader (there entry mem_cons_self)
    have rest : ∀ later ∈ entries,
        (t.boundInstances .player player difficulty).lookup later.1 = some later.2 := by
      intro later mem
      have other : later.1 ≠ entry.1 := by
        intro same
        apply notMem_keys_of_nodupKeys_cons distinct
        rw [← same]
        exact mem_keys_of_mem mem
      rw [others later.1 other]
      exact there later (mem_cons_of_mem entry mem)
    obtain ⟨u, ends, after⟩ := ih leaves.coherent leaves.unlocked
      (nodupKeys_of_nodupKeys_cons distinct) rest
    refine ⟨u, ?_, leaves.trans after⟩
    rw [foldlM_cons, result, ok_bind, ends]

theorem Coherent.convert (coherent : s.Coherent)
    (unlocked : s.lockInstLists = false) (w : World) (player group : Nat) (switchLeader : Bool) :
    ∃ t, Player.convertInstancesToGroup w s player group switchLeader = .ok t ∧ Leaves s t := by
  unfold Player.convertInstancesToGroup
  generalize List.finRange maxDifficulty = difficulties
  induction difficulties generalizing s with
  | nil => exact ⟨s, rfl, Leaves.refl coherent unlocked⟩
  | cons difficulty difficulties ih =>
    obtain ⟨t, result, leaves⟩ := coherent.convertBinds unlocked w group switchLeader
      (s.boundInstances .player player difficulty).nodupKeys fun _ mem => lookup_of_mem mem
    obtain ⟨u, ends, after⟩ := ih leaves.coherent leaves.unlocked
    refine ⟨u, ?_, leaves.trans after⟩
    rw [foldlM_cons, result, ok_bind, ends]

theorem remove_setBound {s : Saves} {kind : Kind} (kind' : Kind) {address holder : Nat} (holder' : Nat)
    (difficulty : Difficulty) (bound : BoundInstancesMap)
    (removed : s.remove kind address holder = .ok t) (coherent : s.Coherent)
    (here : s.heap address = some save) :
    (s.setBound kind' holder' difficulty bound).remove kind address holder =
      .ok (t.setBound kind' holder' difficulty bound) := by
  let left := save.withList kind ((save.list kind).filter fun other => other ≠ holder)
  have before : t = (s.setSave address left).unload address left :=
    Except.ok.inj (removed.symm.trans (remove_eq coherent kind holder here))
  have there : ((s.setBound kind' holder' difficulty bound).setSave address left).heap address =
      some left := update_self ..
  have registered : ((s.setBound kind' holder' difficulty bound).setSave address
      left).getInstanceSave left.instanceid = some address := by
    rw [InstanceSave.withList_instanceid]
    exact coherent.registered address save here
  have result := unloadIfEmpty_eq there registered
  have found : (s.setBound kind' holder' difficulty bound).heap address = some save := here
  rw [remove, deref_of_heap found, ok_bind]
  refine result.trans ?_
  rw [before, unload_setBound]
  rfl

theorem erase_remove (coherent : s.Coherent) {bind : Bind}
    (there : (s.boundInstances kind holder difficulty).lookup mapid = some bind) :
    (s.setBound kind holder difficulty
      ((s.boundInstances kind holder difficulty).erase mapid)).remove kind bind.save holder =
      s.unbindInstance kind holder mapid difficulty := by
  obtain ⟨save, here, -, -⟩ := coherent.live there
  have removed := remove_eq coherent kind holder here
  dsimp only at removed
  have swapped := remove_setBound kind holder difficulty
    ((s.boundInstances kind holder difficulty).erase mapid) removed coherent here
  rw [swapped, unbindInstance, there]
  dsimp only
  rw [removed, ok_bind, unload_boundInstances]
  rfl

theorem length_erase {bind : Bind} (there : bound.lookup mapid = some bind) :
    (bound.erase mapid).entries.length + 1 = bound.entries.length := by
  have mem : mapid ∈ bound.keys := by
    apply AList.lookup_isSome.mp
    rw [there]
    rfl
  have keys : (bound.erase mapid).keys.length + 1 = bound.keys.length := by
    rw [AList.keys_erase, length_erase_of_mem mem]
    exact Nat.sub_add_cancel (length_pos_of_mem mem)
  simpa [AList.keys, List.keys] using keys

theorem restart_enough {left before position turns : Nat} (shorter : left + 1 = before)
    (within : position < before)
    (enough : before * (before + 1) + (before - position) < turns + 1) :
    left * (left + 1) + (left - 0) < turns := by
  subst shorter
  have square : (left + 1) * (left + 1 + 1) = left * (left + 1) + 2 * (left + 1) := by ring
  omega

theorem Coherent.resetLoop (coherent : s.Coherent)
    (unlocked : s.lockInstLists = false) (w : World) (maps : Nat → Nat → Option LoadedMap)
    {group : Nat} (method : ResetMethod) (isRaid : Bool) {diff : Difficulty}
    {turns : Nat} (position : Nat)
    (inside : position ≤ (s.boundInstances .group group diff).entries.length)
    (enough : (s.boundInstances .group group diff).entries.length *
        ((s.boundInstances .group group diff).entries.length + 1) +
      ((s.boundInstances .group group diff).entries.length - position) < turns) :
    ∃ t, Group.resetLoop w maps group method isRaid diff turns position s = .ok t ∧ Leaves s t := by
  induction turns generalizing s position with
  | zero => exact absurd enough (Nat.not_lt_zero _)
  | succ turns ih =>
    rw [Group.resetLoop]
    cases spot : (s.boundInstances .group group diff).entries[position]? with
    | none => exact ⟨s, rfl, Leaves.refl coherent unlocked⟩
    | some entry =>
      have within := (List.getElem?_eq_some_iff.mp spot).1
      have there := lookup_of_mem (List.mem_of_getElem? spot)
      obtain ⟨save, here, -, -⟩ := coherent.live there
      dsimp only
      rw [deref_of_heap here, ok_bind]
      split
      · rw [erase_remove coherent there]
        obtain ⟨t, result, coherent', unlocked', keeps, bounds⟩ :=
          coherent.unbind unlocked .group group entry.1 diff
        rw [result, ok_bind]
        have erased : t.boundInstances .group group diff =
            (s.boundInstances .group group diff).erase entry.1 := by
          rw [bounds, setBound_boundInstances, if_pos ⟨rfl, rfl, rfl⟩]
        have shorter : (t.boundInstances .group group diff).entries.length + 1 =
            (s.boundInstances .group group diff).entries.length := by
          rw [erased]
          exact length_erase there
        obtain ⟨u, ends, after⟩ := ih coherent' unlocked' 0 (Nat.zero_le _)
          (restart_enough shorter within enough)
        exact ⟨u, ends, (Leaves.mk coherent' unlocked' keeps).trans after⟩
      · exact ih coherent unlocked (position + 1) within (by omega)

theorem Coherent.resetInstances (coherent : s.Coherent)
    (unlocked : s.lockInstLists = false) (w : World) (maps : Nat → Nat → Option LoadedMap)
    (group : Nat) (method : ResetMethod) (isRaid : Bool) (diff : Difficulty) :
    ∃ t, Group.resetInstances w maps s group method isRaid diff = .ok t ∧ Leaves s t := by
  unfold Group.resetInstances
  split
  · exact ⟨s, rfl, Leaves.refl coherent unlocked⟩
  refine coherent.resetLoop unlocked w maps method isRaid 0 (Nat.zero_le _) ?_
  generalize (s.boundInstances .group group diff).entries.length = bound
  have square : (bound + 1) * (bound + 1) = bound * (bound + 1) + (bound + 1) := by ring
  omega

/-- During the reset of a save: it is there, and everything but its links is as before. -/
structure Drains (s t : Saves) (address : Nat) (save save' : InstanceSave) : Prop where
  coherent : t.Coherent
  locked : t.lockInstLists = true
  here : t.heap address = some save'
  instanceid : save'.instanceid = save.instanceid
  others : ∀ other, other ≠ address → t.heap other = s.heap other
  next : t.next = s.next

theorem Drains.trans {u : Saves} {save'' : InstanceSave}
    (first : Drains s t address save save') (second : Drains t u address save' save'') :
    Drains s u address save save'' where
  coherent := second.coherent
  locked := second.locked
  here := second.here
  instanceid := second.instanceid.trans first.instanceid
  others := fun other apart => (second.others other apart).trans (first.others other apart)
  next := second.next.trans first.next

theorem Coherent.unbindFirst (coherent : s.Coherent) (locked : s.lockInstLists = true)
    (here : s.heap address = some save) {first : Nat} (mem : first ∈ save.list kind) :
    let left := save.withList kind ((save.list kind).filter fun other => other ≠ first)
    ∃ t, s.unbindInstance kind first save.mapid save.difficulty = .ok t ∧
      Drains s t address save left := by
  intro left
  have points : (s.book kind).slot first (save.mapid, save.difficulty) = some address := by
    rw [← key_of_heap here, ← (coherent.agree kind).mem_listed, listed_of_heap here]
    exact mem
  obtain ⟨bind, there, same⟩ := map_eq_some_iff.mp points
  dsimp only at there
  subst same
  obtain ⟨save', here', -, -, result⟩ := unbindInstance_eq coherent there
  rw [here] at here'
  obtain rfl := some.inj here'
  have stays : (s.detach kind first bind.save save).unload bind.save left =
      s.detach kind first bind.save save := by
    have closed : (s.detach kind first bind.save save).lockInstLists = true := locked
    rw [Saves.unload, closed]
    exact if_neg (by simp)
  rw [stays] at result
  refine ⟨_, result, coherent.detach here points, locked, s.detach_heap_self .., ?_, ?_, rfl⟩
  · exact save.withList_instanceid kind _
  · intro other apart
    rw [detach_heap, update_of_ne apart]

/-- The loop ends with nobody of the kind left in the list. -/
theorem Coherent.unbindAll (coherent : s.Coherent) (locked : s.lockInstLists = true) (kind : Kind)
    (here : s.heap address = some save) (turns : Nat) (enough : (save.list kind).length ≤ turns) :
    ∃ t save', Saves.unbindAll kind address turns s = .ok t ∧
      Drains s t address save save' ∧ save'.list kind = [] ∧
      ∀ kind', kind' ≠ kind → save'.list kind' = save.list kind' := by
  induction turns generalizing s save with
  | zero =>
    have none : save.list kind = [] := length_eq_zero_iff.mp (Nat.le_zero.mp enough)
    refine ⟨s, save, ?_, ⟨coherent, locked, here, rfl, fun _ _ => rfl, rfl⟩, none, fun _ _ => rfl⟩
    rw [Saves.unbindAll.eq_def]
    dsimp only
    rw [deref_of_heap here, ok_bind, none]
    rfl
  | succ turns ih =>
    rw [Saves.unbindAll.eq_def]
    dsimp only
    rw [deref_of_heap here, ok_bind]
    cases list : save.list kind with
    | nil =>
      exact ⟨s, save, rfl, ⟨coherent, locked, here, rfl, fun _ _ => rfl, rfl⟩, list, fun _ _ => rfl⟩
    | cons first rest =>
      have mem : first ∈ save.list kind := by
        rw [list]
        exact mem_cons_self
      obtain ⟨t, result, drains⟩ := coherent.unbindFirst locked here mem
      have fewer : ((save.withList kind ((save.list kind).filter fun other =>
          other ≠ first)).list kind).length ≤ turns := by
        rw [InstanceSave.list_withList, list]
        rw [list, length_cons] at enough
        have shrinks := length_filter_le (fun other => decide (other ≠ first)) rest
        have gone : (first :: rest).filter (fun other => decide (other ≠ first)) =
            rest.filter fun other => decide (other ≠ first) :=
          filter_cons_of_neg (by simp)
        rw [gone]
        omega
      obtain ⟨u, save'', ends, later, empty, kept⟩ :=
        ih drains.coherent drains.locked drains.here fewer
      refine ⟨u, save'', ?_, drains.trans later, empty, fun kind' other => ?_⟩
      · dsimp only
        rw [result, ok_bind, ends]
      · rw [kept kind' other, InstanceSave.list_withList_of_ne save _ other]

theorem Coherent.setLock (coherent : s.Coherent) (lock : Bool) :
    ({ s with lockInstLists := lock } : Saves).Coherent where
  agree := coherent.agree
  registered := coherent.registered
  known := coherent.known
  fresh := coherent.fresh

structure ResetsOne (s t : Saves) (address : Nat) : Prop where
  leaves : Leaves s t
  gone : t.heap address = none
  others : ∀ other, other ≠ address → t.heap other = s.heap other

theorem Coherent.resetSave (coherent : s.Coherent) (here : s.heap address = some save) :
    ∃ t, s.resetSave save.instanceid address = .ok t ∧ ResetsOne s t address := by
  let closed : Saves := { s with lockInstLists := true }
  have found : closed.heap address = some save := here
  obtain ⟨t, save', players, first, empty, kept⟩ := (coherent.setLock true).unbindAll rfl
    .player found save.playerList.length (Nat.le_refl _)
  have groups : save'.list .group = save.groupList := kept .group nofun
  obtain ⟨u, save'', rest, second, empty', kept'⟩ := first.coherent.unbindAll first.locked
    .group first.here save.groupList.length (Nat.le_of_eq (congrArg List.length groups))
  have drains := first.trans second
  have unused : save''.unused = true := by
    rw [InstanceSave.unused_iff]
    intro kind
    cases kind with
    | player => exact (kept' .player nofun).trans empty
    | group => exact empty'
  have deleted : u.delete address =
      .ok { u with heap := Function.update u.heap address none } := by
    rw [delete, deref_of_heap drains.here, ok_bind]
    exact if_pos unused
  have result : s.resetSave save.instanceid address =
      .ok (({ u with lockInstLists := false } : Saves).forget address save''.instanceid) := by
    rw [Saves.resetSave]
    rw [deref_of_heap found, ok_bind, players, ok_bind, rest, ok_bind, deleted, ok_bind,
      drains.instanceid]
    rfl
  have forgotten := (drains.coherent.setLock false).forget drains.here unused
  refine ⟨_, result, ⟨forgotten, rfl, ?_⟩, update_self .., ?_⟩
  · refine Keeps.of_heap drains.next address ?_ ?_ (.inr (update_self ..))
    · rw [here]
      exact some_ne_none _
    · intro other apart
      exact (update_of_ne apart ..).trans (drains.others other apart)
  · intro other apart
    exact (update_of_ne apart ..).trans (drains.others other apart)

theorem Coherent.resetInstanceSave (coherent : s.Coherent)
    (unlocked : s.lockInstLists = false) (instanceId : Nat) :
    ∃ t, s.resetInstanceSave instanceId = .ok t ∧ Leaves s t ∧
      t.getInstanceSave instanceId = none := by
  unfold Saves.resetInstanceSave
  cases found : s.getInstanceSave instanceId with
  | none => exact ⟨s, rfl, Leaves.refl coherent unlocked, found⟩
  | some address =>
    obtain ⟨save, here, rfl⟩ := coherent.known instanceId address found
    obtain ⟨t, result, resets⟩ := coherent.resetSave here
    refine ⟨t, result, resets.leaves, ?_⟩
    cases still : t.getInstanceSave save.instanceid with
    | none => rfl
    | some address' =>
      obtain ⟨save', there, own⟩ := resets.leaves.coherent.known _ address' still
      by_cases same : address' = address
      · subst same
        rw [resets.gone] at there
        cases there
      rw [resets.others address' same] at there
      have registered := coherent.registered address' save' there
      rw [own, found] at registered
      exact absurd (some.inj registered).symm same

/-- The loop over the saves: it deletes those of the map and difficulty and no others. -/
theorem Coherent.resetEntries (coherent : s.Coherent)
    (unlocked : s.lockInstLists = false) (mapid difficulty : Nat)
    {entries : List (Sigma fun _ : Nat => Nat)} (distinct : entries.NodupKeys)
    (there : ∀ entry ∈ entries, s.getInstanceSave entry.1 = some entry.2) :
    ∃ t, entries.foldlM (fun s entry => do
        let save ← s.deref entry.2
        if save.mapid = mapid ∧ save.difficulty.val = difficulty then
          s.resetSave entry.1 entry.2
        else pure s) s = .ok t ∧
      Leaves s t ∧ (∀ address save, t.heap address = some save → s.heap address = some save) ∧
      ∀ entry ∈ entries, ∀ save, t.heap entry.2 = some save →
        ¬ (save.mapid = mapid ∧ save.difficulty.val = difficulty) := by
  induction entries generalizing s with
  | nil => exact ⟨s, rfl, Leaves.refl coherent unlocked, fun _ _ there => there, nofun⟩
  | cons entry entries ih =>
    obtain ⟨save, here, own⟩ := coherent.known _ _ (there entry mem_cons_self)
    rw [foldlM_cons, deref_of_heap here, ok_bind]
    by_cases hit : save.mapid = mapid ∧ save.difficulty.val = difficulty
    · obtain ⟨t, result, resets⟩ := coherent.resetSave here
      have rest : ∀ later ∈ entries, t.getInstanceSave later.1 = some later.2 := by
        intro later mem
        obtain ⟨save', here', own'⟩ :=
          coherent.known _ _ (there later (mem_cons_of_mem entry mem))
        have apart : later.2 ≠ entry.2 := by
          intro same
          rw [same, here] at here'
          obtain rfl := some.inj here'
          apply notMem_keys_of_nodupKeys_cons distinct
          rw [← own, own']
          exact mem_keys_of_mem mem
        rw [← own']
        apply resets.leaves.coherent.registered
        rw [resets.others _ apart, here']
      obtain ⟨u, ends, after, older, clear⟩ := ih resets.leaves.coherent
        resets.leaves.unlocked (nodupKeys_of_nodupKeys_cons distinct) rest
      refine ⟨u, ?_, resets.leaves.trans after, ?_, ?_⟩
      · rw [if_pos hit, ← own, result, ok_bind, ends]
      · intro address found still
        have before := older address found still
        have apart : address ≠ entry.2 := by
          rintro rfl
          rw [resets.gone] at before
          cases before
        rw [← resets.others address apart, before]
      · intro later mem found still
        rcases mem_cons.mp mem with rfl | mem
        · have before := older _ found still
          rw [resets.gone] at before
          cases before
        · exact clear later mem found still
    · obtain ⟨u, ends, after, older, clear⟩ := ih coherent unlocked
        (nodupKeys_of_nodupKeys_cons distinct)
        fun later mem => there later (mem_cons_of_mem entry mem)
      refine ⟨u, ?_, after, older, ?_⟩
      · rw [if_neg hit, pure_eq_ok, ok_bind, ends]
      · intro later mem found still
        rcases mem_cons.mp mem with rfl | mem
        · have before := older _ found still
          rw [here] at before
          obtain rfl := some.inj before
          exact hit
        · exact clear later mem found still

theorem Coherent.resetSavesOf (coherent : s.Coherent)
    (unlocked : s.lockInstLists = false) (mapid difficulty : Nat) :
    ∃ t, s.resetSavesOf mapid difficulty = .ok t ∧ Leaves s t ∧
      ∀ address save, t.heap address = some save →
        ¬ (save.mapid = mapid ∧ save.difficulty.val = difficulty) := by
  obtain ⟨t, result, leaves, older, clear⟩ :=
    coherent.resetEntries unlocked mapid difficulty s.instanceSaveById.nodupKeys
    fun _ mem => AList.mem_lookup_iff.mpr mem
  refine ⟨t, result, leaves, fun address save there => ?_⟩
  have registered := coherent.registered address save (older address save there)
  exact clear ⟨save.instanceid, address⟩ (AList.mem_lookup_iff.mp registered) save there

theorem Coherent.newSave (coherent : s.Coherent) (mapId : Nat) {instanceId : Nat}
    (difficulty : Difficulty) (resetTime : Nat) (canReset : Bool)
    (absent : s.getInstanceSave instanceId = none) :
    (s.newSave mapId instanceId difficulty resetTime canReset).Coherent where
  agree := by
    intro kind
    have none := coherent.fresh s.next (Nat.le_refl _)
    have empty : (s.book kind).listed s.next = [] := by simp [book, none]
    have books : (s.newSave mapId instanceId difficulty resetTime canReset).book kind =
        s.book kind := by
      ext1
      · rfl
      · funext address
        by_cases same : address = s.next
        · subst same
          cases kind <;> simp [book, Saves.newSave, InstanceSave.list, none]
        · simp [book, Saves.newSave, same]
    have keys : (s.newSave mapId instanceId difficulty resetTime canReset).key =
        Function.update s.key s.next (mapId % 65536, difficulty) := by
      funext address
      by_cases same : address = s.next
      · subst same
        simp [key, Saves.newSave]
      · simp [key, Saves.newSave, same]
    rw [books, keys]
    exact (coherent.agree kind).rekey s.next empty _
  registered := by
    intro address save there
    unfold getInstanceSave Saves.newSave
    unfold Saves.newSave at there
    dsimp only at there ⊢
    by_cases same : address = s.next
    · subst same
      rw [update_self] at there
      obtain rfl := some.inj there
      exact AList.lookup_insert _
    rw [update_of_ne same] at there
    have registered := coherent.registered address save there
    have apart : save.instanceid ≠ instanceId := by
      rintro rfl
      rw [absent] at registered
      cases registered
    exact (AList.lookup_insert_ne apart).trans registered
  known := by
    intro id address found
    unfold getInstanceSave Saves.newSave at found
    unfold Saves.newSave
    dsimp only at found ⊢
    by_cases same : id = instanceId
    · subst same
      rw [AList.lookup_insert] at found
      obtain rfl := some.inj found
      exact ⟨_, update_self .., rfl⟩
    rw [AList.lookup_insert_ne same] at found
    obtain ⟨save, there, own⟩ := coherent.known id address found
    have older : address ≠ s.next := by
      rintro rfl
      rw [coherent.fresh _ (Nat.le_refl _)] at there
      cases there
    exact ⟨save, (update_of_ne older ..).trans there, own⟩
  fresh := by
    intro address late
    unfold Saves.newSave at late ⊢
    dsimp only at late ⊢
    have older : address ≠ s.next := by omega
    rw [update_of_ne older]
    exact coherent.fresh address (by omega)

theorem Coherent.rehash (coherent : s.Coherent) {kind : Kind} {holder : Nat}
    {difficulty : Difficulty} {bound : BoundInstancesMap}
    (same : bound.entries.Perm (s.boundInstances kind holder difficulty).entries) :
    (s.setBound kind holder difficulty bound).Coherent where
  agree := by
    intro kind'
    refine Eq.subst (motive := fun b => Links.Agree s.key b) ?_ (coherent.agree kind')
    ext1
    · funext holder' key'
      unfold book
      dsimp only
      rw [setBound_boundInstances]
      split
      · rename_i all
        rw [all.1, all.2.1, all.2.2, AList.perm_lookup same]
      · rfl
    · rfl
  registered := coherent.registered
  known := coherent.known
  fresh := coherent.fresh

theorem Coherent.empty : Saves.empty.Coherent where
  agree := fun _ => ⟨fun _ _ _ points => by simp [book, Saves.empty] at points,
    fun _ _ => by simp [book, Saves.empty]⟩
  registered := fun _ _ there => nomatch there
  known := fun _ _ there => by simp [getInstanceSave, Saves.empty] at there
  fresh := fun _ _ => rfl

end Saves

/-- What happens to the saves and binds of a running server. Binds are made with the save
that is registered under an id. An insertion may bring the entries of a map of binds into
another order. -/
inductive Act where
  | addInstanceSave (now mapId instanceId : Nat) (difficulty : Difficulty) (resetTime : Nat)
      (canReset : Bool)
  | bindPlayer (player instanceId : Nat) (permanent : Bool)
  | unbindPlayer (player mapid : Nat) (difficulty : Difficulty)
  | bindGroup (group instanceId : Nat) (permanent : Bool)
  | unbindGroup (group mapid : Nat) (difficulty : Difficulty)
  | resetInstances (maps : Nat → Nat → Option Saves.LoadedMap) (group : Nat)
      (method : Saves.ResetMethod) (isRaid : Bool) (diff : Difficulty)
  | convertInstancesToGroup (player group : Nat) (switchLeader : Bool)
  | resetInstance (mapid instanceId : Nat)
  | resetOrWarnAll (mapid difficulty : Nat) (warn : Bool) (resetTime : Nat)
  | rehash (kind : Kind) (holder : Nat) (difficulty : Difficulty) (bound : BoundInstancesMap)

namespace InstanceSaveManager

def withSaves (m : InstanceSaveManager) (saves : Except Fault Saves) :
    Except Fault InstanceSaveManager :=
  saves.map fun saves => { m with saves := saves }

def act (w : World) (m : InstanceSaveManager) : Act → Except Fault InstanceSaveManager
  | .addInstanceSave now mapId instanceId difficulty resetTime canReset =>
    .ok (m.addInstanceSave w now mapId instanceId difficulty resetTime canReset)
  | .bindPlayer player instanceId permanent => m.withSaves
      (Saves.Player.bindToInstance m.saves player (m.saves.getInstanceSave instanceId) permanent)
  | .unbindPlayer player mapid difficulty => m.withSaves
      (Saves.Player.unbindInstance m.saves player mapid difficulty)
  | .bindGroup group instanceId permanent => m.withSaves
      (Saves.Group.bindToInstance w m.saves group (m.saves.getInstanceSave instanceId) permanent)
  | .unbindGroup group mapid difficulty => m.withSaves
      (Saves.Group.unbindInstance m.saves group mapid difficulty)
  | .resetInstances maps group method isRaid diff => m.withSaves
      (Saves.Group.resetInstances w maps m.saves group method isRaid diff)
  | .convertInstancesToGroup player group switchLeader => m.withSaves
      (Saves.Player.convertInstancesToGroup w m.saves player group switchLeader)
  | .resetInstance mapid instanceId => (m.resetInstance w mapid instanceId).map (·.1)
  | .resetOrWarnAll mapid difficulty warn resetTime =>
    (m.resetOrWarnAll w mapid difficulty warn resetTime).map (·.1)
  | .rehash kind holder difficulty bound =>
    if bound.entries.Perm (m.saves.boundInstances kind holder difficulty).entries then
      .ok { m with saves := m.saves.setBound kind holder difficulty bound }
    else .ok m

def acts (w : World) (as : List Act) : Except Fault InstanceSaveManager :=
  as.foldlM (act w) empty

/-- The state of the saves between two acts. -/
structure Settled (m : InstanceSaveManager) : Prop where
  coherent : m.saves.Coherent
  unlocked : m.saves.lockInstLists = false

/-- A save that somebody was bound to either still is, or is deleted. -/
def Unloads (s t : Saves) : Prop :=
  ∀ address, s.linked address → t.linked address ∨ t.heap address = none

variable {m : InstanceSaveManager}

theorem Settled.of_leaves {m' : InstanceSaveManager} (leaves : m.saves.Leaves m'.saves) :
    m'.Settled ∧ Unloads m.saves m'.saves :=
  ⟨⟨leaves.coherent, leaves.unlocked⟩, leaves.keeps.linked⟩

theorem Settled.withSaves {saves : Except Fault Saves}
    (result : ∃ t, saves = .ok t ∧ m.saves.Leaves t) :
    ∃ m', m.withSaves saves = .ok m' ∧ m.saves.Leaves m'.saves := by
  obtain ⟨t, rfl, leaves⟩ := result
  exact ⟨{ m with saves := t }, rfl, leaves⟩

theorem Settled.newSave (settled : m.Settled)
    {mapId instanceId : Nat} {difficulty : Difficulty} {resetTime : Nat} {canReset : Bool}
    (absent : m.saves.getInstanceSave instanceId = none) {m' : InstanceSaveManager}
    (after : m'.saves = m.saves.newSave mapId instanceId difficulty resetTime canReset) :
    m'.Settled ∧ Unloads m.saves m'.saves := by
  rw [Unloads, after]
  refine ⟨⟨?_, ?_⟩, fun address ⟨save, there, used⟩ => .inl ⟨save, ?_, used⟩⟩
  · rw [after]
    exact settled.coherent.newSave mapId difficulty resetTime canReset absent
  · rw [after]
    exact settled.unlocked
  · have older : address ≠ m.saves.next := by
      rintro rfl
      rw [settled.coherent.fresh _ (Nat.le_refl _)] at there
      cases there
    exact (update_of_ne older ..).trans there

theorem Settled.addInstanceSave (settled : m.Settled) (w : World) (now mapId instanceId : Nat)
    (difficulty : Difficulty) (resetTime : Nat) (canReset : Bool) :
    (m.addInstanceSave w now mapId instanceId difficulty resetTime canReset).Settled ∧
      Unloads m.saves
        (m.addInstanceSave w now mapId instanceId difficulty resetTime canReset).saves := by
  have stays : m.Settled ∧ Unloads m.saves m.saves := ⟨settled, fun _ there => .inl there⟩
  unfold InstanceSaveManager.addInstanceSave
  cases found : m.saves.getInstanceSave instanceId with
  | some _ => exact stays
  | none =>
    cases w.mapStore mapId with
    | none => exact stays
    | some entry =>
      dsimp only
      generalize (if entry.isRaid then maxRaidDifficulty else maxDungeonDifficulty) = bound
      split
      · exact stays
      split
      · exact stays
      split
      · exact settled.newSave found rfl
      split
      · exact settled.newSave found rfl
      · exact settled.newSave
          found rfl

theorem Settled.resetInstance (settled : m.Settled) (w : World) (mapid instanceId : Nat) :
    (∃ m' done, m.resetInstance w mapid instanceId = .ok (m', done) ∧
      m.saves.Leaves m'.saves) ∨ m.resetInstance w mapid instanceId = .error .noMap := by
  unfold InstanceSaveManager.resetInstance
  cases w.mapStore mapid with
  | none => exact .inr rfl
  | some entry =>
    left
    dsimp only
    split
    · obtain ⟨t, result, leaves, -⟩ :=
        settled.coherent.resetInstanceSave settled.unlocked instanceId
      rw [result, Saves.ok_bind]
      exact ⟨_, _, rfl, leaves⟩
    · exact ⟨m, [], rfl, Saves.Leaves.refl settled.coherent settled.unlocked⟩

theorem Settled.resetAll (settled : m.Settled) (w : World) (mapid difficulty resetTime : Nat) :
    ∃ m' done, m.resetAll w mapid difficulty resetTime = .ok (m', done) ∧
      m.saves.Leaves m'.saves := by
  have stays := Saves.Leaves.refl settled.coherent settled.unlocked
  unfold InstanceSaveManager.resetAll
  cases w.getMapDifficultyData mapid difficulty with
  | none => exact ⟨m, [], rfl, stays⟩
  | some mapDiff =>
    dsimp only
    split
    · exact ⟨m, [], rfl, stays⟩
    obtain ⟨t, result, leaves, -⟩ :=
      settled.coherent.resetSavesOf settled.unlocked mapid difficulty
    rw [result, Saves.ok_bind]
    exact ⟨_, _, rfl, leaves⟩

theorem Settled.resetOrWarnAll (settled : m.Settled) (w : World)
    (mapid difficulty : Nat) (warn : Bool) (resetTime : Nat) :
    (∃ m' done, m.resetOrWarnAll w mapid difficulty warn resetTime = .ok (m', done) ∧
      m.saves.Leaves m'.saves) ∨
      m.resetOrWarnAll w mapid difficulty warn resetTime = .error .noMap := by
  have stays := Saves.Leaves.refl settled.coherent settled.unlocked
  unfold InstanceSaveManager.resetOrWarnAll
  cases w.mapStore mapid with
  | none => exact .inr rfl
  | some entry =>
    left
    dsimp only
    split
    · split
      · exact ⟨m, _, rfl, stays⟩
      · exact settled.resetAll w mapid difficulty resetTime
    · exact ⟨m, [], rfl, stays⟩

/-- Every act keeps the binds symmetric, or stops at a map that does not exist. -/
theorem Settled.act (settled : m.Settled) (w : World) (a : Act) :
    (∃ m', m.act w a = .ok m' ∧ m'.Settled ∧ Unloads m.saves m'.saves) ∨
      m.act w a = .error .noMap := by
  have coherent := settled.coherent
  have unlocked := settled.unlocked
  have kept : ∀ result : Except Fault InstanceSaveManager,
      (∃ m', result = .ok m' ∧ m.saves.Leaves m'.saves) →
      (∃ m', result = .ok m' ∧ m'.Settled ∧ Unloads m.saves m'.saves) ∨ result = .error .noMap := by
    rintro _ ⟨m', rfl, leaves⟩
    exact .inl ⟨m', rfl, Settled.of_leaves leaves⟩
  have there : ∀ instanceId address, m.saves.getInstanceSave instanceId = some address →
      ∃ save, m.saves.heap address = some save := by
    intro instanceId address found
    obtain ⟨save, here, -⟩ := coherent.known instanceId address found
    exact ⟨save, here⟩
  cases a with
  | addInstanceSave now mapId instanceId difficulty resetTime canReset =>
    exact .inl ⟨_, rfl,
      settled.addInstanceSave w now mapId instanceId difficulty resetTime canReset⟩
  | bindPlayer player instanceId permanent =>
    exact kept _ (Settled.withSaves
      (coherent.bindPlayer unlocked player (there instanceId) permanent))
  | unbindPlayer player mapid difficulty =>
    obtain ⟨t, result, first, second, keeps, -⟩ :=
      coherent.unbind unlocked .player player mapid difficulty
    exact kept _ (Settled.withSaves ⟨t, result, first, second, keeps⟩)
  | bindGroup group instanceId permanent =>
    obtain ⟨t, result, leaves, -⟩ :=
      coherent.bindGroup unlocked w group (there instanceId) permanent
    exact kept _ (Settled.withSaves ⟨t, result, leaves⟩)
  | unbindGroup group mapid difficulty =>
    obtain ⟨t, result, first, second, keeps, -⟩ :=
      coherent.unbind unlocked .group group mapid difficulty
    exact kept _ (Settled.withSaves ⟨t, result, first, second, keeps⟩)
  | resetInstances maps group method isRaid diff =>
    exact kept _ (Settled.withSaves
      (coherent.resetInstances unlocked w maps group method isRaid diff))
  | convertInstancesToGroup player group switchLeader =>
    exact kept _ (Settled.withSaves (coherent.convert unlocked w player group switchLeader))
  | resetInstance mapid instanceId =>
    rcases settled.resetInstance w mapid instanceId with ⟨m', done, result, leaves⟩ | stops
    · exact kept _ ⟨m', by rw [InstanceSaveManager.act, result]; rfl, leaves⟩
    right
    rw [InstanceSaveManager.act, stops]
    rfl
  | resetOrWarnAll mapid difficulty warn resetTime =>
    rcases settled.resetOrWarnAll w mapid difficulty warn resetTime with
      ⟨m', done, result, leaves⟩ | stops
    · exact kept _ ⟨m', by rw [InstanceSaveManager.act, result]; rfl, leaves⟩
    right
    rw [InstanceSaveManager.act, stops]
    rfl
  | rehash kind holder difficulty bound =>
    left
    rw [InstanceSaveManager.act]
    split
    · rename_i same
      exact ⟨_, rfl, ⟨coherent.rehash same, unlocked⟩, fun _ there => .inl there⟩
    · exact ⟨m, rfl, settled, fun _ there => .inl there⟩

theorem acts_settled (w : World) (as : List Act) (m : InstanceSaveManager) (settled : m.Settled) :
    (∃ m', as.foldlM (act w) m = .ok m' ∧ m'.Settled) ∨ as.foldlM (act w) m = .error .noMap := by
  induction as generalizing m with
  | nil => exact .inl ⟨m, rfl, settled⟩
  | cons a as ih =>
    rw [foldlM_cons]
    rcases settled.act w a with ⟨m', result, settled', -⟩ | stops
    · rw [result, Saves.ok_bind]
      exact ih m' settled'
    right
    rw [stops]
    rfl

/-- Each list names those whose bind leads to the save, once each, and nobody else; each bind
leads to a save of its map and difficulty that is registered under its id. -/
structure Symmetric (s : Saves) : Prop where
  listed : ∀ kind holder address save, s.heap address = some save →
    (save.list kind).count holder =
      if ((s.boundInstances kind holder save.difficulty).lookup save.mapid).map (·.save) =
        some address then 1 else 0
  registered : ∀ kind holder difficulty mapid bind,
    (s.boundInstances kind holder difficulty).lookup mapid = some bind →
      ∃ save, s.heap bind.save = some save ∧ save.mapid = mapid ∧
        save.difficulty = difficulty ∧ s.getInstanceSave save.instanceid = some bind.save

theorem Settled.symmetric (settled : m.Settled) :
    Symmetric m.saves where
  listed := by
    intro kind holder address save here
    have once := (settled.coherent.agree kind).once holder address
    rw [Saves.listed_of_heap here, Saves.key_of_heap here] at once
    exact once
  registered := by
    intro kind holder difficulty mapid bind there
    obtain ⟨save, here, map, level⟩ := settled.coherent.live there
    exact ⟨save, here, map, level, settled.coherent.registered _ save here⟩

/-- Whatever players and groups do, binds and lists agree, a save is unregistered with its last
link, every loop ends and no save is deleted while somebody is bound to it: the only thing that
stops the server is the reset of a map that does not exist. -/
theorem binds_symmetric (w : World) (as : List Act) :
    (∃ m, acts w as = .ok m ∧ Symmetric m.saves ∧
      ∀ a m', m.act w a = .ok m' → ∀ address, m.saves.linked address →
        m'.saves.linked address ∨ ∀ instanceId,
          m'.saves.getInstanceSave instanceId ≠ some address) ∨
      acts w as = .error .noMap := by
  have start : InstanceSaveManager.empty.Settled := ⟨Saves.Coherent.empty, rfl⟩
  rcases acts_settled w as empty start with ⟨m, result, settled⟩ | stops
  · refine .inl ⟨m, result, settled.symmetric, fun a m' step address linked => ?_⟩
    rcases settled.act w a with ⟨m'', result', settled', unloads⟩ | stops
    · obtain rfl := Except.ok.inj (step.symm.trans result')
      rcases unloads address linked with still | gone
      · exact .inl still
      right
      intro instanceId found
      obtain ⟨save, here, -⟩ := settled'.coherent.known instanceId address found
      rw [gone] at here
      cases here
    · rw [step] at stops
      cases stops
  · exact .inr stops

/-- The saves there are, are those in the map of saves, under their own ids. -/
theorem saves_registered (w : World) (as : List Act) :
    (∃ m, acts w as = .ok m ∧ ∀ instanceId address,
      m.saves.getInstanceSave instanceId = some address ↔
        ∃ save, m.saves.heap address = some save ∧ save.instanceid = instanceId) ∨
      acts w as = .error .noMap := by
  refine (acts_settled w as empty ⟨.empty, rfl⟩).imp_left fun ⟨m, ran, settled⟩ => ⟨m, ran, ?_⟩
  intro instanceId address
  refine ⟨settled.coherent.known instanceId address, fun ⟨save, there, same⟩ => ?_⟩
  rw [← same]
  exact settled.coherent.registered address save there

end InstanceSaveManager

end OpenWoW.Instances
