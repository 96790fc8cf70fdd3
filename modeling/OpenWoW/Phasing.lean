import Mathlib.Data.Finset.Basic
import Mathlib.Data.List.AList
import OpenWoW.Lib.Run

/-! The phase masks, phase ids and terrain swaps of a player. -/
namespace OpenWoW.Phasing

open List

def flagZoneUpdate : UInt8 := 0x01
def flagAreaUpdate : UInt8 := 0x02
def flagClientsideChanged : UInt8 := 0x08
def flagServersideChanged : UInt8 := 0x10

def phasemaskNormal : UInt32 := 1
def phasemaskAnywhere : UInt32 := 0xFFFFFFFF

structure PhaseDefinition where
  phasemask : UInt32
  phaseId : UInt32
  terrainswapmap : UInt32
  deriving DecidableEq, Repr

structure SpellPhaseInfo where
  phasemask : UInt32
  terrainswapmap : UInt32
  deriving DecidableEq, Repr

structure PhaseInfo where
  phasemask : UInt32
  terrainswapmap : UInt32
  phaseId : UInt32
  deriving DecidableEq, Repr

namespace PhaseInfo

def needsServerSideUpdate (info : PhaseInfo) : Bool := info.phasemask ≠ 0

def needsClientSideUpdate (info : PhaseInfo) : Bool :=
  info.terrainswapmap ≠ 0 || info.phaseId ≠ 0

end PhaseInfo

/-- What the manager reads of an effect. -/
structure AuraEffect where
  spellId : UInt32
  miscValue : Int32
  miscValueB : Int32
  deriving DecidableEq

abbrev SpellPhaseStore : Type := AList fun _ : UInt32 => SpellPhaseInfo

abbrev PhaseInfoContainer : Type := AList fun _ : UInt32 => PhaseInfo

structure PhaseData where
  phasemaskThroughDefinitions : UInt32
  phasemaskThroughAuras : UInt32
  customPhasemask : UInt32
  activePhaseDefinitions : List PhaseDefinition
  spellPhaseInfo : PhaseInfoContainer

/-- What an update sends: the sets of a phase shift, and the mask that the player gets. -/
inductive Sent where
  | phaseShift (phaseIds terrainswaps : Finset UInt32)
  | phaseMask (phasemask : UInt32)
  deriving DecidableEq

/-- The sets are filled with what is not 0. -/
def collect (values : List UInt32) : Finset UInt32 := (values.filter (· ≠ 0)).toFinset

def orAll (masks : List UInt32) : UInt32 := masks.foldl (· ||| ·) 0

namespace PhaseData

/-- The phase ids that `SendPhaseshiftToPlayer` collects from `spellPhaseInfo`. -/
def auraPhaseIds (d : PhaseData) : Finset UInt32 :=
  collect (d.spellPhaseInfo.entries.map (·.2.phaseId))

def auraTerrainswaps (d : PhaseData) : Finset UInt32 :=
  collect (d.spellPhaseInfo.entries.map (·.2.terrainswapmap))

def sendPhaseshiftToPlayer (d : PhaseData) : Sent :=
  .phaseShift
    (d.auraPhaseIds ∪ collect (d.activePhaseDefinitions.map (·.phaseId)))
    (d.auraTerrainswaps ∪ collect (d.activePhaseDefinitions.map (·.terrainswapmap)))

def getPhaseMaskForSpawn (d : PhaseData) : UInt32 :=
  let phase := d.phasemaskThroughDefinitions ||| d.phasemaskThroughAuras
  if phase ≠ 0 then phase else phasemaskNormal

def getCurrentPhasemask (d : PhaseData) (isGameMaster : Bool) : UInt32 :=
  if isGameMaster then phasemaskAnywhere
  else if d.customPhasemask ≠ 0 then d.customPhasemask
  else d.getPhaseMaskForSpawn

def addAuraInfo (d : PhaseData) (spellId : UInt32) (info : PhaseInfo) : PhaseData :=
  { d with
    phasemaskThroughAuras := if info.phasemask ≠ 0 then d.phasemaskThroughAuras ||| info.phasemask
      else d.phasemaskThroughAuras
    spellPhaseInfo := d.spellPhaseInfo.insert spellId info }

/-- With the flags for the update. Only an entry with a phase mask is erased. -/
def removeAuraInfo (d : PhaseData) (spellId : UInt32) : PhaseData × UInt8 :=
  match d.spellPhaseInfo.lookup spellId with
  | none => (d, 0)
  | some info =>
    let client : UInt8 := if info.needsClientSideUpdate then flagClientsideChanged else 0
    if info.needsServerSideUpdate then
      let left := d.spellPhaseInfo.erase spellId
      ({ d with
        phasemaskThroughAuras := orAll (left.entries.map (·.2.phasemask))
        spellPhaseInfo := left }, client ||| flagServersideChanged)
    else (d, client)

end PhaseData

structure PhaseMgr where
  phaseData : PhaseData
  updateFlags : UInt8

namespace PhaseMgr

def addFlag (m : PhaseMgr) (flag : UInt8) : PhaseMgr :=
  { m with updateFlags := m.updateFlags ||| flag }

def isUpdateInProgress (m : PhaseMgr) : Bool :=
  m.updateFlags &&& flagZoneUpdate ≠ 0 || m.updateFlags &&& flagAreaUpdate ≠ 0

def update (isGameMaster : Bool) (m : PhaseMgr) : PhaseMgr × List Sent :=
  if m.isUpdateInProgress then (m, [])
  else
    let shift :=
      if m.updateFlags &&& flagClientsideChanged ≠ 0 then [m.phaseData.sendPhaseshiftToPlayer]
      else []
    let mask :=
      if m.updateFlags &&& flagServersideChanged ≠ 0 then
        [Sent.phaseMask (m.phaseData.getCurrentPhasemask isGameMaster)]
      else []
    ({ m with updateFlags := 0 }, shift ++ mask)

def phaseInfo (store : SpellPhaseStore) (effect : AuraEffect) : PhaseInfo :=
  let phaseId := effect.miscValueB.toUInt32
  if effect.miscValue ≠ 0 then ⟨effect.miscValue.toUInt32, 0, phaseId⟩
  else
    match store.lookup effect.spellId with
    | none => ⟨0, 0, phaseId⟩
    | some spell => ⟨spell.phasemask, spell.terrainswapmap, phaseId⟩

def registerPhasingAuraEffect (store : SpellPhaseStore) (isGameMaster : Bool) (m : PhaseMgr)
    (effect : AuraEffect) : PhaseMgr × List Sent :=
  let info := phaseInfo store effect
  let m := if info.needsServerSideUpdate then m.addFlag flagServersideChanged else m
  let m := if info.needsClientSideUpdate then m.addFlag flagClientsideChanged else m
  { m with phaseData := m.phaseData.addAuraInfo effect.spellId info }.update isGameMaster

def unRegisterPhasingAuraEffect (isGameMaster : Bool) (m : PhaseMgr) (effect : AuraEffect) :
    PhaseMgr × List Sent :=
  let removed := m.phaseData.removeAuraInfo effect.spellId
  ({ m with phaseData := removed.1 }.addFlag removed.2).update isGameMaster

@[simp] theorem update_phaseData (isGameMaster : Bool) (m : PhaseMgr) :
    (m.update isGameMaster).1.phaseData = m.phaseData := by
  unfold update
  split <;> rfl

@[simp] theorem register_phaseData (store : SpellPhaseStore) (isGameMaster : Bool)
    (m : PhaseMgr) (effect : AuraEffect) :
    (m.registerPhasingAuraEffect store isGameMaster effect).1.phaseData =
      m.phaseData.addAuraInfo effect.spellId (phaseInfo store effect) := by
  unfold registerPhasingAuraEffect
  rw [update_phaseData]
  split <;> split <;> rfl

@[simp] theorem unRegister_phaseData (isGameMaster : Bool) (m : PhaseMgr) (effect : AuraEffect) :
    (m.unRegisterPhasingAuraEffect isGameMaster effect).1.phaseData =
      (m.phaseData.removeAuraInfo effect.spellId).1 := by
  unfold unRegisterPhasingAuraEffect
  rw [update_phaseData]
  rfl

end PhaseMgr

def Within (mask other : UInt32) : Prop := mask ||| other = other

variable (mask : UInt32) (masks : List UInt32)

theorem Within.refl : Within mask mask := UInt32.or_self

theorem within_zero : Within 0 mask := UInt32.zero_or

theorem Within.trans {a b c : UInt32} (first : Within a b) (second : Within b c) : Within a c := by
  unfold Within at *
  rw [← second, ← UInt32.or_assoc, first]

theorem Within.antisymm {a b : UInt32} (first : Within a b) (second : Within b a) : a = b := by
  rw [← second, UInt32.or_comm, first]

theorem eq_zero_of_within {mask : UInt32} (within : Within mask 0) : mask = 0 :=
  within.antisymm (within_zero mask)

theorem foldl_or (start : UInt32) :
    masks.foldl (· ||| ·) start = start ||| orAll masks := by
  unfold orAll
  induction masks generalizing start with
  | nil => simp
  | cons mask masks ih => simp only [foldl_cons, UInt32.zero_or]; rw [ih, ih mask,
      UInt32.or_assoc]

theorem orAll_cons :
    orAll (mask :: masks) = mask ||| orAll masks := by
  rw [orAll, foldl_cons, UInt32.zero_or, foldl_or]

theorem within_orAll {mask : UInt32} {masks : List UInt32} (mem : mask ∈ masks) :
    Within mask (orAll masks) := by
  induction masks with
  | nil => cases mem
  | cons first masks ih =>
    rw [orAll_cons]
    rcases mem_cons.mp mem with rfl | later
    · rw [Within, ← UInt32.or_assoc, UInt32.or_self]
    · have inside : Within mask (orAll masks) := ih later
      rw [Within, ← UInt32.or_assoc, UInt32.or_comm mask, UInt32.or_assoc, inside]

theorem orAll_within {masks : List UInt32} {bound : UInt32}
    (all : ∀ mask ∈ masks, Within mask bound) : Within (orAll masks) bound := by
  induction masks with
  | nil => exact within_zero bound
  | cons first masks ih =>
    have head := all first mem_cons_self
    have tail := ih fun mask mem => all mask (mem_cons_of_mem first mem)
    unfold Within at *
    rw [orAll_cons, UInt32.or_assoc, tail, head]

@[simp] theorem mem_collect (value : UInt32) (values : List UInt32) :
    value ∈ collect values ↔ value ∈ values ∧ value ≠ 0 := by
  simp [collect]

/-- A manager and the effects that are registered with it. -/
structure Watched where
  mgr : PhaseMgr
  registered : List AuraEffect

inductive Step where
  | register (effect : AuraEffect)
  | unregister (effect : AuraEffect)

namespace Watched

variable (store : SpellPhaseStore) (isGameMaster : Bool)

def step (s : Watched) : Step → Watched × List Sent
  | .register effect =>
    let result := s.mgr.registerPhasingAuraEffect store isGameMaster effect
    (⟨result.1, effect :: s.registered⟩, result.2)
  | .unregister effect =>
    let result := s.mgr.unRegisterPhasingAuraEffect isGameMaster effect
    (⟨result.1, s.registered.erase effect⟩, result.2)

/-- Only registered effects are unregistered. -/
def Allowed (s : Watched) : Step → Prop
  | .register _ => True
  | .unregister effect => effect ∈ s.registered

def infos (effects : List AuraEffect) : List PhaseInfo := effects.map (PhaseMgr.phaseInfo store)

/-- Mask, phase ids and terrain swaps are those of the registered effects. -/
structure Follows (s : Watched) : Prop where
  mask : s.mgr.phaseData.phasemaskThroughAuras = orAll ((infos store s.registered).map (·.phasemask))
  phaseIds : s.mgr.phaseData.auraPhaseIds = collect ((infos store s.registered).map (·.phaseId))
  terrainswaps : s.mgr.phaseData.auraTerrainswaps =
    collect ((infos store s.registered).map (·.terrainswapmap))

end Watched

namespace PhaseInfo

/-- Everything an info has is in another one as well. -/
structure Covered (info other : PhaseInfo) : Prop where
  phasemask : Within info.phasemask other.phasemask
  phaseId : info.phaseId = 0 ∨ info.phaseId = other.phaseId
  terrainswapmap : info.terrainswapmap = 0 ∨ info.terrainswapmap = other.terrainswapmap

theorem Covered.refl (info : PhaseInfo) : info.Covered info :=
  ⟨Within.refl _, .inr rfl, .inr rfl⟩

def blank : PhaseInfo := ⟨0, 0, 0⟩

end PhaseInfo

namespace Watched

variable (store : SpellPhaseStore)

/-- A new effect covers what is registered of its spell. When an effect goes whose spell has an
entry with a mask, nothing else of the spell is registered but blank effects; when the entry
has no mask, its phase id and terrain swap remain with another effect of the spell. -/
def Careful (s : Watched) : Step → Prop
  | .register effect =>
    ∀ other ∈ s.registered, other.spellId = effect.spellId →
      (PhaseMgr.phaseInfo store other).Covered (PhaseMgr.phaseInfo store effect)
  | .unregister effect =>
    ∀ info, s.mgr.phaseData.spellPhaseInfo.lookup effect.spellId = some info →
      if info.phasemask ≠ 0 then
        ∀ other ∈ s.registered.erase effect, other.spellId = effect.spellId →
          PhaseMgr.phaseInfo store other = PhaseInfo.blank
      else
        (info.phaseId = 0 ∨ ∃ other ∈ s.registered.erase effect,
          other.spellId = effect.spellId ∧
            (PhaseMgr.phaseInfo store other).phaseId = info.phaseId) ∧
        (info.terrainswapmap = 0 ∨ ∃ other ∈ s.registered.erase effect,
          other.spellId = effect.spellId ∧
            (PhaseMgr.phaseInfo store other).terrainswapmap = info.terrainswapmap)

structure Entry (registered : List AuraEffect) (spellId : UInt32) (info : PhaseInfo) : Prop where
  covers : ∀ effect ∈ registered, effect.spellId = spellId →
    (PhaseMgr.phaseInfo store effect).Covered info
  phasemask : Within info.phasemask (orAll ((infos store (registered.filter
    fun effect => effect.spellId = spellId)).map (·.phasemask)))
  phaseId : info.phaseId = 0 ∨ ∃ effect ∈ registered, effect.spellId = spellId ∧
    (PhaseMgr.phaseInfo store effect).phaseId = info.phaseId
  terrainswapmap : info.terrainswapmap = 0 ∨ ∃ effect ∈ registered, effect.spellId = spellId ∧
    (PhaseMgr.phaseInfo store effect).terrainswapmap = info.terrainswapmap

/-- The mask is right, every spell with an entry has a right one, and of the others only blank
effects are registered. -/
structure Kept (s : Watched) : Prop where
  mask : s.mgr.phaseData.phasemaskThroughAuras = orAll ((infos store s.registered).map (·.phasemask))
  entry : ∀ spellId info, s.mgr.phaseData.spellPhaseInfo.lookup spellId = some info →
    Entry store s.registered spellId info
  absent : ∀ spellId, s.mgr.phaseData.spellPhaseInfo.lookup spellId = none →
    ∀ effect ∈ s.registered, effect.spellId = spellId →
      PhaseMgr.phaseInfo store effect = PhaseInfo.blank

variable {store}

variable {s : Watched}

theorem Kept.collected (kept : Kept store s) (field : PhaseInfo → UInt32)
    (empty : field PhaseInfo.blank = 0)
    (covered : ∀ info other, info.Covered other → field info = 0 ∨ field info = field other)
    (source : ∀ spellId info, Entry store s.registered spellId info → field info = 0 ∨
      ∃ effect ∈ s.registered, field (PhaseMgr.phaseInfo store effect) = field info) :
    collect (s.mgr.phaseData.spellPhaseInfo.entries.map fun entry => field entry.2) =
      collect ((infos store s.registered).map field) := by
  ext value
  rw [mem_collect, mem_collect, infos, map_map]
  constructor
  · rintro ⟨mem, nonzero⟩
    obtain ⟨⟨spellId, info⟩, there, rfl⟩ := mem_map.mp mem
    refine ⟨?_, nonzero⟩
    have found := AList.mem_lookup_iff.mpr there
    rcases source spellId info (kept.entry spellId info found) with zero | ⟨effect, mem, same⟩
    · exact absurd zero nonzero
    · exact mem_map.mpr ⟨effect, mem, same⟩
  · rintro ⟨mem, nonzero⟩
    obtain ⟨effect, there, rfl⟩ := mem_map.mp mem
    refine ⟨?_, nonzero⟩
    cases found : s.mgr.phaseData.spellPhaseInfo.lookup effect.spellId with
    | none =>
      have blank := kept.absent effect.spellId found effect there rfl
      rw [Function.comp_apply, blank] at nonzero
      exact absurd empty nonzero
    | some info =>
      have covers := (kept.entry effect.spellId info found).covers effect there rfl
      rcases covered _ _ covers with zero | same
      · exact absurd zero nonzero
      · exact mem_map.mpr ⟨⟨effect.spellId, info⟩, AList.mem_lookup_iff.mp found, same.symm⟩

theorem Kept.follows (kept : Kept store s) : Follows store s where
  mask := kept.mask
  phaseIds := kept.collected (·.phaseId) rfl (fun _ _ covered => covered.phaseId)
    fun _ _ entry => entry.phaseId.imp id fun ⟨effect, mem, _, same⟩ => ⟨effect, mem, same⟩
  terrainswaps := kept.collected (·.terrainswapmap) rfl
    (fun _ _ covered => covered.terrainswapmap)
    fun _ _ entry => entry.terrainswapmap.imp id fun ⟨effect, mem, _, same⟩ => ⟨effect, mem, same⟩

variable {effect : AuraEffect}

theorem within_infos {effects : List AuraEffect} (mem : effect ∈ effects) :
    Within (PhaseMgr.phaseInfo store effect).phasemask
      (orAll ((infos store effects).map (·.phasemask))) := by
  apply within_orAll
  rw [infos, map_map]
  exact mem_map.mpr ⟨effect, mem, rfl⟩

theorem orAll_infos_mono {effects others : List AuraEffect}
    (subset : ∀ effect ∈ effects, effect ∈ others) :
    Within (orAll ((infos store effects).map (·.phasemask)))
      (orAll ((infos store others).map (·.phasemask))) := by
  apply orAll_within
  intro mask mem
  rw [infos, map_map] at mem
  obtain ⟨effect, there, rfl⟩ := mem_map.mp mem
  exact within_infos (subset effect there)

theorem Entry.cons {registered : List AuraEffect} {spellId : UInt32} {info : PhaseInfo}
    (entry : Entry store registered spellId info) {effect : AuraEffect}
    (other : effect.spellId ≠ spellId) : Entry store (effect :: registered) spellId info where
  covers := by
    intro effect' mem same
    rcases mem_cons.mp mem with rfl | mem
    · exact absurd same other
    · exact entry.covers effect' mem same
  phasemask := by
    refine entry.phasemask.trans (orAll_infos_mono fun effect' mem => ?_)
    obtain ⟨there, same⟩ := mem_filter.mp mem
    exact mem_filter.mpr ⟨mem_cons_of_mem effect there, same⟩
  phaseId := entry.phaseId.imp id fun ⟨effect', mem, rest⟩ =>
    ⟨effect', mem_cons_of_mem effect mem, rest⟩
  terrainswapmap := entry.terrainswapmap.imp id fun ⟨effect', mem, rest⟩ =>
    ⟨effect', mem_cons_of_mem effect mem, rest⟩

theorem Entry.erase {registered : List AuraEffect} {spellId : UInt32} {info : PhaseInfo}
    (entry : Entry store registered spellId info) (other : effect.spellId ≠ spellId) :
    Entry store (registered.erase effect) spellId info := by
  have stays : ∀ effect' ∈ registered, effect'.spellId = spellId →
      effect' ∈ registered.erase effect := by
    intro effect' mem same
    refine (mem_erase_of_ne ?_).mpr mem
    rintro rfl
    exact other same
  refine ⟨fun effect' mem same => entry.covers effect' (mem_of_mem_erase mem) same, ?_,
    entry.phaseId.imp id fun ⟨effect', mem, same, rest⟩ => ⟨effect', stays effect' mem same,
      same, rest⟩,
    entry.terrainswapmap.imp id fun ⟨effect', mem, same, rest⟩ => ⟨effect', stays effect' mem same,
      same, rest⟩⟩
  refine entry.phasemask.trans (orAll_infos_mono fun effect' mem => ?_)
  obtain ⟨there, same⟩ := mem_filter.mp mem
  exact mem_filter.mpr ⟨stays effect' there (of_decide_eq_true same), same⟩
theorem Kept.register (kept : Kept store s) (isGameMaster : Bool)
    (careful : Careful store s (.register effect)) :
    Kept store (s.step store isGameMaster (.register effect)).1 where
  mask := by
    unfold Watched.step
    rw [PhaseMgr.register_phaseData, PhaseData.addAuraInfo, infos, map_cons, map_cons, orAll_cons]
    rw [kept.mask, infos]
    split
    · exact UInt32.or_comm _ _
    · rename_i zero
      rw [not_not.mp zero, UInt32.zero_or]
  entry := by
    intro spellId info found
    unfold Watched.step at found ⊢
    rw [PhaseMgr.register_phaseData, PhaseData.addAuraInfo] at found
    by_cases same : spellId = effect.spellId
    · subst same
      rw [AList.lookup_insert] at found
      obtain rfl := Option.some.inj found
      refine ⟨fun other mem own => ?_, ?_, .inr ⟨effect, mem_cons_self, rfl, rfl⟩,
        .inr ⟨effect, mem_cons_self, rfl, rfl⟩⟩
      · rcases mem_cons.mp mem with rfl | mem
        · exact PhaseInfo.Covered.refl _
        · exact careful other mem own
      · exact within_infos (mem_filter.mpr ⟨mem_cons_self, decide_eq_true rfl⟩)
    · rw [AList.lookup_insert_ne same] at found
      exact (kept.entry spellId info found).cons (Ne.symm same)
  absent := by
    intro spellId found other mem own
    unfold Watched.step at found mem
    rw [PhaseMgr.register_phaseData, PhaseData.addAuraInfo] at found
    have apart : spellId ≠ effect.spellId := by
      rintro rfl
      rw [AList.lookup_insert] at found
      cases found
    rw [AList.lookup_insert_ne apart] at found
    rcases mem_cons.mp mem with rfl | mem
    · exact absurd own.symm apart
    · exact kept.absent spellId found other mem own

theorem Kept.mask_erase (kept : Kept store s)
    (blank : ∀ other ∈ s.registered.erase effect, other.spellId = effect.spellId →
      PhaseMgr.phaseInfo store other = PhaseInfo.blank) :
    orAll ((s.mgr.phaseData.spellPhaseInfo.erase effect.spellId).entries.map
      (·.2.phasemask)) = orAll ((infos store (s.registered.erase effect)).map (·.phasemask)) := by
  apply Within.antisymm
  · apply orAll_within
    intro mask mem
    obtain ⟨⟨spellId, info⟩, there, rfl⟩ := mem_map.mp mem
    have found := AList.mem_lookup_iff.mpr there
    have apart : spellId ≠ effect.spellId := by
      rintro rfl
      rw [Option.mem_def, AList.lookup_erase] at found
      cases found
    rw [Option.mem_def, AList.lookup_erase_ne apart] at found
    have left := (kept.entry spellId info found).erase (Ne.symm apart)
    exact left.phasemask.trans (orAll_infos_mono fun other mem => (mem_filter.mp mem).1)
  · apply orAll_within
    intro mask mem
    rw [infos, map_map] at mem
    obtain ⟨other, there, rfl⟩ := mem_map.mp mem
    rw [Function.comp_apply]
    by_cases same : other.spellId = effect.spellId
    · rw [blank other there same]
      exact within_zero _
    cases found : s.mgr.phaseData.spellPhaseInfo.lookup other.spellId with
    | none =>
      rw [kept.absent other.spellId found other (mem_of_mem_erase there) rfl]
      exact within_zero _
    | some info =>
      have covers := (kept.entry other.spellId info found).covers other (mem_of_mem_erase there) rfl
      refine covers.phasemask.trans (within_orAll ?_)
      rw [← AList.lookup_erase_ne same] at found
      exact mem_map.mpr ⟨⟨other.spellId, info⟩, AList.mem_lookup_iff.mp found, rfl⟩

theorem Kept.unregister (kept : Kept store s) (isGameMaster : Bool) (registered : effect ∈ s.registered)
    (careful : Careful store s (.unregister effect)) :
    Kept store (s.step store isGameMaster (.unregister effect)).1 := by
  unfold Watched.step
  have without : ∀ mask, (PhaseMgr.phaseInfo store effect).phasemask = 0 →
      s.mgr.phaseData.phasemaskThroughAuras = mask →
      mask = orAll ((infos store (s.registered.erase effect)).map (·.phasemask)) := by
    intro mask zero is
    rw [← is, kept.mask]
    apply Within.antisymm
    · apply orAll_within
      intro bits mem
      rw [infos, map_map] at mem
      obtain ⟨other, there, rfl⟩ := mem_map.mp mem
      rw [Function.comp_apply]
      by_cases same : other = effect
      · rw [same, zero]
        exact within_zero _
      · exact within_infos ((mem_erase_of_ne same).mpr there)
    · exact orAll_infos_mono fun other mem => mem_of_mem_erase mem
  have elsewhere : ∀ spellId info, effect.spellId ≠ spellId →
      s.mgr.phaseData.spellPhaseInfo.lookup spellId = some info →
      Entry store (s.registered.erase effect) spellId info :=
    fun spellId info other found => (kept.entry spellId info found).erase other
  cases found : s.mgr.phaseData.spellPhaseInfo.lookup effect.spellId with
  | none =>
    have blank := kept.absent effect.spellId found effect registered rfl
    have same : (s.mgr.unRegisterPhasingAuraEffect isGameMaster effect).1.phaseData =
        s.mgr.phaseData := by
      rw [PhaseMgr.unRegister_phaseData, PhaseData.removeAuraInfo, found]
    refine ⟨?_, ?_, ?_⟩
    · dsimp only
      rw [same]
      exact without _ (by rw [blank]; rfl) rfl
    · intro spellId info there
      rw [same] at there
      refine elsewhere spellId info ?_ there
      rintro rfl
      rw [found] at there
      cases there
    · intro spellId there other mem own
      rw [same] at there
      exact kept.absent spellId there other (mem_of_mem_erase mem) own
  | some info =>
    have rest := careful info found
    have entry := kept.entry effect.spellId info found
    by_cases server : info.phasemask ≠ 0
    · rw [if_pos server] at rest
      have needs : info.needsServerSideUpdate = true := decide_eq_true server
      have same : (s.mgr.unRegisterPhasingAuraEffect isGameMaster effect).1.phaseData =
          { s.mgr.phaseData with
            phasemaskThroughAuras := orAll ((s.mgr.phaseData.spellPhaseInfo.erase
              effect.spellId).entries.map (·.2.phasemask))
            spellPhaseInfo := s.mgr.phaseData.spellPhaseInfo.erase effect.spellId } := by
        rw [PhaseMgr.unRegister_phaseData, PhaseData.removeAuraInfo, found]
        dsimp only
        rw [needs]
        rfl
      refine ⟨?_, ?_, ?_⟩
      · dsimp only
        rw [same]
        exact kept.mask_erase rest
      · intro spellId info' there
        rw [same] at there
        have apart : spellId ≠ effect.spellId := by
          rintro rfl
          rw [AList.lookup_erase] at there
          cases there
        rw [AList.lookup_erase_ne apart] at there
        exact elsewhere spellId info' (Ne.symm apart) there
      · intro spellId there other mem own
        rw [same] at there
        by_cases spell : spellId = effect.spellId
        · exact rest other mem (own.trans spell)
        · rw [AList.lookup_erase_ne spell] at there
          exact kept.absent spellId there other (mem_of_mem_erase mem) own
    · rw [if_neg server] at rest
      have zero : info.phasemask = 0 := not_not.mp server
      have needs : info.needsServerSideUpdate = false := decide_eq_false server
      have same : (s.mgr.unRegisterPhasingAuraEffect isGameMaster effect).1.phaseData =
          s.mgr.phaseData := by
        rw [PhaseMgr.unRegister_phaseData, PhaseData.removeAuraInfo, found]
        dsimp only
        rw [needs]
        rfl
      have own := (entry.covers effect registered rfl).phasemask
      rw [zero] at own
      refine ⟨?_, ?_, ?_⟩
      · dsimp only
        rw [same]
        exact without _ (eq_zero_of_within own) rfl
      · intro spellId info' there
        rw [same] at there
        by_cases spell : effect.spellId = spellId
        · subst spell
          obtain rfl := Option.some.inj (found.symm.trans there)
          refine ⟨fun other mem => entry.covers other (mem_of_mem_erase mem), ?_, rest.1, rest.2⟩
          rw [zero]
          exact within_zero _
        · exact elsewhere spellId info' spell there
      · intro spellId there other mem spell
        rw [same] at there
        exact kept.absent spellId there other (mem_of_mem_erase mem) spell

/-- A manager without auras. The definitions, the custom mask and the flags are arbitrary. -/
def start (definitions custom : UInt32) (active : List PhaseDefinition) (flags : UInt8) :
    Watched :=
  ⟨⟨⟨definitions, 0, custom, active, ∅⟩, flags⟩, []⟩

theorem kept_start (definitions custom : UInt32) (active : List PhaseDefinition)
    (flags : UInt8) : Kept store (start definitions custom active flags) where
  mask := rfl
  entry := fun spellId info found => by
    have none : (∅ : PhaseInfoContainer).lookup spellId = some info := found
    rw [AList.lookup_empty] at none
    cases none
  absent := fun _ _ _ mem => nomatch mem

/-- In a run of careful steps the mask, the phase ids and the terrain swaps follow the
registered effects. -/
theorem follows_of_careful (store : SpellPhaseStore) (isGameMaster : Bool)
    (definitions custom : UInt32) (active : List PhaseDefinition) (flags : UInt8)
    (steps : List Step)
    (allowed : ∀ t ∈ Run.trace (step store isGameMaster)
      (start definitions custom active flags) steps,
        Allowed t.before t.input ∧ Careful store t.before t.input) :
    ∀ t ∈ Run.trace (step store isGameMaster) (start definitions custom active flags) steps,
      Follows store t.after := by
  have keep : ∀ s a, Kept store s → Allowed s a ∧ Careful store s a →
      Kept store (step store isGameMaster s a).1 := by
    intro s a kept ⟨permitted, careful⟩
    cases a with
    | register effect => exact kept.register isGameMaster careful
    | unregister effect => exact kept.unregister isGameMaster permitted careful
  intro t here
  have before := Run.invariant (step store isGameMaster) _ (Kept store) keep _
    (kept_start definitions custom active flags) allowed t here
  rw [Run.taken_of_mem _ _ _ t here]
  exact (keep _ _ before (allowed t here)).follows

/-- An effect with a mask that comes and goes. -/
theorem follows_of_careful_mask :
    Follows ∅ (Run.final (step ∅ false) (start 0 0 [] 0)
      [.register ⟨1, 2, 169⟩, .unregister ⟨1, 2, 169⟩]) := by
  have follows := follows_of_careful ∅ false 0 0 [] 0
    [.register ⟨1, 2, 169⟩, .unregister ⟨1, 2, 169⟩] (by
      intro t here
      rcases mem_cons.mp here with rfl | here
      · exact ⟨trivial, nofun⟩
      rcases mem_cons.mp here with rfl | here
      · refine ⟨mem_singleton.mpr rfl, fun info found => ?_⟩
        split
        · intro other mem
          have none : ([⟨1, 2, 169⟩] : List AuraEffect).erase ⟨1, 2, 169⟩ = [] := by decide
          have gone : other ∈ ([] : List AuraEffect) := none ▸ mem
          cases gone
        next zero =>
        exfalso
        have is : some info = some ⟨2, 0, 169⟩ := found.symm.trans (by decide)
        rw [Option.some.inj is] at zero
        exact zero (by decide)
      · cases here)
  exact follows (Run.take (step ∅ false) (step ∅ false (start 0 0 [] 0)
    (.register ⟨1, 2, 169⟩)).1 (.unregister ⟨1, 2, 169⟩)) (.tail _ (.head _))

/-- A phase id without a mask stays when its effect goes. -/
theorem follows_fails :
    ¬ ∀ (store : SpellPhaseStore) (isGameMaster : Bool) (steps : List Step),
      (∀ t ∈ Run.trace (step store isGameMaster) (start 0 0 [] 0) steps, Allowed t.before t.input) →
      ∀ t ∈ Run.trace (step store isGameMaster) (start 0 0 [] 0) steps, Follows store t.after := by
  intro claim
  have follows := claim ∅ false [.register ⟨1, 0, 169⟩, .unregister ⟨1, 0, 169⟩] (by
    intro t here
    rcases mem_cons.mp here with rfl | here
    · trivial
    rcases mem_cons.mp here with rfl | here
    · exact mem_singleton.mpr rfl
    · cases here)
  have ids := (follows _ (.tail _ (.head _))).phaseIds
  exact absurd ids (by decide)

end Watched

end OpenWoW.Phasing
