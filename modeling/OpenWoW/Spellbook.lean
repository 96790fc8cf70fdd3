import OpenWoW.Lib.EntryMap

/-! The spells and the skills of a player: learning and unlearning, one inside the other. -/
namespace OpenWoW.Spellbook

open EntryMap (Map)

structure SkillLineEntry where
  id : Nat
  categoryId : Nat

structure SkillLineAbilityEntry where
  skillId : Nat
  spellId : Nat
  racemask : Nat := 0
  classmask : Nat := 0
  req_skill_value : Nat := 0
  learnOnGetSkill : Nat
  max_value : Nat := 0

/-- The skill that a spell with `SPELL_EFFECT_SKILL` teaches. -/
structure SpellLearnSkillNode where
  skill : Nat
  step : Nat
  value : Nat
  maxvalue : Nat

structure SpellLearnSpellNode where
  spell : Nat
  active : Bool
  autoLearned : Bool

structure SpellInfo where
  isStackableWithRanks : Bool := false
  isPassive : Bool := false
  hasSkillStepEffect : Bool := false
  isPrimaryProfessionFirstRank : Bool := false

structure SpellRanks where
  chains : List (List Nat)
  distinct : chains.flatten.Nodup
  positive : 0 ∉ chains.flatten

def SpellRanks.chainOf (ranks : SpellRanks) (spell : Nat) : List Nat :=
  (ranks.chains.find? fun chain => spell ∈ chain).getD []

structure Tables where
  spellInfo : Nat → Option SpellInfo
  ranks : SpellRanks
  skillLine : Nat → Option SkillLineEntry
  skillLineAbilities : List SkillLineAbilityEntry
  spellLearnSkill : Nat → Option SpellLearnSkillNode
  spellLearnSpells : Nat → List SpellLearnSpellNode
  spellsRequiringSpell : Nat → List Nat

namespace Tables

variable (tables : Tables)

def isRanked (spell : Nat) : Bool := tables.ranks.chainOf spell ≠ []

def getSpellRank (spell : Nat) : Nat := (tables.ranks.chainOf spell).idxOf spell

def getFirstSpellInChain (spell : Nat) : Nat := (tables.ranks.chainOf spell).head?.getD spell

def getNextSpellInChain (spell : Nat) : Nat :=
  (tables.ranks.chainOf spell)[tables.getSpellRank spell + 1]?.getD 0

def getPrevSpellInChain (spell : Nat) : Nat :=
  if tables.getSpellRank spell = 0 then 0
  else (tables.ranks.chainOf spell)[tables.getSpellRank spell - 1]?.getD 0

def isDifferentRankOf (spell other : Nat) : Bool :=
  spell ≠ other ∧ tables.getFirstSpellInChain spell = tables.getFirstSpellInChain other

def isHighRankOf (spell other : Nat) : Bool :=
  tables.isRanked spell ∧ tables.isRanked other ∧
    tables.getFirstSpellInChain spell = tables.getFirstSpellInChain other ∧
    tables.getSpellRank other < tables.getSpellRank spell

end Tables

def skillCategoryWeapon : Nat := 6

def skillCategoryClass : Nat := 7

def skillCategoryArmor : Nat := 8

def skillCategorySecondary : Nat := 9

def skillCategoryLanguages : Nat := 10

def skillCategoryProfession : Nat := 11

def skillDefense : Nat := 95

def skillFirstAid : Nat := 129

def skillCooking : Nat := 185

def skillFishing : Nat := 356

def skillLockpicking : Nat := 633

def skillRuneforging : Nat := 776

def abilityLearnedOnGetProfessionSkill : Nat := 1

def abilityLearnedOnGetRaceOrClassSkill : Nat := 2

def Tables.isProfessionSkill (tables : Tables) (skill : Nat) : Bool :=
  (tables.skillLine skill).any (·.categoryId = skillCategoryProfession) ||
    skill = skillFishing || skill = skillCooking || skill = skillFirstAid

inductive SkillRangeType where
  | language
  | level
  | mono
  | rank
  | none
  deriving DecidableEq

def Tables.getSkillRangeType (tables : Tables) (skill : SkillLineEntry) (racial : Bool) :
    SkillRangeType :=
  if skill.categoryId = skillCategoryLanguages then .language
  else if skill.categoryId = skillCategoryWeapon then .level
  else if skill.categoryId = skillCategoryArmor ∨ skill.categoryId = skillCategoryClass then
    if skill.id ≠ skillLockpicking then .mono else .level
  else if skill.categoryId = skillCategorySecondary ∨
      skill.categoryId = skillCategoryProfession then
    if tables.isProfessionSkill skill.id then .rank else if racial then .none else .mono
  else .none

inductive SkillUpdateState where
  | unchanged
  | changed
  | new
  | deleted
  deriving DecidableEq

structure SkillStatusData where
  pos : Nat
  uState : SkillUpdateState
  deriving DecidableEq

/-- The six 16-bit halves of a skill's update fields. -/
structure SkillSlot where
  lineId : Nat := 0
  step : Nat := 0
  rank : Nat := 0
  maxRank : Nat := 0
  modifier : Nat := 0
  talent : Nat := 0
  deriving DecidableEq

inductive PlayerSpellState where
  | unchanged
  | changed
  | new
  | removed
  | temporary
  deriving DecidableEq

structure PlayerSpell where
  state : PlayerSpellState
  active : Bool
  dependent : Bool
  disabled : Bool
  deriving DecidableEq

/-- `learned` is history: the spells that `addSpell` has put into the book so far. -/
structure Player where
  skillSlots : Nat → SkillSlot := fun _ => {}
  skillStatus : Map Nat SkillStatusData := ∅
  professionSkillLine1 : Nat := 0
  professionSkillLine2 : Nat := 0
  freePrimaryProfessions : Nat := 0
  spells : Map Nat PlayerSpell := ∅
  learned : List Nat := []

/-- A call that learning or unlearning makes. -/
inductive Call where
  | setSkill (id step newVal maxVal : Nat)
  | modifySkillBonus (skill : Nat) (val : Int) (talent : Bool)
  | learnSkillRewardedSpells (skill value : Nat)
  | addSpell (spell : Nat) (active learning dependent disabled : Bool)
  | learnSpell (spell : Nat) (dependent : Bool)
  | removeSpell (spell : Nat) (disabled learnLowRank : Bool)

/-- What the rest of the server has to do with a call: the player's race, class, level and auras,
and what casting a spell or losing its auras does to the spells and skills. -/
structure Env where
  inWorld : Bool
  raceMask : Nat
  classMask : Nat
  maxSkillValueForLevel : Nat
  maxPrimaryTradeSkill : Nat
  isSpellValid : Nat → Bool
  isNeedCastPassiveSpellAtLearn : Nat → Bool
  modSkillAuras : List (Nat × Int)
  modSkillTalentAuras : List (Nat × Int)
  castSpell : Nat → Player → List Call
  removeAuras : Nat → Player → List Call

def playerMaxSkills : Nat := 128

def uint16 (value : Int) : Nat := (value % 65536).toNat

namespace Player

def skill? (p : Player) (skill : Nat) : Option SkillStatusData :=
  (p.skillStatus.lookup skill).filter fun data => data.uState ≠ .deleted

def hasSkill (p : Player) (skill : Nat) : Bool := skill ≠ 0 && (p.skill? skill).isSome

/-- The fields that the getters read. -/
def skillSlot (p : Player) (skill : Nat) : SkillSlot :=
  if skill = 0 then {} else (p.skill? skill).elim {} fun data => p.skillSlots data.pos

def getSkillStep (p : Player) (skill : Nat) : Nat := (p.skillSlot skill).step

def getPureSkillValue (p : Player) (skill : Nat) : Nat := (p.skillSlot skill).rank

def getPureMaxSkillValue (p : Player) (skill : Nat) : Nat := (p.skillSlot skill).maxRank

def setSlot (p : Player) (pos : Nat) (slot : SkillSlot) : Player :=
  { p with skillSlots := Function.update p.skillSlots pos slot }

def setStatus (p : Player) (skill : Nat) (data : SkillStatusData) : Player :=
  { p with skillStatus := p.skillStatus.insert skill data }

def modifySkillBonus (p : Player) (skill : Nat) (val : Int) (talent : Bool) : Player :=
  match p.skill? skill with
  | none => p
  | some data =>
    let slot := p.skillSlots data.pos
    p.setSlot data.pos
      (if talent then { slot with talent := uint16 (slot.talent + val) }
      else { slot with modifier := uint16 (slot.modifier + val) })

/-- The first position without a line. -/
def freeSlot (p : Player) : Option Nat :=
  (List.range playerMaxSkills).find? fun pos => (p.skillSlots pos).lineId = 0

def addProfessionLine (p : Player) (id : Nat) : Player :=
  if p.professionSkillLine1 = 0 then { p with professionSkillLine1 := id }
  else if p.professionSkillLine2 = 0 then { p with professionSkillLine2 := id }
  else p

def clearProfessionLine (p : Player) (id : Nat) : Player :=
  if p.professionSkillLine1 = id then { p with professionSkillLine1 := 0 }
  else if p.professionSkillLine2 = id then { p with professionSkillLine2 := 0 }
  else p

def touchSkill (p : Player) (skill : Nat) (data : SkillStatusData) : Player :=
  p.setStatus skill { data with uState := if data.uState = .new then .new else .changed }

def updateSkill (p : Player) (skill : Nat) (data : SkillStatusData) (step newVal maxVal : Nat) :
    Player :=
  (p.setSlot data.pos
    { p.skillSlots data.pos with step, rank := newVal, maxRank := maxVal }).touchSkill skill data

/-- A skill's fields are cleared; it goes from the map unless the table knows it. -/
def dropSkill (p : Player) (skill : Nat) (data : SkillStatusData) : Player :=
  let p := p.setSlot data.pos {}
  if data.uState = .new then { p with skillStatus := p.skillStatus.erase skill }
  else p.setStatus skill { data with uState := .deleted }

def putSkill (p : Player) (line : SkillLineEntry) (pos id step newVal maxVal : Nat) : Player :=
  let p := if line.categoryId = skillCategoryProfession then p.addProfessionLine id else p
  (p.setSlot pos ⟨id, step, newVal, maxVal, 0, 0⟩).setStatus id
    ⟨pos, if (p.skillStatus.lookup id).isSome then .changed else .new⟩

end Player

def Env.applySkillAuras (env : Env) (id : Nat) (p : Player) : Player :=
  let apply := fun (talent : Bool) (p : Player) (aura : Nat × Int) =>
    if aura.1 = id ∧ id ≠ skillDefense then p.modifySkillBonus id aura.2 talent else p
  env.modSkillTalentAuras.foldl (apply true) (env.modSkillAuras.foldl (apply false) p)

section

variable (tables : Tables) (env : Env) (recur : Call → Player → Option Player)

def setSkill (id step newVal maxVal : Nat) (p : Player) : Option Player :=
  if id = 0 then some p
  else match p.skill? id with
    | some data =>
      if newVal ≠ 0 then
        recur (.learnSkillRewardedSpells id newVal) (p.updateSkill id data step newVal maxVal)
      else do
        let p ← (tables.skillLineAbilities.filter (·.skillId = id)).foldlM
          (fun p ability =>
            recur (.removeSpell (tables.getFirstSpellInChain ability.spellId) false true) p)
          (p.dropSkill id data)
        some (p.clearProfessionLine id)
    | none =>
      if newVal = 0 then some p
      else match p.freeSlot, tables.skillLine id with
        | some pos, some line =>
          recur (.learnSkillRewardedSpells id newVal)
            (env.applySkillAuras id (p.putSkill line pos id step newVal maxVal))
        | _, _ => some p

def learnSkillRewardedSpells (skill value : Nat) (p : Player) : Option Player :=
  tables.skillLineAbilities.foldlM
    (fun p ability =>
      if ability.skillId ≠ skill ∨ ability.learnOnGetSkill ≠ abilityLearnedOnGetProfessionSkill ∨
          (ability.racemask ≠ 0 ∧ ability.racemask &&& env.raceMask = 0) ∨
          (ability.classmask ≠ 0 ∧ ability.classmask &&& env.classMask = 0) ∨
          (tables.spellInfo ability.spellId).isNone then some p
      else if value < ability.req_skill_value then recur (.removeSpell ability.spellId false true) p
      else if !env.inWorld then recur (.addSpell ability.spellId true true true false) p
      else recur (.learnSpell ability.spellId true) p)
    p

/-- A change of an entry that the table does not know yet leaves it new. -/
def PlayerSpellState.touched (state : PlayerSpellState) : PlayerSpellState :=
  if state = .new then .new else .changed

namespace Player

def hasSpell (p : Player) (spell : Nat) : Bool :=
  (p.spells.lookup spell).any fun entry => entry.state ≠ .removed && !entry.disabled

def setSpell (p : Player) (spell : Nat) (entry : PlayerSpell) : Player :=
  { p with spells := p.spells.insert spell entry }

def eraseSpell (p : Player) (spell : Nat) : Player :=
  { p with spells := p.spells.erase spell }

def addTemporarySpell (p : Player) (spell : Nat) : Player :=
  if (p.spells.lookup spell).isSome then p
  else p.setSpell spell ⟨.temporary, true, false, false⟩

def removeTemporarySpell (p : Player) (spell : Nat) : Player :=
  match p.spells.lookup spell with
  | none => p
  | some entry => if entry.state ≠ .temporary then p else p.eraseSpell spell

def spendProfession (p : Player) (info : SpellInfo) : Player :=
  if info.isPrimaryProfessionFirstRank then
    { p with freePrimaryProfessions := p.freePrimaryProfessions - 1 }
  else p

/-- An unlearned profession gives its point back, up to the points there are. -/
def regainProfession (p : Player) (info : Option SpellInfo) (maxPrimaryTradeSkill : Nat) :
    Player :=
  if info.any (·.isPrimaryProfessionFirstRank) ∧
      p.freePrimaryProfessions + 1 ≤ maxPrimaryTradeSkill then
    { p with freePrimaryProfessions := p.freePrimaryProfessions + 1 }
  else p

end Player

/-- What `addSpell` makes of the entry it finds: nothing more to do (`cast` tells whether a
passive spell is active now), a disabled spell enabled again, or a new entry to be made. -/
inductive Known where
  | done (cast : Bool) (p : Player)
  | enabled (active : Bool) (p : Player)
  | missing (state : PlayerSpellState) (active : Bool) (p : Player)

/-- An entry that differs from what is asked for, its dependence set already. -/
def updateKnown (spell : Nat) (active disabled loading dependentSet : Bool) (entry : PlayerSpell)
    (p : Player) : Known :=
  if entry.active ≠ active ∧ entry.state ≠ .removed ∧ entry.disabled = false then
    .done active (p.setSpell spell { entry with
      active, state := if loading && !dependentSet then .unchanged else entry.state.touched })
  else if entry.disabled ≠ disabled ∧ entry.state ≠ .removed then
    let p := p.setSpell spell { entry with disabled, state := entry.state.touched }
    if disabled then .done false p else .enabled active p
  else match entry.state with
    | .unchanged => .done false (p.setSpell spell entry)
    | .removed => .missing .changed active (p.eraseSpell spell)
    | state => .done false (p.setSpell spell { entry with
        state := if loading && !dependentSet then .unchanged else state })

/-- A lower rank that does not stack is not active below one that is known. -/
def activeRank (info : SpellInfo) (spell : Nat) (active : Bool) (p : Player) : Bool :=
  let next := tables.getNextSpellInChain spell
  active && !(!info.isStackableWithRanks && tables.isRanked spell && next ≠ 0 && p.hasSpell next)

def checkKnown (info : SpellInfo) (spell : Nat) (active learning dependent disabled : Bool)
    (p : Player) : Known :=
  let loading := !env.inWorld && !learning
  match p.spells.lookup spell with
  | none => .missing (if learning then .new else .unchanged) active p
  | some entry =>
    if entry.state = .temporary then
      .missing (if learning then .new else .unchanged) active (p.removeTemporarySpell spell)
    else
      let active := activeRank tables info spell active p
      if entry.state ≠ .removed ∧ entry.active = active ∧ entry.dependent = dependent ∧
          entry.disabled = disabled then
        .done false (if loading then p.setSpell spell { entry with state := .unchanged } else p)
      else if entry.state ≠ .removed ∧ entry.dependent = false ∧ dependent then
        updateKnown spell active disabled loading true
          { entry with dependent, state := entry.state.touched } p
      else updateKnown spell active disabled loading false entry p

/-- Of two ranks that do not stack the lower one is not active any more. -/
def supersede (spell other : Nat) (entry : PlayerSpell) : PlayerSpell :=
  if entry.state ≠ .removed ∧ (tables.spellInfo other).isSome ∧
      tables.isDifferentRankOf spell other ∧ entry.active ∧ tables.isHighRankOf spell other then
    { entry with active := false, state := entry.state.touched }
  else entry

/-- Another rank is active that the new one does not supersede. -/
def superseded (spell : Nat) (p : Player) : Bool :=
  p.spells.entries.any fun entry => entry.2.state ≠ .removed &&
    (tables.spellInfo entry.1).isSome && tables.isDifferentRankOf spell entry.1 &&
    entry.2.active && !tables.isHighRankOf spell entry.1

/-- The lower ranks of a spell that becomes active and does not stack. -/
def supersedeRanks (spell : Nat) (p : Player) : Player :=
  { p with
    spells := EntryMap.rewrite (fun other entry => some (supersede tables spell other entry))
      p.spells }

def insertSpell (info : SpellInfo) (spell : Nat) (state : PlayerSpellState)
    (active dependent disabled : Bool) (p : Player) : Player :=
  let p := { p with learned := spell :: p.learned }
  if active ∧ !disabled ∧ !info.isStackableWithRanks ∧ tables.isRanked spell then
    let low := superseded tables spell p
    (supersedeRanks tables spell p).setSpell spell
      ⟨if low then state.touched else state, if low then false else active, dependent, disabled⟩
  else p.setSpell spell ⟨state, active, dependent, disabled⟩

def runCalls (calls : List Call) (p : Player) : Option Player :=
  calls.foldlM (fun p call => recur call p) p

def addDependentSkills (spell : Nat) (p : Player) : Option Player :=
  match tables.spellLearnSkill spell with
  | some node =>
    let newMax := if node.maxvalue = 0 then env.maxSkillValueForLevel else node.maxvalue
    recur (.setSkill node.skill node.step (max (p.getPureSkillValue node.skill) node.value)
      (max (p.getPureMaxSkillValue node.skill) newMax)) p
  | none =>
    (tables.skillLineAbilities.filter (·.spellId = spell)).foldlM
      (fun p ability =>
        match tables.skillLine ability.skillId with
        | none => some p
        | some line =>
          if p.hasSkill line.id then some p
          else if ability.learnOnGetSkill = abilityLearnedOnGetRaceOrClassSkill ∨
              ((line.id = skillLockpicking ∨ line.id = skillRuneforging) ∧
                ability.max_value = 0) then
            let step := p.getSkillStep line.id
            match tables.getSkillRangeType line (ability.racemask ≠ 0) with
            | .language => recur (.setSkill line.id step 300 300) p
            | .level => recur (.setSkill line.id step 1 env.maxSkillValueForLevel) p
            | .mono => recur (.setSkill line.id step 1 1) p
            | _ => some p
          else some p)
      p

def learnDependentSpells (spell : Nat) (p : Player) : Option Player :=
  (tables.spellLearnSpells spell).foldlM
    (fun p node =>
      if node.autoLearned then some p
      else if !env.inWorld || !node.active then
        recur (.addSpell node.spell node.active true true false) p
      else recur (.learnSpell node.spell true) p)
    p

def castPassive (info : SpellInfo) (spell : Nat) (p : Player) : Option Player :=
  if info.isPassive && env.isNeedCastPassiveSpellAtLearn spell then
    runCalls recur (env.castSpell spell p) p
  else some p

/-- The rest of `addSpell`, for a spell that is in the book and enabled. -/
def finishAdd (info : SpellInfo) (spell : Nat) (p : Player) : Option Player :=
  if !info.isPassive && info.hasSkillStepEffect then runCalls recur (env.castSpell spell p) p
  else do
    let p ← castPassive env recur info spell p
    let p ← addDependentSkills tables env recur spell (p.spendProfession info)
    learnDependentSpells tables env recur spell p

def learnPrevRank (spell : Nat) (active disabled : Bool) (p : Player) : Option Player :=
  let prev := tables.getPrevSpellInChain spell
  if prev = 0 then some p
  else if !env.inWorld || disabled then recur (.addSpell prev active true true disabled) p
  else recur (.learnSpell prev true) p

def addSpell (spell : Nat) (active learning dependent disabled : Bool) (p : Player) :
    Option Player :=
  match tables.spellInfo spell with
  | none => some p
  | some info =>
    if !env.isSpellValid spell then some p
    else match checkKnown tables env info spell active learning dependent disabled p with
      | .done cast p => if cast then castPassive env recur info spell p else some p
      | .enabled _ p => finishAdd tables env recur info spell p
      | .missing state active p => do
          let p ← learnPrevRank tables env recur spell active disabled p
          let p := insertSpell tables info spell state active dependent disabled p
          if disabled then some p else finishAdd tables env recur info spell p

def learnDisabled (spell : Nat) (p : Player) : Option Player :=
  if (p.spells.lookup spell).any (·.disabled) then recur (.learnSpell spell false) p else some p

def learnNextRank (spell : Nat) (p : Player) : Option Player :=
  let next := tables.getNextSpellInChain spell
  if next = 0 then some p else learnDisabled recur next p

def learnSpell (spell : Nat) (dependent : Bool) (p : Player) : Option Player :=
  let entry := p.spells.lookup spell
  if entry.any (·.disabled) then do
    let p ← recur (.addSpell spell (entry.any (·.active)) true dependent false) p
    let p ← learnNextRank tables recur spell p
    (tables.spellsRequiringSpell spell).foldlM (fun p other => learnDisabled recur other p) p
  else recur (.addSpell spell true true dependent false) p

/-- The setting that an earlier rank of a spell gives its skill. -/
def searchPrevSkill : Nat → Nat → Option SpellLearnSkillNode
  | 0, _ => none
  | turns + 1, spell =>
    let prev := tables.getPrevSpellInChain spell
    match tables.spellLearnSkill (tables.getFirstSpellInChain prev) with
    | some node => some node
    | none => if prev = 0 then none else searchPrevSkill turns prev

def removeDependentSkills (spell : Nat) (p : Player) : Option Player :=
  match tables.spellLearnSkill spell with
  | some node =>
    let prev := tables.getPrevSpellInChain spell
    if prev = 0 then recur (.setSkill node.skill 0 0 0) p
    else match (tables.spellLearnSkill prev).or
        (searchPrevSkill tables (tables.ranks.chainOf spell).length prev) with
      | none => recur (.setSkill node.skill 0 0 0) p
      | some setting =>
        let newMax := if setting.maxvalue = 0 then env.maxSkillValueForLevel
          else setting.maxvalue
        recur (.setSkill setting.skill setting.step
          (min (p.getPureSkillValue setting.skill) setting.value)
          (min (p.getPureMaxSkillValue setting.skill) newMax)) p
  | none =>
    (tables.skillLineAbilities.filter (·.spellId = spell)).foldlM
      (fun p ability =>
        match tables.skillLine ability.skillId with
        | none => some p
        | some line =>
          if (ability.learnOnGetSkill = abilityLearnedOnGetRaceOrClassSkill ∧
                line.categoryId ≠ skillCategoryClass) ∨
              ((line.id = skillLockpicking ∨ line.id = skillRuneforging) ∧
                ability.max_value = 0) then
            if (line.categoryId = skillCategorySecondary ∨
                  line.categoryId = skillCategoryProfession) ∧
                (tables.isProfessionSkill line.id ∨ ability.racemask ≠ 0) then some p
            else recur (.setSkill line.id (p.getSkillStep line.id) 0 0) p
          else some p)
      p

def unlearn (spell : Nat) (entry : PlayerSpell) (disabled : Bool) (p : Player) : Player :=
  if disabled then p.setSpell spell { entry with disabled, state := entry.state.touched }
  else if entry.state = .new then p.eraseSpell spell
  else p.setSpell spell { entry with state := .removed }

/-- The lesser rank of an unlearned spell gets its dependence and is active again. -/
def activatePrevRank (spell : Nat) (active dependent learnLowRank : Bool) (p : Player) :
    Option Player :=
  let prev := tables.getPrevSpellInChain spell
  match tables.spellInfo spell, p.spells.lookup prev with
  | some info, some entry =>
    if prev ≠ 0 ∧ active ∧ !info.isStackableWithRanks ∧ tables.isRanked spell then
      let entry := if entry.dependent ≠ dependent then
        { entry with dependent, state := entry.state.touched } else entry
      let p := p.setSpell prev entry
      if !entry.active ∧ learnLowRank then
        recur (.addSpell prev true false entry.dependent entry.disabled) p
      else some p
    else some p
  | _, _ => some p

def removeNextRank (spell : Nat) (disabled : Bool) (p : Player) : Option Player :=
  let next := tables.getNextSpellInChain spell
  if next ≠ 0 ∧ p.hasSpell next then recur (.removeSpell next disabled false) p else some p

/-- The rest of `removeSpell`, for the entry that is left after the spells above it. -/
def finishRemove (spell : Nat) (disabled learnLowRank : Bool) (entry : PlayerSpell) (p : Player) :
    Option Player := do
  let p ← runCalls recur (env.removeAuras spell (unlearn spell entry disabled p))
    (unlearn spell entry disabled p)
  let p ← removeDependentSkills tables env recur spell
    (p.regainProfession (tables.spellInfo spell) env.maxPrimaryTradeSkill)
  let p ← (tables.spellLearnSpells spell).foldlM
    (fun p node => recur (.removeSpell node.spell disabled true) p) p
  activatePrevRank tables recur spell entry.active entry.dependent learnLowRank p

def removeSpell (spell : Nat) (disabled learnLowRank : Bool) (p : Player) : Option Player :=
  match p.spells.lookup spell with
  | none => some p
  | some entry =>
    if entry.state = .removed ∨ (disabled ∧ entry.disabled) ∨ entry.state = .temporary then some p
    else do
      let p ← removeNextRank tables recur spell disabled p
      let p ← (tables.spellsRequiringSpell spell).foldlM
        (fun p other => recur (.removeSpell other disabled true) p) p
      match p.spells.lookup spell with
      | none => some p
      | some entry => finishRemove tables env recur spell disabled learnLowRank entry p

/-- One call, with the calls inside it answered by `recur`. -/
def perform : Call → Player → Option Player
  | .setSkill id step newVal maxVal =>
    setSkill tables env recur (uint16 id) (uint16 step) (uint16 newVal) (uint16 maxVal)
  | .modifySkillBonus skill val talent => fun p => some (p.modifySkillBonus skill val talent)
  | .learnSkillRewardedSpells skill value => learnSkillRewardedSpells tables env recur skill value
  | .addSpell spell active learning dependent disabled =>
    addSpell tables env recur spell active learning dependent disabled
  | .learnSpell spell dependent => learnSpell tables recur spell dependent
  | .removeSpell spell disabled learnLowRank =>
    removeSpell tables env recur spell disabled learnLowRank

end

/-- A call and what it calls, down to a depth; `none` for one that goes deeper. -/
def exec (tables : Tables) (env : Env) : Nat → Call → Player → Option Player
  | 0, _, _ => none
  | depth + 1, call, p => perform tables env (exec tables env depth) call p

end OpenWoW.Spellbook
