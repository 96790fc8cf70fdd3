import OpenWoW.Spellbook

/-! The skills of a player: positions, states and rows. -/
namespace OpenWoW.Spellbook

structure SkillRow where
  skill : Nat
  value : Nat
  max : Nat

/-- The player's rows of `character_skills`, by their key: value and maximum. -/
abbrev SkillRows := Nat → Option (Nat × Nat)

def skillRows (rows : List SkillRow) : SkillRows := fun skill =>
  (rows.find? (·.skill = skill)).map fun row => (row.value, row.max)

inductive SkillStatement where
  | del (skill : Nat)
  | ins (skill value max : Nat)
  | upd (skill value max : Nat)

def SkillStatement.skill : SkillStatement → Nat
  | .del skill | .ins skill _ _ | .upd skill _ _ => skill

/-- What a statement makes of the row of its skill: an insert needs that there is none. -/
def SkillStatement.act : SkillStatement → Option (Nat × Nat) → Option (Option (Nat × Nat))
  | .del _, _ => some none
  | .ins _ value max, none => some (some (value, max))
  | .ins _ _ _, some _ => none
  | .upd _ value max, row => some (row.map fun _ => (value, max))

def Player.skillStatements (p : Player) (skill : Nat) (data : SkillStatusData) :
    List SkillStatement :=
  let slot := p.skillSlots data.pos
  match data.uState with
  | .unchanged => []
  | .deleted => [.del skill]
  | .new => [.ins skill slot.rank slot.maxRank]
  | .changed => [.upd skill slot.rank slot.maxRank]

def saveSkills (p : Player) (rows : SkillRows) : Player × SkillRows :=
  ({ p with
      skillStatus := EntryMap.rewrite
        (fun _ data => if data.uState = .deleted then none
          else some { data with uState := .unchanged }) p.skillStatus },
    EntryMap.commit SkillStatement.skill SkillStatement.act
      (p.skillStatus.entries.flatMap fun entry => p.skillStatements entry.1 entry.2) rows)

def getSkillTempBonusValue (p : Player) (skill : Nat) : Int :=
  ((p.skillSlot skill).modifier : Int).bmod 65536

def getSkillPermBonusValue (p : Player) (skill : Nat) : Int :=
  ((p.skillSlot skill).talent : Int).bmod 65536

def getSkillValue (p : Player) (skill : Nat) : Nat :=
  let slot := p.skillSlot skill
  let result : Int := slot.rank + slot.modifier + slot.talent
  uint16 (if result < 0 then 0 else result)

def bonusSkillLevels : List Nat := [75, 150, 225, 300, 375, 450, 525]

/-- `roll` is the number from 1 to 1000 that has to reach the chance. -/
def updateSkillPro (tables : Tables) (env : Env) (depth skillId : Nat) (chance : Int)
    (step roll : Nat) (p : Player) : Option Player :=
  if skillId = 0 ∨ chance ≤ 0 then some p
  else match p.skill? skillId with
    | none => some p
    | some data =>
      let slot := p.skillSlots data.pos
      if slot.maxRank = 0 ∨ slot.rank = 0 ∨ slot.maxRank ≤ slot.rank then some p
      else if chance < roll then some p
      else
        let sum := uint16 (slot.rank + step)
        let newValue := if slot.maxRank < sum then slot.maxRank else sum
        let p := (p.setSlot data.pos { slot with rank := newValue }).touchSkill skillId data
        if bonusSkillLevels.any fun level => slot.rank < level && level ≤ newValue then
          exec tables env depth (.learnSkillRewardedSpells skillId newValue) p
        else some p

/-- The loop of `_LoadSkills`: the table loses rows with the value 0 on the way. -/
structure Loading where
  player : Player
  rows : SkillRows
  count : Nat := 0
  professionCount : Nat := 0

def Tables.fixedRange (tables : Tables) (line : SkillLineEntry) (row : SkillRow) : Nat × Nat :=
  match tables.getSkillRangeType line false with
  | .language => (300, 300)
  | .mono => (1, 1)
  | _ => (row.value, row.max)

/-- The row's skill in the position of the running index. -/
def Loading.put (s : Loading) (line : SkillLineEntry) (skill value max : Nat) : Loading :=
  let profession : Bool := line.categoryId = skillCategoryProfession
  let step := if line.categoryId = skillCategorySecondary ∨ profession then max / 75 else 0
  let p := s.player
  let p := if profession ∧ s.professionCount = 0 then { p with professionSkillLine1 := skill }
    else if profession ∧ s.professionCount = 1 then { p with professionSkillLine2 := skill }
    else p
  let p := p.setSlot s.count ⟨skill, step, value, max, 0, 0⟩
  { s with
    player := if (p.skillStatus.lookup skill).isSome then p
      else p.setStatus skill ⟨s.count, .unchanged⟩
    professionCount := if profession ∧ s.professionCount < 2 then s.professionCount + 1
      else s.professionCount }

def loadSkill (tables : Tables) (env : Env) (depth : Nat) (s : Loading) (row : SkillRow) :
    Option Loading :=
  if playerMaxSkills ≤ s.count then some s
  else match tables.skillLine row.skill with
    | none => some s
    | some line =>
      let (value, max) := tables.fixedRange line row
      if value = 0 then some { s with rows := Function.update s.rows row.skill none }
      else do
        let put := s.put line row.skill value max
        let p ← exec tables env depth (.learnSkillRewardedSpells row.skill value) put.player
        some { put with player := p, count := s.count + 1 }

/-- The positions that the loop has not reached are cleared. -/
def clearSlots (count : Nat) (p : Player) : Player :=
  { p with skillSlots := fun pos =>
      if count ≤ pos ∧ pos < playerMaxSkills then {} else p.skillSlots pos }

def deathKnightSkills : List Nat := [skillFirstAid, 44, skillDefense, 229, 43, 172, 55, 162]

def loadDeathKnightSkills (tables : Tables) (env : Env) (depth level startHeroicPlayerLevel : Nat)
    (p : Player) : Option Player :=
  let baseLevel := max (min level (startHeroicPlayerLevel % 256)) 1
  let baseSkill := max ((baseLevel - 1) * 5) 1
  deathKnightSkills.foldlM
    (fun p skill =>
      if p.getPureSkillValue skill < baseSkill then
        exec tables env depth (.setSkill skill 0 baseSkill baseSkill) p
      else some p) p

/-- What a login has to do with the skills. -/
structure Login where
  env : Env
  depth : Nat
  isDeathKnight : Bool
  level : Nat
  startHeroicPlayerLevel : Nat

def loadSkills (tables : Tables) (login : Login) (rows : List SkillRow) (p : Player) :
    Option (Player × SkillRows) := do
  let s ← rows.foldlM (loadSkill tables login.env login.depth) ⟨p, skillRows rows, 0, 0⟩
  let p := clearSlots s.count s.player
  let p ← if login.isDeathKnight then
      loadDeathKnightSkills tables login.env login.depth login.level login.startHeroicPlayerLevel p
    else some p
  some (p, s.rows)

inductive SkillInput where
  | setSkill (env : Env) (depth id step newVal maxVal : Nat)
  | updateSkillPro (env : Env) (depth skillId : Nat) (chance : Int) (step roll : Nat)
  | modifySkillBonus (skill : Nat) (val : Int) (talent : Bool)
  | saveSkills

/-- `none` if the call does not return within its depth. -/
def skillStep (tables : Tables) (s : Player × SkillRows) : SkillInput → Option (Player × SkillRows)
  | .setSkill env depth id step newVal maxVal =>
    (exec tables env depth (.setSkill id step newVal maxVal) s.1).map (·, s.2)
  | .updateSkillPro env depth skillId chance step roll =>
    (updateSkillPro tables env depth (uint16 skillId) chance step roll s.1).map (·, s.2)
  | .modifySkillBonus skill val talent => some (s.1.modifySkillBonus skill val talent, s.2)
  | .saveSkills => some (saveSkills s.1 s.2)

/-- A new player object is loaded, and then come calls in any order. -/
def session (tables : Tables) (login : Login) (rows : List SkillRow) (p : Player)
    (inputs : List SkillInput) : Option (Player × SkillRows) := do
  let s ← loadSkills tables login rows p
  inputs.foldlM (skillStep tables) s

end OpenWoW.Spellbook
