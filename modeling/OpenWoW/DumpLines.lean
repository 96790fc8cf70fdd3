import OpenWoW.Lib.Search

/-! The lines of a character dump, and single fields of them. -/
namespace OpenWoW.PlayerDump

open List Search

abbrev Text : Type := List Char

/-- `mysql_real_escape_string`. -/
def escapeChar : Char → Text
  | '\x00' => ['\\', '0']
  | '\n' => ['\\', 'n']
  | '\r' => ['\\', 'r']
  | '\\' => ['\\', '\\']
  | '\'' => ['\\', '\'']
  | '"' => ['\\', '"']
  | '\x1a' => ['\\', 'Z']
  | c => [c]

def escapeString (text : Text) : Text := text.flatMap escapeChar

/-- The fields behind the first one. -/
def others (fields : List Text) : Text := fields.flatMap fun field => ", '".toList ++ field ++ ['\'']

/-- `_TABLE_SIM_`, the quote around the name of a table. -/
def tableSim : Char := '\x60'

def insertInto : Text := ['I', 'N', 'S', 'E', 'R', 'T', ' ', 'I', 'N', 'T', 'O', ' ', tableSim]

def values : Text := ['V', 'A', 'L', 'U', 'E', 'S', ' ', '(']

def insertStatement (tableName : Text) (fields : List Text) : Text :=
  insertInto ++ tableName ++ [tableSim, ' '] ++ values ++
    match fields with
    | [] => ");".toList
    | field :: fields => ['\''] ++ (field ++ '\'' :: (others fields ++ ");".toList))

def createDumpString (tableName : Text) (row : List Text) : Text :=
  insertStatement tableName (row.map escapeString)

/-- A loop that never ends. -/
inductive Endless
  | endless
  deriving DecidableEq, Repr

/-- The search for the end of the next field: its start moves on with each quote that looks
escaped. -/
def nextQuote (str : Text) (e : Nat) : Option (Nat × Nat) :=
  match found : find '\'' str (e + 4) with
  | none => none
  | some e' => if str[e' - 1]? = some '\\' then nextQuote str e' else some (e + 4, e')
  termination_by str.length - e
  decreasing_by
    have bounds := find_bounds found
    omega

theorem nextQuote_none {str : Text} {e : Nat} (none_ : find '\'' str (e + 4) = none) :
    nextQuote str e = none := by
  rw [nextQuote]
  split
  · rfl
  · rename_i found
    cases none_.symm.trans found

theorem nextQuote_some {str : Text} {e e' : Nat} (found : find '\'' str (e + 4) = some e') :
    nextQuote str e = if str[e' - 1]? = some '\\' then nextQuote str e' else some (e + 4, e') := by
  rw [nextQuote]
  split
  · rename_i none_
    cases none_.symm.trans found
  · rename_i other
    cases found.symm.trans other
    rfl

theorem nextQuote_start {str : Text} {e : Nat} {found : Nat × Nat}
    (next : nextQuote str e = some found) : e + 4 ≤ found.1 := by
  induction e using nextQuote.induct str with
  | case1 e none_ =>
    rw [nextQuote_none none_] at next
    cases next
  | case2 e e' here escaped ih =>
    rw [nextQuote_some here, if_pos escaped] at next
    have bounds := find_bounds here
    have later := ih next
    omega
  | case3 e e' here closed =>
    rw [nextQuote_some here, if_neg closed] at next
    cases next
    exact Nat.le_refl _

def nextFields (str : Text) : Nat → Nat × Nat → Option (Nat × Nat)
  | 0, place => some place
  | n + 1, place => (nextQuote str place.2).bind (nextFields str n)

/-- The place of a field. Without `VALUES ('` the start is `npos + 9`, that is 8; the search in the
first field does not move on. -/
def findnth (str : Text) (n : Nat) : Except Endless (Option (Nat × Nat)) :=
  let s := match findSub (values ++ ['\'']) str with
    | some s => s + 9
    | none => 8
  match find '\'' str s with
  | none => .ok none
  | some e =>
    if str[e - 1]? = some '\\' then .error .endless else .ok (nextFields str (n - 1) (s, e))

/-- Whether the field was found, and the line. -/
def changenth (str : Text) (n : Nat) (new : Text) (insert nonzero : Bool) :
    Except Endless (Bool × Text) := do
  match ← findnth str n with
  | none => .ok (false, str)
  | some (s, e) =>
    if nonzero ∧ (str.drop s).take (e - s) = ['0'] then .ok (true, str)
    else .ok (true, replaceAt str s (if insert then s else e) new)

def getnth (str : Text) (n : Nat) : Except Endless Text := do
  match ← findnth str n with
  | none => .ok []
  | some (s, e) => .ok ((str.drop s).take (e - s))

/-- A text whose end is found. -/
def Fits (field : Text) : Prop := '\'' ∉ field ∧ field.getLast? ≠ some '\\'

theorem escapeChar_quote (c : Char) : '\'' ∈ escapeChar c ↔ '\'' = c := by
  unfold escapeChar
  split
  case h_8 => exact mem_singleton
  all_goals decide

theorem escapeChar_last (c : Char) :
    ∃ first last, escapeChar c = first ++ [last] ∧ (last = '\\' ↔ c = '\\') := by
  unfold escapeChar
  split
  case h_8 => exact ⟨[], _, rfl, Iff.rfl⟩
  all_goals exact ⟨['\\'], _, rfl, by decide⟩

theorem escapeString_quote (text : Text) : '\'' ∈ escapeString text ↔ '\'' ∈ text := by
  unfold escapeString
  simp only [mem_flatMap, escapeChar_quote, exists_eq_right']

theorem escapeString_last (text : Text) :
    (escapeString text).getLast? = some '\\' ↔ text.getLast? = some '\\' := by
  cases text using List.reverseRecOn with
  | nil => rfl
  | append_singleton text c =>
    obtain ⟨first, last, escaped, same⟩ := escapeChar_last c
    unfold escapeString
    rw [flatMap_append, flatMap_singleton, escaped, ← List.append_assoc, getLast?_concat,
      getLast?_concat, Option.some.injEq, Option.some.injEq, same]

theorem escapeString_fits (text : Text) : Fits (escapeString text) ↔ Fits text := by
  unfold Fits
  rw [escapeString_quote, Ne, Ne, escapeString_last]

/-- The first quote behind a text, with a backslash before it. -/
def Cut (text : Text) : Prop :=
  ∃ before after, text ++ ['\''] = before ++ '\\' :: '\'' :: after ∧ '\'' ∉ before

theorem escapeString_cut {text : Text} (unfit : ¬ Fits text) : Cut (escapeString text) := by
  by_cases quoted : '\'' ∈ text
  · obtain ⟨before, after, rfl, free⟩ := eq_append_cons_of_mem quoted
    refine ⟨escapeString before, escapeString after ++ ['\''], ?_,
      (escapeString_quote before).not.mpr free⟩
    simp [escapeString, escapeChar]
  · have last : text.getLast? = some '\\' := by
      by_contra other
      exact unfit ⟨quoted, other⟩
    obtain ⟨before, rfl⟩ := getLast?_eq_some_iff.mp last
    refine ⟨escapeString before ++ ['\\'], [], by simp [escapeString, escapeChar], ?_⟩
    rw [mem_append, escapeString_quote, not_or]
    exact ⟨fun early => quoted (mem_append_left _ early), by decide⟩

/-- A line from what stands before its first field, the opening quote included. -/
def line (before : Text) : List Text → Text
  | [] => before
  | field :: fields => before ++ (field ++ '\'' :: (others fields ++ ");".toList))

/-- The bounds of a field, from where the first one starts. -/
def place : Nat → List Text → Nat → Option (Nat × Nat)
  | _, [], _ => none
  | s, field :: _, 0 => some (s, s + field.length)
  | s, field :: fields, n + 1 => place (s + field.length + 4) fields n

theorem line_next (before field next : Text) (fields : List Text) :
    line before (field :: next :: fields) =
      line (before ++ field ++ "', '".toList) (next :: fields) := by
  simp [line, others]

section

variable {before field : Text} {fields : List Text} {e : Nat}

theorem find_line (fits : Fits field) :
    find '\'' (line before (field :: fields)) before.length = some (before.length + field.length) :=
  find_at _ before field _ fits.1

theorem line_closing (fits : Fits field) (opened : before.getLast? = some '\'') :
    (line before (field :: fields))[before.length + field.length - 1]? ≠ some '\\' := by
  have some_ : before ++ field ≠ [] := by
    intro none
    rw [(append_eq_nil_iff.mp none).1] at opened
    cases opened
  have inside := length_pos_iff.mpr some_
  rw [line, ← List.append_assoc, ← length_append, getElem?_append_left (by omega),
    ← getLast?_eq_getElem?, getLast?_append, opened]
  cases last : field.getLast? with
  | none => decide
  | some c =>
    rw [Option.some_or, ← last]
    exact fits.2

theorem nextQuote_fits (fits : Fits field) (opened : before.getLast? = some '\'')
    (start : e + 4 = before.length) : nextQuote (line before (field :: fields)) e =
      some (before.length, before.length + field.length) := by
  rw [nextQuote_some (start ▸ find_line fits), if_neg (start ▸ line_closing fits opened), start]

theorem Cut.found (cut : Cut field) :
    ∃ place, find '\'' (line before (field :: fields)) before.length = some place ∧
      (line before (field :: fields))[place - 1]? = some '\\' := by
  obtain ⟨first, after, text, free⟩ := cut
  have whole := congrArg (· ++ (others fields ++ ");".toList)) text
  simp only [List.append_assoc, cons_append, nil_append] at whole
  have split : line before (field :: fields) =
      before ++ (first ++ ['\\'] ++ '\'' :: (after ++ (others fields ++ ");".toList))) := by
    rw [line, whole]
    simp
  have found := find_at '\'' before (first ++ ['\\']) (after ++ (others fields ++ ");".toList))
    (by rw [mem_append, not_or]; exact ⟨free, by decide⟩)
  rw [← split] at found
  refine ⟨_, found, ?_⟩
  have last : before.length + (first ++ ['\\']).length - 1 = (before ++ first).length := by
    rw [length_append, length_append, length_singleton]
    omega
  rw [line, whole, ← List.append_assoc, last, getElem?_append_right (Nat.le_refl _), Nat.sub_self]
  rfl

theorem nextQuote_cut (cut : Cut field) (start : e + 4 = before.length) {last : Nat} :
    nextQuote (line before (field :: fields)) e ≠ some (before.length, last) := by
  obtain ⟨place, found, escaped⟩ := cut.found
  rw [← start] at found
  intro here
  rw [nextQuote_some found, if_pos escaped] at here
  have bounds := find_bounds found
  have later := nextQuote_start here
  simp only at later
  omega

/-- All bounds are found just if all fields behind the first one end where they seem to. -/
theorem nextFields_iff (fields : List Text) (whole : ∀ field ∈ fields, Fits field ∨ Cut field) :
    (∀ n, nextFields (line before (field :: fields)) n
        (before.length, before.length + field.length) = place before.length (field :: fields) n) ↔
      ∀ field ∈ fields, Fits field := by
  induction fields generalizing before field with
  | nil =>
    refine iff_of_true (fun n => ?_) nofun
    cases n with
    | zero => rfl
    | succ n =>
      have short : (line before [field]).length ≤ before.length + field.length + 4 := by
        simp [line, others]
        omega
      simp only [nextFields, nextQuote_none (find_end _ _ short), Option.bind_none, place]
  | cons next fields ih =>
    rw [line_next]
    have start : before.length + field.length + 4 =
        (before ++ field ++ "', '".toList).length := by simp; omega
    have opened : (before ++ field ++ "', '".toList).getLast? = some '\'' := by
      rw [getLast?_append]
      rfl
    have step : (∀ n, nextFields (line (before ++ field ++ "', '".toList) (next :: fields)) n
        (before.length, before.length + field.length) =
          place before.length (field :: next :: fields) n) ↔
        ∀ n, (nextQuote (line (before ++ field ++ "', '".toList) (next :: fields))
            (before.length + field.length)).bind
          (nextFields (line (before ++ field ++ "', '".toList) (next :: fields)) n) =
          place (before ++ field ++ "', '".toList).length (next :: fields) n := by
      rw [← start]
      exact ⟨fun all n => all (n + 1), fun all n => by
        cases n with
        | zero => rfl
        | succ n => exact all n⟩
    rw [step, forall_mem_cons]
    by_cases fits : Fits next
    · rw [nextQuote_fits fits opened start, and_iff_right fits]
      exact ih fun other there => whole other (mem_cons_of_mem _ there)
    · have cut := (whole next mem_cons_self).resolve_left fits
      refine iff_of_false (fun all => ?_) (fun both => fits both.1)
      cases found : nextQuote (line (before ++ field ++ "', '".toList) (next :: fields))
          (before.length + field.length) with
      | none =>
        have first := all 0
        rw [found] at first
        cases first
      | some bounds =>
        have first := all 0
        rw [found] at first
        exact nextQuote_cut cut start (found.trans first)

theorem place_split {n : Nat} {text : Text} (here : (field :: fields)[n]? = some text) :
    ∃ first last,
      place before.length (field :: fields) n = some (first.length, first.length + text.length) ∧
      line before (field :: fields) = first ++ (text ++ last) ∧
      ∀ new, line before ((field :: fields).set n new) = first ++ (new ++ last) := by
  induction n generalizing before field fields with
  | zero =>
    obtain rfl := Option.some.inj here
    exact ⟨before, _, rfl, rfl, fun new => rfl⟩
  | succ n ih =>
    cases fields with
    | nil => cases here
    | cons next fields =>
      obtain ⟨first, last, bounds, split, changed⟩ :=
        @ih (before ++ field ++ "', '".toList) next fields here
      refine ⟨first, last, ?_, (line_next ..).trans split, fun new => ?_⟩
      · rw [place, ← bounds]
        congr 1
        simp
        omega
      · rw [set_cons_succ, ← changed new]
        cases n <;> exact line_next ..

end

/-- What stands before the first field. -/
def opening (tableName : Text) : Text :=
  insertInto ++ tableName ++ [tableSim, ' '] ++ values ++ ['\'']

theorem insertStatement_line (tableName field : Text) (fields : List Text) :
    insertStatement tableName (field :: fields) = line (opening tableName) (field :: fields) :=
  (List.append_assoc _ ['\''] _).symm

section

variable {tableName field : Text} (named : '\'' ∉ tableName) (fields : List Text)

include named

theorem findSub_line :
    (match findSub (values ++ ['\'']) (line (opening tableName) (field :: fields)) with
    | some s => s + 9
    | none => 8) = (opening tableName).length := by
  have free : '\'' ∉ insertInto ++ tableName ++ [tableSim, ' '] := by
    rw [mem_append, mem_append, not_or, not_or]
    exact ⟨⟨by decide, named⟩, by decide⟩
  have long : values.length = 8 := by decide
  have split : line (opening tableName) (field :: fields) =
      insertInto ++ tableName ++ [tableSim, ' '] ++ (values ++ ['\''] ++
        (field ++ '\'' :: (others fields ++ ");".toList))) := by
    simp only [line, opening, List.append_assoc]
  rw [split, findSub_last '\'' _ free (by decide), opening]
  simp only [length_append, long, length_singleton]

theorem findnth_fits (fits : Fits field) (n : Nat) :
    findnth (line (opening tableName) (field :: fields)) (n + 1) =
      .ok (nextFields (line (opening tableName) (field :: fields)) n
        ((opening tableName).length, (opening tableName).length + field.length)) := by
  have opened : (opening tableName).getLast? = some '\'' := getLast?_concat ..
  simp only [findnth, findSub_line named fields, find_line fits, Nat.add_sub_cancel]
  rw [if_neg (line_closing fits opened)]

theorem findnth_cut (cut : Cut field) (n : Nat) :
    findnth (line (opening tableName) (field :: fields)) n = .error .endless := by
  obtain ⟨place, found, escaped⟩ := @Cut.found (opening tableName) field fields cut
  simp only [findnth, findSub_line named fields, found]
  rw [if_pos escaped]

end

/-- Every field of a line is found, read and changed. -/
structure Editable (tableName : Text) (row : List Text) : Prop where
  found : ∀ n, findnth (createDumpString tableName row) (n + 1) =
    .ok (place (opening tableName).length (row.map escapeString) n)
  changed : ∀ n, n < row.length → ∀ new,
    changenth (createDumpString tableName row) (n + 1) new false false =
      .ok (true, insertStatement tableName ((row.map escapeString).set n new))
  read : ∀ n field, row[n]? = some field →
    getnth (createDumpString tableName row) (n + 1) = .ok (escapeString field)

theorem createDumpString_line (tableName field : Text) (fields : List Text) :
    createDumpString tableName (field :: fields) =
      line (opening tableName) (escapeString field :: fields.map escapeString) :=
  insertStatement_line ..

theorem editable_of_found {tableName field : Text} {fields : List Text}
    (found : ∀ n, findnth (createDumpString tableName (field :: fields)) (n + 1) =
      .ok (place (opening tableName).length ((field :: fields).map escapeString) n)) :
    Editable tableName (field :: fields) := by
  have split {n : Nat} {text : Text} (here : (field :: fields)[n]? = some text) :=
    @place_split (opening tableName) (escapeString field) (fields.map escapeString) n
      (escapeString text) (by rw [← map_cons, getElem?_map, here, Option.map_some])
  refine ⟨found, fun n inside new => ?_, fun n text here => ?_⟩
  · obtain ⟨first, last, bounds, split, changed⟩ := split (getElem?_eq_getElem inside)
    have result : replaceAt (createDumpString tableName (field :: fields)) first.length
        (first.length + (escapeString (field :: fields)[n]).length) new =
          insertStatement tableName (((field :: fields).map escapeString).set n new) := by
      rw [createDumpString_line, split, replaceAt_between, ← changed new, map_cons]
      cases n <;> exact (insertStatement_line ..).symm
    exact (congrArg (· >>= _) ((found n).trans (congrArg Except.ok bounds))).trans
      (congrArg (fun text => Except.ok (true, text)) result)
  · obtain ⟨first, last, bounds, split, -⟩ := split here
    have result : ((createDumpString tableName (field :: fields)).drop first.length).take
        (first.length + (escapeString text).length - first.length) = escapeString text := by
      rw [createDumpString_line, split, drop_left, Nat.add_sub_cancel_left, take_left]
    exact (congrArg (· >>= _) ((found n).trans (congrArg Except.ok bounds))).trans
      (congrArg Except.ok result)

theorem editable_iff {tableName : Text} (named : '\'' ∉ tableName) {row : List Text}
    (some_ : row ≠ []) : Editable tableName row ↔
      ∀ field ∈ row, '\'' ∉ field ∧ field.getLast? ≠ some '\\' := by
  obtain ⟨field, fields, rfl⟩ := exists_cons_of_ne_nil some_
  have text := createDumpString_line tableName field fields
  have whole : ∀ text ∈ fields.map escapeString, Fits text ∨ Cut text := by
    intro text there
    obtain ⟨other, -, rfl⟩ := mem_map.mp there
    exact (em (Fits other)).imp (escapeString_fits other).mpr escapeString_cut
  simp only [← Fits.eq_def]
  rw [forall_mem_cons]
  by_cases fits : Fits field
  · have rest := @nextFields_iff (opening tableName) (escapeString field) _ whole
    simp only [mem_map, forall_exists_index, and_imp, forall_apply_eq_imp_iff₂,
      escapeString_fits] at rest
    rw [and_iff_right fits, ← rest]
    constructor
    · intro editable n
      have here := editable.found n
      rw [text, findnth_fits named _ ((escapeString_fits field).mpr fits)] at here
      exact Except.ok.inj here
    · intro all
      refine editable_of_found fun n => ?_
      rw [text, findnth_fits named _ ((escapeString_fits field).mpr fits)]
      exact congrArg Except.ok (all n)
  · refine iff_of_false (fun editable => ?_) (fun both => fits both.1)
    have here := editable.found 0
    rw [text, findnth_cut named _ (escapeString_cut fits)] at here
    cases here

theorem editable_plain : Editable "character_pet".toList [['1'], ['R', 'e', 'x'], []] :=
  (editable_iff (by decide) (by decide)).mpr (by decide)

/-- The second field holds a quote. -/
theorem not_editable_quote : ¬ Editable ['m', 'a', 'i', 'l'] [['1'], ['i', 't', '\'', 's']] := by
  intro editable
  have all (n : Nat) : nextFields _ n _ = place _ _ n := Except.ok.inj <| by
    rw [← editable.found n, createDumpString_line, findnth_fits (by decide) _ ⟨by decide, by decide⟩]
  have unfit : ¬ Fits ['i', 't', '\'', 's'] := fun fits => fits.1 (by decide)
  have rest := (@nextFields_iff (opening ['m', 'a', 'i', 'l']) ['1'] _
    (forall_mem_singleton.mpr (Or.inr (escapeString_cut unfit)))).mp all
  exact unfit ((escapeString_fits _).mp (rest _ mem_cons_self))

end OpenWoW.PlayerDump
