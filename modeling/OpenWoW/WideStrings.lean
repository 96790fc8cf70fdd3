import Mathlib.Data.List.Basic
import Mathlib.Logic.Function.Basic

/-! The conversions between UTF-8 and wide strings. -/
namespace OpenWoW.WideString

open List

abbrev Bytes := List UInt8

def isLeadSurrogate (cp : Nat) : Bool := 0xD800 ≤ cp && cp ≤ 0xDBFF

def isTrailSurrogate (cp : Nat) : Bool := 0xDC00 ≤ cp && cp ≤ 0xDFFF

def isCodePointValid (cp : Nat) : Bool :=
  cp ≤ 0x10FFFF && !(isLeadSurrogate cp || isTrailSurrogate cp)

/-- The octets that `utf8::append` writes for a valid code point. -/
def octets (cp : Nat) : Bytes :=
  if cp < 0x80 then [UInt8.ofNat cp]
  else if cp < 0x800 then [UInt8.ofNat (cp / 64 + 0xC0), UInt8.ofNat (cp % 64 + 0x80)]
  else if cp < 0x10000 then
    [UInt8.ofNat (cp / 4096 + 0xE0), UInt8.ofNat (cp / 64 % 64 + 0x80), UInt8.ofNat (cp % 64 + 0x80)]
  else [UInt8.ofNat (cp / 262144 + 0xF0), UInt8.ofNat (cp / 4096 % 64 + 0x80),
    UInt8.ofNat (cp / 64 % 64 + 0x80), UInt8.ofNat (cp % 64 + 0x80)]

def utf16to8 : List Nat → Option Bytes
  | [] => some []
  | wchar :: wstr =>
    let cp := wchar % 0x10000
    if isLeadSurrogate cp then
      match wstr with
      | [] => none
      | wchar' :: wstr =>
        let trailSurrogate := wchar' % 0x10000
        if isTrailSurrogate trailSurrogate then
          (octets ((cp - 0xD800) * 0x400 + (trailSurrogate - 0xDC00) + 0x10000) ++ ·) <$> utf16to8 wstr
        else none
    else if isTrailSurrogate cp then none
    else (octets cp ++ ·) <$> utf16to8 wstr

/-- The units that `utf8::utf8to16` emits for a code point. -/
def units (cp : Nat) : List Nat :=
  if 0xFFFF < cp then [cp / 0x400 + 0xD7C0, cp % 0x400 + 0xDC00] else [cp]

/-- `utf8::next` from the beginning to the end of a text, none where it throws. -/
structure Decoder where
  decode : Bytes → Option (List Nat)
  decoded : ∀ {text points}, decode text = some points →
    (∀ cp ∈ points, isCodePointValid cp = true) ∧ points.flatMap octets = text

/-- The buffer after a call: its cells, the end of those that were written, the size that is
returned, and the result. -/
structure Buffer where
  cells : Nat → Nat
  reach : Nat
  wsize : Nat
  result : Bool

/-- Units written to consecutive cells. -/
def put : Nat → List Nat → (Nat → Nat) → Nat → Nat
  | _, [], cells => cells
  | i, unit :: units, cells => put (i + 1) units (Function.update cells i unit)

variable (d : Decoder) (utf8str : Bytes)

/-- The branches of the overload for a buffer that return false. -/
def emptied (cells : Nat → Nat) (wsize : Nat) : Buffer :=
  if 0 < wsize then ⟨Function.update cells 0 0, 1, 0, false⟩ else ⟨cells, 0, 0, false⟩

def utf8toWStr (cells : Nat → Nat) (wsize : Nat) : Buffer :=
  match d.decode utf8str with
  | none => emptied cells wsize
  | some points =>
    let len := points.length
    if wsize < len then emptied cells wsize
    else
      let written := points.flatMap units
      ⟨Function.update (put 0 written cells) len 0, max written.length (len + 1), len, true⟩

/-- The overload for a string: the string, the number of its characters that were written, and the
result. Where that is more than its size the string is what lies inside. -/
def utf8toWString (wstr : List Nat) : List Nat × Nat × Bool :=
  match d.decode utf8str with
  | none => ([], 0, false)
  | some points =>
    let len := points.length
    if len = 0 then (wstr, 0, true)
    else
      let written := points.flatMap units
      (written.take len, written.length, true)

def Buffer.text (buffer : Buffer) : List Nat := (range buffer.wsize).map buffer.cells

/-- What the overload for a buffer of `wsize + 1` cells is to do. -/
structure Converted (wsize : Nat) (buffer : Buffer) : Prop where
  inside : buffer.reach ≤ wsize + 1
  complete : buffer.result = true →
    (d.decode utf8str).map (·.flatMap units) = some buffer.text ∧ buffer.cells buffer.wsize = 0
  back : buffer.result = true → utf16to8 buffer.text = some utf8str
  empty : buffer.result = false → buffer.wsize = 0

/-- What the overload for a string is to do. -/
structure ConvertedString (outcome : List Nat × Nat × Bool) : Prop where
  inside : outcome.2.1 ≤ outcome.1.length
  back : outcome.2.2 = true → utf16to8 outcome.1 = some utf8str
  empty : outcome.2.2 = false → outcome.1 = []

theorem put_cells (written : List Nat) (cells : Nat → Nat) (i j : Nat) :
    put i written cells j = if i ≤ j then written[j - i]?.getD (cells j) else cells j := by
  induction written generalizing i cells with
  | nil => simp [put]
  | cons unit written ih =>
    rw [put, ih]
    by_cases here : j = i
    · subst here
      rw [if_neg (Nat.not_succ_le_self j), if_pos (Nat.le_refl j), Nat.sub_self, getElem?_cons_zero,
        Function.update_self]
      rfl
    · by_cases behind : i ≤ j
      · have next : j - i = j - (i + 1) + 1 := by omega
        rw [if_pos (by omega), if_pos behind, next, getElem?_cons_succ, Function.update_of_ne here]
      · rw [if_neg (by omega), if_neg behind, Function.update_of_ne here]

theorem flatMap_units {points : List Nat} (basic : ∀ cp ∈ points, cp < 0x10000) :
    points.flatMap units = points := by
  induction points with
  | nil => rfl
  | cons cp points ih =>
    rw [forall_mem_cons] at basic
    rw [flatMap_cons, ih basic.2, units, if_neg (by omega)]
    rfl

theorem units_longer (points : List Nat) : points.length ≤ (points.flatMap units).length ∧
    ((points.flatMap units).length ≤ points.length → ∀ cp ∈ points, cp < 0x10000) := by
  induction points with
  | nil => simp
  | cons cp points ih =>
    have one : (units cp).length = if 0xFFFF < cp then 2 else 1 := by
      rw [units]
      split <;> rfl
    rw [flatMap_cons, length_append, length_cons, one, forall_mem_cons]
    split
    · omega
    · exact ⟨by omega, fun short => ⟨by omega, ih.2 (by omega)⟩⟩

theorem utf16to8_basic {points : List Nat}
    (valid : ∀ cp ∈ points, isCodePointValid cp = true) (basic : ∀ cp ∈ points, cp < 0x10000) :
    utf16to8 points = some (points.flatMap octets) := by
  induction points with
  | nil => rfl
  | cons cp points ih =>
    rw [forall_mem_cons] at valid basic
    have plain := valid.1
    rw [isCodePointValid, Bool.and_eq_true, Bool.not_eq_true', Bool.or_eq_false_iff] at plain
    unfold utf16to8
    dsimp only
    rw [Nat.mod_eq_of_lt basic.1, plain.2.1, plain.2.2, ih valid.2 basic.2]
    rfl

theorem octets_some (cp : Nat) : octets cp ≠ [] := by
  unfold octets
  split_ifs <;> nofun

theorem eq_nil_of_utf16to8 {wstr : List Nat} (none : utf16to8 wstr = some []) : wstr = [] := by
  cases wstr with
  | nil => rfl
  | cons wchar wstr =>
    exfalso
    have never : ∀ {cp : Nat} {rest : Option Bytes}, (octets cp ++ ·) <$> rest ≠ some [] := by
      intro cp rest same
      obtain ⟨text, -, joined⟩ := Option.map_eq_some_iff.mp same
      exact octets_some cp (append_eq_nil_iff.mp joined).1
    unfold utf16to8 at none
    dsimp only at none
    split at none
    · split at none
      · cases none
      · split at none
        · exact never none
        · cases none
    · split at none
      · cases none
      · exact never none

theorem emptied_converted (cells : Nat → Nat) (wsize : Nat) :
    Converted d utf8str wsize (emptied cells wsize) := by
  unfold emptied
  split
  · exact ⟨Nat.le_add_left 1 wsize, nofun, nofun, fun _ => rfl⟩
  · exact ⟨Nat.zero_le _, nofun, nofun, fun _ => rfl⟩

/-- Both overloads do what they are to do exactly where every code point that is written is one
unit, and the one for a string only if an empty text finds an empty string. -/
theorem utf8toWStr_iff :
    (∀ cells wsize, Converted d utf8str wsize (utf8toWStr d utf8str cells wsize) ↔
      ∀ points, d.decode utf8str = some points → points.length ≤ wsize →
        ∀ cp ∈ points, cp < 0x10000) ∧
    ∀ wstr, ConvertedString utf8str (utf8toWString d utf8str wstr) ↔
      ∀ points, d.decode utf8str = some points →
        (points = [] → wstr = []) ∧ ∀ cp ∈ points, cp < 0x10000 := by
  cases text : d.decode utf8str with
  | none =>
    refine ⟨fun cells wsize => iff_of_true ?_ (fun _ none => by cases none),
      fun wstr => iff_of_true ?_ (fun _ none => by cases none)⟩
    · rw [utf8toWStr, text]
      exact emptied_converted d utf8str cells wsize
    · rw [utf8toWString, text]
      exact ⟨Nat.le_refl 0, (fun wrong => by cases wrong), fun _ => rfl⟩
  | some points =>
    obtain ⟨valid, bytes⟩ := d.decoded text
    have longer := units_longer points
    simp only [Option.some.injEq, forall_eq']
    constructor
    · intro cells wsize
      rw [utf8toWStr, text]
      dsimp only
      split
      · rename_i full
        exact iff_of_true (emptied_converted d utf8str cells wsize) fun room => by omega
      · rename_i room
        constructor
        · intro converted _
          have whole := congrArg (Option.map List.length) (converted.complete rfl).1
          rw [text] at whole
          have same : (points.flatMap units).length = points.length := by
            simpa [Buffer.text] using whole
          exact longer.2 (Nat.le_of_eq same)
        · intro basic
          have single := flatMap_units (basic (by omega))
          rw [single, Nat.max_eq_right (Nat.le_succ _)]
          have copied : ∀ wsize result, Buffer.text ⟨Function.update (put 0 points cells) points.length 0,
              wsize, points.length, result⟩ = points := by
            intro wsize result
            apply ext_getElem (by simp [Buffer.text])
            intro i _ inside
            simp [Buffer.text, put_cells, Function.update_of_ne (Nat.ne_of_lt inside), inside]
          refine ⟨Nat.succ_le_succ (by omega), fun _ => ⟨?_, Function.update_self ..⟩, fun _ => ?_,
            fun wrong => by cases wrong⟩
          · rw [text, copied]
            exact congrArg some single
          · rw [copied, utf16to8_basic valid (basic (by omega)), bytes]
    · intro wstr
      rw [utf8toWString, text]
      dsimp only
      split
      · rename_i none
        obtain rfl := eq_nil_of_length_eq_zero none
        constructor
        · intro converted
          have back := converted.back rfl
          rw [← bytes] at back
          exact ⟨fun _ => eq_nil_of_utf16to8 back, fun _ none => by cases none⟩
        · rintro ⟨fresh, -⟩
          rw [fresh rfl]
          exact ⟨Nat.le_refl 0, fun _ => congrArg some bytes, fun wrong => by cases wrong⟩
      · rename_i some
        constructor
        · intro converted
          have inside : (points.flatMap units).length ≤
              ((points.flatMap units).take points.length).length := converted.inside
          rw [length_take] at inside
          exact ⟨fun none => absurd (congrArg List.length none) some, longer.2 (by omega)⟩
        · rintro ⟨-, basic⟩
          rw [flatMap_units basic, take_length]
          refine ⟨Nat.le_refl _, fun _ => ?_, fun wrong => by cases wrong⟩
          rw [utf16to8_basic valid basic, bytes]

def faces : Decoder where
  decode text := if text = (octets 0x1F600 ++ octets 0x1F600) then some [0x1F600, 0x1F600] else none
  decoded := by
    intro text points decoded
    split at decoded
    · rename_i same
      cases decoded
      rw [same]
      exact ⟨by decide, by decide⟩
    · cases decoded

theorem faces_overflow : (utf8toWStr faces (octets 0x1F600 ++ octets 0x1F600) (fun _ => 0) 2).reach = 4 ∧
    ¬ Converted faces (octets 0x1F600 ++ octets 0x1F600) 2
      (utf8toWStr faces (octets 0x1F600 ++ octets 0x1F600) (fun _ => 0) 2) :=
  ⟨by decide, fun converted => absurd converted.inside (by decide)⟩

end OpenWoW.WideString
