import Mathlib.Data.List.Basic
import Mathlib.Data.Option.Basic

/-! Python's `str`. Unlike the strings of Lean, it may hold surrogates, which `json.loads` makes of
escapes.
-/

namespace MeshSnapshot

/-- A `str` is a list of code points. -/
@[ext] structure PyStr where
  points : List (Fin 0x110000)
deriving DecidableEq

namespace PyStr

theorem toNat_lt (c : Char) : c.toNat < 0x110000 := by
  have valid : c.toNat < 0xD800 ∨ 0xDFFF < c.toNat ∧ c.toNat < 0x110000 := c.valid
  omega

def ofChar (c : Char) : Fin 0x110000 := ⟨c.toNat, toNat_lt c⟩

def ofString (text : String) : PyStr := ⟨text.toList.map ofChar⟩

instance : Coe String PyStr := ⟨ofString⟩

instance : Append PyStr := ⟨fun text more => ⟨text.points ++ more.points⟩⟩

@[simp] theorem points_ofString (text : String)
    : (ofString text).points = text.toList.map ofChar :=
  rfl

@[simp] theorem points_append (text more : PyStr)
    : (text ++ more).points = text.points ++ more.points :=
  rfl

/-- The character of a code point that is no surrogate. -/
def char? (point : Fin 0x110000) : Option Char :=
  if 0xD800 ≤ point.val ∧ point.val ≤ 0xDFFF then none else some (Char.ofNat point.val)

/-- The string that a `str` without surrogates is. -/
def string? (text : PyStr) : Option String := (text.points.mapM char?).map String.ofList

/-- What `os.fsencode` makes of a code point: a surrogate of U+DC80 to U+DCFF stands for a byte, and
any other cannot be encoded.
-/
def encodePoint (point : Fin 0x110000) : Option (List UInt8) :=
  if 0xDC80 ≤ point.val ∧ point.val ≤ 0xDCFF then some [UInt8.ofNat (point.val - 0xDC00)]
  else (char? point).map String.utf8EncodeChar

/-- `os.fsencode` where the file system encoding is UTF-8. -/
def fsencode (text : PyStr) : Option (List UInt8) :=
  (text.points.mapM encodePoint).map List.flatten

theorem char?_ofChar (c : Char) : char? (ofChar c) = some c := by
  have valid : c.toNat < 0xD800 ∨ 0xDFFF < c.toNat ∧ c.toNat < 0x110000 := c.valid
  have scalar : ¬ (0xD800 ≤ (ofChar c).val ∧ (ofChar c).val ≤ 0xDFFF) := by
    change ¬ (0xD800 ≤ c.toNat ∧ c.toNat ≤ 0xDFFF)
    omega
  rw [char?, if_neg scalar]
  exact congrArg some c.ofNat_toNat

@[simp] theorem string?_ofString (text : String) : (ofString text).string? = some text := by
  have chars (list : List Char) : (list.map ofChar).mapM char? = some list := by
    induction list with
    | nil => rfl
    | cons c rest ih =>
        rw [List.map_cons, List.mapM_cons, char?_ofChar, ih]
        rfl
  rw [string?, ofString, chars, Option.map_some, String.ofList_toList]

theorem ofChar_inj {c d : Char} : ofChar c = ofChar d ↔ c = d := by
  constructor
  · intro same
    exact Option.some.inj ((char?_ofChar c).symm.trans (same ▸ char?_ofChar d))
  · rintro rfl
    rfl

theorem ofChar_of_char? {point : Fin 0x110000} {c : Char} (read : char? point = some c)
    : ofChar c = point := by
  unfold char? at read
  split at read
  case isTrue => cases read
  case isFalse scalar =>
    obtain rfl := Option.some.inj read
    have valid : point.val.isValidChar := by
      have bound := point.isLt
      unfold Nat.isValidChar
      omega
    have same : (Char.ofNat point.val).toNat = point.val := by
      rw [Char.ofNat, dif_pos valid]
      rfl
    exact Fin.ext same

/-- A `str` without surrogates is the string it is read as. -/
theorem ofString_of_string? {text : PyStr} {string : String} (read : text.string? = some string)
    : text = ofString string := by
  obtain ⟨points⟩ := text
  obtain ⟨chars, found, rfl⟩ := Option.map_eq_some_iff.mp read
  rw [ofString, String.toList_ofList]
  clear read
  congr 1
  induction points generalizing chars with
  | nil =>
      obtain rfl := Option.some.inj found
      rfl
  | cons point rest ih =>
      rw [List.mapM_cons] at found
      obtain ⟨c, first, found⟩ := Option.bind_eq_some_iff.mp found
      obtain ⟨others, later, same⟩ := Option.bind_eq_some_iff.mp found
      obtain rfl := Option.some.inj same
      rw [List.map_cons, ofChar_of_char? first, ← ih others later]

-- a null character is encoded, and a surrogate of an escape stands for its byte
example : (PyStr.mk [0x2F, 0, 0xDC80]).fsencode = some [47, 0, 128] := by decide +kernel

end PyStr

end MeshSnapshot
