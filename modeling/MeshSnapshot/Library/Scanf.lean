import Mathlib.Algebra.Group.Nat.Defs
import Mathlib.Algebra.Ring.Int.Defs
import Mathlib.Data.List.TakeWhile
import MeshSnapshot.Library.Text

/-! `sscanf` on lists of characters, with the directives `%s` with a width, `%d`, white space and
characters. White space is that of the C locale, and an `int` has 32 bits.
-/

namespace MeshSnapshot.Scanf

/-- `isspace` -/
def isSpace (c : Char) : Bool := c == ' ' || (9 ≤ c.toNat && c.toNat ≤ 13)

inductive Directive where
  | char (c : Char)
  | space
  /-- `%s` with a maximal width -/
  | word (width : Nat)
  /-- `%d` -/
  | int

inductive Value where
  | word (text : List Char)
  | int (value : Int)
deriving DecidableEq

/-- The conversion of a number to `int`. -/
def toInt (value : Int) : Int := value.bmod (2 ^ 32)

/-- `strtol` returns the nearest `long`. -/
def toLong (value : Int) : Int := max (-2 ^ 63) (min value (2 ^ 63 - 1))

/-- The number at the front of a text, and the rest. -/
def readNat (text : List Char) : Option (Nat × List Char) :=
  let digits := text.takeWhile Char.isDigit
  if digits = [] then none
  else some (Nat.ofDigitChars 10 digits 0, text.drop digits.length)

/-- What `%d` reads behind white space. -/
def readInt : List Char → Option (Int × List Char)
  | '-' :: text => (readNat text).map fun (n, rest) => (toInt (toLong (-n)), rest)
  | '+' :: text => (readNat text).map fun (n, rest) => (toInt (toLong n), rest)
  | text => (readNat text).map fun (n, rest) => (toInt (toLong n), rest)

/-- The values that `sscanf` stores. It stops where the text does not match. -/
def scan : List Directive → List Char → List Value
  | [], _ => []
  | .char c :: rest, text =>
      match text with
      | [] => []
      | d :: text => if c = d then scan rest text else []
  | .space :: rest, text => scan rest (text.dropWhile isSpace)
  | .word width :: rest, text =>
      let text := text.dropWhile isSpace
      let word := (text.takeWhile fun c => !isSpace c).take width
      if word = [] then [] else .word word :: scan rest (text.drop word.length)
  | .int :: rest, text =>
      match readInt (text.dropWhile isSpace) with
      | none => []
      | some (value, text) => .int value :: scan rest text

/-- The directives of a text without `%` and white space. -/
def chars (text : List Char) : List Directive := text.map .char

/-- A word that is read whole. -/
structure Fits (width : Nat) (word : List Char) : Prop where
  nonempty : word ≠ []
  spaceless : ∀ c ∈ word, isSpace c = false
  short : word.length ≤ width

theorem scan_chars (text : List Char) (rest : List Directive) (more : List Char)
    : scan (chars text ++ rest) (text ++ more) = scan rest more := by
  induction text with
  | nil => rfl
  | cons c text ih =>
      change (if c = c then scan (chars text ++ rest) (text ++ more) else []) = _
      rw [if_pos rfl, ih]

theorem dropWhile_word {word : List Char} (nonempty : word ≠ [])
    (spaceless : ∀ c ∈ word, isSpace c = false) (more : List Char)
    : (word ++ more).dropWhile isSpace = word ++ more := by
  cases word with
  | nil => exact absurd rfl nonempty
  | cons c word =>
      rw [List.cons_append, List.dropWhile_cons_of_neg]
      simp [spaceless c List.mem_cons_self]

/-- A space and a word, up to the end or the next space. -/
theorem scan_word {width : Nat} {word : List Char} (fits : Fits width word)
    (rest : List Directive) {more : List Char} (ends : ∀ c ∈ more.head?, isSpace c = true)
    : scan (.space :: .word width :: rest) (' ' :: (word ++ more))
      = .word word :: scan rest more := by
  have first : (' ' :: (word ++ more)).dropWhile isSpace = word ++ more := by
    rw [List.dropWhile_cons_of_pos (by decide), dropWhile_word fits.nonempty fits.spaceless]
  have whole : ((word ++ more).takeWhile fun c => !isSpace c) = word := by
    rw [List.takeWhile_append_of_pos fun c member => by simp [fits.spaceless c member]]
    cases more with
    | nil => simp
    | cons c more => simp [ends c rfl]
  change scan (.word width :: rest) ((' ' :: (word ++ more)).dropWhile isSpace) = _
  rw [first, scan, dropWhile_word fits.nonempty fits.spaceless, whole,
    List.take_of_length_le fits.short, if_neg fits.nonempty, List.drop_left]

/-- A space ends a word. -/
theorem space_ends (more : List Char) : ∀ c ∈ (' ' :: more).head?, isSpace c = true := by
  simp [isSpace]

theorem readNat_toDigits (n : Nat) : readNat (Nat.toDigits 10 n) = some (n, []) := by
  have all : (Nat.toDigits 10 n).takeWhile Char.isDigit = Nat.toDigits 10 n :=
    List.takeWhile_eq_self_iff.mpr fun c member =>
      Nat.isDigit_of_mem_toDigits (by decide) (by decide) member
  unfold readNat
  rw [all]
  dsimp only
  rw [if_neg Nat.toDigits_ne_nil, List.drop_length, Nat.ofDigitChars_ten_toDigits]

/-- A number that an `int` can hold. -/
def InRange (value : Int) : Prop := -2 ^ 31 ≤ value ∧ value < 2 ^ 31

instance (value : Int) : Decidable (InRange value) := inferInstanceAs (Decidable (_ ∧ _))

theorem toInt_of_inRange {value : Int} (inRange : InRange value) : toInt value = value := by
  obtain ⟨low, high⟩ := inRange
  exact Int.bmod_eq_of_le (by omega) (by omega)

theorem toLong_of_inRange {value : Int} (inRange : InRange value) : toLong value = value := by
  obtain ⟨low, high⟩ := inRange
  unfold toLong
  omega

theorem readInt_str {value : Int} (inRange : InRange value)
    : readInt (Text.str value) = some (value, []) := by
  have kept : toInt (toLong value) = value := by
    rw [toLong_of_inRange inRange, toInt_of_inRange inRange]
  cases value with
  | ofNat n =>
      have all (c : Char) (member : c ∈ Nat.toDigits 10 n) : c.isDigit = true :=
        Nat.isDigit_of_mem_toDigits (by decide) (by decide) member
      unfold Text.str readInt
      split
      case h_1 text shown => exact absurd (all '-' (by simp [shown])) (by decide)
      case h_2 text shown => exact absurd (all '+' (by simp [shown])) (by decide)
      case h_3 =>
        rw [readNat_toDigits]
        exact congrArg (fun value => some (value, [])) kept
  | negSucc n =>
      change (readNat (Nat.toDigits 10 (n + 1))).map (fun (n, rest) =>
        (toInt (toLong (-(n : Int))), rest)) = _
      rw [readNat_toDigits]
      exact congrArg (fun value => some (value, [])) kept

/-- A space and a number at the end. -/
theorem scan_int {value : Int} (inRange : InRange value)
    : scan [.space, .int] (' ' :: Text.str value) = [.int value] := by
  have isToken := Text.isToken_str value
  have spaceless : ∀ c ∈ Text.str value, isSpace c = false := by
    intro c member
    have plain := isToken.spaceless c member
    simp only [Text.isSpace, Bool.or_eq_false_iff, Bool.and_eq_false_iff, decide_eq_false_iff_not,
      beq_eq_false_iff_ne] at plain
    simp only [isSpace, Bool.or_eq_false_iff, Bool.and_eq_false_iff, decide_eq_false_iff_not,
      beq_eq_false_iff_ne]
    refine ⟨?_, by omega⟩
    rintro rfl
    exact absurd plain (by decide)
  have kept := dropWhile_word isToken.nonempty spaceless []
  rw [List.append_nil] at kept
  change scan [.int] ((' ' :: Text.str value).dropWhile isSpace) = _
  rw [List.dropWhile_cons_of_pos (by decide), kept, scan, kept, readInt_str inRange]
  rfl

end MeshSnapshot.Scanf
