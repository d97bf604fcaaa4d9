import Mathlib.Data.List.Basic

/-! Python's text functions on lists of characters: `str.split()`, `int()` and `str()` of an integer.
White space and decimal digits are those of Unicode 14.
-/

namespace MeshSnapshot.Text

-----------------------------------------------------------------------------------------
-- `str.split()`
-----------------------------------------------------------------------------------------

/-- `str.isspace()` of one character. -/
def isSpace (c : Char) : Bool :=
  let n := c.toNat
  (9 ≤ n && n ≤ 13) || (28 ≤ n && n ≤ 32) || n == 133 || n == 160 || n == 5760
    || (8192 ≤ n && n ≤ 8202) || n == 8232 || n == 8233 || n == 8239 || n == 8287 || n == 12288

/-- Split at white space, where `word` has already been read of the current word. -/
def splitFrom (word : List Char) : List Char → List (List Char)
  | [] => if word = [] then [] else [word]
  | c :: rest =>
      if isSpace c then
        if word = [] then splitFrom [] rest else word :: splitFrom [] rest
      else
        splitFrom (word ++ [c]) rest

/-- `text.split()` -/
def split (text : List Char) : List (List Char) := splitFrom [] text

/-- A word: at least one character, and no white space. -/
structure IsToken (word : List Char) : Prop where
  nonempty : word ≠ []
  spaceless : ∀ c ∈ word, isSpace c = false

theorem isToken_of_mem_splitFrom {word text part : List Char}
    (spaceless : ∀ c ∈ word, isSpace c = false) (member : part ∈ splitFrom word text)
    : IsToken part := by
  induction text generalizing word with
  | nil =>
      unfold splitFrom at member
      split at member
      · cases member
      · obtain rfl := List.mem_singleton.mp member
        exact ⟨‹_›, spaceless⟩
  | cons c rest ih =>
      unfold splitFrom at member
      split at member
      case isTrue =>
        split at member
        · exact ih (by simp) member
        · rcases List.mem_cons.mp member with rfl | later
          · exact ⟨‹_›, spaceless⟩
          · exact ih (by simp) later
      case isFalse visible =>
        refine ih (fun d inWord => ?_) member
        rcases List.mem_append.mp inWord with earlier | last
        · exact spaceless d earlier
        · rw [List.mem_singleton.mp last]
          exact Bool.eq_false_iff.mpr visible

/-- The parts of a text are words. -/
theorem isToken_of_mem_split {text part : List Char} (member : part ∈ split text)
    : IsToken part :=
  isToken_of_mem_splitFrom (by simp) member

theorem splitFrom_token {word token : List Char} (spaceless : ∀ c ∈ token, isSpace c = false)
    (rest : List Char) : splitFrom word (token ++ rest) = splitFrom (word ++ token) rest := by
  induction token generalizing word with
  | nil => simp
  | cons c token ih =>
      obtain ⟨visible, others⟩ := List.forall_mem_cons.mp spaceless
      rw [List.cons_append, splitFrom, visible, if_neg (by simp), ih others, List.append_assoc,
        List.singleton_append]

/-- A word and a space are split off. -/
theorem split_token_space {token : List Char} (isToken : IsToken token) (rest : List Char)
    : split (token ++ ' ' :: rest) = token :: split rest := by
  have space : isSpace ' ' = true := by decide
  rw [split, splitFrom_token isToken.spaceless, List.nil_append, splitFrom, if_pos space,
    if_neg isToken.nonempty, split]

theorem split_token {token : List Char} (isToken : IsToken token) : split token = [token] := by
  have whole : splitFrom [] (token ++ []) = splitFrom ([] ++ token) [] :=
    splitFrom_token isToken.spaceless []
  rw [List.append_nil, List.nil_append] at whole
  rw [split, whole, splitFrom, if_neg isToken.nonempty]

/-- Two words that are followed by the same separator, which neither contains, are the same. -/
theorem append_cons_inj {separator : Char} {word other rest more : List Char}
    (plain : separator ∉ word) (otherPlain : separator ∉ other)
    (same : word ++ separator :: rest = other ++ separator :: more)
    : word = other ∧ rest = more := by
  induction word generalizing other with
  | nil =>
      cases other with
      | nil => exact ⟨rfl, (List.cons.inj same).2⟩
      | cons c other => exact absurd (List.mem_cons.mpr (.inl (List.cons.inj same).1)) otherPlain
  | cons c word ih =>
      cases other with
      | nil => exact absurd (List.mem_cons.mpr (.inl (List.cons.inj same).1.symm)) plain
      | cons d other =>
          obtain ⟨rfl, tails⟩ := List.cons.inj same
          obtain ⟨rfl, rfl⟩ := ih (fun member => plain (List.mem_cons_of_mem _ member))
            (fun member => otherPlain (List.mem_cons_of_mem _ member)) tails
          exact ⟨rfl, rfl⟩

-----------------------------------------------------------------------------------------
-- `int()` and `str()`
-----------------------------------------------------------------------------------------

/-- The zeros of the decimal digits (category Nd) after ASCII. Ten digits follow each other. -/
def laterZeros : List Nat := [
  0x660, 0x6F0, 0x7C0, 0x966, 0x9E6, 0xA66, 0xAE6, 0xB66, 0xBE6, 0xC66, 0xCE6, 0xD66, 0xDE6,
  0xE50, 0xED0, 0xF20, 0x1040, 0x1090, 0x17E0, 0x1810, 0x1946, 0x19D0, 0x1A80, 0x1A90, 0x1B50,
  0x1BB0, 0x1C40, 0x1C50, 0xA620, 0xA8D0, 0xA900, 0xA9D0, 0xA9F0, 0xAA50, 0xABF0, 0xFF10, 0x104A0,
  0x10D30, 0x11066, 0x110F0, 0x11136, 0x111D0, 0x112F0, 0x11450, 0x114D0, 0x11650, 0x116C0, 0x11730,
  0x118E0, 0x11950, 0x11C50, 0x11D50, 0x11DA0, 0x16A60, 0x16AC0, 0x16B50, 0x1D7CE, 0x1D7D8, 0x1D7E2,
  0x1D7EC, 0x1D7F6, 0x1E140, 0x1E2F0, 0x1E950, 0x1FBF0
]

def digit? (c : Char) : Option Nat :=
  ((0x30 :: laterZeros).find? (fun first => first ≤ c.toNat && c.toNat < first + 10)).map (c.toNat - ·)

/-- Digits, between any two of which there may be one underscore. -/
def digits? : List Char → Option (List Nat)
  | [] => none
  | [c] => (digit? c).map fun d => [d]
  | c :: '_' :: rest => (digit? c).bind fun d => (digits? rest).map (d :: ·)
  | c :: next :: rest => (digit? c).bind fun d => (digits? (next :: rest)).map (d :: ·)

def ofDigits (digits : List Nat) : Nat := digits.foldl (fun value d => 10 * value + d) 0

/-- `int(text)`, for a text without white space. -/
def int? : List Char → Option Int
  | '-' :: text => (digits? text).map fun digits => -(ofDigits digits : Int)
  | '+' :: text => (digits? text).map fun digits => (ofDigits digits : Int)
  | text => (digits? text).map fun digits => (ofDigits digits : Int)

/-- `str(n)` -/
def str (n : Int) : List Char :=
  match n with
  | .ofNat n => Nat.toDigits 10 n
  | .negSucc n => '-' :: Nat.toDigits 10 (n + 1)

theorem isDigit_bounds {c : Char} (isDigit : c.isDigit = true) : 48 ≤ c.toNat ∧ c.toNat ≤ 57 := by
  simp only [Char.isDigit, Bool.and_eq_true, decide_eq_true_eq, ge_iff_le,
    UInt32.le_iff_toNat_le] at isDigit
  exact isDigit

theorem digit?_of_isDigit {c : Char} (isDigit : c.isDigit = true)
    : digit? c = some (c.toNat - '0'.toNat) := by
  obtain ⟨low, high⟩ := isDigit_bounds isDigit
  have first : (decide (0x30 ≤ c.toNat) && decide (c.toNat < 0x30 + 10)) = true := by
    simp only [Bool.and_eq_true, decide_eq_true_eq]
    omega
  simp only [digit?, List.find?_cons, first, Option.map_some]
  rfl

theorem digits?_of_isDigit {text : List Char} (nonempty : text ≠ [])
    (all : ∀ c ∈ text, c.isDigit = true)
    : digits? text = some (text.map fun c => c.toNat - '0'.toNat) := by
  induction text with
  | nil => exact absurd rfl nonempty
  | cons c rest ih =>
      obtain ⟨head, tail⟩ := List.forall_mem_cons.mp all
      cases rest with
      | nil => simp [digits?, digit?_of_isDigit head]
      | cons next rest =>
          have plain : next ≠ '_' := by
            rintro rfl
            exact absurd (tail '_' List.mem_cons_self) (by decide)
          rw [digits?.eq_4 c next rest plain, digit?_of_isDigit head, Option.bind_some,
            ih (List.cons_ne_nil _ _) tail]
          rfl

/-- Reading the decimal digits of a number. -/
theorem digits?_toDigits (n : Nat)
    : (digits? (Nat.toDigits 10 n)).map ofDigits = some n := by
  have all (c : Char) (member : c ∈ Nat.toDigits 10 n) : c.isDigit = true :=
    Nat.isDigit_of_mem_toDigits (by decide) (by decide) member
  rw [digits?_of_isDigit Nat.toDigits_ne_nil all, Option.map_some, ofDigits, List.foldl_map]
  exact congrArg some Nat.ofDigitChars_ten_toDigits

/-- `int(str(n))` is `n`. -/
theorem int?_str (n : Int) : int? (str n) = some n := by
  cases n with
  | ofNat n =>
      have digits := digits?_toDigits n
      have all (c : Char) (member : c ∈ Nat.toDigits 10 n) : c.isDigit = true :=
        Nat.isDigit_of_mem_toDigits (by decide) (by decide) member
      unfold str int?
      obtain ⟨read, found, value⟩ := Option.map_eq_some_iff.mp digits
      split
      case h_1 text shown => exact absurd (all '-' (by simp [shown])) (by decide)
      case h_2 text shown => exact absurd (all '+' (by simp [shown])) (by decide)
      case h_3 => simp [found, value]
  | negSucc n =>
      obtain ⟨read, found, value⟩ := Option.map_eq_some_iff.mp (digits?_toDigits (n + 1))
      simp only [str, int?, found, Option.map_some, value]
      rfl

/-- The text of a number is a word. -/
theorem isToken_str (n : Int) : IsToken (str n) := by
  have digits (n : Nat) : ∀ c ∈ Nat.toDigits 10 n, isSpace c = false := by
    intro c member
    obtain ⟨low, high⟩ :=
      isDigit_bounds (Nat.isDigit_of_mem_toDigits (by decide) (by decide) member)
    simp only [isSpace, Bool.or_eq_false_iff, Bool.and_eq_false_iff, decide_eq_false_iff_not,
      beq_eq_false_iff_ne]
    omega
  cases n with
  | ofNat n => exact ⟨Nat.toDigits_ne_nil, digits n⟩
  | negSucc n =>
      refine ⟨List.cons_ne_nil _ _, fun c member => ?_⟩
      rcases List.mem_cons.mp member with rfl | later
      · decide
      · exact digits (n + 1) c later

example : int? "-1_000".toList = some (-1000) := by decide +kernel

-----------------------------------------------------------------------------------------
-- `str.find()`
-----------------------------------------------------------------------------------------

/-- `text.find(pattern)`, where `none` is `-1`. -/
def find? (pattern : List Char) : List Char → Option Nat
  | [] => if pattern = [] then some 0 else none
  | c :: rest =>
      if pattern.isPrefixOf (c :: rest) then some 0 else (find? pattern rest).map (· + 1)

/-- A pattern at the front of a text is found there. -/
theorem find?_self_append (pattern rest : List Char) : find? pattern (pattern ++ rest) = some 0 := by
  cases whole : pattern ++ rest with
  | nil =>
      obtain ⟨rfl, -⟩ := List.append_eq_nil_iff.mp whole
      rfl
  | cons c others =>
      have front : pattern.isPrefixOf (c :: others) = true := by
        rw [← whole]
        exact List.isPrefixOf_iff_prefix.mpr (List.prefix_append _ _)
      rw [find?, if_pos front]

/-- A prefix without the character that follows the word is one of the word. -/
theorem prefix_of_prefix_append_cons {separator : Char} {pattern word rest : List Char}
    (plain : separator ∉ pattern) (front : pattern <+: word ++ separator :: rest)
    : pattern <+: word := by
  induction pattern generalizing word with
  | nil => exact List.nil_prefix
  | cons c pattern ih =>
      obtain ⟨other, more⟩ := not_or.mp (mt List.mem_cons.mpr plain)
      cases word with
      | nil => exact absurd (List.cons_prefix_cons.mp front).1.symm other
      | cons d word =>
          obtain ⟨same, behind⟩ := List.cons_prefix_cons.mp front
          exact List.cons_prefix_cons.mpr ⟨same, ih more behind⟩

/-- A word that does not contain the pattern is passed over, up to a character that the pattern
does not contain.
-/
theorem find?_append_cons {separator : Char} {pattern word : List Char} (nonempty : pattern ≠ [])
    (plain : separator ∉ pattern) (absent : find? pattern word = none) (rest : List Char)
    : find? pattern (word ++ separator :: rest)
      = (find? pattern rest).map (· + (word.length + 1)) := by
  induction word with
  | nil =>
      have behind : ¬ pattern.isPrefixOf (separator :: rest) = true := fun front =>
        nonempty (List.prefix_nil.mp (@prefix_of_prefix_append_cons separator pattern [] rest plain
          (List.isPrefixOf_iff_prefix.mp front)))
      rw [List.nil_append, find?, if_neg behind]
      rfl
  | cons c word ih =>
      rw [find?] at absent
      split at absent
      case isTrue => cases absent
      case isFalse elsewhere =>
        have behind : ¬ pattern.isPrefixOf (c :: (word ++ separator :: rest)) = true := by
          intro front
          refine elsewhere (List.isPrefixOf_iff_prefix.mpr ?_)
          exact prefix_of_prefix_append_cons plain (List.isPrefixOf_iff_prefix.mp front)
        rw [List.cons_append, find?, if_neg behind, ih (Option.map_eq_none_iff.mp absent),
          Option.map_map]
        rfl

end MeshSnapshot.Text
