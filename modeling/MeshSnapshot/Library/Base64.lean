import MeshSnapshot.Library.BigEndian
import Mathlib.Tactic.IntervalCases

/-! The standard base64 alphabet with padding, and a decoder that inverts the encoder. -/

namespace MeshSnapshot.Base64

def alphabet : List Char :=
  "ABCDEFGHIJKLMNOPQRSTUVWXYZabcdefghijklmnopqrstuvwxyz0123456789+/".toList

/-- The character for a six-bit value. -/
def encodeSextet (value : Nat) : Char := alphabet.getD value '='

/-- The six-bit value of a character of the alphabet. -/
def sextet? (c : Char) : Option Nat :=
  if alphabet.contains c then some (alphabet.idxOf c) else none

def encodeChars : Bytes → List Char
  | [] => []
  | [a] =>
      [encodeSextet (a.toNat / 4), encodeSextet (a.toNat % 4 * 16), '=', '=']
  | [a, b] =>
      [encodeSextet (a.toNat / 4), encodeSextet (a.toNat % 4 * 16 + b.toNat / 16),
        encodeSextet (b.toNat % 16 * 4), '=']
  | a :: b :: c :: rest =>
      encodeSextet (a.toNat / 4)
        :: encodeSextet (a.toNat % 4 * 16 + b.toNat / 16)
        :: encodeSextet (b.toNat % 16 * 4 + c.toNat / 64)
        :: encodeSextet (c.toNat % 64)
        :: encodeChars rest

/-- `base64.b64encode(data).decode("ascii")` -/
def encode (data : Bytes) : String := String.ofList (encodeChars data)

/-- Decode groups of four characters. A short or wrongly padded group is an error. -/
def decodeChars : List Char → Option Bytes
  | [] => some []
  | [p, q, '=', '='] => do
      let p ← sextet? p
      let q ← sextet? q
      return [UInt8.ofNat (p * 4 + q / 16)]
  | [p, q, r, '='] => do
      let p ← sextet? p
      let q ← sextet? q
      let r ← sextet? r
      return [UInt8.ofNat (p * 4 + q / 16), UInt8.ofNat (q % 16 * 16 + r / 4)]
  | p :: q :: r :: s :: rest => do
      let p ← sextet? p
      let q ← sextet? q
      let r ← sextet? r
      let s ← sextet? s
      let tail ← decodeChars rest
      return UInt8.ofNat (p * 4 + q / 16) :: UInt8.ofNat (q % 16 * 16 + r / 4)
        :: UInt8.ofNat (r % 4 * 64 + s) :: tail
  | _ => none

/-- `base64.b64decode(text)`: characters outside the alphabet are discarded first. -/
def decode (text : String) : Option Bytes :=
  decodeChars (text.toList.filter (fun c => alphabet.contains c || c == '='))

theorem alphabet_letters : alphabet.length = 64 ∧ alphabet.Nodup ∧ '=' ∉ alphabet := by
  decide +kernel

theorem encodeSextet_eq {value : Nat} (small : value < alphabet.length)
    : encodeSextet value = alphabet[value] := by
  simp [encodeSextet, small]

theorem encodeSextet_mem {value : Nat} (small : value < 64)
    : encodeSextet value ∈ alphabet := by
  rw [encodeSextet_eq (alphabet_letters.1 ▸ small)]
  exact List.getElem_mem _

theorem sextet?_encodeSextet {value : Nat} (small : value < 64)
    : sextet? (encodeSextet value) = some value := by
  rw [sextet?, List.contains_iff_mem.mpr (encodeSextet_mem small), if_pos rfl,
    encodeSextet_eq (alphabet_letters.1 ▸ small), alphabet_letters.2.1.idxOf_getElem]

theorem encodeSextet_ne_pad {value : Nat} (small : value < 64)
    : encodeSextet value ≠ '=' := by
  intro padded
  exact alphabet_letters.2.2 (padded ▸ encodeSextet_mem small)

/-- Every encoded character survives the decoder's discarding pass. -/
theorem mem_of_mem_encodeChars {data : Bytes} {c : Char} (member : c ∈ encodeChars data)
    : c ∈ alphabet ∨ c = '=' := by
  induction data using encodeChars.induct with
  | case1 => cases member
  | case2 a =>
      have := a.toNat_lt
      have p := encodeSextet_mem (show a.toNat / 4 < 64 by omega)
      have q := encodeSextet_mem (show a.toNat % 4 * 16 < 64 by omega)
      simp only [encodeChars, List.mem_cons, List.not_mem_nil, or_false] at member
      rcases member with rfl | rfl | rfl | rfl <;> simp [p, q]
  | case3 a b =>
      have := a.toNat_lt
      have := b.toNat_lt
      have p := encodeSextet_mem (show a.toNat / 4 < 64 by omega)
      have q := encodeSextet_mem (show a.toNat % 4 * 16 + b.toNat / 16 < 64 by omega)
      have r := encodeSextet_mem (show b.toNat % 16 * 4 < 64 by omega)
      simp only [encodeChars, List.mem_cons, List.not_mem_nil, or_false] at member
      rcases member with rfl | rfl | rfl | rfl <;> simp [p, q, r]
  | case4 a b c rest ih =>
      have := a.toNat_lt
      have := b.toNat_lt
      have := c.toNat_lt
      have p := encodeSextet_mem (show a.toNat / 4 < 64 by omega)
      have q := encodeSextet_mem (show a.toNat % 4 * 16 + b.toNat / 16 < 64 by omega)
      have r := encodeSextet_mem (show b.toNat % 16 * 4 + c.toNat / 64 < 64 by omega)
      have s := encodeSextet_mem (show c.toNat % 64 < 64 by omega)
      simp only [encodeChars, List.mem_cons] at member
      rcases member with rfl | rfl | rfl | rfl | later
      · exact Or.inl p
      · exact Or.inl q
      · exact Or.inl r
      · exact Or.inl s
      · exact ih later

/-- Decoding the four characters of a full group gives back its three bytes. -/
private theorem decodeChars_group {p q r s : Nat} {rest : List Char} {tail : Bytes}
    (hp : p < 64) (hq : q < 64) (hr : r < 64) (hs : s < 64)
    (decoded : decodeChars rest = some tail)
    : decodeChars (encodeSextet p :: encodeSextet q :: encodeSextet r :: encodeSextet s :: rest)
      = some (UInt8.ofNat (p * 4 + q / 16) :: UInt8.ofNat (q % 16 * 16 + r / 4)
          :: UInt8.ofNat (r % 4 * 64 + s) :: tail) := by
  have noPad := encodeSextet_ne_pad hs
  rw [decodeChars.eq_4]
  · simp [sextet?_encodeSextet, hp, hq, hr, hs, decoded]
  · intro _ pad _
    exact absurd pad noPad
  · intro pad _
    exact absurd pad noPad

theorem decodeChars_encodeChars (data : Bytes) : decodeChars (encodeChars data) = some data := by
  induction data using encodeChars.induct with
  | case1 => rfl
  | case2 a =>
      have := a.toNat_lt
      have hp : a.toNat / 4 < 64 := by omega
      have hq : a.toNat % 4 * 16 < 64 := by omega
      have first : a.toNat / 4 * 4 + a.toNat % 4 * 16 / 16 = a.toNat := by omega
      simp only [encodeChars, decodeChars, sextet?_encodeSextet, hp, hq, first,
        Option.bind_eq_bind, Option.bind_some, Option.pure_def, UInt8.ofNat_toNat]
  | case3 a b =>
      have := a.toNat_lt
      have := b.toNat_lt
      have hp : a.toNat / 4 < 64 := by omega
      have hq : a.toNat % 4 * 16 + b.toNat / 16 < 64 := by omega
      have hr : b.toNat % 16 * 4 < 64 := by omega
      have noPad := encodeSextet_ne_pad hr
      have first : a.toNat / 4 * 4 + (a.toNat % 4 * 16 + b.toNat / 16) / 16 = a.toNat := by omega
      have second
          : (a.toNat % 4 * 16 + b.toNat / 16) % 16 * 16 + b.toNat % 16 * 4 / 4 = b.toNat := by
        omega
      rw [encodeChars, decodeChars.eq_3]
      · simp only [sextet?_encodeSextet, hp, hq, hr, first, second, Option.bind_eq_bind,
          Option.bind_some, Option.pure_def, UInt8.ofNat_toNat]
      · intro pad
        exact absurd pad noPad
  | case4 a b c rest ih =>
      have := a.toNat_lt
      have := b.toNat_lt
      have := c.toNat_lt
      have first : a.toNat / 4 * 4 + (a.toNat % 4 * 16 + b.toNat / 16) / 16 = a.toNat := by omega
      have second
          : (a.toNat % 4 * 16 + b.toNat / 16) % 16 * 16 + (b.toNat % 16 * 4 + c.toNat / 64) / 4
            = b.toNat := by
        omega
      have third : (b.toNat % 16 * 4 + c.toNat / 64) % 4 * 64 + c.toNat % 64 = c.toNat := by omega
      rw [encodeChars, decodeChars_group (by omega) (by omega) (by omega) (by omega) ih,
        first, second, third]
      simp

/-- The decoder inverts the encoder on every byte string. -/
@[simp] theorem decode_encode (data : Bytes) : decode (encode data) = some data := by
  have kept : (encodeChars data).filter (fun c => alphabet.contains c || c == '=')
      = encodeChars data := by
    refine List.filter_eq_self.mpr (fun c member => ?_)
    simpa using mem_of_mem_encodeChars member
  simp only [decode, encode, String.toList_ofList, kept, decodeChars_encodeChars]

end MeshSnapshot.Base64
