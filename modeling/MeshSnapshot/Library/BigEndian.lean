import Mathlib.Data.List.Induction
import Mathlib.Tactic.Ring

/-! Fixed-width unsigned integers in network byte order. -/

namespace MeshSnapshot

abbrev Bytes := List UInt8

/-- The low `width` bytes of `value`, most significant first. -/
def toBigEndian : Nat → Nat → Bytes
  | 0, _ => []
  | width + 1, value => toBigEndian width (value / 256) ++ [UInt8.ofNat (value % 256)]

def ofBigEndian (bytes : Bytes) : Nat :=
  bytes.foldl (fun value byte => value * 256 + byte.toNat) 0

@[simp] theorem toBigEndian_length (width value : Nat)
    : (toBigEndian width value).length = width := by
  induction width generalizing value with
  | zero => rfl
  | succ width ih => simp [toBigEndian, ih]

/-- A value that fits its field is read back unchanged. -/
theorem ofBigEndian_toBigEndian {width value : Nat} (fits : value < 256 ^ width)
    : ofBigEndian (toBigEndian width value) = value := by
  induction width generalizing value with
  | zero =>
      have zero : value = 0 := by simpa using fits
      simp [toBigEndian, ofBigEndian, zero]
  | succ width ih =>
      have high : value / 256 < 256 ^ width := by
        rw [pow_succ] at fits
        omega
      have read := ih high
      simp only [ofBigEndian] at read
      simp only [toBigEndian, ofBigEndian, List.foldl_append, List.foldl_cons,
        List.foldl_nil, read, UInt8.toNat_ofNat']
      omega

theorem ofBigEndian_lt (bytes : Bytes) : ofBigEndian bytes < 256 ^ bytes.length := by
  induction bytes using List.reverseRecOn with
  | nil => simp [ofBigEndian]
  | append_singleton init last ih =>
      simp only [ofBigEndian, List.foldl_append, List.foldl_cons, List.foldl_nil,
        List.length_append, List.length_singleton, pow_succ] at ih ⊢
      have small := last.toNat_lt
      omega

end MeshSnapshot
