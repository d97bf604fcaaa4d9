import Mathlib.Data.List.Basic

/-! A store that keeps the value of a key under a name made from the key, and is searched by name.
Different keys may have the same name, and a search may find names of keys that were not asked for.
-/

namespace MeshSnapshot.FlatStore

variable {κ ν π : Type}

/-- The last write of a selected key. -/
def lastWrite (selects : κ → Bool) (writes : List (κ × ν)) : Option (κ × ν) :=
  writes.reverse.find? (fun write => selects write.1)

variable {selects : κ → Bool} {writes : List (κ × ν)} {write : κ × ν}

theorem lastWrite_concat (selects : κ → Bool) (writes : List (κ × ν)) (write : κ × ν)
    : lastWrite selects (writes ++ [write])
      = if selects write.1 then some write else lastWrite selects writes := by
  rw [lastWrite, List.reverse_concat, List.find?_cons]
  cases selects write.1 <;> rfl

/-- No selected key is written after the last write. -/
theorem lastWrite_eq_some
    : lastWrite selects writes = some write
      ↔ selects write.1 = true
        ∧ ∃ before after,
            writes = before ++ write :: after ∧ ∀ later ∈ after, selects later.1 = false := by
  rw [lastWrite, List.find?_eq_some_iff_append]
  refine and_congr_right fun _ => ?_
  constructor
  · rintro ⟨after, before, reversed, unselected⟩
    refine ⟨before.reverse, after.reverse, ?_, fun later member => ?_⟩
    · rw [← List.reverse_reverse writes, reversed]
      simp
    · simpa using unselected later (List.mem_reverse.mp member)
  · rintro ⟨before, after, rfl, unselected⟩
    refine ⟨after.reverse, before.reverse, by simp, fun later member => ?_⟩
    simpa using unselected later (List.mem_reverse.mp member)

theorem lastWrite_eq_none
    : lastWrite selects writes = none ↔ ∀ write ∈ writes, selects write.1 = false := by
  rw [lastWrite, List.find?_eq_none]
  simp

theorem mem_of_lastWrite (last : lastWrite selects writes = some write) : write ∈ writes := by
  obtain ⟨-, before, after, rfl, -⟩ := lastWrite_eq_some.mp last
  simp

-----------------------------------------------------------------------------------------
-- Searching by name
-----------------------------------------------------------------------------------------

variable [DecidableEq π] (name : κ → π) (asked : κ → Prop) (found : π → Prop)

/-- Whatever a name that is found holds was written for a key that is asked for. -/
def NoStrays (writes : List (κ × ν)) : Prop :=
  ∀ path,
    found path → ∀ write, lastWrite (fun key => name key = path) writes = some write → asked write.1

/-- Every write of another key under a name that is found is overwritten later on, for a key that
is asked for.
-/
def StraysOverwritten (writes : List (κ × ν)) : Prop :=
  ∀ before stray after,
    writes = before ++ stray :: after → ¬ asked stray.1 → found (name stray.1)
    → ∃ later ∈ after, asked later.1 ∧ name later.1 = name stray.1

variable {name asked found}

theorem noStrays_iff : NoStrays name asked found writes ↔ StraysOverwritten name asked found writes := by
  constructor
  · rintro noStrays before stray after rfl other matched
    cases last : lastWrite (fun key => name key = name stray.1) after with
    | some later =>
        have same : name later.1 = name stray.1 := by
          simpa using (lastWrite_eq_some.mp last).1
        obtain ⟨-, earlier, rest, split, unselected⟩ := lastWrite_eq_some.mp last
        refine ⟨later, mem_of_lastWrite last, noStrays _ matched later ?_, same⟩
        refine lastWrite_eq_some.mpr ⟨by simpa using same, before ++ stray :: earlier, rest, ?_,
          unselected⟩
        rw [split]
        simp
    | none =>
        have whole : lastWrite (fun key => name key = name stray.1) (before ++ stray :: after)
            = some stray :=
          lastWrite_eq_some.mpr ⟨by simp, before, after, rfl, lastWrite_eq_none.mp last⟩
        exact absurd (noStrays _ matched stray whole) other
  · intro overwritten path matched write last
    obtain ⟨here, before, after, rfl, unselected⟩ := lastWrite_eq_some.mp last
    have here : name write.1 = path := by simpa using here
    by_contra other
    obtain ⟨later, member, -, same⟩ := overwritten before write after rfl other (here ▸ matched)
    have elsewhere := unselected later member
    simp [same, here] at elsewhere

/-- Without strays, the name of a key that is asked for holds what was last written for it. -/
theorem NoStrays.lastWrite_name [DecidableEq κ] (noStrays : NoStrays name asked found writes)
    {key : κ} (matched : found (name key))
    (injective : ∀ {other}, asked other → name other = name key → other = key)
    : lastWrite (fun other => name other = name key) writes
      = lastWrite (fun other => other = key) writes := by
  cases last : lastWrite (fun other => name other = name key) writes with
  | some write =>
      obtain ⟨here, before, after, split, unselected⟩ := lastWrite_eq_some.mp last
      have same : write.1 = key :=
        injective (noStrays _ matched write last) (by simpa using here)
      refine (lastWrite_eq_some.mpr ⟨by simpa using same, before, after, split, ?_⟩).symm
      intro later member
      have elsewhere := unselected later member
      simp only [decide_eq_false_iff_not] at elsewhere ⊢
      exact fun here => elsewhere (congrArg name here)
  | none =>
      refine (lastWrite_eq_none.mpr fun write member => ?_).symm
      have elsewhere := lastWrite_eq_none.mp last write member
      simp only [decide_eq_false_iff_not] at elsewhere ⊢
      exact fun here => elsewhere (congrArg name here)

end MeshSnapshot.FlatStore
