import Mathlib.Data.List.Basic
import Mathlib.Data.List.Nodup

/-! Insertion-ordered dictionaries with unique keys, as Python's `dict` and `OrderedDict`.
Uniqueness of the keys is a field, so that no lookup ever has to choose an entry.
-/

namespace MeshSnapshot

/-- A finite map that remembers the order in which its keys were first inserted. -/
structure Dict (κ ν : Type) where
  entries : List (κ × ν) := []
  nodupKeys : (entries.map Prod.fst).Nodup := by simp

namespace Dict

variable {κ ν : Type} [DecidableEq κ]

-----------------------------------------------------------------------------------------
-- Operations on the underlying entries
-----------------------------------------------------------------------------------------

/-- The value of the first entry at `key`. -/
def lookupEntry (key : κ) : List (κ × ν) → Option ν
  | [] => none
  | (k, v) :: rest => if key = k then some v else lookupEntry key rest

/-- Overwrite the value at `key` in place, or append a new entry. -/
def insertEntry (key : κ) (value : ν) : List (κ × ν) → List (κ × ν)
  | [] => [(key, value)]
  | (k, v) :: rest =>
      if k = key then (k, value) :: rest else (k, v) :: insertEntry key value rest

/-- The keys after an insertion are those before it, and `key`. -/
theorem mem_keys_insertEntry {key other : κ} {value : ν} {entries : List (κ × ν)}
    : other ∈ (insertEntry key value entries).map Prod.fst
      ↔ other = key ∨ other ∈ entries.map Prod.fst := by
  induction entries with
  | nil => simp [insertEntry]
  | cons head rest ih =>
      obtain ⟨k, v⟩ := head
      by_cases same : k = key
      · subst same
        simp [insertEntry]
      · simp only [insertEntry, if_neg same, List.map_cons, List.mem_cons, ih]
        tauto

theorem nodup_insertEntry {key : κ} {value : ν} {entries : List (κ × ν)}
    (unique : (entries.map Prod.fst).Nodup)
    : ((insertEntry key value entries).map Prod.fst).Nodup := by
  induction entries with
  | nil => simp [insertEntry]
  | cons head rest ih =>
      obtain ⟨k, v⟩ := head
      obtain ⟨absent, restUnique⟩ := List.nodup_cons.mp unique
      by_cases same : k = key
      · simpa [insertEntry, same] using unique
      · simp only [insertEntry, if_neg same, List.map_cons, List.nodup_cons]
        refine ⟨?_, ih restUnique⟩
        rw [mem_keys_insertEntry, not_or]
        exact ⟨same, absent⟩

-----------------------------------------------------------------------------------------
-- The dictionary interface
-----------------------------------------------------------------------------------------

instance : EmptyCollection (Dict κ ν) where
  emptyCollection := { entries := [] }

instance : Inhabited (Dict κ ν) := ⟨∅⟩

def get? (dict : Dict κ ν) (key : κ) : Option ν := lookupEntry key dict.entries

def keys (dict : Dict κ ν) : List κ := dict.entries.map Prod.fst

def size (dict : Dict κ ν) : Nat := dict.entries.length

/-- `dict[key] = value`: an existing key keeps its place, a new one comes last. -/
def set (dict : Dict κ ν) (key : κ) (value : ν) : Dict κ ν where
  entries := insertEntry key value dict.entries
  nodupKeys := nodup_insertEntry dict.nodupKeys

/-- `del dict[key]`, and nothing when the key is absent. -/
def erase (dict : Dict κ ν) (key : κ) : Dict κ ν where
  entries := dict.entries.filter (fun entry => entry.1 ≠ key)
  nodupKeys := dict.nodupKeys.sublist (List.filter_sublist.map _)

/-- `OrderedDict.move_to_end(key)`, and nothing when the key is absent. -/
def moveToEnd (dict : Dict κ ν) (key : κ) : Dict κ ν :=
  match dict.get? key with
  | some value => (dict.erase key).set key value
  | none => dict

-----------------------------------------------------------------------------------------
-- Lookup laws
-----------------------------------------------------------------------------------------

@[simp] theorem get?_empty (key : κ) : (∅ : Dict κ ν).get? key = none := rfl

private theorem lookupEntry_insert (key other : κ) (value : ν) (entries : List (κ × ν))
    : lookupEntry other (insertEntry key value entries)
      = if other = key then some value else lookupEntry other entries := by
  induction entries with
  | nil => rfl
  | cons head rest ih =>
      obtain ⟨k, v⟩ := head
      by_cases same : k = key
      · subst same
        by_cases hit : other = k <;> simp [insertEntry, lookupEntry, hit]
      · by_cases hit : other = k
        · subst hit
          simp [insertEntry, lookupEntry, same]
        · simp [insertEntry, lookupEntry, same, hit, ih]

@[simp] theorem get?_set (dict : Dict κ ν) (key other : κ) (value : ν)
    : (dict.set key value).get? other
      = if other = key then some value else dict.get? other :=
  lookupEntry_insert key other value dict.entries

private theorem lookupEntry_filter_ne (key other : κ) (entries : List (κ × ν))
    : lookupEntry other (entries.filter (fun entry => entry.1 ≠ key))
      = if other = key then none else lookupEntry other entries := by
  induction entries with
  | nil => simp [lookupEntry]
  | cons head rest ih =>
      obtain ⟨k, v⟩ := head
      by_cases same : k = key
      · subst same
        by_cases hit : other = k <;> simp_all [lookupEntry]
      · by_cases hit : other = k
        · subst hit
          simp [same, lookupEntry]
        · simpa [same, lookupEntry, hit] using ih

@[simp] theorem get?_erase (dict : Dict κ ν) (key other : κ)
    : (dict.erase key).get? other = if other = key then none else dict.get? other :=
  lookupEntry_filter_ne key other dict.entries

@[simp] theorem get?_moveToEnd (dict : Dict κ ν) (key other : κ)
    : (dict.moveToEnd key).get? other = dict.get? other := by
  unfold moveToEnd
  cases found : dict.get? key with
  | none => rfl
  | some value =>
      simp only [get?_set, get?_erase]
      split
      case isTrue here => rw [here, found]
      case isFalse => rfl

private theorem lookupEntry_eq_some_iff {key : κ} {value : ν} {entries : List (κ × ν)}
    (unique : (entries.map Prod.fst).Nodup)
    : lookupEntry key entries = some value ↔ (key, value) ∈ entries := by
  induction entries with
  | nil => simp [lookupEntry]
  | cons head rest ih =>
      obtain ⟨k, v⟩ := head
      obtain ⟨absent, restUnique⟩ := List.nodup_cons.mp unique
      by_cases hit : key = k
      · subst hit
        have outside : (key, value) ∉ rest := fun member =>
          absent (List.mem_map.mpr ⟨(key, value), member, rfl⟩)
        simp [lookupEntry, outside, eq_comm]
      · simp [lookupEntry, hit, ih restUnique]

/-- With unique keys, the entries are exactly the graph of the lookup. -/
theorem mem_entries_iff {dict : Dict κ ν} {key : κ} {value : ν}
    : (key, value) ∈ dict.entries ↔ dict.get? key = some value :=
  (lookupEntry_eq_some_iff dict.nodupKeys).symm

theorem mem_keys_iff {dict : Dict κ ν} {key : κ}
    : key ∈ dict.keys ↔ ∃ value, dict.get? key = some value := by
  simp only [keys, List.mem_map, Prod.exists, exists_and_right, exists_eq_right,
    mem_entries_iff]

theorem get?_eq_none_iff {dict : Dict κ ν} {key : κ}
    : dict.get? key = none ↔ key ∉ dict.keys := by
  simp only [mem_keys_iff, Option.eq_none_iff_forall_ne_some, not_exists, ne_eq]

omit [DecidableEq κ] in
@[simp] theorem keys_empty : (∅ : Dict κ ν).keys = [] := rfl

theorem keys_erase (dict : Dict κ ν) (key : κ)
    : (dict.erase key).keys = dict.keys.filter (fun other => other ≠ key) := by
  rw [keys, erase, keys, List.filter_map]
  rfl

/-- A new key comes last. -/
theorem keys_set_of_absent {dict : Dict κ ν} {key : κ} (value : ν) (absent : key ∉ dict.keys)
    : (dict.set key value).keys = dict.keys ++ [key] := by
  obtain ⟨entries, unique⟩ := dict
  simp only [keys, set] at absent ⊢
  clear unique
  induction entries with
  | nil => rfl
  | cons head rest ih =>
      obtain ⟨other, outside⟩ := not_or.mp (List.mem_cons.not.mp absent)
      rw [insertEntry, if_neg (Ne.symm other), List.map_cons, ih outside]
      rfl

/-- A present key moves behind all others. -/
theorem keys_moveToEnd {dict : Dict κ ν} {key : κ} (present : key ∈ dict.keys)
    : (dict.moveToEnd key).keys = dict.keys.filter (fun other => other ≠ key) ++ [key] := by
  obtain ⟨value, found⟩ := mem_keys_iff.mp present
  have absent : key ∉ (dict.erase key).keys := by simp [keys_erase]
  rw [moveToEnd, found]
  exact (keys_set_of_absent value absent).trans (by rw [keys_erase])

/-- Of what is listed entry by entry, the part that belongs to `key` comes from its entry. -/
theorem filter_flatMap_entries {β : Type} (dict : Dict κ ν) (key : κ)
    (list : κ × ν → List β) (owner : β → κ)
    (owned : ∀ entry, ∀ item ∈ list entry, owner item = entry.1)
    : (dict.entries.flatMap list).filter (fun item => owner item = key)
      = ((dict.get? key).map (fun value => list (key, value))).getD [] := by
  obtain ⟨entries, unique⟩ := dict
  simp only [get?]
  induction entries with
  | nil => rfl
  | cons head rest ih =>
      obtain ⟨k, v⟩ := head
      obtain ⟨absent, restUnique⟩ := List.nodup_cons.mp unique
      rw [List.flatMap_cons, List.filter_append, ih restUnique]
      by_cases here : key = k
      · subst here
        have all : (list (key, v)).filter (fun item => owner item = key) = list (key, v) :=
          List.filter_eq_self.mpr fun item member => decide_eq_true (owned _ item member)
        have gone : lookupEntry key rest = none :=
          Option.eq_none_iff_forall_ne_some.mpr fun value found =>
            absent (List.mem_map.mpr
              ⟨(key, value), (lookupEntry_eq_some_iff restUnique).mp found, rfl⟩)
        simp [lookupEntry, all, gone]
      · have none : (list (k, v)).filter (fun item => owner item = key) = [] :=
          List.filter_eq_nil_iff.mpr fun item member same =>
            here ((of_decide_eq_true same).symm.trans (owned _ item member))
        simp [lookupEntry, here, none]

/-- Removing a present key leaves strictly fewer entries, which bounds pop loops. -/
theorem size_erase_lt {dict : Dict κ ν} {key : κ} {value : ν}
    (present : dict.get? key = some value)
    : (dict.erase key).size < dict.size := by
  refine List.length_filter_lt_length_iff_exists.mpr
    ⟨(key, value), mem_entries_iff.mpr present, ?_⟩
  simp

/-- A dictionary in which every lookup fails is the empty one. -/
theorem eq_empty_of_get? {dict : Dict κ ν} (absent : ∀ key, dict.get? key = none)
    : dict = ∅ := by
  obtain ⟨entries, unique⟩ := dict
  cases entries with
  | nil => rfl
  | cons head rest =>
      have missing := absent head.1
      simp [get?, lookupEntry] at missing

omit [DecidableEq κ] in
theorem eq_empty_of_size {dict : Dict κ ν} (empty : dict.size = 0) : dict = ∅ := by
  obtain ⟨entries, unique⟩ := dict
  obtain rfl := List.length_eq_zero_iff.mp empty
  rfl

end Dict

end MeshSnapshot
