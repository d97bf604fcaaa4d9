import MeshSnapshot.Library.Dict
import Mathlib.Data.List.Dedup

/-! Least-recently-used caches over an insertion-ordered dictionary. Of every key the last
request counts, so that the cached keys are the last ones of the requests without repetitions.
-/

namespace MeshSnapshot.Lru

variable {κ ν : Type} [DecidableEq κ]

/-- The `capacity` most recently requested distinct keys, in the order of their last request. -/
def recent (capacity : Nat) (requests : List κ) : List κ :=
  requests.dedup.drop (requests.dedup.length - capacity)

theorem nodup_recent (capacity : Nat) (requests : List κ) : (recent capacity requests).Nodup :=
  (List.nodup_dedup requests).sublist (List.drop_sublist _ _)

theorem recent_length (capacity : Nat) (requests : List κ)
    : (recent capacity requests).length = min capacity requests.dedup.length := by
  rw [recent, List.length_drop]
  omega

/-- A further request moves its key behind all others. -/
theorem dedup_concat (requests : List κ) (key : κ)
    : (requests ++ [key]).dedup = requests.dedup.filter (fun other => other ≠ key) ++ [key] := by
  induction requests with
  | nil => rfl
  | cons head rest ih =>
      rw [List.cons_append]
      by_cases again : head ∈ rest
      · rw [List.dedup_cons_of_mem (List.mem_append_left _ again), List.dedup_cons_of_mem again, ih]
      · by_cases same : head = key
        · subst same
          rw [List.dedup_cons_of_mem (by simp), List.dedup_cons_of_notMem again, ih]
          simp
        · have absent : head ∉ rest ++ [key] := by simp [again, same]
          rw [List.dedup_cons_of_notMem absent, List.dedup_cons_of_notMem again, ih]
          simp [same]

/-- The requests without repetitions are those that are no longer recent, and the recent ones. -/
theorem older_append_recent (capacity : Nat) (requests : List κ)
    : ∃ older,
        requests.dedup = older ++ recent capacity requests
        ∧ older.length = requests.dedup.length - capacity :=
  ⟨requests.dedup.take (requests.dedup.length - capacity), (List.take_append_drop _ _).symm,
    by rw [List.length_take]; omega⟩

/-- Without repetitions, a key is dropped exactly once. -/
theorem length_filter_ne {keys : List κ} {key : κ} (unique : keys.Nodup) (member : key ∈ keys)
    : (keys.filter (fun other => other ≠ key)).length + 1 = keys.length := by
  have erased : keys.erase key = keys.filter (fun other => other ≠ key) := by
    rw [unique.erase_eq_filter key]
    exact List.filter_congr fun other _ => by simp [bne, beq_eq_decide]
  rw [← erased]
  exact List.length_erase_add_one member

/-- A key that does not occur is not dropped. -/
theorem filter_ne_of_notMem {keys : List κ} {key : κ} (absent : key ∉ keys)
    : keys.filter (fun other => other ≠ key) = keys :=
  List.filter_eq_self.mpr fun _ member => decide_eq_true fun same => absent (same ▸ member)

/-- A request for a recent key moves the key to the end. -/
theorem recent_hit {capacity : Nat} {requests : List κ} {key : κ}
    (cached : key ∈ recent capacity requests)
    : recent capacity (requests ++ [key])
      = (recent capacity requests).filter (fun other => other ≠ key) ++ [key] := by
  obtain ⟨older, split, olderLength⟩ := older_append_recent capacity requests
  have unique : (older ++ recent capacity requests).Nodup := split ▸ List.nodup_dedup requests
  have outside : key ∉ older := fun member =>
    (List.nodup_append.mp unique).2.2 key member key cached rfl
  have next : (requests ++ [key]).dedup
      = older ++ ((recent capacity requests).filter (fun other => other ≠ key) ++ [key]) := by
    rw [dedup_concat, split, List.filter_append, filter_ne_of_notMem outside, List.append_assoc]
  have length : (requests ++ [key]).dedup.length = requests.dedup.length := by
    have shorter := length_filter_ne (nodup_recent capacity requests) cached
    rw [next, split]
    simp only [List.length_append, List.length_singleton]
    omega
  rw [recent, length, next, List.drop_left' olderLength]

/-- A request for another key pushes the oldest recent key out once the capacity is reached. -/
theorem recent_miss {capacity : Nat} {requests : List κ} {key : κ} (positive : 0 < capacity)
    (absent : key ∉ recent capacity requests)
    : recent capacity (requests ++ [key])
      = (if capacity ≤ (recent capacity requests).length then (recent capacity requests).tail
          else recent capacity requests) ++ [key] := by
  obtain ⟨older, split, olderLength⟩ := older_append_recent capacity requests
  have length := recent_length capacity requests
  have next : (requests ++ [key]).dedup
      = older.filter (fun other => other ≠ key) ++ (recent capacity requests ++ [key]) := by
    rw [dedup_concat, split, List.filter_append, filter_ne_of_notMem absent, List.append_assoc]
  have total : (requests ++ [key]).dedup.length
      = (older.filter (fun other => other ≠ key)).length
        + ((recent capacity requests).length + 1) := by
    rw [next, List.length_append, List.length_append, List.length_singleton]
  split
  case isTrue full =>
    have excess : (requests ++ [key]).dedup.length - capacity
        = (older.filter (fun other => other ≠ key)).length + 1 := by
      omega
    have nonempty : recent capacity requests ≠ [] := by
      intro none
      rw [none, List.length_nil] at full
      omega
    rw [recent, excess, next, List.drop_length_add_append, List.drop_one,
      List.tail_append_of_ne_nil nonempty]
  case isFalse roomy =>
    have none : older = [] := List.length_eq_zero_iff.mp (by omega)
    have excess : (requests ++ [key]).dedup.length - capacity = 0 := by
      simp only [none, List.filter_nil, List.length_nil] at total
      omega
    rw [recent, excess, next, none]
    rfl

-----------------------------------------------------------------------------------------
-- Runs of a cache
-----------------------------------------------------------------------------------------

/-- The entry that a miss pushes out: the oldest one, once the capacity is reached. -/
def evicted (capacity : Nat) (cache : Dict κ ν) : Option (κ × ν) :=
  if capacity ≤ cache.size then cache.entries.head? else none

/-- The cache after the eviction at the head of a miss. -/
def makeRoom (capacity : Nat) (cache : Dict κ ν) : Dict κ ν :=
  match evicted capacity cache with
  | some (oldKey, _) => cache.erase oldKey
  | none => cache

/-- What a cache holds after requests that were answered as logged, and the values that were
dropped from it so far. The answer to a miss is a value never seen before.
-/
inductive Run (capacity : Nat) : List (κ × ν) → Dict κ ν → List ν → Prop where
  | empty : Run capacity [] ∅ []
  | hit {log : List (κ × ν)} {cache : Dict κ ν} {dropped : List ν} {key : κ} {value : ν}
    (before : Run capacity log cache dropped) (found : cache.get? key = some value)
    : Run capacity (log ++ [(key, value)]) (cache.moveToEnd key) dropped
  | miss {log : List (κ × ν)} {cache : Dict κ ν} {dropped : List ν} {key : κ} {value : ν}
    (before : Run capacity log cache dropped) (absent : cache.get? key = none)
    (fresh : ∀ entry ∈ log, entry.2 ≠ value)
    : Run capacity (log ++ [(key, value)]) ((makeRoom capacity cache).set key value)
        (dropped ++ (evicted capacity cache).toList.map Prod.snd)

/-- An eviction takes the head of the keys. -/
theorem keys_makeRoom (capacity : Nat) (cache : Dict κ ν)
    : (makeRoom capacity cache).keys
      = if capacity ≤ cache.keys.length then cache.keys.tail else cache.keys := by
  obtain ⟨entries, unique⟩ := cache
  cases entries with
  | nil => simp [makeRoom, evicted, Dict.keys]
  | cons head rest =>
      have absent : head.1 ∉ rest.map Prod.fst := (List.nodup_cons.mp unique).1
      by_cases full : capacity ≤ rest.length + 1
      · have out : evicted capacity ⟨head :: rest, unique⟩ = some head := by
          simp [evicted, Dict.size, full]
        rw [makeRoom, out, Dict.keys_erase]
        simpa [Dict.keys, full] using filter_ne_of_notMem absent
      · simp [makeRoom, evicted, Dict.size, Dict.keys, full]

/-- What is still found after an eviction was found before it, under another key. -/
theorem get?_makeRoom (capacity : Nat) (cache : Dict κ ν) (key : κ)
    : (makeRoom capacity cache).get? key
      = if (evicted capacity cache).map Prod.fst = some key then none else cache.get? key := by
  unfold makeRoom
  cases evicted capacity cache with
  | none => simp
  | some entry => simp [eq_comm]

/-- What is evicted was cached. -/
theorem evicted_found {capacity : Nat} {cache : Dict κ ν} {key : κ} {value : ν}
    (gone : evicted capacity cache = some (key, value))
    : cache.get? key = some value := by
  unfold evicted at gone
  split at gone
  case isTrue => exact Dict.mem_entries_iff.mp (List.mem_of_head? gone)
  case isFalse => cases gone

/-- The key of an entry that was just logged stays among the recent ones while `between` is
logged.
-/
def Stays (capacity : Nat) (key : κ) (earlier between : List (κ × ν)) : Prop :=
  ∀ shorter, shorter <+: between → key ∈ recent capacity ((earlier ++ shorter).map Prod.fst)

/-- What holds of a cache, its log, and the values it has dropped. -/
structure Facts (capacity : Nat) (log : List (κ × ν)) (cache : Dict κ ν) (dropped : List ν)
    : Prop where
  keys : cache.keys = recent capacity (log.map Prod.fst)
  logged : ∀ {key value}, cache.get? key = some value → (key, value) ∈ log
  /-- A value was the answer for one key only. -/
  owner : ∀ {key other value}, (key, value) ∈ log → (other, value) ∈ log → key = other
  gone : ∀ value, value ∈ dropped ↔ ∃ key, (key, value) ∈ log ∧ cache.get? key ≠ some value
  once : dropped.Nodup
  /-- An answer stays cached until its key is evicted. -/
  held : ∀ {earlier between key value}, log = earlier ++ (key, value) :: between →
    Stays capacity key (earlier ++ [(key, value)]) between → cache.get? key = some value
  /-- Until then it is the answer to every request for the key. -/
  again : ∀ {earlier between later key value answer},
    log = (earlier ++ (key, value) :: between) ++ (key, answer) :: later →
      Stays capacity key (earlier ++ [(key, value)]) between → answer = value

omit [DecidableEq κ] in
/-- An entry of a log that has grown is the new one, or was followed by one entry less. -/
private theorem concat_eq_split {log earlier between : List (κ × ν)} {entry last : κ × ν}
    (split : log ++ [last] = earlier ++ entry :: between)
    : (last = entry ∧ log = earlier)
      ∨ ∃ shorter, between = shorter ++ [last] ∧ log = earlier ++ entry :: shorter := by
  rcases List.eq_nil_or_concat' between with rfl | ⟨shorter, final, rfl⟩
  · obtain ⟨front, same⟩ := List.append_inj' split rfl
    exact .inl ⟨List.singleton_inj.mp same, front⟩
  · have parts : log ++ [last] = (earlier ++ entry :: shorter) ++ [final] := by
      simpa using split
    obtain ⟨front, same⟩ := List.append_inj' parts rfl
    obtain rfl := List.singleton_inj.mp same
    exact .inr ⟨shorter, rfl, front⟩

theorem Stays.shorter {capacity : Nat} {key : κ} {earlier shorter more : List (κ × ν)}
    (stays : Stays capacity key earlier (shorter ++ more))
    : Stays capacity key earlier shorter :=
  fun _ part => stays _ (part.trans (List.prefix_append _ _))

theorem Facts.empty (capacity : Nat) : Facts capacity [] (∅ : Dict κ ν) [] where
  keys := by simp [recent]
  logged := fun found => by cases found
  owner := fun logged => by cases logged
  gone := fun value => by simp
  once := List.nodup_nil
  held := fun split => absurd split (by simp)
  again := fun split => absurd split (by simp)

/-- A hit only moves its key to the end. -/
theorem Facts.hit {capacity : Nat} {log : List (κ × ν)} {cache : Dict κ ν} {dropped : List ν}
    {key : κ} {value : ν} (facts : Facts capacity log cache dropped)
    (found : cache.get? key = some value)
    : Facts capacity (log ++ [(key, value)]) (cache.moveToEnd key) dropped := by
  have known (entry : κ × ν) : entry ∈ log ++ [(key, value)] ↔ entry ∈ log := by
    rw [List.mem_append, List.mem_singleton, or_iff_left_of_imp]
    rintro rfl
    exact facts.logged found
  have cached : key ∈ cache.keys := Dict.mem_keys_iff.mpr ⟨value, found⟩
  constructor
  case keys =>
    rw [Dict.keys_moveToEnd cached, List.map_append, List.map_singleton,
      recent_hit (facts.keys ▸ cached), facts.keys]
  case logged =>
    intro other answer found
    rw [Dict.get?_moveToEnd] at found
    exact (known _).mpr (facts.logged found)
  case owner =>
    intro one other answer first second
    exact facts.owner ((known _).mp first) ((known _).mp second)
  case gone =>
    intro answer
    simp only [facts.gone, known, Dict.get?_moveToEnd]
  case once => exact facts.once
  case held =>
    intro earlier between other answer split stays
    rw [Dict.get?_moveToEnd]
    rcases concat_eq_split split with ⟨same, -⟩ | ⟨shorter, rfl, before⟩
    · obtain ⟨rfl, rfl⟩ := Prod.mk.inj same
      exact found
    · exact facts.held before stays.shorter
  case again =>
    intro earlier between later other first answer split stays
    rcases concat_eq_split split with ⟨same, before⟩ | ⟨shorter, -, before⟩
    · obtain ⟨rfl, rfl⟩ := Prod.mk.inj same
      exact Option.some.inj (found.symm.trans (facts.held before stays))
    · exact facts.again before stays

/-- After a miss, the new value is cached, and all others but the evicted one still are. -/
theorem get?_miss (capacity : Nat) (cache : Dict κ ν) (key other : κ) (value : ν)
    : ((makeRoom capacity cache).set key value).get? other
      = if other = key then some value
        else if (evicted capacity cache).map Prod.fst = some other then none
        else cache.get? other := by
  rw [Dict.get?_set, get?_makeRoom]

theorem keys_miss {capacity : Nat} {cache : Dict κ ν} {key : κ} (value : ν)
    (absent : cache.get? key = none)
    : ((makeRoom capacity cache).set key value).keys
      = (if capacity ≤ cache.keys.length then cache.keys.tail else cache.keys) ++ [key] := by
  have outside : key ∉ (makeRoom capacity cache).keys := by
    rw [← Dict.get?_eq_none_iff, get?_makeRoom, absent, ite_self]
  rw [Dict.keys_set_of_absent value outside, keys_makeRoom]

/-- What a miss drops was cached until then. -/
theorem Facts.gone_miss {capacity : Nat} {log : List (κ × ν)} {cache : Dict κ ν}
    {dropped : List ν} {key : κ} {value : ν} (facts : Facts capacity log cache dropped)
    (absent : cache.get? key = none) (fresh : ∀ entry ∈ log, entry.2 ≠ value) (answer : ν)
    : answer ∈ dropped ++ (evicted capacity cache).toList.map Prod.snd
      ↔ ∃ other,
          (other, answer) ∈ log ++ [(key, value)]
          ∧ ((makeRoom capacity cache).set key value).get? other ≠ some answer := by
  simp only [List.mem_append, List.mem_map, Option.mem_toList, List.mem_singleton]
  constructor
  · rintro (before | ⟨⟨other, _⟩, out, rfl⟩)
    · obtain ⟨other, logged, missing⟩ := (facts.gone answer).mp before
      refine ⟨other, .inl logged, ?_⟩
      rw [get?_miss]
      split_ifs
      · exact fun same => fresh _ logged (Option.some.inj same).symm
      · exact Option.some_ne_none _ ∘ Eq.symm
      · exact missing
    · have found := evicted_found out
      refine ⟨other, .inl (facts.logged found), ?_⟩
      have elsewhere : other ≠ key := by
        rintro rfl
        rw [absent] at found
        cases found
      rw [get?_miss, if_neg elsewhere, out, Option.map_some, if_pos rfl]
      exact Option.some_ne_none _ ∘ Eq.symm
  · rintro ⟨other, logged | new, missing⟩
    · rw [get?_miss] at missing
      by_cases found : cache.get? other = some answer
      · right
        refine ⟨(other, answer), ?_, rfl⟩
        split_ifs at missing with same out
        · rw [same, absent] at found
          cases found
        · obtain ⟨⟨oldest, kept⟩, oldestOut, rfl⟩ := Option.map_eq_some_iff.mp out
          rw [oldestOut, Option.some.inj ((evicted_found oldestOut).symm.trans found)]
        · exact absurd found missing
      · exact .inl ((facts.gone answer).mpr ⟨other, logged, found⟩)
    · obtain ⟨rfl, rfl⟩ := Prod.mk.inj new
      exact absurd (by rw [get?_miss, if_pos rfl]) missing

/-- A miss evicts at most one entry, and caches its own. -/
theorem Facts.miss {capacity : Nat} (positive : 0 < capacity) {log : List (κ × ν)}
    {cache : Dict κ ν} {dropped : List ν} {key : κ} {value : ν}
    (facts : Facts capacity log cache dropped) (absent : cache.get? key = none)
    (fresh : ∀ entry ∈ log, entry.2 ≠ value)
    : Facts capacity (log ++ [(key, value)]) ((makeRoom capacity cache).set key value)
        (dropped ++ (evicted capacity cache).toList.map Prod.snd) := by
  have keys : ((makeRoom capacity cache).set key value).keys
      = recent capacity ((log ++ [(key, value)]).map Prod.fst) := by
    have outside : key ∉ recent capacity (log.map Prod.fst) :=
      facts.keys ▸ Dict.get?_eq_none_iff.mp absent
    rw [keys_miss value absent, List.map_append, List.map_singleton,
      recent_miss positive outside, facts.keys]
  constructor
  case keys => exact keys
  case logged =>
    intro other answer found
    rw [get?_miss] at found
    split_ifs at found with same
    · obtain rfl := Option.some.inj found
      simp [same]
    · exact List.mem_append_left _ (facts.logged found)
  case owner =>
    intro one other answer first second
    rcases List.mem_append.mp first with first | first <;>
      rcases List.mem_append.mp second with second | second
    · exact facts.owner first second
    · exact absurd (Prod.mk.inj (List.mem_singleton.mp second)).2 (fresh _ first)
    · exact absurd (Prod.mk.inj (List.mem_singleton.mp first)).2 (fresh _ second)
    · rw [(Prod.mk.inj (List.mem_singleton.mp first)).1,
        (Prod.mk.inj (List.mem_singleton.mp second)).1]
  case gone => exact facts.gone_miss absent fresh
  case once =>
    cases out : evicted capacity cache with
    | none => simpa using facts.once
    | some entry =>
        obtain ⟨oldest, kept⟩ := entry
        have found := evicted_found out
        have still : kept ∉ dropped := by
          intro gone
          obtain ⟨other, logged, missing⟩ := (facts.gone kept).mp gone
          rw [facts.owner logged (facts.logged found)] at missing
          exact missing found
        have apart : dropped.Disjoint [kept] := List.disjoint_singleton.mpr still
        exact facts.once.append (List.nodup_singleton kept) apart
  case held =>
    intro earlier between other answer split stays
    rcases concat_eq_split split with ⟨same, -⟩ | ⟨shorter, rfl, before⟩
    · obtain ⟨rfl, rfl⟩ := Prod.mk.inj same
      rw [get?_miss, if_pos rfl]
    · have found := facts.held before stays.shorter
      have cached : other ∈ ((makeRoom capacity cache).set key value).keys := by
        rw [keys, before]
        simpa using stays _ (List.prefix_refl _)
      obtain ⟨kept, answered⟩ := Dict.mem_keys_iff.mp cached
      rw [get?_miss] at answered ⊢
      split_ifs at answered ⊢ with same
      · rw [same, absent] at found
        cases found
      · exact found
  case again =>
    intro earlier between later other first answer split stays
    rcases concat_eq_split split with ⟨same, before⟩ | ⟨shorter, -, before⟩
    · obtain ⟨rfl, rfl⟩ := Prod.mk.inj same
      have found := facts.held before stays
      rw [absent] at found
      cases found
    · exact facts.again before stays

/-- The key that was requested last is recent. -/
theorem mem_recent_concat {capacity : Nat} (positive : 0 < capacity) (requests : List κ) (key : κ)
    : key ∈ recent capacity (requests ++ [key]) := by
  by_cases cached : key ∈ recent capacity requests
  · simp [recent_hit cached]
  · simp [recent_miss positive cached]

/-- The last answer is cached. -/
theorem Facts.latest {capacity : Nat} (positive : 0 < capacity) {log : List (κ × ν)}
    {cache : Dict κ ν} {dropped : List ν} {key : κ} {value : ν}
    (facts : Facts capacity log cache dropped) (last : log.getLast? = some (key, value))
    : cache.get? key = some value := by
  obtain ⟨earlier, rfl⟩ := List.getLast?_eq_some_iff.mp last
  refine facts.held rfl fun shorter part => ?_
  rw [List.prefix_nil.mp part, List.append_nil, List.map_append]
  exact mem_recent_concat positive _ _

/-- Every run of a cache with room for an entry is that of an exact least-recently-used cache. -/
theorem Run.facts {capacity : Nat} (positive : 0 < capacity) {log : List (κ × ν)}
    {cache : Dict κ ν} {dropped : List ν} (run : Run capacity log cache dropped)
    : Facts capacity log cache dropped := by
  induction run with
  | empty => exact .empty capacity
  | hit _ found facts => exact facts.hit found
  | miss _ absent fresh facts => exact facts.miss positive absent fresh

end MeshSnapshot.Lru
