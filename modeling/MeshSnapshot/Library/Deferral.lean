import Mathlib.Data.List.Induction
import Mathlib.Data.List.Perm.Basic
import Mathlib.Data.List.Sort
import Mathlib.Logic.Relation

/-! Deferred delivery of an in-order stream. A receiver delivers messages as they come, or
defers them and delivers all that it has deferred later. Control messages are consumed.
Messages are numbered by their position in the stream.
-/

namespace MeshSnapshot.Deferral

variable {α : Type}

/-- One stream, its receiver, and what became of every message. -/
@[ext]
structure Stream (α : Type) where
  consumed : List α
  delivered : List (Nat × α)
  deferred : List (Nat × α)
  /-- Messages may be deferred at present. -/
  deferring : Bool
  /-- A message has been delivered while older ones were deferred. -/
  overtaken : Bool

/-- The messages of a stream that are not control messages, with their numbers. -/
def numbered (control : α → Bool) (consumed : List α) : List (Nat × α) :=
  (consumed.zipIdx.filter (fun entry => !control entry.1)).map Prod.swap

inductive Step (control : α → Bool) (s : Stream α) : Stream α → Prop where
  | skip {message : α} (isControl : control message = true)
    : Step control s { s with consumed := s.consumed ++ [message] }
  | deliver {message : α} (isData : control message = false)
    : Step control s { s with
        consumed := s.consumed ++ [message]
        delivered := s.delivered ++ [(s.consumed.length, message)]
        overtaken := s.overtaken || (s.deferring && !s.deferred.isEmpty) }
  | defer {message : α} (isData : control message = false) (deferring : s.deferring = true)
    : Step control s { s with
        consumed := s.consumed ++ [message]
        deferred := s.deferred ++ [(s.consumed.length, message)] }
  | begin (idle : s.deferring = false)
    : Step control s { s with deferred := [], deferring := true }
  | flush {replay : List (Nat × α)} (perm : replay.Perm s.deferred)
    (sorted : replay.Pairwise (fun a b => a.1 ≤ b.1))
    : Step control s { s with
        delivered := s.delivered ++ replay, deferred := [], deferring := false }

abbrev Steps (control : α → Bool) : Stream α → Stream α → Prop :=
  Relation.ReflTransGen (Step control)

-----------------------------------------------------------------------------------------
-- Numbered messages
-----------------------------------------------------------------------------------------

/-- Numbers grow along a list. -/
abbrev Increasing (entries : List (Nat × α)) : Prop :=
  entries.Pairwise (fun a b => a.1 < b.1)

variable {control : α → Bool} {s s' : Stream α}

/-- More of the stream does not change the numbers of what came before. -/
theorem numbered_prefix {consumed more : List α} (isPrefix : consumed <+: more)
    : numbered control consumed <+: numbered control more := by
  obtain ⟨rest, rfl⟩ := isPrefix
  simp only [numbered, List.zipIdx_append, List.filter_append, List.map_append]
  exact List.prefix_append _ _

theorem numbered_append_control {consumed : List α} {message : α}
    (isControl : control message = true)
    : numbered control (consumed ++ [message]) = numbered control consumed := by
  simp [numbered, List.zipIdx_append, isControl]

theorem numbered_append_data {consumed : List α} {message : α}
    (isData : control message = false)
    : numbered control (consumed ++ [message])
      = numbered control consumed ++ [(consumed.length, message)] := by
  simp [numbered, List.zipIdx_append, isData]

theorem mem_numbered {consumed : List α} {number : Nat} {message : α}
    : (number, message) ∈ numbered control consumed
      ↔ consumed[number]? = some message ∧ control message = false := by
  simp [numbered, List.mem_zipIdx_iff_getElem?]

/-- Without control messages, the numbers are all that is added. -/
theorem map_snd_numbered (consumed : List α)
    : (numbered (fun _ => false) consumed).map Prod.snd = consumed := by
  simp [numbered, Function.comp_def, List.zipIdx_map_fst]

/-- Numbering leaves out the control messages. -/
theorem map_snd_numbered_data (consumed : List α)
    : (numbered control consumed).map Prod.snd
      = consumed.filter (fun message => !control message) := by
  induction consumed using List.reverseRecOn with
  | nil => rfl
  | append_singleton init last ih =>
      cases isControl : control last with
      | true => simp [numbered_append_control isControl, ih, isControl]
      | false => simp [numbered_append_data isControl, ih, isControl]

theorem numbered_bound {consumed : List α} {entry : Nat × α}
    (member : entry ∈ numbered control consumed) : entry.1 < consumed.length := by
  obtain ⟨bound, -⟩ := List.getElem?_eq_some_iff.mp (mem_numbered.mp member).1
  exact bound

/-- A list of smaller numbers increases with a new number exactly when it did before. -/
theorem increasing_append_singleton {entries : List (Nat × α)} {number : Nat} {message : α}
    (bound : ∀ entry ∈ entries, entry.1 < number)
    : Increasing (entries ++ [(number, message)]) ↔ Increasing entries := by
  rw [Increasing, List.pairwise_append]
  constructor
  · exact fun increasing => increasing.1
  · refine fun increasing => ⟨increasing, List.pairwise_singleton _ _, ?_⟩
    intro entry member last isLast
    rw [List.mem_singleton.mp isLast]
    exact bound entry member

/-- A replay of deferred messages in order is the list of these messages itself. -/
theorem replay_eq {deferred replay : List (Nat × α)} (increasing : Increasing deferred)
    (perm : replay.Perm deferred) (sorted : replay.Pairwise (fun a b => a.1 ≤ b.1))
    : replay = deferred := by
  have weak : deferred.Pairwise (fun a b => a.1 ≤ b.1) :=
    increasing.imp fun less => Nat.le_of_lt less
  have unique : (deferred.map Prod.fst).Nodup :=
    List.pairwise_map.mpr (increasing.imp fun less => Nat.ne_of_lt less)
  refine perm.eq_of_pairwise (fun a b inReplay inDeferred forth back => ?_) sorted weak
  exact List.inj_on_of_nodup_map unique (perm.mem_iff.mp inReplay) inDeferred
    (Nat.le_antisymm forth back)

/-- Numbers are positions, so they grow along the stream. -/
theorem numbered_increasing (consumed : List α) : Increasing (numbered control consumed) := by
  induction consumed using List.reverseRecOn with
  | nil => simp [numbered]
  | append_singleton init last ih =>
      cases isControl : control last with
      | true => rwa [numbered_append_control isControl]
      | false =>
          rw [numbered_append_data isControl]
          exact (increasing_append_singleton fun _ => numbered_bound).mpr ih

-----------------------------------------------------------------------------------------
-- The invariant
-----------------------------------------------------------------------------------------

/-- Every message but the control messages is delivered or deferred, exactly once. Messages
come in order exactly as long as none has overtaken a deferred one.
-/
structure Inv (control : α → Bool) (s : Stream α) : Prop where
  conserved : (s.delivered ++ s.deferred).Perm (numbered control s.consumed)
  increasing : Increasing s.deferred
  idle : s.deferring = false → s.deferred = []
  ordered : s.overtaken = false ↔ Increasing (s.delivered ++ s.deferred)

theorem Inv.start : Inv control ⟨[], [], [], false, false⟩ :=
  ⟨.rfl, .nil, fun _ => rfl, by simp⟩

theorem Inv.bound (inv : Inv control s) {entry : Nat × α}
    (member : entry ∈ s.delivered ++ s.deferred) : entry.1 < s.consumed.length :=
  numbered_bound (inv.conserved.mem_iff.mp member)

/-- Of the numbered messages, one has a given number. -/
theorem filter_numbered {consumed : List α} {number : Nat} {message : α}
    (found : consumed[number]? = some message) (isData : control message = false)
    : (numbered control consumed).filter (fun entry => entry.1 = number)
      = [(number, message)] := by
  have member := mem_numbered.mpr ⟨found, isData⟩
  have unique : (numbered control consumed).Nodup := by
    refine (numbered_increasing consumed).imp ?_
    rintro a b less rfl
    exact Nat.lt_irrefl a.1 less
  classical
  calc (numbered control consumed).filter (fun entry => entry.1 = number)
    _ = (numbered control consumed).filter (fun entry => entry == (number, message)) := by
        refine List.filter_congr fun entry kept => ?_
        rw [beq_eq_decide]
        refine decide_eq_decide.mpr ⟨?_, fun same => congrArg Prod.fst same⟩
        rintro rfl
        exact Prod.ext rfl (Option.some.inj ((mem_numbered.mp kept).1.symm.trans found))
    _ = List.replicate ((numbered control consumed).count (number, message))
          (number, message) := List.filter_beq _
    _ = [(number, message)] := by
        rw [List.count_eq_one_of_mem unique member]
        rfl

/-- As long as none has overtaken another, the messages are delivered or deferred in their order. -/
theorem Inv.inOrder (inv : Inv control s) (inOrder : s.overtaken = false)
    : s.delivered ++ s.deferred = numbered control s.consumed :=
  replay_eq (numbered_increasing s.consumed) inv.conserved
    ((inv.ordered.mp inOrder).imp fun less => Nat.le_of_lt less)

/-- A message is delivered or deferred, exactly once, and with itself under its number. -/
theorem Inv.once (inv : Inv control s) {number : Nat} {message : α}
    (found : s.consumed[number]? = some message) (isData : control message = false)
    : s.delivered.filter (fun entry => entry.1 = number) = [(number, message)]
        ∧ s.deferred.filter (fun entry => entry.1 = number) = []
      ∨ s.delivered.filter (fun entry => entry.1 = number) = []
        ∧ s.deferred.filter (fun entry => entry.1 = number) = [(number, message)] := by
  have perm := inv.conserved.filter (fun entry => entry.1 = number)
  rw [filter_numbered found isData, List.filter_append] at perm
  exact List.append_eq_singleton_iff.mp perm.eq_singleton |>.symm

theorem Inv.deliver (inv : Inv control s) {message : α} (isData : control message = false)
    : Inv control { s with
        consumed := s.consumed ++ [message]
        delivered := s.delivered ++ [(s.consumed.length, message)]
        overtaken := s.overtaken || (s.deferring && !s.deferred.isEmpty) } where
  conserved := by
    rw [numbered_append_data isData, List.append_assoc]
    refine .trans ?_ (inv.conserved.append_right _)
    rw [List.append_assoc]
    exact .append_left _ List.perm_append_comm
  increasing := inv.increasing
  idle := inv.idle
  ordered := by
    cases waiting : s.deferred with
    | nil =>
        have bound : ∀ entry ∈ s.delivered, entry.1 < s.consumed.length :=
          fun entry member => inv.bound (List.mem_append_left _ member)
        have ordered := inv.ordered
        rw [waiting, List.append_nil] at ordered
        simpa [increasing_append_singleton bound] using ordered
    | cons first rest =>
        have deferring : s.deferring = true := by
          cases idle : s.deferring with
          | true => rfl
          | false => cases waiting.symm.trans (inv.idle idle)
        have older : first.1 < s.consumed.length := inv.bound (by simp [waiting])
        simp only [deferring, List.isEmpty_cons, Bool.not_false, Bool.and_true, Bool.or_true,
          Bool.true_eq_false, false_iff]
        intro increasing
        have last : (s.consumed.length, message)
            ∈ s.delivered ++ [(s.consumed.length, message)] := by simp
        have later : s.consumed.length < first.1 :=
          (List.pairwise_append.mp increasing).2.2 _ last _ List.mem_cons_self
        omega

theorem Inv.defer (inv : Inv control s) {message : α} (isData : control message = false)
    (deferring : s.deferring = true)
    : Inv control { s with
        consumed := s.consumed ++ [message]
        deferred := s.deferred ++ [(s.consumed.length, message)] } where
  conserved := by
    rw [numbered_append_data isData, ← List.append_assoc]
    exact inv.conserved.append_right _
  increasing :=
    (increasing_append_singleton fun _ member =>
      inv.bound (List.mem_append_right _ member)).mpr inv.increasing
  idle := fun idle => by cases deferring.symm.trans idle
  ordered := by
    rw [← List.append_assoc, increasing_append_singleton fun _ => inv.bound]
    exact inv.ordered

theorem Inv.flush (inv : Inv control s) {replay : List (Nat × α)}
    (perm : replay.Perm s.deferred) (sorted : replay.Pairwise (fun a b => a.1 ≤ b.1))
    : Inv control { s with
        delivered := s.delivered ++ replay, deferred := [], deferring := false } := by
  obtain rfl := replay_eq inv.increasing perm sorted
  refine ⟨?_, .nil, fun _ => rfl, ?_⟩
  · rw [List.append_nil]
    exact inv.conserved
  · rw [List.append_nil]
    exact inv.ordered

theorem Inv.step (inv : Inv control s) (step : Step control s s') : Inv control s' := by
  cases step with
  | skip isControl =>
      refine ⟨?_, inv.increasing, inv.idle, inv.ordered⟩
      rw [numbered_append_control isControl]
      exact inv.conserved
  | deliver isData => exact inv.deliver isData
  | defer isData deferring => exact inv.defer isData deferring
  | begin idle =>
      have nothing := inv.idle idle
      have conserved := inv.conserved
      have ordered := inv.ordered
      rw [nothing] at conserved ordered
      exact ⟨conserved, .nil, fun _ => rfl, ordered⟩
  | flush perm sorted => exact inv.flush perm sorted

/-- The invariant holds along every run. -/
theorem Inv.steps (inv : Inv control s) (steps : Steps control s s') : Inv control s' := by
  induction steps with
  | refl => exact inv
  | tail _ step ih => exact ih.step step

-----------------------------------------------------------------------------------------
-- A stream that goes on from another one
-----------------------------------------------------------------------------------------

/-- A stream begins after the messages `earlier` have been delivered. It delivers or defers each of
its own messages once and, as long as none overtakes another, behind these and in their order.
Whatever the numbers of its messages are, `next` is the next one.
-/
structure Continues (control : α → Bool) (earlier : List α) (next : Nat) (s : Stream α) : Prop where
  resumed : earlier <+: s.delivered.map Prod.snd
  below : ∀ entry ∈ s.deferred, entry.1 < next
  increasing : Increasing s.deferred
  idle : s.deferring = false → s.deferred = []
  conserved
    : ((s.delivered ++ s.deferred).map Prod.snd).Perm
        (earlier ++ s.consumed.filter (fun message => !control message))
  inOrder
    : s.overtaken = false
      → (s.delivered ++ s.deferred).map Prod.snd
        = earlier ++ s.consumed.filter (fun message => !control message)

namespace Continues

variable {earlier : List α} {next : Nat}

theorem start (delivered : List (Nat × α)) (next : Nat)
    : Continues control (delivered.map Prod.snd) next ⟨[], delivered, [], false, false⟩ :=
  ⟨List.prefix_rfl, by simp, .nil, fun _ => rfl, by simp, fun _ => by simp⟩

/-- More is delivered behind what has been delivered. -/
theorem resumed_append (continues : Continues control earlier next s) (more : List (Nat × α))
    : earlier <+: (s.delivered ++ more).map Prod.snd := by
  rw [List.map_append]
  exact continues.resumed.trans (List.prefix_append _ _)

theorem skip (continues : Continues control earlier next s) {message : α}
    (isControl : control message = true)
    : Continues control earlier (next + 1) { s with consumed := s.consumed ++ [message] } where
  resumed := continues.resumed
  below entry member := Nat.lt_succ_of_lt (continues.below entry member)
  increasing := continues.increasing
  idle := continues.idle
  conserved := by
    rw [List.filter_append, ← List.append_assoc]
    simpa [isControl] using continues.conserved
  inOrder inOrder := by
    rw [continues.inOrder inOrder]
    simp [isControl]

theorem deliver (continues : Continues control earlier next s) {message : α}
    (isData : control message = false)
    : Continues control earlier (next + 1) { s with
        consumed := s.consumed ++ [message]
        delivered := s.delivered ++ [(next, message)]
        overtaken := s.overtaken || (s.deferring && !s.deferred.isEmpty) } where
  resumed := continues.resumed_append [(next, message)]
  below entry member := Nat.lt_succ_of_lt (continues.below entry member)
  increasing := continues.increasing
  idle := continues.idle
  conserved := by
    have last : [message].filter (fun message => !control message) = [message] := by
      simp [isData]
    rw [List.filter_append, ← List.append_assoc, last, List.append_assoc, List.map_append]
    refine .trans ?_ (continues.conserved.append_right [message])
    rw [List.map_append, List.map_append, List.append_assoc]
    exact .append_left _ List.perm_append_comm
  inOrder inOrder := by
    simp only [Bool.or_eq_false_iff, Bool.and_eq_false_imp, Bool.not_eq_false',
      List.isEmpty_iff] at inOrder
    obtain ⟨before, empty⟩ := inOrder
    have nothing : s.deferred = [] := by
      cases deferring : s.deferring with
      | true => exact empty deferring
      | false => exact continues.idle deferring
    have same := continues.inOrder before
    rw [nothing, List.append_nil] at same
    simp [nothing, same, isData]

theorem defer (continues : Continues control earlier next s) {message : α}
    (isData : control message = false) (deferring : s.deferring = true)
    : Continues control earlier (next + 1) { s with
        consumed := s.consumed ++ [message]
        deferred := s.deferred ++ [(next, message)] } where
  resumed := continues.resumed
  below entry member := by
    rcases List.mem_append.mp member with earlier | last
    · exact Nat.lt_succ_of_lt (continues.below entry earlier)
    · rw [List.mem_singleton.mp last]
      exact Nat.lt_succ_self next
  increasing := (increasing_append_singleton continues.below).mpr continues.increasing
  idle idle := by cases deferring.symm.trans idle
  conserved := by
    have last : [message].filter (fun message => !control message) = [message] := by
      simp [isData]
    rw [List.filter_append, ← List.append_assoc, last, ← List.append_assoc, List.map_append]
    exact continues.conserved.append_right [message]
  inOrder inOrder := by
    rw [← List.append_assoc, List.map_append, continues.inOrder inOrder]
    simp [isData]

/-- A step that consumes nothing begins or ends the deferring. -/
theorem step (continues : Continues control earlier next s) (step : Step control s s')
    (still : s'.consumed.length ≤ s.consumed.length)
    : Continues control earlier next s' := by
  cases step with
  | skip | deliver | defer =>
      rw [List.length_append, List.length_singleton] at still
      omega
  | begin idle =>
      have nothing := continues.idle idle
      have conserved := continues.conserved
      have inOrder := continues.inOrder
      rw [nothing] at conserved inOrder
      exact ⟨continues.resumed, by simp, .nil, fun _ => rfl, conserved, inOrder⟩
  | flush perm sorted =>
      obtain rfl := replay_eq continues.increasing perm sorted
      refine ⟨continues.resumed_append s.deferred, by simp, .nil, fun _ => rfl, ?_, fun inOrder => ?_⟩
      · rw [List.append_nil]
        exact continues.conserved
      · rw [List.append_nil]
        exact continues.inOrder inOrder

end Continues

theorem Step.length_le (step : Step control s s') : s.consumed.length ≤ s'.consumed.length := by
  cases step <;> simp

theorem Steps.length_le (steps : Steps control s s')
    : s.consumed.length ≤ s'.consumed.length := by
  induction steps with
  | refl => exact Nat.le_refl _
  | tail _ step ih => exact ih.trans step.length_le

theorem Continues.steps {earlier : List α} {next : Nat}
    (continues : Continues control earlier next s) (steps : Steps control s s')
    (still : s'.consumed.length ≤ s.consumed.length)
    : Continues control earlier next s' := by
  induction steps with
  | refl => exact continues
  | @tail middle last before step ih =>
      have first := Steps.length_le before
      have second := step.length_le
      exact (ih (by omega)).step step (by omega)

end MeshSnapshot.Deferral
