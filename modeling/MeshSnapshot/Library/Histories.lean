import Mathlib.Data.List.Basic
import Mathlib.Data.List.Infix
import Mathlib.Data.Set.Basic
import Mathlib.Logic.Function.Basic
import Mathlib.Logic.Relation

/-! Local histories of processes that exchange messages over channels that keep their order. A run
fixes the order of events at each process; it passes, in some order of the steps of different
processes, through every cut of it in which nothing is received before it is sent.
-/

namespace MeshSnapshot.Histories

variable {ι σ α : Type}

inductive Event (ι σ α : Type) where
  | sent (channel : ι) (content : α)
  | received (channel : ι) (content : α)
  | internal (label : σ)

section

variable [DecidableEq ι]

def Event.sentTo? (target : ι) : Event ι σ α → Option α
  | .sent channel content => if channel = target then some content else none
  | .received .. => none
  | .internal _ => none

def Event.receivedFrom? (source : ι) : Event ι σ α → Option α
  | .sent .. => none
  | .received channel content => if channel = source then some content else none
  | .internal _ => none

def Event.label? : Event ι σ α → Option σ
  | .sent .. => none
  | .received .. => none
  | .internal label => some label

/-- What a process has sent to `target`. -/
def sentTo (target : ι) (events : List (Event ι σ α)) : List α :=
  events.filterMap (Event.sentTo? target)

/-- What a process has received from `source`. -/
def receivedFrom (source : ι) (events : List (Event ι σ α)) : List α :=
  events.filterMap (Event.receivedFrom? source)

def labels (events : List (Event ι σ α)) : List σ := events.filterMap Event.label?

@[simp] theorem sentTo_append (target : ι) (events more : List (Event ι σ α))
    : sentTo target (events ++ more) = sentTo target events ++ sentTo target more :=
  List.filterMap_append

@[simp] theorem receivedFrom_append (source : ι) (events more : List (Event ι σ α))
    : receivedFrom source (events ++ more)
      = receivedFrom source events ++ receivedFrom source more :=
  List.filterMap_append

omit [DecidableEq ι] in
@[simp] theorem labels_append (events more : List (Event ι σ α))
    : labels (events ++ more) = labels events ++ labels more :=
  List.filterMap_append

@[simp] theorem sentTo_nil (target : ι) : sentTo target ([] : List (Event ι σ α)) = [] := rfl

@[simp] theorem sentTo_sent (target channel : ι) (content : α)
    : sentTo target [(.sent channel content : Event ι σ α)]
      = if channel = target then [content] else [] := by
  by_cases here : channel = target <;> simp [sentTo, Event.sentTo?, here]

@[simp] theorem sentTo_received (target channel : ι) (content : α)
    : sentTo target [(.received channel content : Event ι σ α)] = [] :=
  rfl

@[simp] theorem sentTo_internal (target : ι) (label : σ)
    : sentTo target [(.internal label : Event ι σ α)] = [] :=
  rfl

@[simp] theorem receivedFrom_nil (source : ι)
    : receivedFrom source ([] : List (Event ι σ α)) = [] :=
  rfl

@[simp] theorem receivedFrom_sent (source channel : ι) (content : α)
    : receivedFrom source [(.sent channel content : Event ι σ α)] = [] :=
  rfl

@[simp] theorem receivedFrom_received (source channel : ι) (content : α)
    : receivedFrom source [(.received channel content : Event ι σ α)]
      = if channel = source then [content] else [] := by
  by_cases here : channel = source <;> simp [receivedFrom, Event.receivedFrom?, here]

@[simp] theorem receivedFrom_internal (source : ι) (label : σ)
    : receivedFrom source [(.internal label : Event ι σ α)] = [] :=
  rfl

omit [DecidableEq ι] in
@[simp] theorem labels_nil : labels ([] : List (Event ι σ α)) = [] := rfl

omit [DecidableEq ι] in
@[simp] theorem labels_sent (channel : ι) (content : α)
    : labels [(.sent channel content : Event ι σ α)] = [] :=
  rfl

omit [DecidableEq ι] in
@[simp] theorem labels_received (channel : ι) (content : α)
    : labels [(.received channel content : Event ι σ α)] = [] :=
  rfl

omit [DecidableEq ι] in
@[simp] theorem labels_internal (label : σ)
    : labels [(.internal label : Event ι σ α)] = [label] :=
  rfl

theorem sentTo_grows {events more : List (Event ι σ α)} (target : ι) (shorter : events <+: more)
    : sentTo target events <+: sentTo target more := by
  obtain ⟨rest, rfl⟩ := shorter
  rw [sentTo_append]
  exact List.prefix_append _ _

theorem receivedFrom_grows {events more : List (Event ι σ α)} (source : ι)
    (shorter : events <+: more) : receivedFrom source events <+: receivedFrom source more := by
  obtain ⟨rest, rfl⟩ := shorter
  rw [receivedFrom_append]
  exact List.prefix_append _ _

-----------------------------------------------------------------------------------------
-- Runs
-----------------------------------------------------------------------------------------

/-- One process has its next event. A member receives from other members what is next in the
channel; what comes from elsewhere is arbitrary.
-/
inductive Step (members : Set ι) (histories : ι → List (Event ι σ α))
    : (ι → List (Event ι σ α)) → Prop where
  | mk (own : ι) (event : Event ι σ α)
    (queued
      : own ∈ members
        → ∀ channel ∈ members,
            receivedFrom channel (histories own ++ [event])
              <+: sentTo own (histories channel))
    : Step members histories (Function.update histories own (histories own ++ [event]))

abbrev Steps (members : Set ι)
    : (ι → List (Event ι σ α)) → (ι → List (Event ι σ α)) → Prop :=
  Relation.ReflTransGen (Step members)

/-- What members have received from each other has been sent. -/
def Consistent (members : Set ι) (histories : ι → List (Event ι σ α)) : Prop :=
  ∀ source ∈ members, ∀ target ∈ members,
    receivedFrom source (histories target) <+: sentTo target (histories source)

variable {members : Set ι} {histories histories' cut : ι → List (Event ι σ α)}

theorem Step.grows (step : Step members histories histories') (ip : ι)
    : histories ip <+: histories' ip := by
  obtain ⟨own, event, -⟩ := step
  by_cases here : ip = own
  · subst here
    rw [Function.update_self]
    exact List.prefix_append _ _
  · exact (Function.update_of_ne here _ _) ▸ List.prefix_rfl

theorem Steps.grows (steps : Steps members histories histories') (ip : ι)
    : histories ip <+: histories' ip := by
  induction steps with
  | refl => exact List.prefix_rfl
  | tail _ step ih => exact ih.trans (step.grows ip)

theorem Consistent.step (consistent : Consistent members histories)
    (step : Step members histories histories') : Consistent members histories' := by
  intro source sourceMember target targetMember
  refine .trans ?_ (sentTo_grows target (step.grows source))
  obtain ⟨own, event, queued⟩ := step
  by_cases here : target = own
  · subst here
    rw [Function.update_self]
    exact queued targetMember source sourceMember
  · rw [Function.update_of_ne here]
    exact consistent source sourceMember target targetMember

theorem Steps.consistent (steps : Steps members (fun _ => []) histories)
    : Consistent members histories := by
  induction steps with
  | refl => exact fun _ _ _ _ => List.prefix_rfl
  | tail _ step ih => exact ih.step step

/-- A process that takes no step in a run may have had one more event from the beginning. -/
theorem Steps.earlier {own : ι} (event : Event ι σ α) (steps : Steps members histories histories')
    (idle : histories' own = histories own)
    : Steps members (Function.update histories own (histories own ++ [event]))
        (Function.update histories' own (histories own ++ [event])) := by
  induction steps with
  | refl => exact .refl
  | @tail middle _ before step ih =>
      have stays : histories own = middle own :=
        (Steps.grows before own).sublist.antisymm (idle ▸ (step.grows own).sublist)
      refine .tail (ih stays.symm) ?_
      obtain ⟨other, next, queued⟩ := step
      have distinct : other ≠ own := by
        rintro rfl
        rw [Function.update_self, ← stays] at idle
        simp at idle
      rw [Function.update_comm distinct]
      have here := Function.update_of_ne distinct (histories own ++ [event]) middle
      rw [← here]
      refine .mk other next fun otherMember channel member => ?_
      rw [here]
      refine (queued otherMember channel member).trans (sentTo_grows other ?_)
      by_cases same : channel = own
      · subst same
        rw [Function.update_self, stays]
        exact List.prefix_append _ _
      · rw [Function.update_of_ne same]

-----------------------------------------------------------------------------------------
-- Cuts
-----------------------------------------------------------------------------------------

/-- A cut stays consistent without the last event of a process. -/
theorem Consistent.shorten (consistent : Consistent members cut)
    (whole : Consistent members histories) {own : ι}
    (others : ∀ ip, ip ≠ own → cut ip <+: histories ip) (shorter : histories own <+: cut own)
    : Consistent members (Function.update cut own (histories own)) := by
  intro source sourceMember target targetMember
  by_cases here : target = own
  · subst here
    rw [Function.update_self]
    by_cases same : source = target
    · subst same
      rw [Function.update_self]
      exact whole source sourceMember source sourceMember
    · rw [Function.update_of_ne same]
      exact (receivedFrom_grows source shorter).trans
        (consistent source sourceMember target targetMember)
  · rw [Function.update_of_ne here]
    by_cases same : source = own
    · subst same
      rw [Function.update_self]
      exact (receivedFrom_grows source (others target here)).trans
        (whole source sourceMember target targetMember)
    · rw [Function.update_of_ne same]
      exact consistent source sourceMember target targetMember

/-- A run can be reordered so that it passes through a consistent cut. The events of every process
keep their order.
-/
theorem Steps.passes (steps : Steps members (fun _ => []) histories)
    (shorter : ∀ ip, cut ip <+: histories ip) (consistent : Consistent members cut)
    : Steps members (fun _ => []) cut ∧ Steps members cut histories := by
  induction steps generalizing cut with
  | refl =>
      obtain rfl : cut = fun _ => [] := funext fun ip => List.prefix_nil.mp (shorter ip)
      exact ⟨.refl, .refl⟩
  | @tail middle last before step ih =>
      have whole := Steps.consistent before
      have again := step
      obtain ⟨own, event, queued⟩ := step
      have others (ip : ι) (other : ip ≠ own) : cut ip <+: middle ip := by
        have here := shorter ip
        rwa [Function.update_of_ne other] at here
      have here := shorter own
      rw [Function.update_self, List.prefix_concat_iff] at here
      rcases here with complete | early
      case inr =>
        have within (ip : ι) : cut ip <+: middle ip := by
          by_cases same : ip = own
          · exact same ▸ early
          · exact others ip same
        obtain ⟨reached, left⟩ := ih within consistent
        exact ⟨reached, left.tail again⟩
      case inl =>
        -- the cut has the last event, which nothing that follows the shorter cut waits for
        have longer : middle own <+: cut own := complete ▸ List.prefix_append _ _
        have within (ip : ι) : Function.update cut own (middle own) ip <+: middle ip := by
          by_cases same : ip = own
          · subst same
            rw [Function.update_self]
          · rw [Function.update_of_ne same]
            exact others ip same
        obtain ⟨reached, left⟩ := ih within (consistent.shorten whole others longer)
        have back : Function.update (Function.update cut own (middle own)) own
            (Function.update cut own (middle own) own ++ [event]) = cut := by
          rw [Function.update_self, Function.update_idem, ← complete, Function.update_eq_self]
        constructor
        · refine reached.tail ?_
          have last : Step members (Function.update cut own (middle own)) _ :=
            .mk own event fun ownMember channel member => by
              rw [Function.update_self]
              by_cases same : channel = own
              · subst same
                rw [Function.update_self]
                exact queued ownMember channel member
              · rw [Function.update_of_ne same, ← complete]
                exact consistent channel member own ownMember
          rwa [back] at last
        · have last := Steps.earlier event left (by rw [Function.update_self])
          rw [back, Function.update_self] at last
          exact last

end

end MeshSnapshot.Histories
