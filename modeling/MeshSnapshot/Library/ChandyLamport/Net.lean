import MeshSnapshot.Library.ChandyLamport.Local
import Mathlib.Data.List.Nodup

/-! A network of processes over channels that keep the order of their messages. If no two
commands name the same snapshot, no process has two episodes of one snapshot.
-/

namespace MeshSnapshot.ChandyLamport

variable {ι σ α : Type} {members : Set ι} {own : ι} {node next : Node ι σ α}
  {origin : Option ι} {id : σ} {incoming : ι → List (Msg σ α)}

namespace Node

-----------------------------------------------------------------------------------------
-- What a step shows to the other processes
-----------------------------------------------------------------------------------------

theorem Hears.consumed (hears : node.Hears members own origin id next)
    : next.consumed = (node.hear origin id).consumed := by
  cases hears with
  | begins => simp [Node.begin]
  | misses => rfl
  | ignores => rfl
  | closes _ same source =>
      subst same source
      simp [Node.close]

theorem Hears.commands (hears : node.Hears members own origin id next)
    : next.commands = (node.hear origin id).commands := by
  cases hears with
  | begins => simp [Node.begin]
  | misses => rfl
  | ignores => rfl
  | closes _ same source =>
      subst same source
      simp [Node.close]

theorem Hears.sent_prefix (hears : node.Hears members own origin id next) (channel : ι)
    : node.sent channel <+: next.sent channel := by
  cases hears with
  | @begins cut =>
      by_cases covered : channel ∈ cut
      · simp [Node.begin, covered]
      · simp [Node.begin, covered]
  | misses => simp
  | ignores => simp
  | closes => simp [Node.close]

/-- Hearing of a snapshot adds at most an episode of this snapshot, to a process that has no
current episode and has not aborted the snapshot.
-/
theorem Hears.ids (hears : node.Hears members own origin id next)
    : next.ids = node.ids
      ∨ node.current = none
        ∧ (∀ episode, (episode, false) ∈ node.past → episode.id ≠ id)
        ∧ next.ids = node.ids ++ [id] := by
  cases hears with
  | begins idle _ _ fresh =>
      refine .inr ⟨idle, fresh, ?_⟩
      rw [ids, settle_episodes]
      simp [Node.begin, Node.ids, Node.episodes, idle, opening]
  | misses => exact .inl (by simp [Node.ids, Node.episodes])
  | ignores => exact .inl (by simp [Node.ids, Node.episodes])
  | closes recording =>
      refine .inl ?_
      rw [ids, settle_episodes]
      simp [Node.close, Node.ids, Node.episodes, recording, Episode.close]

/-- A snapshot is missed only while another one is being recorded. -/
theorem Hears.missed (hears : node.Hears members own origin id next)
    : next.missed = node.missed
      ∨ next.missed = node.missed ++ [id]
        ∧ ∃ episode, node.current = some episode ∧ episode.id ≠ id := by
  cases hears with
  | begins => exact .inl (by simp [Node.begin])
  | @misses episode recording other => exact .inr ⟨rfl, episode, recording, other⟩
  | ignores => exact .inl hear_missed
  | closes => exact .inl (by simp [Node.close])

theorem Step.sent_prefix (step : node.Step members own incoming next) (channel : ι)
    : node.sent channel <+: next.sent channel := by
  cases step with
  | send other content =>
      by_cases here : channel = other
      · subst here
        simp [Node.send]
      · simp [Node.send, here]
  | command hears => exact hears.sent_prefix channel
  | marker _ hears => exact hears.sent_prefix channel
  | data => exact List.prefix_rfl
  | abort => exact List.prefix_rfl

/-- A process consumes what is next in a channel, and nothing else. -/
theorem Step.stays_prefix (step : node.Step members own incoming next)
    (before : ∀ channel, node.consumed channel <+: incoming channel) (channel : ι)
    : next.consumed channel <+: incoming channel := by
  cases step with
  | send => exact before channel
  | command hears =>
      rw [hears.consumed]
      exact before channel
  | @marker source id _ queued hears =>
      rw [hears.consumed]
      by_cases here : channel = source
      · subst here
        simpa [Node.hear] using queued
      · simpa [Node.hear, here] using before channel
  | @data source content queued =>
      rcases receive_consumed node source channel content with ⟨same, -⟩ | ⟨longer, rfl⟩
      · rw [same]
        exact before channel
      · rw [longer]
        exact queued
  | abort => exact before channel

theorem Step.commands (step : node.Step members own incoming next)
    : next.commands = node.commands ∨ ∃ id, next.commands = node.commands ++ [id] := by
  cases step with
  | send => exact .inl rfl
  | command hears => exact .inr ⟨_, hears.commands⟩
  | marker _ hears => exact .inl hears.commands
  | data => exact .inl rfl
  | abort => exact .inl rfl

/-- A step misses at most one snapshot, of which it hears by a command or a marker. -/
theorem Step.missed (step : node.Step members own incoming next)
    : next.missed = node.missed
      ∨ ∃ id,
          (next.commands = node.commands ++ [id]
            ∨ ∃ channel, node.consumed channel ++ [.marker id] <+: incoming channel)
          ∧ next.missed = node.missed ++ [id]
          ∧ ∃ known ∈ node.ids, known ≠ id := by
  have listed {id : σ} (other : ∃ episode, node.current = some episode ∧ episode.id ≠ id)
      : ∃ known ∈ node.ids, known ≠ id := by
    obtain ⟨episode, current, distinct⟩ := other
    exact ⟨_, List.mem_map_of_mem (mem_episodes_of_current current), distinct⟩
  cases step with
  | send => exact .inl rfl
  | @command id _ hears =>
      exact hears.missed.imp_right fun missed => ⟨id, .inl hears.commands, missed.1, listed missed.2⟩
  | @marker channel id _ queued hears =>
      exact hears.missed.imp_right fun missed =>
        ⟨id, .inr ⟨channel, queued⟩, missed.1, listed missed.2⟩
  | data => exact .inl rfl
  | abort => exact .inl rfl

/-- A step adds at most one episode, and that begins because of a command or a marker. -/
theorem Step.ids (step : node.Step members own incoming next)
    : next.ids = node.ids
      ∨ ∃ id,
          (next.commands = node.commands ++ [id]
            ∨ ∃ channel, node.consumed channel ++ [.marker id] <+: incoming channel)
          ∧ node.current = none
          ∧ (∀ episode, (episode, false) ∈ node.past → episode.id ≠ id)
          ∧ next.ids = node.ids ++ [id] := by
  cases step with
  | send => exact .inl rfl
  | @command id _ hears =>
      exact hears.ids.imp_right fun begun => ⟨id, .inl hears.commands, begun⟩
  | @marker channel id _ queued hears =>
      exact hears.ids.imp_right fun begun => ⟨id, .inr ⟨channel, queued⟩, begun⟩
  | @data channel content queued =>
      refine .inl ?_
      cases current : node.current with
      | none => simp [Node.receive, Node.ids, Node.episodes, current]
      | some episode =>
          obtain ⟨recorded, changed, -⟩ :=
            record_eq episode channel (node.consumed channel).length content
          simp [Node.receive, Node.ids, Node.episodes, current, changed]
  | abort recording =>
      refine .inl ?_
      simp [Node.abort, Node.ids, Node.episodes, recording]

theorem Steps.sent_prefix (steps : node.Steps members own incoming next) (channel : ι)
    : node.sent channel <+: next.sent channel := by
  induction steps with
  | refl => exact List.prefix_rfl
  | tail _ step ih => exact ih.trans (step.sent_prefix channel)

/-- More may be queued in the incoming channels. -/
theorem Step.mono {more : ι → List (Msg σ α)} (step : node.Step members own incoming next)
    (longer : ∀ channel, incoming channel <+: more channel)
    : node.Step members own more next := by
  cases step with
  | send channel content => exact .send channel content
  | command hears => exact .command hears
  | marker queued hears => exact .marker (queued.trans (longer _)) hears
  | data queued => exact .data (queued.trans (longer _))
  | abort recording => exact .abort recording

end Node

-----------------------------------------------------------------------------------------
-- Networks
-----------------------------------------------------------------------------------------

abbrev Net (ι σ α : Type) := ι → Node ι σ α

/-- One process takes a step. -/
inductive Net.Step [DecidableEq ι] (members : Set ι) (net : Net ι σ α) : Net ι σ α → Prop where
  | mk (own : ι) (next : Node ι σ α)
    (step : (net own).Step members own (fun source => (net source).sent own) next)
    : Step members net (Function.update net own next)

abbrev Net.Steps [DecidableEq ι] (members : Set ι) : Net ι σ α → Net ι σ α → Prop :=
  Relation.ReflTransGen (Net.Step members)

namespace Net

/-- A process takes many steps, while the channels to it hold at least what they held before. -/
theorem Steps.of_node [DecidableEq ι] {net : Net ι σ α}
    (longer : ∀ source, incoming source <+: (net source).sent own)
    (steps : Node.Steps members own incoming (net own) next)
    : Net.Steps members net (Function.update net own next) := by
  induction steps with
  | refl =>
      rw [Function.update_eq_self]
  | @tail middle last before step ih =>
      have grown (source : ι)
          : (net source).sent own <+: (Function.update net own middle source).sent own := by
        by_cases here : source = own
        · subst here
          rw [Function.update_self]
          exact Node.Steps.sent_prefix before source
        · exact (Function.update_of_ne here _ _) ▸ List.prefix_rfl
      have moved : Net.Step members (Function.update net own middle)
          (Function.update (Function.update net own middle) own last) := by
        refine .mk own last ?_
        rw [Function.update_self]
        exact step.mono fun source => (longer source).trans (grown source)
      rw [Function.update_idem] at moved
      exact .tail ih moved

/-- Every snapshot is commanded at most once, and by a member. -/
structure Ordered (members : Set ι) (net : Net ι σ α) : Prop where
  once : ∀ own, (net own).commands.Nodup
  distinct
    : ∀ {own other id}, id ∈ (net own).commands → id ∈ (net other).commands → own = other
  member : ∀ {own id}, id ∈ (net own).commands → own ∈ members

structure Inv (members : Set ι) (net : Net ι σ α) : Prop where
  node : ∀ own, (net own).Inv members own
  fifo : ∀ source target, (net target).consumed source <+: (net source).sent target
  commanded : ∀ own, ∀ id ∈ (net own).ids, ∃ other, id ∈ (net other).commands
  unique : ∀ own, (net own).ids.Nodup
  member : ∀ own, ∀ id ∈ (net own).ids, own ∈ members
  missed
    : ∀ own, ∀ id ∈ (net own).missed,
        (∃ other, id ∈ (net other).commands) ∧ ∃ known ∈ (net own).ids, known ≠ id

theorem Inv.start : Inv members (fun _ => Node.start : Net ι σ α) where
  node _ := Node.Inv.start
  fifo _ _ := List.prefix_rfl
  commanded _ _ member := by cases member
  unique _ := List.nodup_nil
  member _ _ member := by cases member
  missed _ _ member := by cases member

variable {net net' : Net ι σ α}

/-- Two episodes of one process in one snapshot are the same. -/
theorem Inv.same (inv : net.Inv members) {first second : Episode ι σ α}
    (inFirst : first ∈ (net own).episodes) (inSecond : second ∈ (net own).episodes)
    (same : first.id = second.id) : first = second :=
  List.inj_on_of_nodup_map (inv.unique own) inFirst inSecond same

/-- A marker that is next in a channel stems from an episode of the sender. -/
theorem Inv.sender (inv : net.Inv members) {source : ι}
    (queued : (net own).consumed source ++ [.marker id] <+: (net source).sent own)
    : ∃ episode ∈ (net source).episodes,
        episode.id = id ∧ own ∈ episode.cut
        ∧ episode.marked own = ((net own).consumed source).length := by
  refine (((inv.node source).marked own _ id).mp ?_)
  exact getElem?_of_grows queued (by simp)

/-- A process that has not aborted a snapshot hears of it from every channel once. -/
theorem Inv.unheard (inv : net.Inv members) {source : ι}
    (fresh : ∀ episode, (episode, false) ∈ (net own).past → episode.id ≠ id)
    (idle : (net own).current = none)
    (queued : (net own).consumed source ++ [.marker id] <+: (net source).sent own)
    : id ∉ (net own).ids := by
  intro member
  obtain ⟨former, listed, rfl⟩ := List.mem_map.mp member
  obtain ⟨episode, sent, same, covered, marked⟩ := inv.sender queued
  -- the channel of the marker is one that the former episode has waited for
  have inCut : source ∈ former.cut := by
    by_cases here : source = own
    · subst here
      rwa [← inv.same sent listed same]
    · have member := inv.member source _ (List.mem_map_of_mem sent)
      exact (inv.node own).covers former listed source member here
  have complete : (former, true) ∈ (net own).past := by
    rw [Node.episodes_of_idle idle] at listed
    obtain ⟨⟨other, complete⟩, past, rfl⟩ := List.mem_map.mp listed
    cases complete with
    | true => exact past
    | false => exact (fresh _ past rfl).elim
  cases closed : former.closed source with
  | none => exact (inv.node own).done former complete source ⟨inCut, closed⟩
  | some position =>
      obtain ⟨found, -, -⟩ := (inv.node own).sound former listed source position closed
      obtain ⟨bound, -⟩ := List.getElem?_eq_some_iff.mp found
      have earlier := getElem?_of_grows (inv.fifo source own) found
      obtain ⟨again, sentAgain, sameAgain, -, markedAgain⟩ :=
        ((inv.node source).marked own position former.id).mp earlier
      obtain rfl := inv.same sent sentAgain (same.trans sameAgain.symm)
      omega

/-- Commands stay. -/
theorem Step.commands_prefix [DecidableEq ι] (step : Net.Step members net net') (other : ι)
    : (net other).commands <+: (net' other).commands := by
  obtain ⟨own, next, step⟩ := step
  by_cases here : other = own
  · subst here
    rw [Function.update_self]
    rcases step.commands with same | ⟨id, longer⟩
    · exact same ▸ List.prefix_rfl
    · rw [longer]
      exact List.prefix_append _ _
  · exact (Function.update_of_ne here _ _) ▸ List.prefix_rfl

/-- What is commanded once in the end was commanded once before. -/
theorem Ordered.before [DecidableEq ι] (ordered : net'.Ordered members)
    (step : Net.Step members net net') : net.Ordered members where
  once own := (ordered.once own).sublist (step.commands_prefix own).sublist
  distinct first second :=
    ordered.distinct ((step.commands_prefix _).mem first) ((step.commands_prefix _).mem second)
  member commanded := ordered.member ((step.commands_prefix _).mem commanded)

/-- An episode that begins is one of a snapshot that is new to its process. -/
theorem Inv.begins [DecidableEq ι] (inv : net.Inv members)
    (ordered : Ordered members (Function.update net own next))
    (because
      : next.commands = (net own).commands ++ [id]
        ∨ ∃ channel, (net own).consumed channel ++ [.marker id] <+: (net channel).sent own)
    (idle : (net own).current = none)
    (fresh : ∀ episode, (episode, false) ∈ (net own).past → episode.id ≠ id)
    : own ∈ members ∧ id ∉ (net own).ids
      ∧ (id ∈ next.commands ∨ ∃ other, id ∈ (net other).commands) := by
  rcases because with longer | ⟨source, queued⟩
  · have commanded : id ∈ (Function.update net own next own).commands := by
      rw [Function.update_self, longer]
      simp
    refine ⟨ordered.member commanded, fun listed => ?_, .inl (by rwa [Function.update_self] at commanded)⟩
    obtain ⟨other, earlier⟩ := inv.commanded own id listed
    by_cases here : other = own
    · subst here
      have once := ordered.once other
      rw [Function.update_self, longer, List.nodup_append_comm, List.singleton_append,
        List.nodup_cons] at once
      exact once.1 earlier
    · refine here (ordered.distinct ?_ commanded)
      rwa [Function.update_of_ne here]
  · obtain ⟨episode, sent, rfl, covered, -⟩ := inv.sender queued
    exact ⟨(inv.node source).within episode sent covered, inv.unheard fresh idle queued,
      .inr (inv.commanded source _ (List.mem_map_of_mem sent))⟩

/-- What has been sent stays sent. -/
theorem sent_prefix_update [DecidableEq ι] (step : (net own).Step members own incoming next)
    (source target : ι)
    : (net source).sent target <+: (Function.update net own next source).sent target := by
  by_cases here : source = own
  · subst here
    rw [Function.update_self]
    exact step.sent_prefix target
  · exact (Function.update_of_ne here _ _) ▸ List.prefix_rfl

section OneStep

variable [DecidableEq ι] (inv : net.Inv members)
  (step : (net own).Step members own (fun source => (net source).sent own) next)

include inv step

/-- What is commanded stays commanded. -/
theorem Inv.commanded_update (listed : id ∈ (net own).ids ∨ ∃ other, id ∈ (net other).commands)
    : ∃ other, id ∈ (Function.update net own next other).commands := by
  have kept {other : ι} (known : id ∈ (net other).commands)
      : id ∈ (Function.update net own next other).commands :=
    (Net.Step.commands_prefix (.mk own next step) other).mem known
  rcases listed with listed | ⟨other, known⟩
  · obtain ⟨other, known⟩ := inv.commanded own id listed
    exact ⟨other, kept known⟩
  · exact ⟨other, kept known⟩

/-- The process that takes the step begins no snapshot twice, and only what is commanded. -/
theorem Inv.ids_step (ordered : Ordered members (Function.update net own next))
    : next.ids.Nodup
      ∧ ∀ id ∈ next.ids,
          own ∈ members ∧ ∃ other, id ∈ (Function.update net own next other).commands := by
  rcases step.ids with same | ⟨began, because, idle, fresh, longer⟩
  · rw [same]
    exact ⟨inv.unique own, fun id listed =>
      ⟨inv.member own id listed, inv.commanded_update step (.inl listed)⟩⟩
  · obtain ⟨member, new, commanded⟩ := inv.begins ordered because idle fresh
    rw [longer]
    constructor
    · rw [List.nodup_append_comm, List.singleton_append, List.nodup_cons]
      exact ⟨new, inv.unique own⟩
    · intro id listed
      refine ⟨member, ?_⟩
      rcases List.mem_append.mp listed with listed | last
      · exact inv.commanded_update step (.inl listed)
      · obtain rfl := List.mem_singleton.mp last
        rcases commanded with now | earlier
        · exact ⟨own, by rwa [Function.update_self]⟩
        · exact inv.commanded_update step (.inr earlier)

/-- What the process that takes the step has missed is commanded, and not all that it knows. -/
theorem Inv.missed_step
    : ∀ id ∈ next.missed,
        (∃ other, id ∈ (Function.update net own next other).commands)
        ∧ ∃ known ∈ next.ids, known ≠ id := by
  intro id member
  have kept {known : σ} (listed : known ∈ (net own).ids) : known ∈ next.ids := by
    rcases step.ids with same | ⟨began, -, -, -, longer⟩
    · rwa [same]
    · rw [longer]
      exact List.mem_append_left _ listed
  have earlier (missed : id ∈ (net own).missed)
      : (∃ other, id ∈ (Function.update net own next other).commands)
        ∧ ∃ known ∈ next.ids, known ≠ id := by
    obtain ⟨commanded, known, listed, distinct⟩ := inv.missed own id missed
    exact ⟨inv.commanded_update step (.inr commanded), known, kept listed, distinct⟩
  rcases step.missed with same | ⟨missed, because, longer, known, listed, distinct⟩
  · exact earlier (same ▸ member)
  · rw [longer, List.mem_append, List.mem_singleton] at member
    rcases member with member | rfl
    · exact earlier member
    · refine ⟨?_, known, kept listed, distinct⟩
      rcases because with now | ⟨source, queued⟩
      · refine ⟨own, ?_⟩
        rw [Function.update_self, now]
        simp
      · obtain ⟨episode, began, rfl, -, -⟩ := inv.sender queued
        exact inv.commanded_update step
          (.inr (inv.commanded source _ (List.mem_map_of_mem began)))

end OneStep

theorem Inv.step [DecidableEq ι] (inv : net.Inv members) (step : Net.Step members net net')
    (ordered : net'.Ordered members) : net'.Inv members := by
  obtain ⟨own, next, step⟩ := step
  obtain ⟨unique, known⟩ := inv.ids_step step ordered
  have commanded {id : σ} (earlier : ∃ other, id ∈ (net other).commands)
      : ∃ other, id ∈ (Function.update net own next other).commands :=
    inv.commanded_update step (.inr earlier)
  constructor
  case node =>
    intro other
    by_cases here : other = own
    · subst here
      rw [Function.update_self]
      exact (inv.node other).step step
    · rw [Function.update_of_ne here]
      exact inv.node other
  case fifo =>
    intro source target
    refine .trans ?_ (sent_prefix_update step source target)
    by_cases here : target = own
    · subst here
      rw [Function.update_self]
      exact step.stays_prefix (fun channel => inv.fifo channel target) source
    · rw [Function.update_of_ne here]
      exact inv.fifo source target
  case commanded =>
    intro other id member
    by_cases here : other = own
    · subst here
      rw [Function.update_self] at member
      exact (known id member).2
    · rw [Function.update_of_ne here] at member
      exact commanded (inv.commanded other id member)
  case unique =>
    intro other
    by_cases here : other = own
    · subst here
      rwa [Function.update_self]
    · rw [Function.update_of_ne here]
      exact inv.unique other
  case member =>
    intro other id member
    by_cases here : other = own
    · subst here
      rw [Function.update_self] at member
      exact (known id member).1
    · rw [Function.update_of_ne here] at member
      exact inv.member other id member
  case missed =>
    intro other id member
    by_cases here : other = own
    · subst here
      rw [Function.update_self] at member ⊢
      exact inv.missed_step step id member
    · rw [Function.update_of_ne here] at member ⊢
      obtain ⟨earlier, known⟩ := inv.missed other id member
      exact ⟨commanded earlier, known⟩

/-- The invariant holds in every state that is reached with well ordered commands. -/
theorem Inv.steps [DecidableEq ι] (inv : net.Inv members) (steps : Net.Steps members net net')
    (ordered : net'.Ordered members) : net'.Inv members := by
  induction steps with
  | refl => exact inv
  | tail _ step ih => exact (ih (ordered.before step)).step step ordered

end Net

end MeshSnapshot.ChandyLamport
