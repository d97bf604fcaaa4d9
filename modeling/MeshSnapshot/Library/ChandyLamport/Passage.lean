import MeshSnapshot.Library.ChandyLamport.Cut
import MeshSnapshot.Library.Histories

/-! What a snapshot records is a state that the network could have been in. The beginnings of its
episodes cut the histories of the processes, and the run can be reordered so that it passes through
this cut, with the recorded data in its channels.
-/

namespace MeshSnapshot.ChandyLamport

open Histories

variable {ι σ α : Type}

-----------------------------------------------------------------------------------------
-- The data of a stream
-----------------------------------------------------------------------------------------

def Msg.data? : Msg σ α → Option α
  | .marker _ => none
  | .data content => some content

def dataOf (stream : List (Msg σ α)) : List α := stream.filterMap Msg.data?

@[simp] theorem dataOf_append (stream more : List (Msg σ α))
    : dataOf (stream ++ more) = dataOf stream ++ dataOf more :=
  List.filterMap_append

@[simp] theorem dataOf_marker (id : σ) : dataOf [(.marker id : Msg σ α)] = [] := rfl

@[simp] theorem dataOf_data (content : α) : dataOf [(.data content : Msg σ α)] = [content] := rfl

theorem dataOf_prefix {stream more : List (Msg σ α)} (shorter : stream <+: more)
    : dataOf stream <+: dataOf more := by
  obtain ⟨rest, rfl⟩ := shorter
  rw [dataOf_append]
  exact List.prefix_append _ _

/-- The data up to a position are those up to an earlier one and the slice in between. -/
theorem dataOf_take (stream : List (Msg σ α)) {first last : Nat} (ordered : first ≤ last)
    : dataOf (stream.take last)
      = dataOf (stream.take first) ++ (between stream first last).map Prod.snd := by
  induction stream using List.reverseRecOn with
  | nil => simp [between, dataOf]
  | append_singleton init msg ih =>
      rcases Nat.lt_or_ge init.length last with beyond | within
      case inr =>
        rw [List.take_append_of_le_length within,
          List.take_append_of_le_length (ordered.trans within),
          between_of_grows (List.prefix_append _ _) within, ih]
      case inl =>
        have whole : (init ++ [msg]).length ≤ last := by
          simpa using Nat.succ_le_of_lt beyond
        rw [List.take_of_length_le (Nat.le_of_lt beyond)] at ih
        rw [List.take_of_length_le whole, between_length whole]
        rcases Nat.lt_or_ge init.length first with short | early
        · have all : (init ++ [msg]).length ≤ first := by
            simpa using Nat.succ_le_of_lt short
          rw [List.take_of_length_le all, between_empty all, List.map_nil, List.append_nil]
        · rw [List.take_append_of_le_length early, dataOf_append, ih,
            between_length (Nat.le_of_lt beyond), List.append_assoc, List.append_cancel_left_eq]
          cases msg with
          | marker id =>
              have beside : between init first (init ++ [Msg.marker id]).length
                  = between init first init.length := between_length (by simp)
              rw [between_append_marker, beside, dataOf_marker, List.append_nil]
          | data content =>
              rw [List.length_append, List.length_singleton, between_append_data early]
              simp

section

variable [DecidableEq ι]

-----------------------------------------------------------------------------------------
-- Steps as events
-----------------------------------------------------------------------------------------

/-- What a process does: it sends and receives data, and takes part in further snapshots. -/
structure Node.Acts (node : Node ι σ α) (events : List (Event ι σ α)) (next : Node ι σ α)
    : Prop where
  sent : ∀ channel, dataOf (next.sent channel) = dataOf (node.sent channel) ++ sentTo channel events
  received
    : ∀ channel,
        dataOf (next.consumed channel)
          = dataOf (node.consumed channel) ++ receivedFrom channel events
  began : next.ids = node.ids ++ labels events

/-- Two episodes that began as the same one. -/
def Episode.SameStart (first second : Episode ι σ α) : Prop :=
  first.id = second.id ∧ first.began = second.began ∧ first.marked = second.marked

/-- An episode begins in a step. -/
structure Node.Begins (node : Node ι σ α) (episode : Episode ι σ α) (next : Node ι σ α) : Prop where
  ids : next.ids = node.ids ++ [episode.id]
  began : ∀ channel, episode.began channel = (node.consumed channel).length
  marked : ∀ channel, episode.marked channel = (node.sent channel).length

namespace Node

variable {members : Set ι} {own : ι} {node middle next : Node ι σ α} {origin : Option ι} {id : σ}
  {incoming : ι → List (Msg σ α)} {events more : List (Event ι σ α)}

theorem Acts.refl (node : Node ι σ α) : node.Acts [] node :=
  ⟨fun _ => (List.append_nil _).symm, fun _ => (List.append_nil _).symm, (List.append_nil _).symm⟩

theorem Acts.trans (first : node.Acts events middle) (second : middle.Acts more next)
    : node.Acts (events ++ more) next where
  sent channel := by
    rw [second.sent, first.sent, sentTo_append, List.append_assoc]
  received channel := by
    rw [second.received, first.received, receivedFrom_append, List.append_assoc]
  began := by
    rw [second.began, first.began, labels_append, List.append_assoc]

omit [DecidableEq ι] in
theorem dataOf_hear (node : Node ι σ α) (origin : Option ι) (id : σ) (channel : ι)
    : dataOf ((node.hear origin id).consumed channel) = dataOf (node.consumed channel) := by
  cases origin with
  | none => rfl
  | some source =>
      by_cases here : channel = source
      · subst here
        simp [hear]
      · simp [hear, here]

/-- To hear of a snapshot is to take part in it, or else no event. -/
theorem Hears.acts (hears : node.Hears members own origin id next)
    : ∃ event? : Option (Event ι σ α), node.Acts event?.toList next := by
  have received (channel : ι)
      : dataOf (next.consumed channel) = dataOf (node.consumed channel) := by
    rw [hears.consumed, dataOf_hear]
  have sent (channel : ι) : dataOf (next.sent channel) = dataOf (node.sent channel) := by
    cases hears with
    | @begins cut =>
        by_cases covered : channel ∈ cut
        · simp [Node.begin, covered]
        · simp [Node.begin, covered]
    | misses => rw [hear_sent]
    | ignores => rw [hear_sent]
    | closes => simp [Node.close]
  rcases hears.ids with same | ⟨-, -, longer⟩
  · exact ⟨none, by simpa using sent, by simpa using received, by simpa using same⟩
  · exact ⟨some (.internal id), by simpa using sent, by simpa using received,
      by simpa using longer⟩

/-- Every step is at most one event. -/
theorem Step.acts (step : node.Step members own incoming next)
    : ∃ event? : Option (Event ι σ α), node.Acts event?.toList next := by
  cases step with
  | send channel content =>
      refine ⟨some (.sent channel content), fun other => ?_, fun other => ?_, ?_⟩
      · by_cases here : other = channel
        · subst here
          simp [Node.send]
        · simp [Node.send, here, Ne.symm here]
      · simp [Node.send]
      · exact (List.append_nil _).symm
  | command hears => exact hears.acts
  | marker _ hears => exact hears.acts
  | @data channel content queued =>
      refine ⟨some (.received channel content), fun other => ?_, fun other => ?_, ?_⟩
      · simp [Node.receive]
      · by_cases here : other = channel
        · subst here
          simp [Node.receive]
        · simp [Node.receive, here, Ne.symm here]
      · have same : (node.receive channel content).ids = node.ids := by
          cases current : node.current with
          | none => simp [Node.receive, Node.ids, Node.episodes, current]
          | some episode =>
              obtain ⟨recorded, changed, -⟩ :=
                record_eq episode channel (node.consumed channel).length content
              simp [Node.receive, Node.ids, Node.episodes, current, changed]
        simp [same]
  | abort recording =>
      refine ⟨none, fun _ => by simp [Node.abort], fun _ => by simp [Node.abort], ?_⟩
      simp [Node.abort, Node.ids, Node.episodes, recording]

omit [DecidableEq ι] in
/-- An episode of a process was one before, or begins with this step. -/
theorem Hears.episodes (hears : node.Hears members own origin id next) {episode : Episode ι σ α}
    (listed : episode ∈ next.episodes)
    : (∃ former ∈ node.episodes, former.SameStart episode) ∨ node.Begins episode next := by
  cases hears with
  | @begins cut idle =>
      have before := episodes_of_idle idle
      rw [settle_episodes, episodes_of_current rfl, List.mem_append, List.mem_singleton] at listed
      rcases listed with past | rfl
      · refine .inl ⟨episode, ?_, rfl, rfl, rfl⟩
        rw [before]
        simpa [Node.begin] using past
      · refine .inr ⟨?_, fun _ => rfl, fun _ => rfl⟩
        rw [Node.ids, settle_episodes, Node.ids, before, episodes_of_current rfl]
        simp [Node.begin]
  | misses => exact .inl ⟨episode, by simpa [Node.episodes] using listed, rfl, rfl, rfl⟩
  | ignores => exact .inl ⟨episode, by simpa [Node.episodes] using listed, rfl, rfl, rfl⟩
  | @closes current channel recording =>
      rw [settle_episodes, episodes_of_current rfl, List.mem_append, List.mem_singleton] at listed
      rcases listed with past | rfl
      · refine .inl ⟨episode, List.mem_append_left _ ?_, rfl, rfl, rfl⟩
        simpa [Node.close] using past
      · exact .inl ⟨current, mem_episodes_of_current recording, rfl, rfl, rfl⟩

omit [DecidableEq ι] in
theorem Step.episodes (step : node.Step members own incoming next) {episode : Episode ι σ α}
    (listed : episode ∈ next.episodes)
    : (∃ former ∈ node.episodes, former.SameStart episode) ∨ node.Begins episode next := by
  cases step with
  | send => exact .inl ⟨episode, listed, rfl, rfl, rfl⟩
  | command hears => exact hears.episodes listed
  | marker _ hears => exact hears.episodes listed
  | @data channel content =>
      refine .inl ?_
      rcases List.mem_append.mp listed with past | now
      · exact ⟨episode, List.mem_append_left _ past, rfl, rfl, rfl⟩
      · obtain ⟨former, current, rfl⟩ := Option.map_eq_some_iff.mp (Option.mem_toList.mp now)
        obtain ⟨recorded, changed, -⟩ :=
          record_eq former channel (node.consumed channel).length content
        rw [changed]
        exact ⟨former, mem_episodes_of_current current, rfl, rfl, rfl⟩
  | @abort current recording =>
      have same : (node.abort current).episodes = node.episodes := by
        simp [Node.abort, Node.episodes, recording]
      exact .inl ⟨episode, same ▸ listed, rfl, rfl, rfl⟩

omit [DecidableEq ι] in
theorem Step.consumed_grows (step : node.Step members own incoming next) (channel : ι)
    : node.consumed channel <+: next.consumed channel := by
  cases step with
  | send => exact List.prefix_rfl
  | command hears =>
      rw [hears.consumed]
      exact hear_consumed_grows node none _ channel
  | @marker source id _ _ hears =>
      rw [hears.consumed]
      exact hear_consumed_grows node (some source) id channel
  | @data source content =>
      rcases receive_consumed node source channel content with ⟨same, -⟩ | ⟨longer, -⟩
      · exact same ▸ List.prefix_rfl
      · rw [longer]
        exact List.prefix_append _ _
  | abort => exact List.prefix_rfl

end Node

-----------------------------------------------------------------------------------------
-- Runs of a network with their histories
-----------------------------------------------------------------------------------------

/-- The history of a process up to where an episode begins. -/
structure Episode.Follows (episode : Episode ι σ α) (own : ι) (node : Node ι σ α)
    (before : List (Event ι σ α)) : Prop where
  marked : ∀ channel, episode.marked channel ≤ (node.sent channel).length
  began : ∀ channel, episode.began channel ≤ (node.consumed channel).length
  sent
    : ∀ channel,
        sentTo channel before = dataOf ((node.sent channel).take (episode.marked channel))
  received
    : ∀ channel,
        receivedFrom channel before
          = dataOf ((node.consumed channel).take (episode.began channel))
  loop : receivedFrom own before <+: sentTo own before

theorem Episode.Follows.mono {episode later : Episode ι σ α} {own : ι} {node next : Node ι σ α}
    {before : List (Event ι σ α)} (follows : episode.Follows own node before)
    (same : episode.SameStart later)
    (sent : ∀ channel, node.sent channel <+: next.sent channel)
    (consumed : ∀ channel, node.consumed channel <+: next.consumed channel)
    : later.Follows own next before := by
  obtain ⟨-, began, marked⟩ := same
  exact {
    marked := fun channel => marked ▸ (follows.marked channel).trans (sent channel).length_le
    began := fun channel => began ▸ (follows.began channel).trans (consumed channel).length_le
    sent := fun channel => by
      obtain ⟨rest, longer⟩ := sent channel
      rw [← marked, ← longer, List.take_append_of_le_length (follows.marked channel)]
      exact follows.sent channel
    received := fun channel => by
      obtain ⟨rest, longer⟩ := consumed channel
      rw [← began, ← longer, List.take_append_of_le_length (follows.began channel)]
      exact follows.received channel
    loop := follows.loop
  }

/-- A run of a network, with what has happened at each process. -/
inductive Net.Traced (members : Set ι) : Net ι σ α → (ι → List (Event ι σ α)) → Prop where
  | start : Traced members (fun _ => .start) (fun _ => [])
  | step {net : Net ι σ α} {histories : ι → List (Event ι σ α)} {own : ι} {next : Node ι σ α}
    {event? : Option (Event ι σ α)} (before : Traced members net histories)
    (step : (net own).Step members own (fun source => (net source).sent own) next)
    (acts : (net own).Acts event?.toList next)
    : Traced members (Function.update net own next)
        (Function.update histories own (histories own ++ event?.toList))

namespace Net

variable {members : Set ι} {net net' : Net ι σ α} {histories : ι → List (Event ι σ α)} {id : σ}

/-- Everything that holds of the histories of a network whatever its commands are. -/
structure Told (members : Set ι) (net : Net ι σ α) (histories : ι → List (Event ι σ α)) : Prop where
  acts : ∀ own, Node.start.Acts (histories own) (net own)
  fifo : ∀ source target, (net target).consumed source <+: (net source).sent target
  reached : Histories.Steps members (fun _ => []) histories
  begun
    : ∀ own, ∀ episode ∈ (net own).episodes,
        ∃ before,
          before ++ [.internal episode.id] <+: histories own
          ∧ episode.Follows own (net own) before

theorem Told.sent (told : net.Told members histories) (own channel : ι)
    : dataOf ((net own).sent channel) = sentTo channel (histories own) :=
  (told.acts own).sent channel

theorem Told.received (told : net.Told members histories) (own channel : ι)
    : dataOf ((net own).consumed channel) = receivedFrom channel (histories own) :=
  (told.acts own).received channel

/-- The last event of a process continues its history. -/
theorem Told.event (told : net.Told members histories) {own : ι} {next : Node ι σ α}
    {event : Event ι σ α}
    (step : (net own).Step members own (fun source => (net source).sent own) next)
    (acts : (net own).Acts [event] next)
    : Histories.Step members histories
        (Function.update histories own (histories own ++ [event])) := by
  refine .mk own event fun _ channel _ => ?_
  have stays := step.stays_prefix (fun source => told.fifo source own) channel
  have received := ((told.acts own).trans acts).received channel
  have shown : dataOf (next.consumed channel) = receivedFrom channel (histories own ++ [event]) :=
    received
  rw [← shown, ← told.sent channel own]
  exact dataOf_prefix stays

omit [DecidableEq ι] in
theorem event_of_labels {event? : Option (Event ι σ α)} {id : σ}
    (begins : labels event?.toList = [id]) : event? = some (.internal id) := by
  cases event? with
  | none => cases begins
  | some event =>
      cases event with
      | sent => cases begins
      | received => cases begins
      | internal label =>
          cases begins
          rfl

/-- An episode that begins now follows the whole history. -/
theorem Told.follows (told : net.Told members histories) {own : ι} {next : Node ι σ α}
    {episode : Episode ι σ α} (begins : (net own).Begins episode next)
    : episode.Follows own (net own) (histories own) where
  marked channel := Nat.le_of_eq (begins.marked channel)
  began channel := Nat.le_of_eq (begins.began channel)
  sent channel := by
    rw [begins.marked, List.take_length]
    exact (told.sent own channel).symm
  received channel := by
    rw [begins.began, List.take_length]
    exact (told.received own channel).symm
  loop := by
    rw [← told.received, ← told.sent]
    exact dataOf_prefix (told.fifo own own)

theorem Traced.told (traced : net.Traced members histories) : net.Told members histories := by
  induction traced with
  | start =>
      exact ⟨fun _ => .refl _, fun _ _ => List.prefix_rfl, .refl, fun _ _ listed => by cases listed⟩
  | @step net histories own next event? before step acts told =>
      have sent := step.sent_prefix
      have stays := step.stays_prefix (fun source => told.fifo source own)
      have consumed := step.consumed_grows
      constructor
      case acts =>
        intro other
        by_cases here : other = own
        · subst here
          rw [Function.update_self, Function.update_self]
          exact (told.acts other).trans acts
        · rw [Function.update_of_ne here, Function.update_of_ne here]
          exact told.acts other
      case fifo =>
        intro source target
        have grown : (net source).sent target
            <+: (Function.update net own next source).sent target := by
          by_cases here : source = own
          · subst here
            rw [Function.update_self]
            exact sent target
          · exact (Function.update_of_ne here _ _) ▸ List.prefix_rfl
        refine .trans ?_ grown
        by_cases here : target = own
        · subst here
          rw [Function.update_self]
          exact stays source
        · rw [Function.update_of_ne here]
          exact told.fifo source target
      case reached =>
        cases event? with
        | none =>
            rw [Option.toList_none, List.append_nil, Function.update_eq_self]
            exact told.reached
        | some event => exact told.reached.tail (told.event step acts)
      case begun =>
        intro other episode listed
        by_cases here : other = own
        case neg =>
          rw [Function.update_of_ne here] at listed ⊢
          rw [Function.update_of_ne here]
          exact told.begun other episode listed
        case pos =>
          subst here
          rw [Function.update_self] at listed ⊢
          rw [Function.update_self]
          rcases step.episodes listed with ⟨former, known, same⟩ | begins
          · obtain ⟨before, shorter, follows⟩ := told.begun other former known
            refine ⟨before, ?_, follows.mono same sent consumed⟩
            rw [← same.1]
            exact shorter.trans (List.prefix_append _ _)
          · obtain rfl := event_of_labels
              (List.append_cancel_left (acts.began.symm.trans begins.ids))
            exact ⟨histories other, List.prefix_rfl,
              (told.follows begins).mono ⟨rfl, rfl, rfl⟩ sent consumed⟩

/-- The steps of one process continue its history. -/
theorem Traced.steps (traced : net.Traced members histories) {own : ι}
    {incoming : ι → List (Msg σ α)} {next : Node ι σ α}
    (longer : ∀ source, incoming source <+: (net source).sent own)
    (steps : Node.Steps members own incoming (net own) next)
    : ∃ events,
        (net own).Acts events next
        ∧ Net.Traced members (Function.update net own next)
            (Function.update histories own (histories own ++ events)) := by
  induction steps with
  | refl =>
      refine ⟨[], .refl _, ?_⟩
      rw [List.append_nil, Function.update_eq_self, Function.update_eq_self]
      exact traced
  | @tail middle last before step ih =>
      obtain ⟨events, acts, traced⟩ := ih
      obtain ⟨event?, acts'⟩ := step.acts
      refine ⟨events ++ event?.toList, acts.trans acts', ?_⟩
      have grown (source : ι)
          : (net source).sent own <+: (Function.update net own middle source).sent own := by
        by_cases here : source = own
        · subst here
          rw [Function.update_self]
          exact Node.Steps.sent_prefix before source
        · exact (Function.update_of_ne here _ _) ▸ List.prefix_rfl
      have stepped : (Function.update net own middle own).Step members own
          (fun source => (Function.update net own middle source).sent own) last := by
        rw [Function.update_self]
        exact step.mono fun source => (longer source).trans (grown source)
      have acted : (Function.update net own middle own).Acts event?.toList last := by
        rwa [Function.update_self]
      have moved := traced.step stepped acted
      rwa [Function.update_self, Function.update_idem, Function.update_idem, List.append_assoc]
        at moved

/-- All members have taken part in a snapshot, and have recorded the channels between them. -/
def Recorded (members : Set ι) (net : Net ι σ α) (id : σ) : Prop :=
  ∀ own ∈ members,
    ∃ episode ∈ (net own).episodes,
      episode.id = id
      ∧ ∀ source ∈ members, source ≠ own → ∃ position, episode.closed source = some position

/-- The members pass through the cut at which they took part in a snapshot. The channels then hold
what was recorded.
-/
structure Passes (members : Set ι) (net : Net ι σ α) (id : σ)
    (histories cut : ι → List (Event ι σ α)) : Prop where
  before : ∀ own ∈ members, cut own ++ [.internal id] <+: histories own
  reached : Histories.Steps members (fun _ => []) cut
  left : Histories.Steps members cut histories
  channel
    : ∀ source ∈ members, ∀ target ∈ members,
        source ≠ target
        → ∀ sender ∈ (net source).episodes, ∀ receiver ∈ (net target).episodes,
            sender.id = id
            → receiver.id = id
            → sentTo target (cut source)
                = dataOf (((net source).sent target).take (sender.marked target))
              ∧ sentTo target (cut source)
                = receivedFrom source (cut target)
                  ++ (receiver.recorded source).map Prod.snd

/-- A snapshot records a state that lies, in some order of the steps of different processes, on the
way from the first state to the present one.
-/
theorem Traced.passes (traced : net.Traced members histories) (inv : net.Inv members)
    (recorded : net.Recorded members id) : ∃ cut, net.Passes members id histories cut := by
  have told := traced.told
  have begun (own : ι)
      : ∃ before,
          before <+: histories own
          ∧ (own ∈ members
            → before ++ [.internal id] <+: histories own
              ∧ ∀ episode ∈ (net own).episodes,
                  episode.id = id → episode.Follows own (net own) before) := by
    by_cases member : own ∈ members
    · obtain ⟨episode, listed, rfl, -⟩ := recorded own member
      obtain ⟨before, shorter, follows⟩ := told.begun own episode listed
      refine ⟨before, (List.prefix_append _ _).trans shorter, fun _ => ⟨shorter, ?_⟩⟩
      intro other known same
      exact inv.same known listed same ▸ follows
    · exact ⟨[], List.nil_prefix, fun listed => (member listed).elim⟩
  choose cut shorter here using begun
  have between (source : ι) (sourceMember : source ∈ members) (target : ι)
      (targetMember : target ∈ members) (distinct : source ≠ target)
      (sender : Episode ι σ α) (sent : sender ∈ (net source).episodes)
      (receiver : Episode ι σ α) (received : receiver ∈ (net target).episodes)
      (sentId : sender.id = id) (receivedId : receiver.id = id)
      : sentTo target (cut source)
          = dataOf (((net source).sent target).take (sender.marked target))
        ∧ sentTo target (cut source)
          = receivedFrom source (cut target) ++ (receiver.recorded source).map Prod.snd := by
    have sends := ((here source sourceMember).2 sender sent sentId).sent target
    have follows := (here target targetMember).2 receiver received receivedId
    refine ⟨sends, ?_⟩
    obtain ⟨other, listed, otherId, closed⟩ := recorded target targetMember
    obtain rfl := inv.same received listed (receivedId.trans otherId.symm)
    obtain ⟨position, closed⟩ := closed source sourceMember distinct
    obtain ⟨-, marked, began, channel⟩ :=
      inv.agreement sent received (sentId.trans receivedId.symm) closed
    have same : ((net target).consumed source).take (receiver.began source)
        = ((net source).sent target).take (receiver.began source) := by
      obtain ⟨rest, whole⟩ := told.fifo source target
      rw [← whole, List.take_append_of_le_length (follows.began source)]
    rw [sends, marked, dataOf_take _ began, follows.received, same, channel]
  have consistent : Consistent members cut := by
    intro source sourceMember target targetMember
    by_cases same : source = target
    · subst same
      obtain ⟨episode, listed, rfl, -⟩ := recorded source sourceMember
      exact ((here source sourceMember).2 episode listed rfl).loop
    · obtain ⟨sender, sent, sentId, -⟩ := recorded source sourceMember
      obtain ⟨receiver, received, receivedId, -⟩ := recorded target targetMember
      obtain ⟨-, inFlight⟩ := between source sourceMember target targetMember same sender sent
        receiver received sentId receivedId
      rw [inFlight]
      exact List.prefix_append _ _
  obtain ⟨reached, left⟩ := told.reached.passes shorter consistent
  exact ⟨cut, fun own member => (here own member).1, reached, left, between⟩

end Net

end

end MeshSnapshot.ChandyLamport
