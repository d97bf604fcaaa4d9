import MeshSnapshot.Library.ChandyLamport.Node

/-! What holds of one process whatever the others do: its markers stand where its episodes
say, and every closed channel was recorded from the beginning of the episode to the marker.
-/

namespace MeshSnapshot.ChandyLamport

variable {ι σ α : Type}

-----------------------------------------------------------------------------------------
-- Episodes and streams
-----------------------------------------------------------------------------------------

/-- A closed channel was closed by a marker, and recorded up to it. -/
def Episode.Sound (episode : Episode ι σ α) (consumed : ι → List (Msg σ α)) : Prop :=
  ∀ channel position,
    episode.closed channel = some position
    → (consumed channel)[position]? = some (.marker episode.id)
      ∧ episode.began channel ≤ position
      ∧ episode.recorded channel
        = between (consumed channel) (episode.began channel) position

/-- An open channel has been recorded as far as it was consumed. -/
def Episode.Recording (episode : Episode ι σ α) (consumed : ι → List (Msg σ α)) : Prop :=
  ∀ channel,
    episode.Open channel
    → episode.began channel ≤ (consumed channel).length
      ∧ episode.recorded channel
        = between (consumed channel) (episode.began channel) (consumed channel).length

/-- A stream found at a position keeps what it has there when it grows. -/
theorem getElem?_of_grows {stream more : List (Msg σ α)} {position : Nat} {msg : Msg σ α}
    (isPrefix : stream <+: more) (found : stream[position]? = some msg)
    : more[position]? = some msg := by
  obtain ⟨rest, rfl⟩ := isPrefix
  obtain ⟨bound, -⟩ := List.getElem?_eq_some_iff.mp found
  rw [List.getElem?_append_left bound, found]

theorem Episode.Sound.mono {episode : Episode ι σ α} {consumed more : ι → List (Msg σ α)}
    (sound : episode.Sound consumed) (grows : ∀ channel, consumed channel <+: more channel)
    : episode.Sound more := by
  intro channel position isClosed
  obtain ⟨found, later, recorded⟩ := sound channel position isClosed
  obtain ⟨bound, -⟩ := List.getElem?_eq_some_iff.mp found
  refine ⟨getElem?_of_grows (grows channel) found, later, ?_⟩
  rw [recorded, between_of_grows (grows channel) (Nat.le_of_lt bound)]

/-- A marker adds nothing to what has been recorded. -/
theorem Episode.Recording.marker [DecidableEq ι] {episode : Episode ι σ α}
    {consumed : ι → List (Msg σ α)} (recording : episode.Recording consumed) (channel : ι)
    (id : σ)
    : episode.Recording
        (Function.update consumed channel (consumed channel ++ [.marker id])) := by
  intro other opened
  obtain ⟨bound, recorded⟩ := recording other opened
  by_cases here : other = channel
  · subst here
    rw [Function.update_self, between_append_marker, between_length (by simp)]
    exact ⟨bound.trans (by simp), recorded⟩
  · rw [Function.update_of_ne here]
    exact ⟨bound, recorded⟩

namespace Node

-----------------------------------------------------------------------------------------
-- The invariant
-----------------------------------------------------------------------------------------

/-- What every step keeps, and what does not depend on whether an episode is complete. -/
structure Tracked (members : Set ι) (own : ι) (node : Node ι σ α) : Prop where
  marked
    : ∀ channel position id,
        (node.sent channel)[position]? = some (.marker id)
        ↔ ∃ episode ∈ node.episodes,
            episode.id = id ∧ channel ∈ episode.cut ∧ episode.marked channel = position
  sound : ∀ episode ∈ node.episodes, episode.Sound node.consumed
  recording : ∀ episode, node.current = some episode → episode.Recording node.consumed
  heard
    : ∀ channel id,
        .marker id ∈ node.consumed channel
        → id ∈ node.missed
          ∨ ∃ episode ∈ node.episodes, episode.id = id ∧ ¬ episode.Open channel
  commanded
    : ∀ id ∈ node.commands, id ∈ node.missed ∨ ∃ episode ∈ node.episodes, episode.id = id
  within : ∀ episode ∈ node.episodes, episode.cut ⊆ members
  covers
    : ∀ episode ∈ node.episodes, ∀ member ∈ members, member ≠ own → member ∈ episode.cut
  done : ∀ episode, (episode, true) ∈ node.past → ∀ channel, ¬ episode.Open channel

/-- Between two steps, an episode that is not over waits for some channel. -/
structure Inv (members : Set ι) (own : ι) (node : Node ι σ α) : Prop
    extends Tracked members own node where
  live : ∀ episode, node.current = some episode → ∃ channel, episode.Open channel

variable {members : Set ι} {own : ι} {node next : Node ι σ α} {origin : Option ι} {id : σ}

theorem Inv.start : (start : Node ι σ α).Inv members own where
  marked _ _ _ := by simp [Node.start, Node.episodes]
  sound _ member := by cases member
  recording _ current := by cases current
  heard _ _ member := by cases member
  commanded _ member := by cases member
  within _ member := by cases member
  covers _ member := by cases member
  done _ member := by cases member
  live _ current := by cases current

theorem episodes_of_current {episode : Episode ι σ α} (current : node.current = some episode)
    : node.episodes = node.past.map Prod.fst ++ [episode] := by
  simp [episodes, current]

theorem episodes_of_idle (idle : node.current = none)
    : node.episodes = node.past.map Prod.fst := by
  simp [episodes, idle]

theorem mem_episodes_of_current {episode : Episode ι σ α}
    (current : node.current = some episode) : episode ∈ node.episodes := by
  simp [episodes, current]

theorem mem_episodes_of_past {episode : Episode ι σ α} {complete : Bool}
    (past : (episode, complete) ∈ node.past) : episode ∈ node.episodes :=
  List.mem_append_left _ (List.mem_map.mpr ⟨_, past, rfl⟩)

-----------------------------------------------------------------------------------------
-- Settling and ending
-----------------------------------------------------------------------------------------

@[simp] theorem settle_sent : node.settle.sent = node.sent := by
  unfold settle
  split <;> (try split) <;> rfl

@[simp] theorem settle_consumed : node.settle.consumed = node.consumed := by
  unfold settle
  split <;> (try split) <;> rfl

@[simp] theorem settle_commands : node.settle.commands = node.commands := by
  unfold settle
  split <;> (try split) <;> rfl

@[simp] theorem settle_missed : node.settle.missed = node.missed := by
  unfold settle
  split <;> (try split) <;> rfl

@[simp] theorem settle_episodes : node.settle.episodes = node.episodes := by
  unfold settle
  split
  case h_1 => rfl
  case h_2 episode current =>
    split
    · rfl
    · simp [episodes, current]

/-- Settling makes the invariant of what the steps track. -/
theorem Tracked.settle (tracked : node.Tracked members own) : node.settle.Inv members own where
  marked channel position id := by simpa using tracked.marked channel position id
  sound episode member := by
    rw [settle_consumed]
    exact tracked.sound episode (by simpa using member)
  recording episode current := by
    rw [settle_consumed]
    unfold Node.settle at current
    split at current
    case h_1 idle => cases idle.symm.trans current
    case h_2 =>
      split at current
      · exact tracked.recording episode current
      · cases current
  heard channel id member := by simpa using tracked.heard channel id (by simpa using member)
  commanded id member := by simpa using tracked.commanded id (by simpa using member)
  within episode member := tracked.within episode (by simpa using member)
  covers episode member := tracked.covers episode (by simpa using member)
  done episode past := by
    unfold Node.settle at past
    split at past
    case h_1 => exact tracked.done episode past
    case h_2 =>
      split at past
      case isTrue => exact tracked.done episode past
      case isFalse closed =>
        rcases List.mem_append.mp past with past | last
        · exact tracked.done episode past
        · obtain ⟨rfl, -⟩ := Prod.mk.inj (List.mem_singleton.mp last)
          exact not_exists.mp closed
  live episode current := by
    unfold Node.settle at current
    split at current
    case h_1 idle => cases idle.symm.trans current
    case h_2 other recording =>
      split at current
      case isTrue opened =>
        obtain rfl := Option.some.inj (recording.symm.trans current)
        exact opened
      case isFalse => cases current

theorem Inv.abort (inv : node.Inv members own) {episode : Episode ι σ α}
    (recording : node.current = some episode)
    : (node.abort episode).Inv members own := by
  have episodes : (node.abort episode).episodes = node.episodes := by
    simp [Node.abort, Node.episodes, recording]
  exact {
    marked := by rw [episodes]; exact inv.marked
    sound := by rw [episodes]; exact inv.sound
    recording := fun _ current => by cases current
    heard := by rw [episodes]; exact inv.heard
    commanded := by rw [episodes]; exact inv.commanded
    within := by rw [episodes]; exact inv.within
    covers := by rw [episodes]; exact inv.covers
    done := fun other past => by
      rcases List.mem_append.mp past with past | last
      · exact inv.done other past
      · cases List.mem_singleton.mp last
    live := fun _ current => by cases current
  }

-----------------------------------------------------------------------------------------
-- Hearing of a snapshot
-----------------------------------------------------------------------------------------

theorem hear_consumed_grows (node : Node ι σ α) (origin : Option ι) (id : σ) (channel : ι)
    : node.consumed channel <+: (node.hear origin id).consumed channel := by
  cases origin with
  | none => exact List.prefix_rfl
  | some source =>
      by_cases here : channel = source
      · subst here
        simp [hear]
      · simp [hear, here]

theorem hear_recording {episode : Episode ι σ α} (recording : episode.Recording node.consumed)
    : episode.Recording (node.hear origin id).consumed := by
  cases origin with
  | none => exact recording
  | some channel =>
      classical
      exact recording.marker channel id

/-- The marker that was heard is the only new one. -/
theorem mem_hear_consumed {channel : ι} {other : σ}
    (member : .marker other ∈ (node.hear origin id).consumed channel)
    : .marker other ∈ node.consumed channel ∨ other = id ∧ origin = some channel := by
  cases origin with
  | none => exact .inl member
  | some source =>
      by_cases here : channel = source
      · subst here
        simpa [hear] using member
      · exact .inl (by simpa [hear, here] using member)

theorem mem_hear_commands {other : σ} (member : other ∈ (node.hear origin id).commands)
    : other ∈ node.commands ∨ other = id := by
  cases origin with
  | none => simpa [hear] using member
  | some channel => exact .inl member

@[simp] theorem hear_sent : (node.hear origin id).sent = node.sent := by
  cases origin <;> rfl

@[simp] theorem hear_missed : (node.hear origin id).missed = node.missed := by
  cases origin <;> rfl

@[simp] theorem hear_current : (node.hear origin id).current = node.current := by
  cases origin <;> rfl

@[simp] theorem hear_past : (node.hear origin id).past = node.past := by
  cases origin <;> rfl

/-- A snapshot that changes no episode is one that is missed, or known already. -/
theorem Inv.hear (inv : node.Inv members own) {missed : List σ}
    (keeps : ∀ other ∈ node.missed, other ∈ missed)
    (known
      : id ∈ missed
        ∨ ∃ episode ∈ node.episodes,
            episode.id = id ∧ ∀ channel, origin = some channel → ¬ episode.Open channel)
    : { node.hear origin id with missed }.Inv members own := by
  have episodes : { node.hear origin id with missed : Node ι σ α }.episodes = node.episodes := by
    simp [Node.episodes]
  exact {
    marked := by
      rw [episodes]
      simpa using inv.marked
    sound := fun episode member =>
      (inv.sound episode (by rwa [episodes] at member)).mono (hear_consumed_grows node origin id)
    recording := fun episode current =>
      hear_recording (inv.recording episode (by simpa using current))
    heard := fun channel other member => by
      rw [episodes]
      rcases mem_hear_consumed member with earlier | ⟨rfl, source⟩
      · exact (inv.heard channel other earlier).imp_left (keeps other)
      · rcases known with missed | ⟨episode, member, same, closed⟩
        · exact .inl missed
        · exact .inr ⟨episode, member, same, closed channel source⟩
    commanded := fun other member => by
      rw [episodes]
      rcases mem_hear_commands member with earlier | rfl
      · exact (inv.commanded other earlier).imp_left (keeps other)
      · rcases known with missed | ⟨episode, member, same, -⟩
        · exact .inl missed
        · exact .inr ⟨episode, member, same⟩
    within := fun episode member => inv.within episode (by rwa [episodes] at member)
    covers := fun episode member => inv.covers episode (by rwa [episodes] at member)
    done := fun episode past => inv.done episode (by simpa using past)
    live := fun episode current => inv.live episode (by simpa using current)
  }

/-- The episode that begins is sound: it has closed at most the channel it was heard from. -/
theorem opening_sound (node : Node ι σ α) (origin : Option ι) (id : σ) (cut : Set ι)
    : (node.opening origin id cut).Sound (node.hear origin id).consumed := by
  intro channel position isClosed
  simp only [opening] at isClosed
  split at isClosed
  case isTrue source =>
    subst source
    obtain rfl := Option.some.inj isClosed
    refine ⟨by simp [hear, opening], Nat.le_refl _, ?_⟩
    exact (between_empty (Nat.le_refl _)).symm
  case isFalse => cases isClosed

theorem opening_recording (node : Node ι σ α) (origin : Option ι) (id : σ) (cut : Set ι)
    : (node.opening origin id cut).Recording (node.hear origin id).consumed := by
  rintro channel ⟨-, notClosed⟩
  have elsewhere : origin ≠ some channel := by
    intro source
    simp [opening, source] at notClosed
  have unchanged : (node.hear origin id).consumed channel = node.consumed channel := by
    cases origin with
    | none => rfl
    | some source =>
        have other : channel ≠ source := fun same => elsewhere (congrArg some same.symm)
        simp [hear, other]
  rw [unchanged]
  exact ⟨Nat.le_refl _, (between_empty (Nat.le_refl _)).symm⟩

theorem Inv.begin (inv : node.Inv members own) (idle : node.current = none) {cut : Set ι}
    (within : cut ⊆ members) (covers : ∀ member ∈ members, member ≠ own → member ∈ cut)
    : (node.begin origin id cut).Tracked members own := by
  have episodes : (node.begin origin id cut).episodes
      = node.episodes ++ [node.opening origin id cut] := by
    simp [Node.episodes, Node.begin, idle]
  have each {property : Episode ι σ α → Prop} (old : ∀ episode ∈ node.episodes, property episode)
      (new : property (node.opening origin id cut))
      : ∀ episode ∈ (node.begin origin id cut).episodes, property episode := by
    intro episode member
    rw [episodes] at member
    rcases List.mem_append.mp member with member | last
    · exact old episode member
    · rwa [List.mem_singleton.mp last]
  exact {
    marked := fun channel position other => by
      have earlier := inv.marked channel position other
      simp only [episodes, List.mem_append, List.mem_singleton, or_and_right, exists_or,
        exists_eq_left, ← earlier]
      simp only [Node.begin, opening]
      by_cases covered : channel ∈ cut
      · simp only [covered, true_and]
        exact marker_at_append_marker
      · simp [covered]
    sound := each
      (fun episode member =>
        (inv.sound episode member).mono (hear_consumed_grows node origin id))
      (opening_sound node origin id cut)
    recording := fun episode current => by
      obtain rfl := Option.some.inj current
      exact opening_recording node origin id cut
    heard := fun channel other member => by
      rw [episodes]
      rcases mem_hear_consumed member with earlier | ⟨rfl, source⟩
      · rcases inv.heard channel other earlier with missed | ⟨episode, member, known⟩
        · exact .inl (by simpa [Node.begin] using missed)
        · exact .inr ⟨episode, List.mem_append_left _ member, known⟩
      · refine .inr ⟨_, List.mem_append_right _ (List.mem_singleton_self _), rfl, ?_⟩
        rintro ⟨-, notClosed⟩
        simp [opening, source] at notClosed
    commanded := fun other member => by
      rw [episodes]
      rcases mem_hear_commands member with earlier | rfl
      · rcases inv.commanded other earlier with missed | ⟨episode, member, known⟩
        · exact .inl (by simpa [Node.begin] using missed)
        · exact .inr ⟨episode, List.mem_append_left _ member, known⟩
      · exact .inr ⟨_, List.mem_append_right _ (List.mem_singleton_self _), rfl⟩
    within := each inv.within within
    covers := each inv.covers covers
    done := fun episode past => inv.done episode (by simpa [Node.begin] using past)
  }

-----------------------------------------------------------------------------------------
-- Changing the current episode
-----------------------------------------------------------------------------------------

/-- What holds of all episodes still does after a change of the current one. -/
theorem forall_episodes_of_change {property : Episode ι σ α → Prop}
    {change : Episode ι σ α → Episode ι σ α} (after : next.current = node.current.map change)
    (past : next.past = node.past) (old : ∀ episode ∈ node.episodes, property episode)
    (new : ∀ episode, node.current = some episode → property (change episode))
    : ∀ episode ∈ next.episodes, property episode := by
  intro episode member
  rw [episodes, past, after, List.mem_append] at member
  rcases member with member | member
  · exact old episode (List.mem_append_left _ member)
  · obtain ⟨former, current, rfl⟩ := Option.map_eq_some_iff.mp (Option.mem_toList.mp member)
    exact new former current

/-- An episode is still there, or it is the one that has changed. -/
theorem exists_episode_of_change {property : Episode ι σ α → Prop}
    {change : Episode ι σ α → Episode ι σ α} (after : next.current = node.current.map change)
    (past : next.past = node.past)
    (kept : ∀ episode, property episode → property (change episode))
    (found : ∃ episode ∈ node.episodes, property episode)
    : ∃ episode ∈ next.episodes, property episode := by
  obtain ⟨episode, member, holds⟩ := found
  rcases List.mem_append.mp member with member | member
  · exact ⟨episode, List.mem_append_left _ (past ▸ member), holds⟩
  · have current := Option.mem_toList.mp member
    refine ⟨change episode, mem_episodes_of_current ?_, kept episode holds⟩
    rw [after, current, Option.map_some]

/-- The markers that were sent are still those of the episodes. -/
theorem marked_of_change {change : Episode ι σ α → Episode ι σ α}
    (tracked : node.Tracked members own) (after : next.current = node.current.map change)
    (past : next.past = node.past) (sent : next.sent = node.sent)
    (same
      : ∀ episode,
          (change episode).id = episode.id ∧ (change episode).cut = episode.cut
          ∧ (change episode).marked = episode.marked)
    (channel : ι) (position : Nat) (id : σ)
    : (next.sent channel)[position]? = some (.marker id)
      ↔ ∃ episode ∈ next.episodes,
          episode.id = id ∧ channel ∈ episode.cut ∧ episode.marked channel = position := by
  rw [sent, tracked.marked channel position id]
  constructor
  · refine exists_episode_of_change after past fun episode holds => ?_
    rwa [(same episode).1, (same episode).2.1, (same episode).2.2]
  · rintro ⟨episode, member, holds⟩
    have each : ∀ episode ∈ next.episodes,
        episode.id = id ∧ channel ∈ episode.cut ∧ episode.marked channel = position
        → ∃ episode ∈ node.episodes,
            episode.id = id ∧ channel ∈ episode.cut ∧ episode.marked channel = position := by
      refine forall_episodes_of_change after past
        (fun episode member holds => ⟨episode, member, holds⟩) fun episode current holds => ?_
      rw [(same episode).1, (same episode).2.1, (same episode).2.2] at holds
      exact ⟨episode, mem_episodes_of_current current, holds⟩
    exact each episode member holds

theorem close_open {episode : Episode ι σ α} {channel other : ι} {position : Nat}
    : (episode.close channel position).Open other ↔ episode.Open other ∧ other ≠ channel := by
  by_cases here : other = channel
  · simp [Episode.Open, Episode.close, here]
  · simp [Episode.Open, Episode.close, here]

/-- The marker of an open channel closes it at the position where the marker stands. -/
theorem Inv.close (inv : node.Inv members own) {episode : Episode ι σ α} {channel : ι}
    (current : node.current = some episode) (opened : episode.Open channel)
    : (node.close episode channel).Tracked members own := by
  have recording := inv.recording episode current
  have grows := hear_consumed_grows node (some channel) episode.id
  have found : ((node.hear (some channel) episode.id).consumed channel)[
      (node.consumed channel).length]? = some (.marker episode.id) := by
    simp [Node.hear]
  have after : (node.close episode channel).current
      = node.current.map (·.close channel (node.consumed channel).length) := by
    rw [current]
    rfl
  have past : (node.close episode channel).past = node.past := rfl
  have consumed : (node.close episode channel).consumed
      = (node.hear (some channel) episode.id).consumed := rfl
  exact {
    marked := marked_of_change inv.toTracked after past rfl fun _ => ⟨rfl, rfl, rfl⟩
    sound := by
      rw [consumed]
      refine forall_episodes_of_change after past
        (fun other member => (inv.sound other member).mono grows) ?_
      intro former again other position isClosed
      obtain rfl := Option.some.inj (current.symm.trans again)
      by_cases here : other = channel
      · subst here
        obtain rfl : (node.consumed other).length = position := by
          simpa [Episode.close] using isClosed
        obtain ⟨bound, recorded⟩ := recording other opened
        exact ⟨found, bound,
          recorded.trans (between_of_grows (grows other) (Nat.le_refl _)).symm⟩
      · have earlier : episode.closed other = some position := by
          simpa [Episode.close, here] using isClosed
        exact (inv.sound episode (mem_episodes_of_current current)).mono grows other position
          earlier
    recording := by
      intro changed again other opened
      obtain rfl := Option.some.inj again
      rw [consumed]
      exact hear_recording recording other (close_open.mp opened).1
    heard := fun other id member => by
      rw [consumed] at member
      rcases mem_hear_consumed member with earlier | ⟨rfl, source⟩
      · refine (inv.heard other id earlier).imp_right ?_
        refine exists_episode_of_change after past fun _ holds => ⟨holds.1, fun again => ?_⟩
        exact holds.2 (close_open.mp again).1
      · obtain rfl := Option.some.inj source
        refine .inr ⟨_, mem_episodes_of_current rfl, rfl, fun again => ?_⟩
        exact (close_open.mp again).2 rfl
    commanded := fun id member =>
      (inv.commanded id member).imp_right
        (exists_episode_of_change after past fun _ holds => holds)
    within := forall_episodes_of_change after past inv.within fun episode current =>
      inv.within episode (mem_episodes_of_current current)
    covers := forall_episodes_of_change after past inv.covers fun episode current =>
      inv.covers episode (mem_episodes_of_current current)
    done := inv.done
  }

theorem record_open {episode : Episode ι σ α} {channel other : ι} {position : Nat} {content : α}
    : (episode.record channel position content).Open other ↔ episode.Open other := by
  unfold Episode.record
  split <;> rfl

/-- Recording changes what is recorded on one channel, if that is open. -/
theorem record_eq (episode : Episode ι σ α) (channel : ι) (position : Nat) (content : α)
    : ∃ recorded,
        episode.record channel position content = { episode with recorded }
        ∧ (∀ other, other ≠ channel ∨ ¬ episode.Open other
          → recorded other = episode.recorded other)
        ∧ (episode.Open channel
          → recorded channel = episode.recorded channel ++ [(position, content)]) := by
  unfold Episode.record
  split
  case isTrue opened =>
    refine ⟨_, rfl, fun other elsewhere => ?_, fun _ => by simp⟩
    have distinct : other ≠ channel := by
      rintro rfl
      exact elsewhere.elim (fun distinct => distinct rfl) fun notOpen => notOpen opened
    simp [distinct]
  case isFalse notOpen => exact ⟨_, rfl, fun _ _ => rfl, fun opened => (notOpen opened).elim⟩

theorem receive_consumed (node : Node ι σ α) (channel other : ι) (content : α)
    : (node.receive channel content).consumed other = node.consumed other ∧ other ≠ channel
      ∨ (node.receive channel content).consumed other = node.consumed other ++ [.data content]
        ∧ other = channel := by
  by_cases here : other = channel
  · subst here
    exact .inr ⟨by simp [Node.receive], rfl⟩
  · exact .inl ⟨by simp [Node.receive, here], here⟩

/-- Data from an open channel are recorded. -/
theorem Inv.receive (inv : node.Inv members own) (channel : ι) (content : α)
    : (node.receive channel content).Inv members own := by
  have after : (node.receive channel content).current
      = node.current.map (·.record channel (node.consumed channel).length content) := rfl
  have past : (node.receive channel content).past = node.past := rfl
  have streams := fun other => receive_consumed node channel other content
  have grows (other : ι)
      : node.consumed other <+: (node.receive channel content).consumed other := by
    rcases streams other with ⟨same, -⟩ | ⟨longer, -⟩
    · exact same ▸ List.prefix_rfl
    · rw [longer]
      exact List.prefix_append _ _
  have change (episode : Episode ι σ α) :=
    record_eq episode channel (node.consumed channel).length content
  exact {
    marked := marked_of_change inv.toTracked after past rfl fun episode => by
      obtain ⟨recorded, changed, -⟩ := change episode
      rw [changed]
      exact ⟨rfl, rfl, rfl⟩
    sound := by
      refine forall_episodes_of_change after past
        (fun other member => (inv.sound other member).mono grows) ?_
      intro episode current other position isClosed
      obtain ⟨recorded, changed, kept, -⟩ := change episode
      rw [changed] at isClosed ⊢
      have sound := (inv.sound episode (mem_episodes_of_current current)).mono grows
      have notOpen : ¬ episode.Open other := fun opened =>
        Option.some_ne_none _ (isClosed.symm.trans opened.2)
      refine ⟨(sound other position isClosed).1, (sound other position isClosed).2.1, ?_⟩
      exact (kept other (.inr notOpen)).trans (sound other position isClosed).2.2
    recording := by
      intro changed again other opened
      obtain ⟨episode, current, rfl⟩ := Option.map_eq_some_iff.mp again
      have wasOpen := record_open.mp opened
      obtain ⟨bound, soFar⟩ := inv.recording episode current other wasOpen
      obtain ⟨recorded, changed, kept, extended⟩ := change episode
      rw [changed]
      rcases streams other with ⟨same, elsewhere⟩ | ⟨longer, rfl⟩
      · rw [same]
        exact ⟨bound, (kept other (.inl elsewhere)).trans soFar⟩
      · rw [longer, List.length_append, List.length_singleton, between_append_data bound,
          ← soFar]
        exact ⟨Nat.le_succ_of_le bound, extended wasOpen⟩
    heard := fun other id member => by
      have earlier : .marker id ∈ node.consumed other := by
        rcases streams other with ⟨same, -⟩ | ⟨longer, -⟩
        · rwa [same] at member
        · simpa [longer] using member
      refine (inv.heard other id earlier).imp_right ?_
      refine exists_episode_of_change after past fun episode holds => ⟨?_, fun again => ?_⟩
      · obtain ⟨recorded, changed, -⟩ := change episode
        rw [changed]
        exact holds.1
      · exact holds.2 (record_open.mp again)
    commanded := fun id member => by
      refine (inv.commanded id member).imp_right ?_
      refine exists_episode_of_change after past fun episode holds => ?_
      obtain ⟨recorded, changed, -⟩ := change episode
      rw [changed]
      exact holds
    within := forall_episodes_of_change after past inv.within fun episode current => by
      obtain ⟨recorded, changed, -⟩ := change episode
      rw [changed]
      exact inv.within episode (mem_episodes_of_current current)
    covers := forall_episodes_of_change after past inv.covers fun episode current => by
      obtain ⟨recorded, changed, -⟩ := change episode
      rw [changed]
      exact inv.covers episode (mem_episodes_of_current current)
    done := inv.done
    live := by
      intro changed again
      obtain ⟨episode, current, rfl⟩ := Option.map_eq_some_iff.mp again
      obtain ⟨other, opened⟩ := inv.live episode current
      exact ⟨other, record_open.mpr opened⟩
  }

theorem Inv.send (inv : node.Inv members own) (channel : ι) (content : α)
    : (node.send channel content).Inv members own where
  marked other position id := by
    refine Iff.trans ?_ (inv.marked other position id)
    by_cases here : other = channel
    · subst here
      simp only [Node.send, Function.update_self]
      exact marker_at_append_data
    · simp [Node.send, here]
  sound := inv.sound
  recording := inv.recording
  heard := inv.heard
  commanded := inv.commanded
  within := inv.within
  covers := inv.covers
  done := inv.done
  live := inv.live

-----------------------------------------------------------------------------------------
-- Steps
-----------------------------------------------------------------------------------------

theorem Inv.hears (inv : node.Inv members own) (hears : node.Hears members own origin id next)
    : next.Inv members own := by
  cases hears with
  | begins idle within covers _ => exact (inv.begin idle within covers).settle
  | misses recording other =>
      exact inv.hear (fun _ member => List.mem_append_left _ member)
        (.inl (List.mem_append_right _ (List.mem_singleton_self _)))
  | ignores recording same closed =>
      have heard := inv.hear (fun _ member => member)
        (.inr ⟨_, mem_episodes_of_current recording, same, closed⟩)
      have unchanged : { node.hear origin id with missed := node.missed : Node ι σ α }
          = node.hear origin id := by
        cases origin <;> rfl
      rwa [unchanged] at heard
  | closes recording same source opened =>
      subst same
      exact (inv.close recording opened).settle

/-- Every step keeps the invariant of its process. -/
theorem Inv.step {incoming : ι → List (Msg σ α)} (inv : node.Inv members own)
    (step : node.Step members own incoming next)
    : next.Inv members own := by
  cases step with
  | send channel content => exact inv.send channel content
  | command hears => exact inv.hears hears
  | marker _ hears => exact inv.hears hears
  | data queued => exact inv.receive _ _
  | abort recording => exact inv.abort recording

end Node

end MeshSnapshot.ChandyLamport
