import Mathlib.Data.List.Basic
import Mathlib.Data.Set.Basic
import Mathlib.Logic.Function.Basic
import Mathlib.Logic.Relation

/-! One process of a Chandy-Lamport snapshot. Processes may take many snapshots; a marker of
another snapshot than the one being recorded is missed. The streams of a process are kept
whole, so that an episode can be described by positions in them.
-/

namespace MeshSnapshot.ChandyLamport

variable {ι σ α : Type}

/-- What a channel carries. -/
inductive Msg (σ α : Type) where
  | marker (id : σ)
  | data (content : α)

/-- The data of a stream from one position up to another, with their positions. -/
def between (stream : List (Msg σ α)) (first last : Nat) : List (Nat × α) :=
  stream.zipIdx.filterMap fun
    | (.data content, position) =>
        if first ≤ position ∧ position < last then some (position, content) else none
    | (.marker _, _) => none

/-- The part of one process in one snapshot. -/
structure Episode (ι σ α : Type) where
  id : σ
  /-- The channels that the snapshot covers. -/
  cut : Set ι
  /-- How much of each channel had been consumed when the episode began. -/
  began : ι → Nat
  /-- Where the own marker stands in each outgoing channel. -/
  marked : ι → Nat
  /-- Where the marker that closed an incoming channel stands in it. -/
  closed : ι → Option Nat
  recorded : ι → List (Nat × α)

/-- The episode still waits for the marker of this channel. -/
def Episode.Open (episode : Episode ι σ α) (channel : ι) : Prop :=
  channel ∈ episode.cut ∧ episode.closed channel = none

structure Node (ι σ α : Type) where
  sent : ι → List (Msg σ α)
  consumed : ι → List (Msg σ α)
  /-- Snapshots that this process was told to start. -/
  commands : List σ
  /-- Snapshots that it did not take notice of while it recorded another one. -/
  missed : List σ
  current : Option (Episode ι σ α)
  /-- Episodes that have ended, and whether they were complete. -/
  past : List (Episode ι σ α × Bool)

-----------------------------------------------------------------------------------------
-- Steps
-----------------------------------------------------------------------------------------

section Steps

open Classical

noncomputable def Episode.close (episode : Episode ι σ α) (channel : ι) (position : Nat)
    : Episode ι σ α :=
  { episode with closed := Function.update episode.closed channel (some position) }

/-- Data are recorded if they come from an open channel. -/
noncomputable def Episode.record (episode : Episode ι σ α) (channel : ι) (position : Nat)
    (content : α)
    : Episode ι σ α :=
  if episode.Open channel then
    { episode with
      recorded :=
        Function.update episode.recorded channel
          (episode.recorded channel ++ [(position, content)]) }
  else
    episode

namespace Node

def start : Node ι σ α where
  sent _ := []
  consumed _ := []
  commands := []
  missed := []
  current := none
  past := []

def episodes (node : Node ι σ α) : List (Episode ι σ α) :=
  node.past.map Prod.fst ++ node.current.toList

/-- The snapshots that the process has taken part in. -/
def ids (node : Node ι σ α) : List σ := node.episodes.map Episode.id

noncomputable def send (node : Node ι σ α) (channel : ι) (content : α) : Node ι σ α :=
  { node with
    sent := Function.update node.sent channel (node.sent channel ++ [.data content]) }

/-- A snapshot is heard of from a channel, or else by a command. -/
noncomputable def hear (node : Node ι σ α) (origin : Option ι) (id : σ) : Node ι σ α :=
  match origin with
  | none => { node with commands := node.commands ++ [id] }
  | some channel =>
      { node with
        consumed :=
          Function.update node.consumed channel (node.consumed channel ++ [.marker id]) }

/-- The episode that begins when a snapshot is first heard of. -/
noncomputable def opening (node : Node ι σ α) (origin : Option ι) (id : σ) (cut : Set ι)
    : Episode ι σ α where
  id
  cut
  began channel := (node.consumed channel).length
  marked channel := (node.sent channel).length
  closed channel := if origin = some channel then some (node.consumed channel).length else none
  recorded _ := []

noncomputable def begin (node : Node ι σ α) (origin : Option ι) (id : σ) (cut : Set ι)
    : Node ι σ α :=
  { node.hear origin id with
    sent channel :=
      if channel ∈ cut then node.sent channel ++ [.marker id] else node.sent channel
    current := some (node.opening origin id cut) }

noncomputable def close (node : Node ι σ α) (episode : Episode ι σ α) (channel : ι)
    : Node ι σ α :=
  { node.hear (some channel) episode.id with
    current := some (episode.close channel (node.consumed channel).length) }

/-- An episode without open channels is complete. -/
noncomputable def settle (node : Node ι σ α) : Node ι σ α :=
  match node.current with
  | none => node
  | some episode =>
      if ∃ channel, episode.Open channel then
        node
      else
        { node with current := none, past := node.past ++ [(episode, true)] }

noncomputable def receive (node : Node ι σ α) (channel : ι) (content : α) : Node ι σ α :=
  { node with
    consumed :=
      Function.update node.consumed channel (node.consumed channel ++ [.data content])
    current := node.current.map fun episode =>
      episode.record channel (node.consumed channel).length content }

def abort (node : Node ι σ α) (episode : Episode ι σ α) : Node ι σ α :=
  { node with current := none, past := node.past ++ [(episode, false)] }

end Node

end Steps

/-- What hearing of a snapshot leads to. A process that has aborted a snapshot does not begin
it again.
-/
inductive Node.Hears (members : Set ι) (own : ι) (node : Node ι σ α) (origin : Option ι)
    (id : σ) : Node ι σ α → Prop where
  | begins {cut : Set ι} (idle : node.current = none)
    (within : cut ⊆ members) (covers : ∀ member ∈ members, member ≠ own → member ∈ cut)
    (fresh : ∀ episode, (episode, false) ∈ node.past → episode.id ≠ id)
    : Hears members own node origin id (node.begin origin id cut).settle
  | misses {episode : Episode ι σ α} (recording : node.current = some episode)
    (other : episode.id ≠ id)
    : Hears members own node origin id
        { node.hear origin id with missed := node.missed ++ [id] }
  | ignores {episode : Episode ι σ α} (recording : node.current = some episode)
    (same : episode.id = id) (closed : ∀ channel, origin = some channel → ¬ episode.Open channel)
    : Hears members own node origin id (node.hear origin id)
  | closes {episode : Episode ι σ α} {channel : ι} (recording : node.current = some episode)
    (same : episode.id = id) (source : origin = some channel) (opened : episode.Open channel)
    : Hears members own node origin id (node.close episode channel).settle

/-- One step of a process. What it receives is next in the incoming channel. -/
inductive Node.Step (members : Set ι) (own : ι) (incoming : ι → List (Msg σ α))
    (node : Node ι σ α) : Node ι σ α → Prop where
  | send (channel : ι) (content : α) : Step members own incoming node (node.send channel content)
  | command {id : σ} {next : Node ι σ α} (hears : Hears members own node none id next)
    : Step members own incoming node next
  | marker {channel : ι} {id : σ} {next : Node ι σ α}
    (queued : node.consumed channel ++ [.marker id] <+: incoming channel)
    (hears : Hears members own node (some channel) id next)
    : Step members own incoming node next
  | data {channel : ι} {content : α}
    (queued : node.consumed channel ++ [.data content] <+: incoming channel)
    : Step members own incoming node (node.receive channel content)
  | abort {episode : Episode ι σ α} (recording : node.current = some episode)
    : Step members own incoming node (node.abort episode)

abbrev Node.Steps (members : Set ι) (own : ι) (incoming : ι → List (Msg σ α))
    : Node ι σ α → Node ι σ α → Prop :=
  Relation.ReflTransGen (Node.Step members own incoming)

-----------------------------------------------------------------------------------------
-- Positions in a stream
-----------------------------------------------------------------------------------------

variable {stream more : List (Msg σ α)} {first last position : Nat} {id : σ} {content : α}

/-- A marker at the end of a stream is the only one that was not there before. -/
theorem marker_at_append_marker {other : σ}
    : (stream ++ [.marker id])[position]? = some (.marker other)
      ↔ stream[position]? = some (.marker other) ∨ id = other ∧ stream.length = position := by
  rcases Nat.lt_trichotomy position stream.length with before | here | beyond
  · rw [List.getElem?_append_left before]
    have elsewhere : stream.length ≠ position := Nat.ne_of_gt before
    simp [elsewhere]
  · subst here
    simp
  · have after : (stream ++ [Msg.marker id]).length ≤ position := by simpa using Nat.succ_le_of_lt beyond
    rw [List.getElem?_eq_none after, List.getElem?_eq_none (Nat.le_of_lt beyond)]
    have elsewhere : stream.length ≠ position := Nat.ne_of_lt beyond
    simp [elsewhere]

theorem marker_at_append_data
    : (stream ++ [.data content])[position]? = some (.marker id)
      ↔ stream[position]? = some (.marker id) := by
  rcases Nat.lt_trichotomy position stream.length with before | here | beyond
  · rw [List.getElem?_append_left before]
  · subst here
    simp
  · have after : (stream ++ [Msg.data content]).length ≤ position := by simpa using Nat.succ_le_of_lt beyond
    rw [List.getElem?_eq_none after, List.getElem?_eq_none (Nat.le_of_lt beyond)]

theorem between_append_marker
    : between (stream ++ [.marker id]) first last = between stream first last := by
  simp [between, List.zipIdx_append]

/-- A slice ends with its stream at the latest. -/
theorem between_length (late : stream.length ≤ last)
    : between stream first last = between stream first stream.length := by
  refine List.filterMap_congr ?_
  rintro ⟨msg, position⟩ member
  have bound : position < stream.length := by
    simpa using List.snd_lt_add_of_mem_zipIdx member
  cases msg with
  | marker _ => rfl
  | data content =>
      have same : (first ≤ position ∧ position < last)
          ↔ (first ≤ position ∧ position < stream.length) := by omega
      simp only [same]

/-- Data at the end of a stream extend a slice up to that end. -/
theorem between_append_data (late : first ≤ stream.length)
    : between (stream ++ [.data content]) first (stream.length + 1)
      = between stream first stream.length ++ [(stream.length, content)] := by
  rw [← between_length (Nat.le_succ stream.length)]
  simp [between, List.zipIdx_append, late]

/-- What comes after the last position does not matter. -/
theorem between_of_grows (isPrefix : stream <+: more) (bound : last ≤ stream.length)
    : between more first last = between stream first last := by
  obtain ⟨rest, rfl⟩ := isPrefix
  have beyond : (rest.zipIdx stream.length).filterMap (fun
      | (.data content, position) =>
          if first ≤ position ∧ position < last then some (position, content) else none
      | (.marker _, _) => (none : Option (Nat × α))) = [] := by
    refine List.filterMap_eq_nil_iff.mpr ?_
    rintro ⟨msg, position⟩ member
    have late := List.le_snd_of_mem_zipIdx member
    cases msg with
    | marker _ => rfl
    | data content => exact if_neg (by omega)
  simp only [between, List.zipIdx_append, List.filterMap_append, Nat.zero_add, beyond,
    List.append_nil]

theorem between_empty (short : last ≤ first) : between stream first last = [] := by
  refine List.filterMap_eq_nil_iff.mpr ?_
  rintro ⟨msg, position⟩ -
  cases msg with
  | marker _ => rfl
  | data content => exact if_neg (by omega)

end MeshSnapshot.ChandyLamport
