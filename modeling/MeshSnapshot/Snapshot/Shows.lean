import MeshSnapshot.Library.ChandyLamport.Cut
import MeshSnapshot.Sidecar.History
import MeshSnapshot.Sidecar.Ledger

/-! A sidecar as a process of a Chandy-Lamport snapshot. Its journal shows the streams, the
commands and the episodes of the process; an artifact exhibits the episode it was made from.
-/

namespace MeshSnapshot

open ChandyLamport

-----------------------------------------------------------------------------------------
-- Streams and events
-----------------------------------------------------------------------------------------

/-- What a channel between two sidecars carries: markers, and other packets as data. -/
def toMsg (held : Held) : Msg Bytes Held :=
  match markerId? held.payload with
  | some id => .marker id
  | none => .data held

theorem toMsg_marker {held : Held} {id : Bytes} (isMarker : markerId? held.payload = some id)
    : toMsg held = .marker id := by
  simp [toMsg, isMarker]

theorem toMsg_data {held : Held} (plain : markerId? held.payload = none)
    : toMsg held = .data held := by
  simp [toMsg, plain]

theorem markerId?_of_toMsg {held : Held} {id : Bytes} (isMarker : toMsg held = .marker id)
    : markerId? held.payload = some id := by
  cases found : markerId? held.payload with
  | none => cases (toMsg_data found).symm.trans isMarker
  | some other =>
      cases (toMsg_marker found).symm.trans isMarker
      rfl

abbrev Part := ChandyLamport.Node Ip Bytes Held

/-- The messages passed to `send_data` for a peer, as the peer will see them. -/
def heldTo (sent : List SendCall) (ip : Ip) : List Held :=
  (sent.filter (fun call => call.dst = ip)).map (fun call => call.message.held)

/-- The packets that the stream of a peer has passed. -/
def heldFrom (consumed : List PeerPacket) (ip : Ip) : List Held :=
  (consumed.filter (fun packet => packet.peer = ip)).map PeerPacket.held

@[simp] theorem heldTo_append (sent more : List SendCall) (ip : Ip)
    : heldTo (sent ++ more) ip = heldTo sent ip ++ heldTo more ip := by
  simp [heldTo]

theorem heldTo_singleton (call : SendCall) (ip : Ip)
    : heldTo [call] ip = if call.dst = ip then [call.message.held] else [] := by
  by_cases here : call.dst = ip <;> simp [heldTo, here]

/-- The fan-out sends one marker to every member of the cut. -/
theorem heldTo_markers {members : List Ip} (unique : members.Nodup) (payload : Bytes)
    (reads : Nat) (ip : Ip)
    : heldTo (members.map (markerCall payload reads)) ip
      = if ip ∈ members then [Message.held ⟨0, 0, zeroIp, payload⟩] else [] := by
  induction members with
  | nil => rfl
  | cons head rest ih =>
      obtain ⟨absent, restUnique⟩ := List.nodup_cons.mp unique
      rw [List.map_cons, ← List.singleton_append, heldTo_append, heldTo_singleton, ih restUnique]
      by_cases here : head = ip
      · subst here
        simp [absent, markerCall]
      · simp [markerCall, here, Ne.symm here]

theorem heldFrom_append_singleton (consumed : List PeerPacket) (packet : PeerPacket) (ip : Ip)
    : heldFrom (consumed ++ [packet]) ip
      = heldFrom consumed ip ++ if packet.peer = ip then [packet.held] else [] := by
  by_cases here : packet.peer = ip <;> simp [heldFrom, here]

theorem map_snd_packetsOf (consumed : List PeerPacket) (ip : Ip)
    : (packetsOf consumed ip).map Prod.snd = heldFrom consumed ip := by
  simp [packetsOf, heldFrom]

def commandsOf (control : List ControlEvent) : List Bytes :=
  control.filterMap fun
    | .start id => some id
    | _ => none

/-- The entries of the snapshot-start branch, each with the number of packets passed before. -/
def beginsOf (control : List ControlEvent) : List (Bytes × Nat) :=
  control.filterMap fun
    | .began id passed => some (id, passed)
    | _ => none

def postsOf (control : List ControlEvent) : List Artifact :=
  control.filterMap fun
    | .posted artifact _ => some artifact
    | _ => none

@[simp] theorem commandsOf_append (control more : List ControlEvent)
    : commandsOf (control ++ more) = commandsOf control ++ commandsOf more := by
  simp [commandsOf]

@[simp] theorem beginsOf_append (control more : List ControlEvent)
    : beginsOf (control ++ more) = beginsOf control ++ beginsOf more := by
  simp [beginsOf]

theorem mem_postsOf {control : List ControlEvent} {artifact : Artifact}
    : artifact ∈ postsOf control ↔ ∃ stored, .posted artifact stored ∈ control := by
  constructor
  · intro posted
    obtain ⟨event, logged, shown⟩ := List.mem_filterMap.mp posted
    cases event with
    | posted shownArtifact stored =>
        obtain rfl := Option.some.inj shown
        exact ⟨stored, logged⟩
    | start | heard | began | checkpointed => cases shown
  · rintro ⟨stored, logged⟩
    exact List.mem_filterMap.mpr ⟨_, logged, rfl⟩

@[simp] theorem postsOf_append (control more : List ControlEvent)
    : postsOf (control ++ more) = postsOf control ++ postsOf more := by
  simp [postsOf]

-----------------------------------------------------------------------------------------
-- Artifacts
-----------------------------------------------------------------------------------------

/-- `artifact["peers"][ip]` -/
def Artifact.peer? (artifact : Artifact) (ip : Ip) : Option PeerArtifact :=
  (artifact.peers.find? (fun entry => entry.1 = ip)).map Prod.snd

/-- An artifact is one for the snapshot `id`. -/
def Artifact.For (artifact : Artifact) (id : Bytes) : Prop :=
  snapshotName (some id) = some artifact.snapshotId

theorem decode?_eq_some {bytes : Bytes} {text : String} (decoded : decode? bytes = some text)
    : bytes = text.toByteArray.data.toList := by
  unfold decode? String.fromUTF8? at decoded
  split at decoded
  case isTrue =>
    obtain rfl := Option.some.inj decoded
    rfl
  case isFalse => cases decoded

/-- An artifact is for one snapshot at most. -/
theorem Artifact.For.unique {artifact : Artifact} {first second : Bytes}
    (one : artifact.For first) (two : artifact.For second) : first = second := by
  unfold Artifact.For at one two
  cases first with
  | nil =>
      cases second with
      | nil => rfl
      | cons head tail =>
          rw [← one] at two
          simp [snapshotName] at two
  | cons head tail =>
      obtain ⟨text, decoded, shown⟩ := Option.map_eq_some_iff.mp one
      cases second with
      | nil =>
          rw [← shown] at two
          simp [snapshotName] at two
      | cons head' tail' =>
          obtain ⟨text', decoded', shown'⟩ := Option.map_eq_some_iff.mp two
          obtain rfl := Option.some.inj (shown.trans shown'.symm)
          rw [decode?_eq_some decoded, decode?_eq_some decoded']

/-- `_build_artifact` has an entry for every peer that a marker was sent to. -/
theorem peer?_artifact? {ctrl : SnapshotController} {cfg : Config} {status : Status}
    {artifact : Artifact} (built : ctrl.artifact? cfg status = some artifact) {ip : Ip}
    (known : ip ∈ ctrl.recordedSendSeq.keys)
    : artifact.peer? ip = some (ctrl.peerArtifact ip) := by
  obtain ⟨name, -, rfl⟩ := Option.map_eq_some_iff.mp built
  have listed : ip ∈ ctrl.artifactPeers := by
    simp [SnapshotController.artifactPeers, known]
  simp only [Artifact.peer?, List.find?_map, Function.comp_def, Option.map_map]
  cases found : ctrl.artifactPeers.find? (fun peer => decide (peer = ip)) with
  | none =>
      have absent := List.find?_eq_none.mp found ip listed
      simp at absent
  | some peer =>
      have same : peer = ip := by simpa using List.find?_some found
      rw [same]
      rfl

/-- A recorded message of an episode as `channel_states` stores it. -/
def toRecorded (entry : Nat × Held) : Recorded := ⟨entry.1, entry.2⟩

/-- An artifact shows the episode that it was made from. -/
structure Exhibits (cfg : Config) (episode : Episode Ip Bytes Held) (artifact : Artifact)
    : Prop where
  isFor : artifact.For episode.id
  node : artifact.node = nodeName cfg
  peer
    : ∀ ip ∈ episode.cut,
        artifact.peer? ip = some {
          sendSeq := some (episode.marked ip + 1)
          recvSeq := (episode.closed ip).map (· + 1)
          channel := (episode.recorded ip).map (fun entry => encodeRecorded (toRecorded entry))
        }

-----------------------------------------------------------------------------------------
-- The relation
-----------------------------------------------------------------------------------------

/-- In lists that are related pairwise, every element of the first has its counterpart. -/
theorem exists_of_forall₂ {α β : Type} {relation : α → β → Prop} {left : List α}
    {right : List β} (related : List.Forall₂ relation left right) {a : α} (member : a ∈ left)
    : ∃ b ∈ right, relation a b := by
  induction related with
  | nil => cases member
  | @cons head other tail rest here _ ih =>
      rcases List.mem_cons.mp member with rfl | member
      · exact ⟨other, List.mem_cons_self, here⟩
      · obtain ⟨b, listed, holds⟩ := ih member
        exact ⟨b, List.mem_cons_of_mem _ listed, holds⟩

/-- The snapshot state of a sidecar shows the current episode. -/
structure SnapshotController.Records (ctrl : SnapshotController)
    (episode : Episode Ip Bytes Held) : Prop where
  isSnapshotting : ctrl.isSnapshotting = true
  currentSnapshotId : ctrl.currentSnapshotId = some episode.id
  recordingChannels : ∀ ip, ip ∈ ctrl.recordingChannels ↔ episode.Open ip
  channelStates
    : ∀ ip ∈ episode.cut,
        ctrl.channelStates.get? ip = some ((episode.recorded ip).map toRecorded)
  recordedSendSeq
    : ∀ ip ∈ episode.cut, ctrl.recordedSendSeq.get? ip = some (episode.marked ip + 1)
  recordedRecvSeq
    : ∀ ip ∈ episode.cut, ctrl.recordedRecvSeq.get? ip = (episode.closed ip).map (· + 1)

/-- Between snapshots, nothing is left of the last one. -/
structure SnapshotController.Idle (ctrl : SnapshotController) : Prop where
  isSnapshotting : ctrl.isSnapshotting = false
  currentSnapshotId : ctrl.currentSnapshotId = none
  channelStates : ctrl.channelStates = ∅

/-- The journal of a sidecar shows what a process has sent. -/
structure Journal.ShowsSent (j : Journal) (part : Part) : Prop where
  sent : ∀ ip, part.sent ip = (heldTo j.sent ip).map toMsg
  counted : ∀ ip, j.sendSeq ip = (heldTo j.sent ip).length

/-- The journal of a sidecar at `own` shows a process, but for what that has consumed and was
commanded.
-/
structure Journal.Tracks (cfg : Config) (own : Ip) (j : Journal) (part : Part) : Prop
    extends ShowsSent j part where
  missed
    : ∀ id ∈ part.missed,
        ∃ peer seq recorded,
          .heard peer seq id (some recorded) ∈ j.control ∧ recorded ≠ id
  idle : part.current = none → j.ctrl.Idle
  recording : ∀ episode, part.current = some episode → j.ctrl.Records episode
  past
    : List.Forall₂
        (fun entry artifact =>
          artifact.status = (if entry.2 then .complete else .aborted)
          ∧ Exhibits cfg entry.1 artifact)
        part.past (postsOf j.control)
  begun
    : List.Forall₂
        (fun (shown : Bytes × (Ip → Nat)) entry =>
          shown.1 = entry.1 ∧ entry.2 ≤ j.consumed.length
          ∧ ∀ ip, shown.2 ip = (heldFrom (j.consumed.take entry.2) ip).length)
        (part.episodes.map (fun episode => (episode.id, episode.began))) (beginsOf j.control)
  selfIpCache : j.ctrl.selfIpCache = none ∨ j.ctrl.selfIpCache = some own

structure Journal.Shows (cfg : Config) (own : Ip) (j : Journal) (part : Part) : Prop
    extends Tracks cfg own j part where
  consumed : ∀ ip, part.consumed ip = (heldFrom j.consumed ip).map toMsg
  commands : part.commands = commandsOf j.control

end MeshSnapshot
