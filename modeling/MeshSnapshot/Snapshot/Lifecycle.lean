import MeshSnapshot.Failures.Undisturbed
import MeshSnapshot.Sidecar.Moves
import MeshSnapshot.Model.Mesh
import MeshSnapshot.Snapshot.Shows

/-! The snapshot controller as a state machine, for whatever START commands, packets and clock
ticks it is given, and whatever the proxy does in between. The address of the node may be found
in one episode and not in another, so each episode has its own members.
-/

namespace MeshSnapshot

open Procedure

variable {cfg : Config} {s s' : Sidecar} {u : Unit}

-----------------------------------------------------------------------------------------
-- Episodes
-----------------------------------------------------------------------------------------

/-- A request to the breakout receiver, and whether it succeeded. -/
inductive HostRequest where
  | checkpoint (target exportPath : String) (ok : Bool)
  | post (artifact : Artifact) (stored : Bool)
deriving DecidableEq

def ControlEvent.request? : ControlEvent → Option HostRequest
  | .checkpointed _ target exportPath ok _ _ _ => some (.checkpoint target exportPath ok)
  | .posted artifact stored => some (.post artifact stored)
  | _ => none

/-- What a controller asks of the host from one begin to the next. -/
structure EpisodeLog where
  id : Bytes
  requests : List HostRequest := []
deriving DecidableEq

/-- The newest episode comes first. A request before any begin would make an episode of its own. -/
def noteEpisode : List EpisodeLog → ControlEvent → List EpisodeLog
  | episodes, .began id _ => { id } :: episodes
  | episodes, event =>
      match event.request?, episodes with
      | none, _ => episodes
      | some request, [] => [{ id := [], requests := [request] }]
      | some request, current :: earlier =>
          { current with requests := current.requests ++ [request] } :: earlier

def episodesOf (control : List ControlEvent) : List EpisodeLog := control.foldl noteEpisode []

theorem episodesOf_append (control more : List ControlEvent)
    : episodesOf (control ++ more) = more.foldl noteEpisode (episodesOf control) :=
  List.foldl_append

/-- Every member's channel has both cut coordinates. -/
def Artifact.Covers (members : List Ip) (artifact : Artifact) : Prop :=
  ∀ ip ∈ members,
    ∃ entry, (ip, entry) ∈ artifact.peers ∧ entry.sendSeq.isSome ∧ entry.recvSeq.isSome

instance (members : List Ip) (artifact : Artifact) : Decidable (artifact.Covers members) :=
  decidable_of_iff
    (∀ ip ∈ members, ∃ peer ∈ artifact.peers,
      peer.1 = ip ∧ peer.2.sendSeq.isSome ∧ peer.2.recvSeq.isSome)
    (by simp [Artifact.Covers])

namespace EpisodeLog

/-- One image has been asked for, of this node and under the name of the snapshot. -/
def Requested (cfg : Config) (episode : EpisodeLog) : Prop :=
  ∃ snapshotId ok,
    decode? episode.id = some snapshotId
    ∧ episode.requests
      = [.checkpoint (nodeName cfg) (imagePath snapshotId (nodeName cfg)) ok]

/-- An episode that is over: after the image has been asked for, one artifact is posted, and it is
complete if it covers the members of the episode.
-/
def Ended (cfg : Config) (selfIp : Option Ip) (episode : EpisodeLog) : Prop :=
  ∃ snapshotId ok artifact stored,
    decode? episode.id = some snapshotId
    ∧ episode.requests
      = [.checkpoint (nodeName cfg) (imagePath snapshotId (nodeName cfg)) ok,
        .post artifact stored]
    ∧ snapshotName (some episode.id) = some artifact.snapshotId
    ∧ artifact.node = nodeName cfg
    ∧ (artifact.status = .complete ↔ artifact.Covers (cutMembers cfg selfIp))

end EpisodeLog

-----------------------------------------------------------------------------------------
-- Idle and recording controllers
-----------------------------------------------------------------------------------------

namespace SnapshotController

/-- A controller that remembers nothing of its last snapshot. -/
structure AtRest (ctrl : SnapshotController) : Prop where
  currentSnapshotId : ctrl.currentSnapshotId = none
  snapshotDeadline : ctrl.snapshotDeadline = none
  recordingChannels : ctrl.recordingChannels = []
  channelStates : ctrl.channelStates = ∅
  recordedSendSeq : ctrl.recordedSendSeq = ∅
  recordedRecvSeq : ctrl.recordedRecvSeq = ∅

/-- The open channels and those with a receive coordinate divide the members among them. -/
structure Partitions (ctrl : SnapshotController) (members : List Ip) : Prop where
  nodup : ctrl.recordingChannels.Nodup
  channels
    : ∀ ip, ip ∈ members ↔ ip ∈ ctrl.recordingChannels ∨ ip ∈ ctrl.recordedRecvSeq.keys
  apart : ∀ ip ∈ ctrl.recordingChannels, ip ∉ ctrl.recordedRecvSeq.keys
  channelStates : ∀ ip, ip ∈ ctrl.channelStates.keys ↔ ip ∈ members
  recordedSendSeq : ∀ ip, ip ∈ ctrl.recordedSendSeq.keys ↔ ip ∈ members

variable {ctrl : SnapshotController} {members : List Ip}

theorem Partitions.record (parts : ctrl.Partitions members) {ip : Ip} {recorded : List Recorded}
    (found : ctrl.channelStates.get? ip = some recorded) (more : List Recorded)
    : ({ ctrl with channelStates := ctrl.channelStates.set ip more }
        : SnapshotController).Partitions members :=
  { parts with
    channelStates := fun other => by
      rw [← parts.channelStates other, ← not_iff_not, ← Dict.get?_eq_none_iff,
        ← Dict.get?_eq_none_iff, Dict.get?_set]
      by_cases here : other = ip <;> simp [here, found] }

theorem Partitions.close (parts : ctrl.Partitions members) {ip : Ip} (found : ip ∈ ctrl.recordingChannels)
    (seq : Nat)
    : ({ ctrl with
          recordedRecvSeq := ctrl.recordedRecvSeq.set ip seq
          recordingChannels := ctrl.recordingChannels.filter (fun other => other ≠ ip) }
        : SnapshotController).Partitions members where
  nodup := parts.nodup.filter _
  channels other := by
    rw [parts.channels other]
    by_cases here : other = ip
    · simp [here, found, Dict.mem_keys_iff]
    · simp [here, Dict.mem_keys_iff]
  apart other opened := by
    obtain ⟨opened, elsewhere⟩ := List.mem_filter.mp opened
    have before := parts.apart other opened
    simpa [Dict.mem_keys_iff, of_decide_eq_true elsewhere] using before
  channelStates := parts.channelStates
  recordedSendSeq := parts.recordedSendSeq

/-- The artifact has both coordinates of every member once no channel is open. -/
theorem Partitions.covers_iff (parts : ctrl.Partitions members) {status : Status} {artifact : Artifact}
    (built : ctrl.artifact? cfg status = some artifact)
    : artifact.Covers members ↔ ctrl.recordingChannels = [] := by
  obtain ⟨name, -, rfl⟩ := Option.map_eq_some_iff.mp built
  have listed (ip : Ip) (entry : PeerArtifact)
      : (ip, entry) ∈ ctrl.artifactPeers.map (fun peer => (peer, ctrl.peerArtifact peer))
        ↔ ip ∈ ctrl.artifactPeers ∧ entry = ctrl.peerArtifact ip := by
    simp only [List.mem_map, Prod.mk.injEq]
    grind
  constructor
  · intro covers
    refine List.eq_nil_iff_forall_not_mem.mpr fun ip opened => ?_
    obtain ⟨entry, present, -, received⟩ := covers ip ((parts.channels ip).mpr (.inl opened))
    obtain ⟨-, rfl⟩ := (listed ip entry).mp present
    have absent := Dict.get?_eq_none_iff.mpr (parts.apart ip opened)
    simp [peerArtifact, absent] at received
  · intro closed ip member
    have sent := (parts.recordedSendSeq ip).mpr member
    have received : ip ∈ ctrl.recordedRecvSeq.keys := by
      rcases (parts.channels ip).mp member with opened | received
      · rw [closed] at opened
        cases opened
      · exact received
    refine ⟨_, (listed ip _).mpr ⟨?_, rfl⟩, ?_, ?_⟩
    · rw [artifactPeers, List.mem_insertionSort, List.mem_dedup]
      exact List.mem_append_left _ (List.mem_append_left _ sent)
    · exact Option.isSome_iff_exists.mpr (Dict.mem_keys_iff.mp sent)
    · exact Option.isSome_iff_exists.mpr (Dict.mem_keys_iff.mp received)

end SnapshotController

-----------------------------------------------------------------------------------------
-- What every event keeps
-----------------------------------------------------------------------------------------

namespace Journal

variable {selfIp : Option Ip} {selfIps : List (Option Ip)} {j j' : Journal}

/-- An episode is going on, though its last channel may just have been closed. -/
structure Watches (cfg : Config) (selfIp : Option Ip) (selfIps : List (Option Ip)) (j : Journal)
    : Prop where
  recording : j.ctrl.isSnapshotting = true
  plain : j.ctrl.RecordsPlain
  parts : j.ctrl.Partitions (cutMembers cfg selfIp)
  episodes
    : ∃ episode past,
        episodesOf j.control = episode :: past
        ∧ j.ctrl.currentSnapshotId = some episode.id
        ∧ episode.Requested cfg
        ∧ List.Forall₂ (EpisodeLog.Ended cfg) selfIps past

/-- A controller is at rest, or waits for markers; all earlier episodes are over. -/
inductive Lives (cfg : Config) : List (Option Ip) → Journal → Prop where
  | rests {selfIps : List (Option Ip)} {j : Journal} (idle : j.ctrl.isSnapshotting = false)
    (atRest : j.ctrl.AtRest)
    (ended : List.Forall₂ (EpisodeLog.Ended cfg) selfIps (episodesOf j.control))
    : Lives cfg selfIps j
  | records {selfIp : Option Ip} {selfIps : List (Option Ip)} {j : Journal}
    (watches : j.Watches cfg selfIp selfIps) (opened : j.ctrl.recordingChannels ≠ [])
    : Lives cfg (selfIp :: selfIps) j

theorem Lives.plain (lives : j.Lives cfg selfIps) : j.ctrl.RecordsPlain := by
  cases lives with
  | rests _ atRest => exact recordsPlain_empty atRest.channelStates
  | records watches => exact watches.plain

theorem Lives.congr (lives : j.Lives cfg selfIps) (ctrl : j'.ctrl = j.ctrl)
    (episodes : episodesOf j'.control = episodesOf j.control) : j'.Lives cfg selfIps := by
  cases lives with
  | rests idle atRest ended =>
      exact .rests (ctrl ▸ idle) (ctrl ▸ atRest) (episodes ▸ ended)
  | records watches opened =>
      obtain ⟨recording, plain, parts, logged⟩ := watches
      exact .records ⟨ctrl ▸ recording, ctrl ▸ plain, ctrl ▸ parts, by rwa [episodes, ctrl]⟩
        (ctrl ▸ opened)

/-- Both ways to end an episode post one artifact, whose status tells whether all channels were
closed.
-/
theorem Watches.ends (watches : j.Watches cfg selfIp selfIps) {status : Status}
    (complete : status = .complete ↔ j.ctrl.recordingChannels = [])
    (ends : j.Ends cfg status j') : j'.Lives cfg (selfIp :: selfIps) := by
  obtain ⟨artifact, stored, built, rfl⟩ := ends
  obtain ⟨episode, past, logged, named, ⟨snapshotId, ok, decoded, requests⟩, ended⟩ :=
    watches.episodes
  refine .rests rfl ⟨rfl, rfl, rfl, rfl, rfl, rfl⟩ ?_
  have posted : episodesOf ((j.log (.posted artifact stored)).flush).control
      = { episode with requests := episode.requests ++ [.post artifact stored] } :: past := by
    have last := episodesOf_append j.control [.posted artifact stored]
    rwa [logged] at last
  rw [posted, requests]
  have covers := watches.parts.covers_iff built
  obtain ⟨name, shown, rfl⟩ := Option.map_eq_some_iff.mp built
  rw [named] at shown
  exact .cons ⟨snapshotId, ok, _, stored, decoded, rfl, shown, rfl, complete.trans covers.symm⟩
    ended

theorem Watches.settles (watches : j.Watches cfg selfIp selfIps) (settles : j.Settles cfg j')
    : j'.Lives cfg (selfIp :: selfIps) := by
  by_cases closed : j.ctrl.recordingChannels = []
  · exact watches.ends (by simp [closed]) ((settles_closed closed).mp settles)
  · rw [(settles_open closed).mp settles]
    exact .records watches closed

/-- A snapshot that has just been entered: the channels of the cut are open but for that of the
origin, and the image has been asked for.
-/
theorem Opened.watches {cache : Option Ip} {origin : Ip} {seq : Nat} {payload id : Bytes}
    {drained opened : Journal} {snapshotId : String} {ok : Bool} {passed reads emitted delivered : Nat}
    (opens : Opened (cutMembers cfg selfIp) cache origin seq payload id j drained opened)
    (ended : List.Forall₂ (EpisodeLog.Ended cfg) selfIps (episodesOf j.control))
    (name : decode? id = some snapshotId)
    (control
      : opened.control = j.control ++ [.began id passed,
          .checkpointed id (nodeName cfg) (imagePath snapshotId (nodeName cfg)) ok reads emitted
            delivered])
    : opened.Watches cfg selfIp selfIps where
  recording := opens.isSnapshotting
  plain := opens.recordsPlain
  parts := {
    nodup := opens.recordingChannels ▸ (List.nodup_dedup _).filter _
    channels := fun ip => by
      rw [opens.recordingChannels, Dict.mem_keys_iff, opens.recordedRecvSeq]
      by_cases here : ip = origin <;> simp [here]
    apart := fun ip listed => by
      rw [opens.recordingChannels] at listed
      have elsewhere := of_decide_eq_true (List.mem_filter.mp listed).2
      rw [← Dict.get?_eq_none_iff, opens.recordedRecvSeq, if_neg fun both => elsewhere both.1]
    channelStates := fun ip => by
      rw [Dict.mem_keys_iff, opens.channelStates]
      split <;> simp_all
    recordedSendSeq := fun ip => by
      rw [Dict.mem_keys_iff, opens.recordedSendSeq]
      split <;> simp_all }
  episodes := by
    refine ⟨⟨id, [.checkpoint (nodeName cfg) (imagePath snapshotId (nodeName cfg)) ok]⟩, _, ?_,
      opens.currentSnapshotId, ⟨snapshotId, ok, name, rfl⟩, ended⟩
    rw [control, episodesOf_append]
    rfl

end Journal

/-- After an event, all is as it was as far as begins go, or one more episode has begun. -/
def Sidecar.Advances (cfg : Config) (selfIps : List (Option Ip)) (s s' : Sidecar) : Prop :=
  beginsOf s'.trace.control = beginsOf s.trace.control ∧ s'.journal.Lives cfg selfIps
  ∨ beginsOf s'.trace.control ≠ beginsOf s.trace.control
    ∧ s'.journal.Lives cfg (s.selfIp cfg :: selfIps)

variable {selfIps : List (Option Ip)}

theorem Journal.Ends.begins {status : Status} {j j' : Journal} (ends : j.Ends cfg status j')
    : beginsOf j'.control = beginsOf j.control := by
  obtain ⟨artifact, stored, -, rfl⟩ := ends
  simp [Journal.flush, Journal.log, beginsOf]

theorem Journal.Settles.begins {j j' : Journal} (settles : j.Settles cfg j')
    : beginsOf j'.control = beginsOf j.control := by
  by_cases closed : j.ctrl.recordingChannels = []
  · exact ((Journal.settles_closed closed).mp settles).begins
  · rw [(Journal.settles_open closed).mp settles]

/-- A marker from anywhere, or a START command, which counts as one. -/
theorem advances_processMessage {depth : Nat} {ip : Ip} {seq : Nat} {held : Held} {id : Bytes}
    {consumed : Bool} (lives : s.journal.Lives cfg selfIps)
    (isMarker : markerId? held.payload = some id)
    (returned : processMessage cfg depth ip seq held s = .ok consumed s')
    : s.Advances cfg selfIps s' := by
  have heard : episodesOf (s.journal.log (.heard ip seq id s.ctrl.currentSnapshotId)).control
      = episodesOf s.journal.control := episodesOf_append _ _
  have unbegun : beginsOf (s.journal.log (.heard ip seq id s.ctrl.currentSnapshotId)).control
      = beginsOf s.trace.control := by
    simp [Journal.log, beginsOf, Sidecar.journal]
  cases lives with
  | rests idle atRest ended =>
      obtain ⟨nested, t, same, hosts, started⟩ := processMessage_begins idle isMarker returned
      obtain ⟨cache, drained, frozen, rest, late, later, snapshotId, ok, deadline, -, drains, empty,
        name, freezes, thaws, settles⟩ :=
        startSnapshot_parts (replays_processAndDeliver cfg nested) started
      have cache : t.ctrl.selfIpCache = s.ctrl.selfIpCache :=
        congrArg (fun j : Journal => j.ctrl.selfIpCache) same
      have answer : t.selfIp cfg = s.selfIp cfg :=
        Sidecar.selfIp_congr cache (congrArg Host.faults hosts)
      rw [answer] at drains settles
      have control : ((rest.sendMarkers held.payload (cutMembers cfg (s.selfIp cfg))).openAll
          (cutMembers cfg (s.selfIp cfg)) ip seq deadline).control
          = t.journal.control ++ [.began id t.journal.consumed.length,
            .checkpointed id (nodeName cfg) (imagePath snapshotId (nodeName cfg)) ok frozen.reads
              frozen.emitted.length frozen.delivered.length] := by
        rw [Journal.control_openAll, thaws, freezes]
        simp only [Journal.emit, Journal.log, drains.sameReceipt.control, Journal.watch,
          Journal.setCtrl, Journal.reset, List.append_assoc, List.cons_append, List.nil_append]
      have opens : Journal.Opened _ _ ip seq held.payload id _ _ _ :=
        Journal.opened_openAll deadline drains empty freezes thaws
      have before : List.Forall₂ (EpisodeLog.Ended cfg) selfIps (episodesOf t.journal.control) := by
        rw [same, heard]
        exact ended
      have watches := opens.watches before name control
      have begun := settles.begins
      rw [control, same, beginsOf_append, unbegun] at begun
      refine .inr ⟨fun unchanged => ?_, watches.settles settles⟩
      have more : beginsOf s'.trace.control = _ := begun
      rw [unchanged] at more
      simp [beginsOf] at more
  | @records selfIp earlier _ watches opened =>
      obtain ⟨-, hears⟩ := processMessage_marker_ok watches.plain isMarker returned
      have stays (unchanged : s'.journal = s.journal.log (.heard ip seq id s.ctrl.currentSnapshotId))
          : s.Advances cfg (selfIp :: earlier) s' := by
        refine .inl ⟨?_, (Journal.Lives.records watches opened).congr ?_ ?_⟩
        · exact (congrArg (fun j : Journal => beginsOf j.control) unchanged).trans unbegun
        · rw [unchanged]
          rfl
        · rw [unchanged]
          exact heard
      cases hears with
      | begins idle =>
          have recording := watches.recording
          simp [idle] at recording
      | discards _ _ unchanged => exact stays unchanged
      | ignores _ _ _ unchanged => exact stays unchanged
      | closes _ _ found settles =>
          have closed := watches.parts.close found (seq + 1)
          obtain ⟨episode, past, logged, rest⟩ := watches.episodes
          refine .inl ⟨settles.begins.trans unbegun, Journal.Watches.settles ?_ settles⟩
          exact ⟨watches.recording, watches.plain, closed, episode, past, heard.trans logged, rest⟩

theorem advances_processAndDeliver {depth : Nat} {packet : PeerPacket}
    (lives : s.journal.Lives cfg selfIps)
    (returned : processAndDeliver cfg depth packet.peer packet.seq packet.held s = .ok u s')
    : s.Advances cfg selfIps s' := by
  cases isMarker : markerId? packet.held.payload with
  | some id =>
      obtain ⟨consumed, s₁, processed, rest⟩ := bind_ok.mp returned
      obtain ⟨rfl, -⟩ := processMessage_marker_ok lives.plain isMarker processed
      obtain ⟨-, rfl⟩ := pure_ok.mp rest
      exact advances_processMessage lives isMarker processed
  | none =>
      cases processAndDeliver_ok lives.plain returned with
      | marker id isMarker' =>
          rw [isMarker] at isMarker'
          cases isMarker'
      | records plain recording found recorded state appended =>
          have control : s'.trace.control = s.trace.control := congrArg Journal.control appended
          have stored : s'.journal.ctrl = _ := congrArg Journal.ctrl appended
          refine .inl ⟨congrArg beginsOf control, ?_⟩
          cases lives with
          | rests idle => simp [idle] at recording
          | records watches opened =>
              refine .records ⟨?_, ?_, ?_, ?_⟩ ?_
              · rw [stored]
                exact watches.recording
              · exact (processAndDeliver_ok watches.plain returned).recordsPlain watches.plain
              · rw [stored]
                exact watches.parts.record state _
              · rw [stored, appended]
                exact watches.episodes
              · rw [stored]
                exact opened
      | delivers _ _ delivered =>
          have control : s'.trace.control = s.trace.control := congrArg Journal.control delivered
          refine .inl ⟨congrArg beginsOf control, lives.congr ?_ (congrArg episodesOf control)⟩
          rw [delivered]
          rfl

theorem advances_checkTimeout (lives : s.journal.Lives cfg selfIps)
    (returned : checkTimeout cfg s = .ok u s') : s.Advances cfg selfIps s' := by
  rcases checkTimeout_cases lives.plain returned with same | ⟨recording, ends⟩
  · refine .inl ⟨congrArg (fun j : Journal => beginsOf j.control) same, ?_⟩
    rwa [same]
  · refine .inl ⟨ends.begins, ?_⟩
    cases lives with
    | rests idle =>
        have recording : s.journal.ctrl.isSnapshotting = true := recording
        simp [idle] at recording
    | records watches opened => exact watches.ends (by simp [opened]) ends

theorem startId_ok {data id : Bytes} (returned : startId data s = .ok id s')
    : s'.journal = s.journal ∧ s'.host.faults = s.host.faults := by
  refine ⟨((framed_startId data).ok returned).journal, ?_⟩
  unfold startId at returned
  split at returned
  · obtain ⟨-, rfl⟩ := pure_ok.mp returned
    rfl
  · obtain ⟨_, _, read, returned⟩ := bind_ok.mp returned
    obtain ⟨rfl, rfl⟩ := read_ok.mp read
    cases drawn : s.host.uuids with
    | nil =>
        rw [drawn] at returned
        obtain ⟨-, rfl⟩ := pure_ok.mp returned
        rfl
    | cons uuid rest =>
        rw [drawn] at returned
        obtain ⟨_, s₁, taken, returned⟩ := bind_ok.mp returned
        obtain ⟨-, rfl⟩ := pure_ok.mp returned
        rw [← update_ok.mp taken]

theorem advances_handleStart {data : Bytes} (lives : s.journal.Lives cfg selfIps)
    (returned : handleStart cfg data s = .ok u s') : s.Advances cfg selfIps s' := by
  obtain ⟨id, s₁, drawn, returned⟩ := bind_ok.mp returned
  obtain ⟨same, faults⟩ := startId_ok drawn
  obtain ⟨_, s₂, logged, returned⟩ := bind_ok.mp returned
  obtain ⟨consumed, s₃, processed, returned⟩ := bind_ok.mp returned
  obtain ⟨-, rfl⟩ := pure_ok.mp returned
  have started := (logControl_ok logged).trans (congrArg (Journal.log · (.start id)) same)
  have ctrl : s₂.journal.ctrl = s.journal.ctrl := by
    rw [started]
    rfl
  have begins : beginsOf s₂.trace.control = beginsOf s.trace.control := by
    refine (congrArg (fun j : Journal => beginsOf j.control) started).trans ?_
    simp [Journal.log, beginsOf, Sidecar.journal]
  have answer : s₂.selfIp cfg = s.selfIp cfg :=
    Sidecar.selfIp_congr (congrArg SnapshotController.selfIpCache ctrl)
      (by rw [← update_ok.mp logged]; exact faults)
  have lives₂ : s₂.journal.Lives cfg selfIps := lives.congr ctrl (by
    rw [started]
    exact episodesOf_append _ _)
  have advances := advances_processMessage lives₂ (markerId?_marker id) processed
  rwa [Sidecar.Advances, begins, answer] at advances

-----------------------------------------------------------------------------------------
-- Runs
-----------------------------------------------------------------------------------------

theorem ControllerEvent.advances {event : ControllerEvent} (lives : s.journal.Lives cfg selfIps)
    (returned : event.run cfg s = .ok u s') : s.Advances cfg selfIps s' := by
  cases event with
  | start data => exact advances_handleStart lives returned
  | arrival packet => exact advances_processAndDeliver lives returned
  | tick => exact advances_checkTimeout lives returned

/-- The states of a controller between events that have returned, and the own address that was
found at the start of each episode, the newest first. Whatever else happens does not touch the
controller.
-/
inductive SnapshotController.Run (cfg : Config) : List (Option Ip) → Sidecar → Prop where
  | init {s : Sidecar} (fresh : s.ctrl = { selfIpCache := s.ctrl.selfIpCache })
    (silent : s.trace.control = [])
    : Run cfg [] s
  | elsewhere {selfIps : List (Option Ip)} {s s' : Sidecar} (before : Run cfg selfIps s)
    (ctrl : s'.ctrl = s.ctrl) (control : s'.trace.control = s.trace.control)
    : Run cfg selfIps s'
  | event {selfIps : List (Option Ip)} {s s' : Sidecar} (event : ControllerEvent)
    (before : Run cfg selfIps s) (returned : event.run cfg s = .ok () s')
    (same : beginsOf s'.trace.control = beginsOf s.trace.control)
    : Run cfg selfIps s'
  | begins {selfIps : List (Option Ip)} {s s' : Sidecar} (event : ControllerEvent)
    (before : Run cfg selfIps s) (returned : event.run cfg s = .ok () s')
    (more : beginsOf s'.trace.control ≠ beginsOf s.trace.control)
    : Run cfg (s.selfIp cfg :: selfIps) s'

namespace SnapshotController.Run

theorem lives (run : SnapshotController.Run cfg selfIps s) : s.journal.Lives cfg selfIps := by
  induction run with
  | @init s fresh silent =>
      have ctrl : s.journal.ctrl = s.ctrl := rfl
      have control : s.journal.control = [] := silent
      refine .rests (by rw [ctrl, fresh]) ?_ (by rw [control]; exact .nil)
      rw [ctrl, fresh]
      exact ⟨rfl, rfl, rfl, rfl, rfl, rfl⟩
  | elsewhere _ ctrl control ih => exact ih.congr ctrl (congrArg episodesOf control)
  | event _ _ returned same ih =>
      rcases ControllerEvent.advances ih returned with ⟨-, lives⟩ | ⟨more, -⟩
      · exact lives
      · exact absurd same more
  | begins _ _ returned more ih =>
      rcases ControllerEvent.advances ih returned with ⟨same, -⟩ | ⟨-, lives⟩
      · exact absurd same more
      · exact lives

/-- In every state of every run, an idle controller is blank and all its episodes have ended with
one artifact each, complete if it covers the members of its episode. A recording one divides the
members of its episode into open channels and channels with a receive coordinate, knows no other
peers, and all its earlier episodes have ended.
-/
theorem lifecycle (run : SnapshotController.Run cfg selfIps s)
    : (s.ctrl.isSnapshotting = false
        → s.ctrl.AtRest
          ∧ List.Forall₂ (EpisodeLog.Ended cfg) selfIps (episodesOf s.trace.control))
      ∧ (s.ctrl.isSnapshotting = true
        → ∃ selfIp earlier episode past,
            selfIps = selfIp :: earlier
            ∧ s.ctrl.recordingChannels ≠ []
            ∧ s.ctrl.Partitions (cutMembers cfg selfIp)
            ∧ episodesOf s.trace.control = episode :: past
            ∧ s.ctrl.currentSnapshotId = some episode.id
            ∧ episode.Requested cfg
            ∧ List.Forall₂ (EpisodeLog.Ended cfg) earlier past) := by
  cases run.lives with
  | rests idle atRest ended =>
      have idle : s.ctrl.isSnapshotting = false := idle
      exact ⟨fun _ => ⟨atRest, ended⟩, fun recording => by simp [idle] at recording⟩
  | @records selfIp earlier _ watches opened =>
      have recording : s.ctrl.isSnapshotting = true := watches.recording
      obtain ⟨episode, past, logged, rest⟩ := watches.episodes
      exact ⟨fun idle => by simp [recording] at idle, fun _ =>
        ⟨selfIp, earlier, episode, past, rfl, opened, watches.parts, logged, rest⟩⟩

end SnapshotController.Run

-----------------------------------------------------------------------------------------
-- The runs of a sidecar
-----------------------------------------------------------------------------------------

theorem sweeps_controllerRun (cfg : Config)
    : Sweeps cfg (fun s => ∃ selfIps, SnapshotController.Run cfg selfIps s) (fun _ => True) where
  calm calm :=
    (Triple.of_within calm fun ⟨selfIps, run⟩ undisturbed =>
      ⟨selfIps, run.elsewhere (congrArg Desk.ctrl undisturbed)
        (congrArg Desk.control undisturbed)⟩).weaken
      (fun _ before => before) (fun _ _ after => after) fun _ _ => trivial
  event event := by
    refine .of_outcomes (fun {s _ s'} before returned => ?_) fun _ _ => trivial
    obtain ⟨selfIps, run⟩ := before
    by_cases same : beginsOf s'.trace.control = beginsOf s.trace.control
    · exact ⟨selfIps, run.event event returned same⟩
    · exact ⟨_, run.begins event returned same⟩

/-- Every run of a sidecar is one of its controller. -/
theorem Sidecar.Run.controllerRun (run : s.Run cfg)
    : ∃ selfIps, SnapshotController.Run cfg selfIps s := by
  induction run with
  | start starts =>
      obtain ⟨isServer, cache, rfl, -⟩ := starts.started
      exact ⟨[], .init rfl rfl⟩
  | @call s next callback host _ returned ih =>
      obtain ⟨selfIps, run⟩ := ih
      have before : SnapshotController.Run cfg selfIps { s with host } := run.elsewhere rfl rfl
      exact ((sweeps_controllerRun cfg).run callback).ok ⟨selfIps, before⟩
        (Sidecar.call_eq_some.mp returned)

/-- A begins a snapshot, and waits for B and C. -/
theorem SnapshotController.Run.lifecycle_startCommand
    : ∃ (s : Sidecar) (selfIps : List (Option Ip)),
        SnapshotController.Run (threeMembers nodeA) selfIps s
        ∧ s.ctrl.isSnapshotting = true
        ∧ ∃ selfIp earlier,
            selfIps = selfIp :: earlier
            ∧ s.ctrl.Partitions (cutMembers (threeMembers nodeA) selfIp) := by
  have ran : ((threeStarted nodeA).callAll (threeMembers nodeA)
      [(.emit [startCommand [49]], {}), (.intercept, {})]).any (fun s => s.ctrl.isSnapshotting)
      = true := by
    decide +kernel
  obtain ⟨s, called, recording⟩ := (Option.any_eq_true _ _).mp ran
  have run : s.Run (threeMembers nodeA) := (Sidecar.Run.start (threeStarted_starts nodeA)).callAll called
  obtain ⟨selfIps, controlled⟩ := run.controllerRun
  obtain ⟨selfIp, earlier, episode, past, same, opened, parts, -⟩ :=
    (SnapshotController.Run.lifecycle controlled).2 recording
  exact ⟨s, selfIps, controlled, recording, selfIp, earlier, same, parts⟩

end MeshSnapshot
