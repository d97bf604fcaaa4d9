import MeshSnapshot.Failures.Undisturbed
import MeshSnapshot.Model.Mesh
import MeshSnapshot.Recovery.Replay

/-! Exceptions and the start of a snapshot. Between the moment a snapshot is entered and its
checkpoint request, draining the intercept socket or decoding the id may raise; the controller
then records without a deadline. Nothing else that raises leaves it so.
-/

namespace MeshSnapshot

open Procedure

variable {cfg : Config} {s s' : Sidecar} {u : Unit}

-----------------------------------------------------------------------------------------
-- Controllers that can always finish or abort
-----------------------------------------------------------------------------------------

/-- A recording controller has a deadline, and a place for what each open channel brings. -/
def SnapshotController.Able (ctrl : SnapshotController) : Prop :=
  ctrl.isSnapshotting = true
    → ctrl.snapshotDeadline.isSome
      ∧ ∀ ip ∈ ctrl.recordingChannels, (ctrl.channelStates.get? ip).isSome

/-- Every peer still has a sequence number that the packet header can carry. -/
def Sidecar.HasRoom (s : Sidecar) : Prop := ∀ ip, (s.peer ip).sendSeq < 2 ^ 64

namespace Desk

/-- The last thing that happened to the controller is that it entered a snapshot: the app has
not been checkpointed for it.
-/
def CutShort (desk : Desk) : Prop := ∃ id passed, desk.control.getLast? = some (.began id passed)

/-- Between two callbacks, none of which was left in the middle of a start. -/
structure Steady (desk : Desk) : Prop where
  transport : desk.transport = true
  plain : desk.ctrl.RecordsPlain
  able : desk.ctrl.Able
  untimed : desk.ctrl.isSnapshotting = false → desk.ctrl.snapshotDeadline = none
  settled : ¬ desk.CutShort

/-- Steady, and nothing is recorded. -/
structure Resting (desk : Desk) : Prop where
  transport : desk.transport = true
  plain : desk.ctrl.RecordsPlain
  idle : desk.ctrl.isSnapshotting = false
  untimed : desk.ctrl.snapshotDeadline = none
  settled : ¬ desk.CutShort

/-- A snapshot is entered, and the intercept socket is still being drained. -/
structure Entering (desk : Desk) : Prop where
  transport : desk.transport = true
  empty : desk.ctrl.channelStates = ∅
  recording : desk.ctrl.isSnapshotting = true
  untimed : desk.ctrl.snapshotDeadline = none
  cutShort : desk.CutShort

/-- The app is checkpointed, and the markers are being sent. -/
structure Marking (desk : Desk) : Prop where
  transport : desk.transport = true
  empty : desk.ctrl.channelStates = ∅
  recording : desk.ctrl.isSnapshotting = true
  settled : ¬ desk.CutShort

/-- All channels are open, and only the deadline is missing. -/
structure Opened (desk : Desk) : Prop where
  transport : desk.transport = true
  plain : desk.ctrl.RecordsPlain
  recording : desk.ctrl.isSnapshotting = true
  opened : ∀ ip ∈ desk.ctrl.recordingChannels, (desk.ctrl.channelStates.get? ip).isSome
  settled : ¬ desk.CutShort

theorem Resting.steady {desk : Desk} (resting : desk.Resting) : desk.Steady where
  transport := resting.transport
  plain := resting.plain
  able := fun recording => by simp [resting.idle] at recording
  untimed := fun _ => resting.untimed
  settled := resting.settled

/-- A start that is left while it drains the intercept socket has no deadline. -/
theorem Entering.unable {desk : Desk} (entering : desk.Entering) : ¬ desk.ctrl.Able := by
  intro able
  have timed := (able entering.recording).1
  simp [entering.untimed] at timed

end Desk

/-- The states in which a callback may stop by an exception. -/
def Sidecar.Stopped (s : Sidecar) : Prop :=
  s.desk.Steady ∨ (s.desk.CutShort ∧ ¬ s.desk.ctrl.Able) ∨ ∃ ip, 2 ^ 64 ≤ (s.peer ip).sendSeq

/-- A procedure that keeps the controller steady, or raises in one of the known ways. -/
abbrev Steadily {α : Type} (body : Py α) : Prop :=
  Keeps (fun s => s.desk.Steady) body Sidecar.Stopped

theorem Calm.steadily {α : Type} {body : Py α} (calm : Calm body) : Steadily body :=
  (calm.keeps Desk.Steady).weaken (fun _ before => before) (fun _ _ after => after)
    fun _ after => .inl after

theorem not_cutShort_concat {desk : Desk} {control : List ControlEvent} {event : ControlEvent}
    (logged : desk.control = control ++ [event]) (other : ∀ id passed, event ≠ .began id passed)
    : ¬ desk.CutShort := by
  rintro ⟨id, passed, last⟩
  rw [logged, List.getLast?_concat] at last
  exact other id passed (Option.some.inj last)

-----------------------------------------------------------------------------------------
-- The flush
-----------------------------------------------------------------------------------------

/-- A `process_and_deliver` with which a resting controller stays so, for what it has recorded. -/
def Restful (reenter : Ip → Nat → Held → Py Unit) : Prop :=
  ∀ ip seq held, markerId? held.payload = none
    → Keeps (fun s => s.desk.Resting) (reenter ip seq held) (fun s => s.desk.Resting)

theorem restful_processAndDeliver (cfg : Config) (depth : Nat)
    : Restful (fun ip seq held => processAndDeliver cfg depth ip seq held) := by
  intro ip seq held plain s resting
  cases depth with
  | zero => exact resting
  | succ depth =>
      have delivers : processAndDeliver cfg (depth + 1) ip seq held s = deliver ip seq held s :=
        processAndDeliver_idle resting.idle plain
      have calm := (calm_deliver ip seq held).keeps Desk.Resting s resting
      rwa [← delivers] at calm

theorem recordsPlain_set {ctrl : SnapshotController} {ip : Ip} {recorded : List Recorded}
    (plain : ctrl.RecordsPlain) (added : ∀ msg ∈ recorded, markerId? msg.held.payload = none)
    : ({ ctrl with channelStates := ctrl.channelStates.set ip recorded }
        : SnapshotController).RecordsPlain := by
  intro other messages message found member
  rw [Dict.get?_set] at found
  split at found
  case isTrue =>
    obtain rfl := Option.some.inj found
    exact added message member
  case isFalse => exact plain found member

section Flush

variable {reenter : Ip → Nat → Held → Py Unit} (restful : Restful reenter)

include restful

theorem resting_flushAndReset
    : Triple (fun s => s.desk.Steady) (flushAndReset reenter) (fun _ s => s.desk.Resting)
        (fun s => s.desk.Resting) := by
  have resets : Triple (fun s => s.desk.Steady)
      (modifyCtrl fun c => { c with
        isSnapshotting := false
        currentSnapshotId := none
        snapshotDeadline := none
        recordingChannels := []
        recordedSendSeq := ∅
        recordedRecvSeq := ∅ }) (fun _ s => s.desk.Resting) (fun s => s.desk.Resting) :=
    .update fun s steady => ⟨steady.transport, steady.plain, rfl, rfl, steady.settled⟩
  refine resets.bind fun _ => .readBind fun s resting => ?_
  have channels : Keeps (fun t => t.desk.Resting)
      (forEach
        (fun (entry : Ip × List Recorded) => do
          modifyCtrl fun c => { c with
            channelStates := c.channelStates.set entry.1 (sortRecorded entry.2) }
          forEach (fun (msg : Recorded) => reenter entry.1 msg.seq msg.held)
            (sortRecorded entry.2))
        s.ctrl.channelStates.entries : Py Unit) (fun t => t.desk.Resting) := by
    refine .forEach ?_
    rintro ⟨ip, recordedState⟩ listed
    have plainHere {msg : Recorded} (member : msg ∈ sortRecorded recordedState)
        : markerId? msg.held.payload = none :=
      resting.plain (Dict.mem_entries_iff.mp listed) ((List.mem_insertionSort _).mp member)
    have sorts : Keeps (fun t => t.desk.Resting)
        (modifyCtrl fun c => { c with
          channelStates := c.channelStates.set ip (sortRecorded recordedState) })
        (fun t => t.desk.Resting) :=
      .update fun t rest => ⟨rest.transport,
        recordsPlain_set rest.plain fun _ member => plainHere member, rest.idle, rest.untimed,
        rest.settled⟩
    exact sorts.bind fun _ => .forEach fun msg member => restful _ _ _ (plainHere member)
  have clears : Keeps (fun t => t.desk.Resting)
      (modifyCtrl fun c => { c with channelStates := ∅ }) (fun t => t.desk.Resting) :=
    .update fun t rest => ⟨rest.transport, recordsPlain_empty rfl, rest.idle, rest.untimed,
      rest.settled⟩
  exact (channels.bind fun _ => clears).weaken (fun _ same => same ▸ resting)
    (fun _ _ after => after) fun _ after => after

/-- Both ways in which a snapshot ends. -/
theorem resting_end (cfg : Config) (status : Status)
    : Triple (fun s => s.desk.Steady)
        (do
          let artifact ← buildArtifact cfg status
          let _ ← postArtifact artifact
          flushAndReset reenter : Py Unit)
        (fun _ s => s.desk.Resting) (fun s => s.desk.Steady) := by
  refine (((calm_buildArtifact cfg status).keeps Desk.Steady)).bind fun artifact => ?_
  have logs (stored : Bool) : Keeps (fun s => s.desk.Steady)
      (logControl (.posted artifact stored)) (fun s => s.desk.Steady) :=
    .update fun s steady => ⟨steady.transport, steady.plain, steady.able, steady.untimed,
      not_cutShort_concat rfl (by simp)⟩
  have posts : Keeps (fun s => s.desk.Steady) (postArtifact artifact) (fun s => s.desk.Steady) :=
    (calm_outsideAnswer.keeps Desk.Steady).bind fun stored => (logs stored).bind fun _ =>
      .pure fun _ after => after
  exact posts.bind fun _ => (resting_flushAndReset restful).weaken (fun _ before => before)
    (fun _ _ after => after) fun _ after => after.steady

theorem steadily_finishIfClosed (cfg : Config) : Steadily (finishIfClosed cfg reenter) := by
  refine .readThen fun s _ => ?_
  split
  · exact (resting_end restful cfg .complete).weaken (fun _ before => before)
      (fun _ _ after => after.steady) fun _ after => .inl after
  · exact .pure fun _ after => after

end Flush

-----------------------------------------------------------------------------------------
-- The start
-----------------------------------------------------------------------------------------

/-- The clock is always there. -/
theorem time_returns : Triple (fun _ => True) time (fun _ _ => True) (fun _ => False) := by
  refine .readBind fun s _ => ?_
  split
  · exact .pure fun _ _ => trivial
  · have ticks (rest : List Int) : Triple (fun t => t = s)
        (update fun t => { t with host := { t.host with clock := rest } } : Py Unit)
        (fun _ _ => True) (fun _ => False) :=
      .update fun _ _ => trivial
    exact (ticks _).bind fun _ => .pure fun _ _ => trivial

theorem getPeer_returns (ip : Ip)
    : Triple (fun _ => True) (getPeer ip) (fun _ _ => True) (fun _ => False) := by
  refine .readThen fun s _ => ?_
  split
  · exact .pure fun _ _ => trivial
  · exact .update fun _ _ => trivial

theorem tunnelSendto_returns (packet : Bytes) (dst : Ip)
    : Triple (fun s => s.tunnelTransport = true) (tunnelSendto packet dst) (fun _ _ => True)
        (fun _ => False) := by
  refine .readBind fun s transport => ?_
  rw [if_pos transport]
  exact .update fun _ _ => trivial

/-- With a tunnel socket, sending raises only for a packet that cannot be built. -/
theorem sendData_raises (ip : Ip) (message : Message) (origin : SendOrigin)
    : Triple (fun s => s.tunnelTransport = true) (sendData ip message origin) (fun _ _ => True)
        (fun s => dataPacket (s.peer ip).sendSeq message = none) := by
  refine .readBind fun s transport => ?_
  cases built : dataPacket (s.peer ip).sendSeq message with
  | none =>
      have raises : Triple (fun t => t = s) (orStructError none) (fun _ _ => False)
          (fun t => dataPacket (t.peer ip).sendSeq message = none) :=
        .raise fun _ same => same ▸ built
      exact raises.bind fun _ _ never => never.elim
  | some packet =>
      have builds : Triple (fun t => t = s) (orStructError (some packet)) (fun _ t => t = s)
          (fun t => dataPacket (t.peer ip).sendSeq message = none) :=
        .pure fun _ same => same
      have sends (packet : Bytes) : Triple (fun t => t = s) (tunnelSendto packet ip)
          (fun _ _ => True) (fun t => dataPacket (t.peer ip).sendSeq message = none) :=
        (tunnelSendto_returns packet ip).weaken (fun _ same => same ▸ transport)
          (fun _ _ after => after) fun _ never => never.elim
      have ticks : Triple (fun _ => True) time (fun _ _ => True)
          (fun t => dataPacket (t.peer ip).sendSeq message = none) :=
        time_returns.weaken (fun _ before => before) (fun _ _ after => after)
          fun _ never => never.elim
      have tracks (change : PeerState → PeerState) : Triple (fun _ => True)
          (modifyPeer ip change) (fun _ _ => True)
          (fun t => dataPacket (t.peer ip).sendSeq message = none) :=
        .update fun _ _ => trivial
      exact builds.bind fun packet => (sends packet).bind fun _ => ticks.bind fun _ =>
        (tracks _).bind fun _ => .update fun _ _ => trivial

/-- Sending a marker raises only when the peer has no sequence number left. -/
theorem marking_sendMarker (payload : Bytes) (ip : Ip)
    : Keeps (fun s => s.desk.Marking) (sendMarker payload ip)
        (fun s => ∃ ip, 2 ^ 64 ≤ (s.peer ip).sendSeq) := by
  have sends : Keeps (fun s => s.desk.Marking) (sendData ip ⟨0, 0, zeroIp, payload⟩ .marker)
      (fun s => ∃ ip, 2 ^ 64 ≤ (s.peer ip).sendSeq) := by
    intro s marking
    have calm := (calm_sendData ip ⟨0, 0, zeroIp, payload⟩ .marker).keeps Desk.Marking s marking
    have raises := sendData_raises ip ⟨0, 0, zeroIp, payload⟩ .marker s marking.transport
    cases sent : sendData ip ⟨0, 0, zeroIp, payload⟩ .marker s with
    | ok _ t =>
        rw [sent] at calm
        exact calm
    | error e t =>
        rw [sent] at raises
        refine ⟨ip, ?_⟩
        simpa [dataPacket, packDataHeader] using raises
  have logs : Keeps (fun s => s.desk.Marking)
      (update fun s => { s with
        ctrl := { s.ctrl with
          recordedSendSeq := s.ctrl.recordedSendSeq.set ip (s.peer ip).sendSeq } } : Py Unit)
      (fun s => ∃ ip, 2 ^ 64 ≤ (s.peer ip).sendSeq) :=
    .update fun s marking => ⟨marking.transport, marking.empty, marking.recording,
      marking.settled⟩
  have opens : Keeps (fun s => s.desk.Marking) (getPeer ip)
      (fun s => ∃ ip, 2 ^ 64 ≤ (s.peer ip).sendSeq) := by
    refine .readThen fun s _ => ?_
    split
    · exact .pure fun _ marking => marking
    · exact .update fun _ marking => marking
  exact opens.bind fun _ => sends.bind fun _ => logs

theorem entering_selfMeshIp (cfg : Config)
    : Keeps (fun s => s.desk.Entering) (selfMeshIp cfg) (fun s => s.desk.Entering) := by
  have caches : Keeps (fun s => s.desk.Entering)
      (modifyCtrl fun c => { c with selfIpCache := some cfg.address })
      (fun s => s.desk.Entering) :=
    .update fun s entering => ⟨entering.transport, entering.empty, entering.recording,
      entering.untimed, entering.cutShort⟩
  have members : Calm (firstMember cfg) := by
    unfold firstMember
    split
    · exact .raise _
    · exact .pure _
  have detects : Keeps (fun s => s.desk.Entering) (detectSelfIp cfg) (fun s => s.desk.Entering) :=
    (calm_outsideCall.keeps Desk.Entering).bind fun _ =>
      (members.keeps Desk.Entering).bind fun _ => caches.bind fun _ => .pure fun _ after => after
  unfold selfMeshIp
  split
  · exact .pure fun _ entering => entering
  · refine .readThen fun s _ => ?_
    split
    · exact .pure fun _ entering => entering
    · exact detects.attempt fun _ => .pure fun _ after => after

theorem marking_triggerAppSnapshot (cfg : Config) (markerId : Bytes) (snapshotId : String)
    : Triple (fun s => s.desk.Entering) (triggerAppSnapshot cfg markerId snapshotId)
        (fun _ s => s.desk.Marking) Sidecar.Stopped := by
  have appears : Keeps (fun s => s.desk.Entering) appPoint Sidecar.Stopped := by
    refine .readThen fun s _ => ?_
    split
    · exact .pure fun _ entering => entering
    · exact .update fun _ entering => entering
  have appearsAgain : Keeps (fun s => s.desk.Marking) appPoint Sidecar.Stopped := by
    refine .readThen fun s _ => ?_
    split
    · exact .pure fun _ marking => marking
    · exact .update fun _ marking => marking
  have asks : Keeps (fun s => s.desk.Entering) outsideAnswer Sidecar.Stopped :=
    (calm_outsideAnswer.keeps Desk.Entering).weaken (fun _ before => before)
      (fun _ _ after => after) fun _ after => .inr (.inl ⟨after.cutShort, after.unable⟩)
  have logs (reads emitted delivered : Nat) (ok : Bool) : Triple (fun s => s.desk.Entering)
      (logControl (.checkpointed markerId (nodeName cfg)
        ("/tmp/snapshot-" ++ snapshotId ++ "-" ++ nodeName cfg ++ ".tar.zst") ok reads emitted
        delivered))
      (fun _ s => s.desk.Marking) Sidecar.Stopped :=
    .update fun s entering => ⟨entering.transport, entering.empty, entering.recording,
      not_cutShort_concat rfl (by simp)⟩
  exact appears.bind fun _ => asks.bind fun ok => .readThen fun s _ =>
    (logs _ _ _ ok).bind fun _ => appearsAgain

theorem opened_openChannels
    : Triple (fun s => s.desk.Marking)
        (modifyCtrl fun c => { c with
          channelStates := openChannels c.channelStates c.recordingChannels })
        (fun _ s => s.desk.Opened) Sidecar.Stopped := by
  refine .update fun s marking => ?_
  have empty : s.ctrl.channelStates = ∅ := marking.empty
  refine ⟨marking.transport, ?_, marking.recording, ?_, marking.settled⟩
  · intro ip recorded message found member
    simp only [Sidecar.desk, empty, Journal.openChannels_get?, Dict.get?_empty] at found
    split at found
    · obtain rfl := Option.some.inj found
      cases member
    · cases found
  · intro ip listed
    have recording : ip ∈ s.ctrl.recordingChannels := listed
    simp [Sidecar.desk, Journal.openChannels_get?, recording]

theorem opened_closeOrigin (members : List Ip) (remoteIp : Ip) (seq : Nat)
    : Keeps (fun s => s.desk.Opened) (closeOrigin members remoteIp seq) Sidecar.Stopped := by
  unfold closeOrigin
  split
  · refine .update fun s opened => ⟨opened.transport, recordsPlain_set opened.plain (by simp),
      opened.recording, fun ip listed => ?_, opened.settled⟩
    have known : (s.ctrl.channelStates.get? ip).isSome := opened.opened ip listed
    simp only [Sidecar.desk, Dict.get?_set]
    split
    · rfl
    · exact known
  · exact .pure fun _ opened => opened

section Start

variable {reenter : Ip → Nat → Held → Py Unit} (restful : Restful reenter)

include restful

/-- The snapshot is entered on an idle controller. -/
theorem stopped_startSnapshot (cfg : Config) (remoteIp : Ip) (seq : Nat)
    (payload markerId : Bytes)
    : Triple (fun s => s.desk.Steady ∧ s.ctrl.isSnapshotting = false)
        (startSnapshot cfg reenter remoteIp seq payload markerId) (fun _ s => s.desk.Steady)
        Sidecar.Stopped := by
  have cut {α : Type} {body : Py α}
      (keeps : Keeps (fun s => s.desk.Entering) body (fun s => s.desk.Entering))
      : Keeps (fun s => s.desk.Entering) body Sidecar.Stopped :=
    keeps.weaken (fun _ before => before) (fun _ _ after => after)
      fun _ after => .inr (.inl ⟨after.cutShort, after.unable⟩)
  have opens : Triple (fun s => s.desk.Steady ∧ s.ctrl.isSnapshotting = false)
      (modifyCtrl fun c => { c with
        isSnapshotting := true
        currentSnapshotId := some markerId
        channelStates := ∅
        recordedSendSeq := ∅
        recordedRecvSeq := ∅ })
      (fun _ s => s.tunnelTransport = true ∧ s.ctrl.channelStates = ∅
        ∧ s.ctrl.isSnapshotting = true ∧ s.ctrl.snapshotDeadline = none) Sidecar.Stopped :=
    .update fun s ⟨steady, idle⟩ => ⟨steady.transport, rfl, rfl, steady.untimed idle⟩
  have enters (passed : Nat) : Triple (fun s => s.tunnelTransport = true
        ∧ s.ctrl.channelStates = ∅ ∧ s.ctrl.isSnapshotting = true
        ∧ s.ctrl.snapshotDeadline = none)
      (logControl (.began markerId passed)) (fun _ s => s.desk.Entering) Sidecar.Stopped :=
    .update fun s ⟨transport, empty, recording, untimed⟩ =>
      ⟨transport, empty, recording, untimed, _, _, List.getLast?_concat⟩
  have records (channels : List Ip) : Keeps (fun s => s.desk.Entering)
      (modifyCtrl fun c => { c with recordingChannels := channels }) Sidecar.Stopped :=
    .update fun s entering => ⟨entering.transport, entering.empty, entering.recording,
      entering.untimed, entering.cutShort⟩
  have marks (members : List Ip) : Keeps (fun s => s.desk.Marking)
      (forEach (sendMarker payload) members) Sidecar.Stopped :=
    .forEach fun ip _ => (marking_sendMarker payload ip).weaken (fun _ before => before)
      (fun _ _ after => after) fun _ full => .inr (.inr full)
  have ticks : Keeps (fun s => s.desk.Opened) time Sidecar.Stopped := by
    refine .readThen fun s _ => ?_
    split
    · exact .pure fun _ opened => opened
    · have reads (rest : List Int) : Keeps (fun t => t.desk.Opened)
          (update fun t => { t with host := { t.host with clock := rest } } : Py Unit)
          Sidecar.Stopped :=
        .update fun _ opened => opened
      exact (reads _).bind fun _ => .pure fun _ after => after
  have bounds (now : Int) : Triple (fun s => s.desk.Opened)
      (modifyCtrl fun c => { c with snapshotDeadline := some (now + snapshotTimeout) })
      (fun _ s => s.desk.Steady) Sidecar.Stopped := by
    refine .update fun s opened => ⟨opened.transport, opened.plain,
      fun _ => ⟨rfl, opened.opened⟩, fun idle => ?_, opened.settled⟩
    have recording : s.ctrl.isSnapshotting = true := opened.recording
    simp [Sidecar.desk, recording] at idle
  refine opens.bind fun _ => .readThen fun s _ => (enters _).bind fun _ => ?_
  refine (cut (entering_selfMeshIp cfg)).bind fun selfIp => (records _).bind fun _ => ?_
  refine (cut ((calm_drainIntercept cfg).keeps Desk.Entering)).bind fun _ => ?_
  refine (cut ((calm_decode markerId).keeps Desk.Entering)).bind fun snapshotId => ?_
  refine (marking_triggerAppSnapshot cfg markerId snapshotId).bind fun _ => ?_
  refine (marks _).bind fun _ => opened_openChannels.bind fun _ => ?_
  refine (opened_closeOrigin _ remoteIp seq).bind fun _ => ticks.bind fun now => ?_
  exact (bounds now).bind fun _ => steadily_finishIfClosed restful cfg

theorem steadily_receiveMarker (cfg : Config) (remoteIp : Ip) (seq : Nat) (markerId : Bytes)
    : Steadily (receiveMarker cfg reenter remoteIp seq markerId) := by
  refine .readThen fun s _ => ?_
  split
  · exact (calm_decode markerId).steadily.bind fun _ => .pure fun _ after => after
  · split
    · have closes : Triple (fun s => s.desk.Steady)
          (modifyCtrl fun c => { c with
            recordedRecvSeq := c.recordedRecvSeq.set remoteIp (seq + 1)
            recordingChannels := c.recordingChannels.filter (fun ip => ip ≠ remoteIp) })
          (fun _ s => s.desk.Steady) Sidecar.Stopped := by
        refine .update fun t steady => ⟨steady.transport, steady.plain, fun recording => ?_,
          steady.untimed, steady.settled⟩
        obtain ⟨timed, places⟩ := steady.able recording
        exact ⟨timed, fun ip listed => places ip (List.mem_filter.mp listed).1⟩
      exact closes.bind fun _ => steadily_finishIfClosed restful cfg
    · exact .pure fun _ after => after

theorem steadily_handleMarker (cfg : Config) (remoteIp : Ip) (seq : Nat)
    (payload markerId : Bytes)
    : Steadily (handleMarker cfg reenter remoteIp seq payload markerId) := by
  refine .readBind fun s steady => ?_
  have logs (recording : Option Bytes) : Triple (fun t => t = s)
      (logControl (.heard remoteIp seq markerId recording))
      (fun _ t => t.desk.Steady ∧ t.ctrl = s.ctrl) Sidecar.Stopped :=
    .update fun t same => by
      subst same
      exact ⟨⟨steady.transport, steady.plain, steady.able, steady.untimed,
        not_cutShort_concat rfl (by simp)⟩, rfl⟩
  refine (logs _).bind fun _ => ?_
  split
  case isTrue =>
    exact (steadily_receiveMarker restful cfg remoteIp seq markerId).weaken
      (fun _ before => before.1) (fun _ _ after => after) fun _ after => after
  case isFalse idle =>
    exact (stopped_startSnapshot restful cfg remoteIp seq payload markerId).weaken
      (fun _ before => ⟨before.1, by simpa [before.2] using idle⟩) (fun _ _ after => after)
      fun _ after => after

end Start

-----------------------------------------------------------------------------------------
-- The callbacks
-----------------------------------------------------------------------------------------

/-- Recording never fails on a steady controller. -/
theorem steadily_recordMessage {s : Sidecar} (steady : s.desk.Steady)
    (recording : s.ctrl.isSnapshotting = true) {ip : Ip} (seq : Nat) {held : Held}
    (listed : ip ∈ s.ctrl.recordingChannels) (plain : markerId? held.payload = none)
    : Triple (fun t => t = s) (recordMessage ip seq held) (fun _ t => t.desk.Steady)
        (fun _ => False) := by
  refine .readBind fun t same => ?_
  subst same
  obtain ⟨recordedState, found⟩ := Option.isSome_iff_exists.mp ((steady.able recording).2 ip listed)
  have found : t.ctrl.channelStates.get? ip = some recordedState := found
  rw [found]
  refine .update fun u same => ?_
  subst same
  refine ⟨steady.transport, recordsPlain_set steady.plain ?_, fun recording => ?_, steady.untimed,
    steady.settled⟩
  · intro message member
    rcases List.mem_append.mp member with old | new
    · exact steady.plain found old
    · rw [List.mem_singleton.mp new]
      exact plain
  · obtain ⟨timed, places⟩ := steady.able recording
    refine ⟨timed, fun other listed => ?_⟩
    have place : (u.ctrl.channelStates.get? other).isSome := places other listed
    simp only [Sidecar.desk, Dict.get?_set]
    split
    · rfl
    · exact place

theorem steadily_processMessage (cfg : Config) (depth : Nat) (ip : Ip) (seq : Nat) (held : Held)
    : Steadily (processMessage cfg depth ip seq held) := by
  cases depth with
  | zero => exact .raise fun _ before => .inl before
  | succ depth =>
      unfold processMessage
      cases marker : markerId? held.payload with
      | some markerId =>
          exact (steadily_handleMarker (restful_processAndDeliver cfg depth) cfg ip seq
            held.payload markerId).bind fun _ => .pure fun _ after => after
      | none =>
          refine .readBind fun s steady => ?_
          split
          case isTrue recording =>
            exact ((steadily_recordMessage steady recording.1 seq recording.2 marker).weaken
              (fun _ before => before) (fun _ _ after => after) fun _ never => never.elim).bind
                fun _ => .pure fun _ after => after
          case isFalse => exact .pure fun _ same => same ▸ steady

theorem steadily_processAndDeliver (cfg : Config) (depth : Nat) (ip : Ip) (seq : Nat)
    (held : Held) : Steadily (processAndDeliver cfg depth ip seq held) := by
  refine (steadily_processMessage cfg depth ip seq held).bind fun consumed => ?_
  split
  · exact .pure fun _ after => after
  · exact (calm_deliver ip seq held).steadily

theorem steadily_handleStart (cfg : Config) (data : Bytes) : Steadily (handleStart cfg data) := by
  have logs (id : Bytes) : Keeps (fun s => s.desk.Steady) (logControl (.start id))
      Sidecar.Stopped :=
    .update fun s steady => ⟨steady.transport, steady.plain, steady.able, steady.untimed,
      not_cutShort_concat rfl (by simp)⟩
  exact (calm_startId _).steadily.bind fun id => (logs id).bind fun _ =>
    (steadily_processMessage cfg callDepth loopback 0 _).bind fun _ => .pure fun _ after => after

theorem steadily_checkTimeout (cfg : Config) : Steadily (checkTimeout cfg) := by
  refine .readThen fun s _ => ?_
  split
  · refine calm_time.steadily.bind fun now => ?_
    split
    · exact (resting_end (restful_processAndDeliver cfg callDepth) cfg .aborted).weaken
        (fun _ before => before) (fun _ _ after => after.steady) fun _ after => .inl after
    · exact .pure fun _ after => after
  · exact .pure fun _ after => after

theorem sweeps_steadily (cfg : Config) : Sweeps cfg (fun s => s.desk.Steady) Sidecar.Stopped where
  calm := Calm.steadily
  event
    | .start data => steadily_handleStart cfg data
    | .arrival packet => steadily_processAndDeliver cfg callDepth packet.peer packet.seq packet.held
    | .tick => steadily_checkTimeout cfg

-----------------------------------------------------------------------------------------
-- The life of a sidecar
-----------------------------------------------------------------------------------------

theorem Sidecar.Starts.resting (starts : s.Starts cfg) (host : Host)
    : ({ s with host } : Sidecar).desk.Resting := by
  obtain ⟨isServer, cache, rfl, -⟩ := starts.started
  refine ⟨rfl, recordsPlain_empty rfl, rfl, rfl, ?_⟩
  rintro ⟨id, passed, last⟩
  cases last

/-- A restore only seeds peers, and delivers what had been recorded. -/
theorem keeps_restorePeers (cfg : Config) {reply : Option (List Artifact)}
    (plain : PlainReply reply) {inv : Sidecar → Prop}
    (idle : ∀ {s}, inv s → s.ctrl.isSnapshotting = false)
    (seeds : ∀ ip artifact, Keeps inv (seedPeer ip artifact) inv)
    (delivers : ∀ packet, Keeps inv (deliverPacket packet) inv)
    : Keeps inv (restorePeers cfg reply) inv := by
  unfold restorePeers
  split
  · exact .raise fun _ before => before
  case h_2 nodes =>
    split
    · exact .pure fun _ before => before
    case h_2 node own =>
      have seedsAll : Keeps inv
          (forEach (fun (entry : Ip × PeerArtifact) => seedPeer entry.1 entry.2) node.peers
            : Py Unit) inv :=
        .forEach fun entry _ => seeds entry.1 entry.2
      refine seedsAll.bind fun _ => .forEach ?_
      rintro ⟨ip, artifact⟩ listed
      refine .forEach fun msg member s before => ?_
      have recorded : msg ∈ artifact.channel := (List.mem_insertionSort _).mp member
      have known := plain nodes rfl node (List.mem_of_find?_eq_some own) (ip, artifact) listed msg
        recorded
      unfold replayMessage b64decode
      cases decoded : Base64.decode msg.payloadB64 with
      | none => exact before
      | some payload =>
          have replays : processAndDeliver cfg callDepth ip msg.seq
              ⟨payload, msg.srcPort, msg.dstPort, msg.targetLocalIp⟩ s
              = deliver ip msg.seq ⟨payload, msg.srcPort, msg.dstPort, msg.targetLocalIp⟩ s :=
            processAndDeliver_idle (idle before) (known payload decoded)
          have delivered := delivers ⟨ip, msg.seq, payload, msg.srcPort, msg.dstPort,
            msg.targetLocalIp⟩ s before
          rw [deliverPacket, ← replays] at delivered
          exact delivered

/-- What holds of every fresh sidecar, and is kept by seeding and delivering, holds when a
sidecar has started.
-/
theorem Sidecar.Boots.induct (boots : s.Boots cfg) (inv : Sidecar → Prop)
    (fresh : ∀ {s : Sidecar} (host : Host), s.Starts cfg → inv { s with host })
    (idle : ∀ {s}, inv s → s.ctrl.isSnapshotting = false)
    (seeds : ∀ ip artifact, Keeps inv (seedPeer ip artifact) inv)
    (delivers : ∀ packet, Keeps inv (deliverPacket packet) inv)
    : inv s := by
  cases boots with
  | fresh starts => exact fresh s.host starts
  | restored starts restoreSnapshotId reply plain host =>
      have keeps : Keeps inv (restoreFromArtifact cfg restoreSnapshotId reply) inv := by
        unfold restoreFromArtifact
        split
        · exact .pure fun _ before => before
        · exact (keeps_restorePeers cfg plain idle seeds delivers).attempt fun _ =>
            .pure fun _ after => after
      have outcome := keeps _ (fresh host starts)
      unfold Sidecar.restored
      cases stopped : restoreFromArtifact cfg restoreSnapshotId reply _ <;>
        simpa [stopped, final] using outcome

theorem Sidecar.Boots.steady (boots : s.Boots cfg) : s.desk.Steady := by
  refine Desk.Resting.steady (boots.induct (fun s => s.desk.Resting)
    (fun host starts => starts.resting host) (fun resting => resting.idle) ?_ ?_)
  · intro ip artifact
    exact Calm.keeps (.bind (calm_getPeer ip) fun _ => calm_modifyPeer ip _) Desk.Resting
  · intro packet
    exact (calm_deliver packet.peer packet.seq packet.held).keeps Desk.Resting

/-- Where an exception leaves the controller, it has a deadline exactly when it was not raised
between the entry to a snapshot and the request for its checkpoint.
-/
theorem Sidecar.Stopped.able_iff (stopped : s.Stopped) (room : s.HasRoom)
    : s.ctrl.Able ↔ ¬ s.desk.CutShort := by
  rcases stopped with steady | ⟨cutShort, unable⟩ | ⟨ip, full⟩
  · exact iff_of_true steady.able steady.settled
  · exact iff_of_false unable fun settled => settled cutShort
  · exact absurd (room ip) (Nat.not_lt.mpr full)

/-- No start is left in its middle, and no peer has used up its sequence numbers. -/
def Sidecar.StartsWhole (s : Sidecar) : Prop := s.HasRoom ∧ ¬ s.desk.CutShort

theorem Sidecar.Stopped.steady (stopped : s.Stopped) (whole : s.StartsWhole) : s.desk.Steady := by
  rcases stopped with steady | ⟨cutShort, -⟩ | ⟨ip, full⟩
  · exact steady
  · exact absurd cutShort whole.2
  · exact absurd (whole.1 ip) (Nat.not_lt.mpr full)

theorem Sidecar.Life.steady {boot : Sidecar} {running : Bool}
    (life : Life cfg (fun _ => Sidecar.StartsWhole) boot running s)
    : s.desk.Steady := by
  induction life with
  | start boots => exact boots.steady
  | @returned _ s _ callback host _ _ returns ih =>
      exact ((sweeps_steadily cfg).run callback).ok (s := { s with host }) ih returns
  | @raised _ s _ _ callback host _ _ raises left ih =>
      exact (((sweeps_steadily cfg).run callback).error (s := { s with host }) ih raises).steady left

/-- As long as no exception leaves a start in its middle, the controller can always finish or
abort. An exception that does leaves it recording without a deadline.
-/
theorem Sidecar.Life.stays_able {boot : Sidecar} {running : Bool}
    (life : Life cfg (fun _ => Sidecar.StartsWhole) boot running s)
    : s.ctrl.Able
      ∧ ∀ (callback : Callback) (host : Host) (error : PyErr) (next : Sidecar),
          callback.run cfg { s with host } = .error error next
          → next.HasRoom
          → (next.ctrl.Able ↔ ¬ next.desk.CutShort) :=
  ⟨life.steady.able, fun callback host _ _ raises room =>
    (((sweeps_steadily cfg).run callback).error (s := { s with host }) life.steady raises).able_iff room⟩

theorem Sidecar.hasRoom_iff
    : s.HasRoom ↔ ∀ entry ∈ s.peers.entries, entry.2.sendSeq < 2 ^ 64 := by
  constructor
  · intro room entry listed
    have found := Dict.mem_entries_iff.mp (show (entry.1, entry.2) ∈ s.peers.entries from listed)
    have here := room entry.1
    unfold Sidecar.peer at here
    rwa [found] at here
  · intro room ip
    unfold Sidecar.peer
    cases found : s.peers.get? ip with
    | none => decide
    | some peer => exact room (ip, peer) (Dict.mem_entries_iff.mpr found)

instance : Decidable s.HasRoom := decidable_of_iff _ Sidecar.hasRoom_iff.symm

instance (desk : Desk) : Decidable desk.CutShort :=
  match last : desk.control.getLast? with
  | some (.began id passed) => isTrue ⟨id, passed, last⟩
  | none => isFalse fun ⟨_, _, began⟩ => by simp [last] at began
  | some (.start _) | some (.heard ..) | some (.checkpointed ..) | some (.posted ..) =>
      isFalse fun ⟨_, _, began⟩ => by simp [last] at began

instance : Decidable s.StartsWhole := inferInstanceAs (Decidable (_ ∧ _))

/-- A client sends a datagram to the app. -/
def clientDatagram : Callback :=
  .received ((plainPacket ⟨5000, 5000, [10, 24, 24, 10], [109]⟩).getD []) "10.24.24.200"

/-- While a snapshot is being recorded, a client's datagram cannot be handed to the app. -/
theorem Sidecar.Life.stays_able_failedClientDelivery
    : ∃ s next : Sidecar,
        Callback.run (threeMembers nodeA) clientDatagram { s with host := { faults := [true] } }
          = .error .osError next
        ∧ Life (threeMembers nodeA) (fun _ => Sidecar.StartsWhole) (threeStarted nodeA) true next
        ∧ next.ctrl.isSnapshotting = true
        ∧ next.ctrl.Able := by
  have ran : ((threeStarted nodeA).callAll (threeMembers nodeA)
      [(.emit [startCommand [49]], {}), (.intercept, {})]).any (fun s =>
        match Callback.run (threeMembers nodeA) clientDatagram
          { s with host := { faults := [true] } } with
        | .error .osError next => next.ctrl.isSnapshotting && decide next.StartsWhole
        | _ => false) = true := by
    decide +kernel
  obtain ⟨s, called, shown⟩ := (Option.any_eq_true _ _).mp ran
  cases stopped : Callback.run (threeMembers nodeA) clientDatagram
    { s with host := { faults := [true] } } with
  | ok _ _ => simp [stopped] at shown
  | error e next =>
      rw [stopped] at shown
      cases e <;> simp only [Bool.false_eq_true] at shown
      simp only [Bool.and_eq_true, decide_eq_true_eq] at shown
      have recording : Life (threeMembers nodeA) (fun _ => Sidecar.StartsWhole)
          (threeStarted nodeA) true s :=
        (Life.start (.fresh (threeStarted_starts nodeA))).callAll called
      have life := recording.raised clientDatagram _ (fun _ => rfl) stopped shown.2
      exact ⟨s, next, stopped, life, shown.1, (Sidecar.Life.stays_able life).1⟩

/-- The id of a START command is not UTF-8: the snapshot is entered, and decoding the id raises. -/
theorem Sidecar.Life.bricked
    : ∃ s,
        Life (threeMembers nodeA) (fun _ _ => True) (threeStarted nodeA) true s
        ∧ s.ctrl.isSnapshotting = true
        ∧ s.ctrl.snapshotDeadline = none := by
  have ran : ((threeStarted nodeA).outlive (threeMembers nodeA) true
      [(.emit [startCommand [255]], {}), (.intercept, {})]).any (fun (running, s) =>
        running && s.ctrl.isSnapshotting && s.ctrl.snapshotDeadline == none) = true := by
    decide +kernel
  obtain ⟨⟨running, s⟩, ran, shown⟩ := (Option.any_eq_true _ _).mp ran
  simp only [Bool.and_eq_true, beq_iff_eq] at shown
  obtain ⟨⟨rfl, recording⟩, untimed⟩ := shown
  exact ⟨s, (Life.start (.fresh (threeStarted_starts nodeA))).outlive ran, recording, untimed⟩

end MeshSnapshot
