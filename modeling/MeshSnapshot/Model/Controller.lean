import MeshSnapshot.Model.Proxy
import Mathlib.Data.List.Dedup
import Mathlib.Data.List.Sort

/-! `SnapshotController`: the marker rules of `process_message`, the artifact, and the ways
in which a snapshot ends. Definitions bear the names of `snapshot_handler.py`.
-/

namespace MeshSnapshot

open Procedure

def modifyCtrl (change : SnapshotController → SnapshotController) : Py Unit :=
  update fun s => { s with ctrl := change s.ctrl }

def logControl (event : ControlEvent) : Py Unit :=
  update fun s => { s with trace := { s.trace with control := s.trace.control ++ [event] } }

/-- `bytes.decode()`: strict UTF-8. -/
def decode? (bytes : Bytes) : Option String := String.fromUTF8? ⟨bytes.toArray⟩

def decode (bytes : Bytes) : Py String :=
  match decode? bytes with
  | some text => pure text
  | none => raise .unicodeDecodeError

/-- `MESH_MEMBERS[0]` -/
def firstMember (cfg : Config) : Py Ip :=
  match cfg.meshMembers with
  | [] => raise .indexError
  | ip :: _ => pure ip

/-- The route detection of `_self_mesh_ip`: the address from which the kernel would reach the
first member.
-/
def detectSelfIp (cfg : Config) : Py (Option Ip) := do
  outsideCall
  let _ ← firstMember cfg
  modifyCtrl fun c => { c with selfIpCache := some cfg.address }
  pure (some cfg.address)

/-- `_self_mesh_ip`: the override, else the cached or freshly detected route address. Any
failure of the detection is swallowed.
-/
def selfMeshIp (cfg : Config) : Py (Option Ip) :=
  match cfg.meshSelf.filter (· ≠ "") with
  | some ip => pure (some ip)
  | none => do
      let s ← read
      match s.ctrl.selfIpCache with
      | some ip => pure (some ip)
      | none => attempt (detectSelfIp cfg) (fun _ => pure none)

/-- `CHECKPOINT_TARGET`, or the sidecar's own hostname when it is unset. -/
def nodeName (cfg : Config) : String :=
  (cfg.checkpointTarget.filter (· ≠ "")).getD cfg.hostname

/-- `_trigger_app_snapshot_out_of_band`: the host freezes the app while the request runs, and
the app may run before the freeze and after it. Every failure is swallowed.
-/
def triggerAppSnapshot (cfg : Config) (markerId : Bytes) (snapshotId : String) : Py Unit := do
  appPoint
  let ok ← outsideAnswer
  let s ← read
  logControl (.checkpointed markerId (nodeName cfg)
    ("/tmp/snapshot-" ++ snapshotId ++ "-" ++ nodeName cfg ++ ".tar.zst") ok
    s.trace.reads s.trace.emitted.length s.trace.delivered.length)
  appPoint

-----------------------------------------------------------------------------------------
-- The artifact
-----------------------------------------------------------------------------------------

def encodeRecorded (recorded : Recorded) : ChannelMessage where
  seq := recorded.seq
  payloadB64 := Base64.encode recorded.held.payload
  srcPort := recorded.held.srcPort
  dstPort := recorded.held.dstPort
  targetLocalIp := recorded.held.localIp

/-- `sorted(set(recorded_send_seq) | set(recorded_recv_seq) | set(channel_states))` -/
def SnapshotController.artifactPeers (ctrl : SnapshotController) : List Ip :=
  (ctrl.recordedSendSeq.keys ++ ctrl.recordedRecvSeq.keys ++ ctrl.channelStates.keys).dedup
    |>.insertionSort (· ≤ ·)

def SnapshotController.peerArtifact (ctrl : SnapshotController) (peer : Ip) : PeerArtifact where
  sendSeq := ctrl.recordedSendSeq.get? peer
  recvSeq := ctrl.recordedRecvSeq.get? peer
  channel := ((ctrl.channelStates.get? peer).getD []).map encodeRecorded

/-- `current_snapshot_id.decode() if current_snapshot_id else None`; an empty id is falsy. -/
def artifactId (id : Option Bytes) : Py (Option String) :=
  match id with
  | none => pure none
  | some [] => pure none
  | some id => do
      let text ← decode id
      pure (some text)

/-- `_build_artifact` -/
def buildArtifact (cfg : Config) (status : Status) : Py Artifact := do
  let s ← read
  let snapshotId ← artifactId s.ctrl.currentSnapshotId
  pure {
    snapshotId
    node := nodeName cfg
    status
    peers := s.ctrl.artifactPeers.map (fun peer => (peer, s.ctrl.peerArtifact peer))
  }

/-- `_post_artifact`: the answer says whether the cut was stored. -/
def postArtifact (artifact : Artifact) : Py Bool := do
  let stored ← outsideAnswer
  logControl (.posted artifact stored)
  pure stored

-----------------------------------------------------------------------------------------
-- The end of a snapshot
-----------------------------------------------------------------------------------------

def sortRecorded (recorded : List Recorded) : List Recorded :=
  recorded.insertionSort (fun a b => a.seq ≤ b.seq)

/-- `_flush_and_reset`. `reenter` is `process_and_deliver`, which this function calls back. -/
def flushAndReset (reenter : Ip → Nat → Held → Py Unit) : Py Unit := do
  modifyCtrl fun c => { c with
    isSnapshotting := false
    currentSnapshotId := none
    snapshotDeadline := none
    recordingChannels := []
    recordedSendSeq := ∅
    recordedRecvSeq := ∅ }
  let s ← read
  forEach
    (fun (remoteIp, recordedState) => do
      modifyCtrl fun c => { c with
        channelStates := c.channelStates.set remoteIp (sortRecorded recordedState) }
      forEach (fun (msg : Recorded) => reenter remoteIp msg.seq msg.held)
        (sortRecorded recordedState))
    s.ctrl.channelStates.entries
  modifyCtrl fun c => { c with channelStates := ∅ }

/-- `_finish_global_snapshot` -/
def finishGlobalSnapshot (cfg : Config) (reenter : Ip → Nat → Held → Py Unit) : Py Unit := do
  let artifact ← buildArtifact cfg .complete
  let _ ← postArtifact artifact
  flushAndReset reenter

/-- `_abort_snapshot` -/
def abortSnapshot (cfg : Config) (reenter : Ip → Nat → Held → Py Unit) : Py Unit := do
  let artifact ← buildArtifact cfg .aborted
  let _ ← postArtifact artifact
  flushAndReset reenter

-----------------------------------------------------------------------------------------
-- `process_message`
-----------------------------------------------------------------------------------------

/-- The marker fan-out to one member, and its send-side cut coordinate. -/
def sendMarker (payload : Bytes) (peerIp : Ip) : Py Unit := do
  getPeer peerIp
  sendData peerIp ⟨0, 0, zeroIp, payload⟩ .marker
  update fun s => { s with
    ctrl := { s.ctrl with
      recordedSendSeq := s.ctrl.recordedSendSeq.set peerIp (s.peer peerIp).sendSeq } }

/-- `for ip in recording_channels: channel_states[ip] = []` -/
def openChannels (states : Dict Ip (List Recorded)) (channels : List Ip)
    : Dict Ip (List Recorded) :=
  channels.foldl (fun states ip => states.set ip []) states

/-- The channel that the first marker arrived on has an empty recorded state. -/
def closeOrigin (members : List Ip) (remoteIp : Ip) (seq : Nat) : Py Unit :=
  if remoteIp ∈ members then
    modifyCtrl fun c => { c with
      channelStates := c.channelStates.set remoteIp []
      recordedRecvSeq := c.recordedRecvSeq.set remoteIp (seq + 1) }
  else
    pure ()

/-- `if not self.recording_channels: self._finish_global_snapshot()` -/
def finishIfClosed (cfg : Config) (reenter : Ip → Nat → Held → Py Unit) : Py Unit := do
  let s ← read
  if s.ctrl.recordingChannels = [] then finishGlobalSnapshot cfg reenter else pure ()

/-- The members that the cut covers: all but this node itself, when it knows its address. -/
def cutMembers (cfg : Config) (selfIp : Option Ip) : List Ip :=
  cfg.meshMembers.filter (fun ip => some ip ≠ selfIp)

/-- The snapshot-start branch of `process_message`. -/
def startSnapshot (cfg : Config) (reenter : Ip → Nat → Held → Py Unit)
    (remoteIp : Ip) (seq : Nat) (payload markerId : Bytes) : Py Unit := do
  modifyCtrl fun c => { c with
    isSnapshotting := true
    currentSnapshotId := some markerId
    channelStates := ∅
    recordedSendSeq := ∅
    recordedRecvSeq := ∅ }
  let s ← read
  logControl (.began markerId s.trace.consumed.length)
  let selfIp ← selfMeshIp cfg
  modifyCtrl fun c => { c with
    recordingChannels := (cutMembers cfg selfIp).dedup.filter (fun ip => ip ≠ remoteIp) }
  drainIntercept cfg
  let snapshotId ← decode markerId
  triggerAppSnapshot cfg markerId snapshotId
  forEach (sendMarker payload) (cutMembers cfg selfIp)
  modifyCtrl fun c => { c with
    channelStates := openChannels c.channelStates c.recordingChannels }
  closeOrigin (cutMembers cfg selfIp) remoteIp seq
  let now ← time
  modifyCtrl fun c => { c with snapshotDeadline := some (now + snapshotTimeout) }
  finishIfClosed cfg reenter

/-- The marker branch of `process_message` while a snapshot is being recorded. -/
def receiveMarker (cfg : Config) (reenter : Ip → Nat → Held → Py Unit)
    (remoteIp : Ip) (seq : Nat) (markerId : Bytes) : Py Unit := do
  let s ← read
  if some markerId ≠ s.ctrl.currentSnapshotId then do
    let _ ← decode markerId  -- evaluated for the log line
    pure ()
  else if remoteIp ∈ s.ctrl.recordingChannels then do
    modifyCtrl fun c => { c with
      recordedRecvSeq := c.recordedRecvSeq.set remoteIp (seq + 1)
      recordingChannels := c.recordingChannels.filter (fun ip => ip ≠ remoteIp) }
    finishIfClosed cfg reenter
  else
    pure ()

/-- The marker branch of `process_message`. -/
def handleMarker (cfg : Config) (reenter : Ip → Nat → Held → Py Unit)
    (remoteIp : Ip) (seq : Nat) (payload markerId : Bytes) : Py Unit := do
  let s ← read
  logControl (.heard remoteIp seq markerId s.ctrl.currentSnapshotId)
  if s.ctrl.isSnapshotting then
    receiveMarker cfg reenter remoteIp seq markerId
  else
    startSnapshot cfg reenter remoteIp seq payload markerId

/-- `channel_states[remote_ip].append(message)` -/
def recordMessage (remoteIp : Ip) (seq : Nat) (held : Held) : Py Unit := do
  let s ← read
  match s.ctrl.channelStates.get? remoteIp with
  | none => raise .keyError
  | some recordedState =>
      modifyCtrl fun c => { c with
        channelStates := c.channelStates.set remoteIp (recordedState ++ [⟨seq, held⟩]) }

/-- `process_message`; the answer says whether the message is consumed. The first argument
is the number of nested calls still allowed: a flush that ends a snapshot calls
`process_and_deliver` again, and so this function.
-/
def processMessage (cfg : Config) : Nat → Ip → Nat → Held → Py Bool
  | 0, _, _, _ => raise .recursionError
  | depth + 1, remoteIp, seq, held =>
      let reenter (ip : Ip) (seq : Nat) (held : Held) : Py Unit := do
        let consumed ← processMessage cfg depth ip seq held
        if consumed then pure () else deliver ip seq held
      match markerId? held.payload with
      | some markerId => do
          handleMarker cfg reenter remoteIp seq held.payload markerId
          pure true
      | none => do
          let s ← read
          if s.ctrl.isSnapshotting ∧ remoteIp ∈ s.ctrl.recordingChannels then do
            recordMessage remoteIp seq held
            pure true
          else
            pure false

/-- Nested calls that CPython's default recursion limit leaves room for, four frames each. -/
def callDepth : Nat := 250

/-- `process_and_deliver` -/
def processAndDeliver (cfg : Config) (depth : Nat) (ip : Ip) (seq : Nat) (held : Held)
    : Py Unit := do
  let consumed ← processMessage cfg depth ip seq held
  if consumed then pure () else deliver ip seq held

/-- `check_timeout` -/
def checkTimeout (cfg : Config) : Py Unit := do
  let s ← read
  match s.ctrl.isSnapshotting, s.ctrl.snapshotDeadline with
  | true, some deadline => do
      let now ← time
      if deadline < now then
        abortSnapshot cfg (fun ip seq held => processAndDeliver cfg callDepth ip seq held)
      else
        pure ()
  | _, _ => pure ()

end MeshSnapshot
