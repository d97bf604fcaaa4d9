import MeshSnapshot.Sidecar.Journal

/-! What the snapshot-start branch leaves behind: the markers are the last messages it has
sent, every channel of the cut is open and empty, and the origin's channel is closed.
-/

namespace MeshSnapshot

-----------------------------------------------------------------------------------------
-- The marker fan-out
-----------------------------------------------------------------------------------------

/-- The call that sends a marker. -/
def markerCall (payload : Bytes) (reads : Nat) (ip : Ip) : SendCall :=
  ⟨ip, ⟨0, 0, zeroIp, payload⟩, .marker, reads⟩

namespace Journal

variable {cfg : Config} {j j' : Journal}

/-- What the marker fan-out changes, and nothing else. -/
structure Marked (payload : Bytes) (members : List Ip) (j j' : Journal) : Prop where
  sent : j'.sent = j.sent ++ members.map (markerCall payload j.reads)
  sendSeq : ∀ ip, j'.sendSeq ip = j.sendSeq ip + members.count ip
  recordedSendSeq
    : ∀ ip,
        j'.ctrl.recordedSendSeq.get? ip
          = if ip ∈ members then some (j'.sendSeq ip) else j.ctrl.recordedSendSeq.get? ip
  rest
    : ∃ sendSeq sent recordedSendSeq,
        j' = { j with sendSeq, sent, ctrl := { j.ctrl with recordedSendSeq } }

theorem marked_sendMarkers (j : Journal) (payload : Bytes) (members : List Ip)
    : Marked payload members j (j.sendMarkers payload members) := by
  unfold sendMarkers
  induction members generalizing j with
  | nil =>
      exact ⟨by simp, by simp, by simp, j.sendSeq, j.sent, j.ctrl.recordedSendSeq, rfl⟩
  | cons ip rest ih =>
      obtain ⟨sent, sendSeq, recordedSendSeq, others⟩ := ih (j.sendMarker payload ip)
      refine ⟨?_, fun other => ?_, fun other => ?_, others⟩
      · rw [List.foldl_cons, sent]
        simp [sendMarker, send, setCtrl, markerCall]
      · rw [List.foldl_cons, sendSeq, List.count_cons]
        by_cases here : other = ip
        · subst here
          simp [sendMarker, send, setCtrl]
          omega
        · simp [sendMarker, send, setCtrl, here, Ne.symm here]
      · rw [List.foldl_cons, recordedSendSeq]
        by_cases again : other ∈ rest
        · simp [again]
        · by_cases here : other = ip
          · subst here
            rw [sendSeq, List.count_eq_zero_of_not_mem again]
            simp [again, sendMarker, send, setCtrl]
          · simp [again, here, sendMarker, setCtrl]

-----------------------------------------------------------------------------------------
-- The opened channels
-----------------------------------------------------------------------------------------

/-- Freshly opened channels have recorded nothing. -/
theorem openChannels_get? {states : Dict Ip (List Recorded)} {channels : List Ip} {ip : Ip}
    : (openChannels states channels).get? ip
      = if ip ∈ channels then some [] else states.get? ip := by
  unfold openChannels
  induction channels generalizing states with
  | nil => simp
  | cons channel rest ih =>
      rw [List.foldl_cons, ih]
      by_cases inRest : ip ∈ rest <;> by_cases here : ip = channel <;> simp [inRest, here]

/-- The snapshot-start branch up to its last test, after draining to `drained`. -/
structure Opened (members : List Ip) (cache : Option Ip) (origin : Ip) (seq : Nat)
    (payload id : Bytes) (j drained opened : Journal) : Prop where
  isSnapshotting : opened.ctrl.isSnapshotting = true
  currentSnapshotId : opened.ctrl.currentSnapshotId = some id
  recordingChannels
    : opened.ctrl.recordingChannels = members.dedup.filter (fun ip => ip ≠ origin)
  channelStates
    : ∀ ip, opened.ctrl.channelStates.get? ip = if ip ∈ members then some [] else none
  recordedSendSeq
    : ∀ ip,
        opened.ctrl.recordedSendSeq.get? ip
          = if ip ∈ members then some (opened.sendSeq ip) else none
  recordedRecvSeq
    : ∀ ip,
        opened.ctrl.recordedRecvSeq.get? ip
          = if ip = origin ∧ ip ∈ members then some (seq + 1) else none
  selfIpCache : opened.ctrl.selfIpCache = cache
  isServer : opened.isServer = j.isServer
  recvSeq : opened.recvSeq = j.recvSeq
  consumed : opened.consumed = j.consumed
  overtaking : opened.overtaking = j.overtaking
  delivered : opened.delivered = j.delivered
  sent : opened.sent = drained.sent ++ members.map (markerCall payload drained.reads)
  sendSeq : ∀ ip, opened.sendSeq ip = drained.sendSeq ip + members.count ip
  reads : opened.reads = drained.reads
  emissions
    : ∃ late later target exportPath ok,
        opened.emitted = drained.emitted ++ late ++ later
        ∧ opened.queue = late ++ later
        ∧ opened.control
          = j.control
            ++ [.began id j.consumed.length,
              .checkpointed id target exportPath ok drained.reads
                (drained.emitted ++ late).length j.delivered.length]

/-- The channels of the cut are open and empty, where none was before. -/
theorem openAll_channelStates {members : List Ip} {origin : Ip} (seq : Nat) (deadline : Int)
    (none : j.ctrl.channelStates = ∅)
    (channels : j.ctrl.recordingChannels = members.dedup.filter (fun ip => ip ≠ origin)) (ip : Ip)
    : (j.openAll members origin seq deadline).ctrl.channelStates.get? ip
      = if ip ∈ members then some [] else Option.none := by
  simp only [openAll, setCtrl, none, channels]
  by_cases member : origin ∈ members
  · simp only [if_pos member, Dict.get?_set, openChannels_get?, Dict.get?_empty]
    by_cases here : ip = origin
    · simp [here, member]
    · simp [here]
  · simp only [if_neg member, openChannels_get?, Dict.get?_empty]
    by_cases here : ip = origin
    · simp [here, member]
    · simp [here]

/-- The origin's marker is the end of its channel. -/
theorem openAll_recordedRecvSeq {members : List Ip} {origin : Ip} (seq : Nat) (deadline : Int)
    (none : j.ctrl.recordedRecvSeq = ∅) (ip : Ip)
    : (j.openAll members origin seq deadline).ctrl.recordedRecvSeq.get? ip
      = if ip = origin ∧ ip ∈ members then some (seq + 1) else Option.none := by
  simp only [openAll, setCtrl, none]
  by_cases member : origin ∈ members
  · by_cases here : ip = origin <;> simp [here, member]
  · by_cases here : ip = origin <;> simp [here, member]

/-- The marker fan-out and the opening of the channels change the snapshot and what is sent only. -/
theorem openAll_sendMarkers (rest : Journal) (payload : Bytes) (members : List Ip) (origin : Ip)
    (seq : Nat) (deadline : Int)
    : ∃ sendSeq sent ctrl,
        (rest.sendMarkers payload members).openAll members origin seq deadline
          = { rest with sendSeq, sent, ctrl } := by
  obtain ⟨sendSeq, sent, recordedSendSeq, marking⟩ := (marked_sendMarkers rest payload members).rest
  rw [openAll, marking]
  exact ⟨sendSeq, sent, _, rfl⟩

/-- What the app emits before and after the image is taken, and the entry about the image. -/
theorem thaws_eq {id : Bytes} {drained frozen rest : Journal} {late later : List Datagram}
    {target exportPath : String} {ok : Bool} (empty : drained.queue = [])
    (freezes : frozen = drained.emit late)
    (thaws
      : rest = (frozen.log (.checkpointed id target exportPath ok frozen.reads
          frozen.emitted.length frozen.delivered.length)).emit later)
    : rest = { drained with
        queue := late ++ later
        emitted := drained.emitted ++ late ++ later
        control := drained.control ++ [.checkpointed id target exportPath ok drained.reads
          (drained.emitted ++ late).length drained.delivered.length] } := by
  simp [thaws, freezes, log, emit, empty]

theorem opened_openAll {selfIp cache : Option Ip} {origin : Ip} {seq : Nat} {payload id : Bytes}
    {drained frozen rest : Journal} {late later : List Datagram} {target exportPath : String}
    {ok : Bool} (deadline : Int)
    (drains
      : Drains cfg
          ((j.reset id).watch cache
            ((cutMembers cfg selfIp).dedup.filter (fun ip => ip ≠ origin))) drained)
    (empty : drained.queue = [])
    (freezes : frozen = drained.emit late)
    (thaws
      : rest = (frozen.log (.checkpointed id target exportPath ok frozen.reads
          frozen.emitted.length frozen.delivered.length)).emit later)
    : Opened (cutMembers cfg selfIp) cache origin seq payload id j drained
        ((rest.sendMarkers payload (cutMembers cfg selfIp)).openAll (cutMembers cfg selfIp)
          origin seq deadline) := by
  generalize cutMembers cfg selfIp = members at *
  have receipt := drains.sameReceipt
  have marked := marked_sendMarkers rest payload members
  have before := thaws_eq empty freezes thaws
  obtain ⟨sendSeq, sent, ctrl, same⟩ :=
    openAll_sendMarkers rest payload members origin seq deadline
  have marking : ∃ recordedSendSeq, (rest.sendMarkers payload members).ctrl
      = { ((j.reset id).watch cache (members.dedup.filter (fun ip => ip ≠ origin))).ctrl with
          recordedSendSeq } := by
    obtain ⟨_, _, recordedSendSeq, marking⟩ := marked.rest
    exact ⟨recordedSendSeq, by rw [marking, before, ← receipt.ctrl]⟩
  obtain ⟨recordedSendSeq, marking⟩ := marking
  constructor
  case isSnapshotting | currentSnapshotId | recordingChannels | selfIpCache =>
    simp [openAll, marking, setCtrl, watch, reset, log]
  case channelStates =>
    exact openAll_channelStates seq deadline (by rw [marking]; rfl) (by rw [marking]; rfl)
  case recordedRecvSeq => exact openAll_recordedRecvSeq seq deadline (by rw [marking]; rfl)
  case recordedSendSeq =>
    intro ip
    have unmarked : rest.ctrl.recordedSendSeq = ∅ := by
      rw [before, receipt.ctrl]
      rfl
    simpa [openAll, setCtrl, unmarked] using marked.recordedSendSeq ip
  case isServer =>
    rw [same, before]
    exact receipt.isServer
  case recvSeq =>
    rw [same, before]
    exact receipt.recvSeq
  case consumed =>
    rw [same, before]
    exact receipt.consumed
  case overtaking =>
    rw [same, before]
    exact receipt.overtaking
  case delivered =>
    rw [same, before]
    exact receipt.delivered
  case sent =>
    simp only [openAll, setCtrl, marked.sent]
    simp [before]
  case sendSeq =>
    intro ip
    simp only [openAll, setCtrl, marked.sendSeq]
    simp [before]
  case reads => rw [same, before]
  case emissions =>
    refine ⟨late, later, target, exportPath, ok, by rw [same, before], by rw [same, before], ?_⟩
    rw [same, before, receipt.delivered]
    simp [receipt.control, setCtrl, watch, reset, log]

/-- The marker fan-out and the opening of the channels log nothing. -/
theorem control_openAll {rest : Journal} {payload : Bytes} {members : List Ip} {origin : Ip}
    {seq : Nat} {deadline : Int}
    : ((rest.sendMarkers payload members).openAll members origin seq deadline).control
      = rest.control := by
  obtain ⟨sendSeq, sent, ctrl, same⟩ :=
    openAll_sendMarkers rest payload members origin seq deadline
  rw [same]

/-- A channel that has just been opened records nothing, in particular no marker. -/
theorem Opened.recordsPlain {members : List Ip} {cache : Option Ip} {origin : Ip} {seq : Nat}
    {payload id : Bytes} {drained opened : Journal}
    (opens : Opened members cache origin seq payload id j drained opened)
    : opened.ctrl.RecordsPlain := by
  intro ip recorded message found member
  rw [opens.channelStates] at found
  split at found
  · obtain rfl := Option.some.inj found
    cases member
  · cases found

/-- A begin opens the channels of its cut, and settles at once if there are none to wait for. -/
theorem Begins.opened {origin : Ip} {seq : Nat} {payload id : Bytes}
    (begins : j.Begins cfg origin seq payload id j')
    : ∃ selfIp cache drained opened,
        Detects cfg j.ctrl.selfIpCache selfIp cache
        ∧ Drains cfg
            ((j.reset id).watch cache
              ((cutMembers cfg selfIp).dedup.filter (fun ip => ip ≠ origin))) drained
        ∧ drained.queue = []
        ∧ Opened (cutMembers cfg selfIp) cache origin seq payload id j drained opened
        ∧ opened.Settles cfg j' := by
  obtain ⟨selfIp, cache, drained, frozen, rest, late, later, target, exportPath, ok, deadline,
    detected, drains, empty, freezes, thaws, settles⟩ := begins
  exact ⟨selfIp, cache, drained, _, detected, drains, empty,
    opened_openAll deadline drains empty freezes thaws, settles⟩

end Journal

end MeshSnapshot
