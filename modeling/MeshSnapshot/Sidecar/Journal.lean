import MeshSnapshot.Model.Callbacks
import Mathlib.Logic.Relation

/-! A sidecar without its network: the snapshot state, the two sequence counters of every
peer, the intercept queue, and what has been done so far. The marker rules are stated on
this journal; the packets that carry them belong to the transport.
-/

namespace MeshSnapshot

-----------------------------------------------------------------------------------------
-- The journal
-----------------------------------------------------------------------------------------

@[ext]
structure Journal where
  ctrl : SnapshotController
  sendSeq : Ip → Nat
  recvSeq : Ip → Nat
  isServer : Bool
  /-- App datagrams that wait on the intercept socket. -/
  queue : List Datagram
  emitted : List Datagram
  reads : Nat
  sent : List SendCall
  consumed : List PeerPacket
  overtaking : List PeerPacket
  delivered : List PeerPacket
  control : List ControlEvent

def Sidecar.journal (s : Sidecar) : Journal where
  ctrl := s.ctrl
  sendSeq ip := (s.peer ip).sendSeq
  recvSeq ip := (s.peer ip).recvSeq
  isServer := s.isServer
  queue := s.localSock
  emitted := s.trace.emitted
  reads := s.trace.reads
  sent := s.trace.sent
  consumed := s.trace.consumed
  overtaking := s.trace.overtaking
  delivered := s.trace.delivered
  control := s.trace.control

theorem Sidecar.journal_ctrl (s : Sidecar) : s.journal.ctrl = s.ctrl := rfl

namespace Journal

/-- Journals that agree apart from the sequence counters, and on these too, are equal. -/
theorem eq_of_seqs {a b : Journal}
    (others : a = { b with sendSeq := a.sendSeq, recvSeq := a.recvSeq })
    (sendSeq : a.sendSeq = b.sendSeq) (recvSeq : a.recvSeq = b.recvSeq) : a = b := by
  rw [others, sendSeq, recvSeq]

def setCtrl (j : Journal) (ctrl : SnapshotController) : Journal := { j with ctrl }

def log (j : Journal) (event : ControlEvent) : Journal :=
  { j with control := j.control ++ [event] }

def emit (j : Journal) (datagrams : List Datagram) : Journal :=
  { j with queue := j.queue ++ datagrams, emitted := j.emitted ++ datagrams }

/-- Read one datagram, which leaves `rest` on the intercept socket. -/
def take (j : Journal) (rest : List Datagram) : Journal :=
  { j with queue := rest, reads := j.reads + 1 }

def send (j : Journal) (dst : Ip) (message : Message) (origin : SendOrigin) : Journal :=
  { j with
    sendSeq := Function.update j.sendSeq dst (j.sendSeq dst + 1)
    sent := j.sent ++ [⟨dst, message, origin, j.reads⟩] }

def deliver (j : Journal) (packet : PeerPacket) : Journal :=
  { j with delivered := j.delivered ++ [packet] }

/-- A packet is noted if it is about to overtake messages that are withheld. -/
def note (j : Journal) (packet : PeerPacket) : Journal :=
  { j with
    overtaking :=
      if markerId? packet.held.payload = none ∧ j.ctrl.withholds packet.peer then
        j.overtaking ++ [packet]
      else
        j.overtaking }

/-- The in-order stream of a peer moves past one packet. -/
def pass (j : Journal) (packet : PeerPacket) : Journal :=
  { j with
    recvSeq := Function.update j.recvSeq packet.peer (j.recvSeq packet.peer + 1)
    consumed := j.consumed ++ [packet] }

end Journal

-----------------------------------------------------------------------------------------
-- Reading the intercept socket
-----------------------------------------------------------------------------------------

/-- The RUDP message that forwarding a datagram sends, if forwarding it sends one. -/
def rudpRoute (cfg : Config) (isServer : Bool) (datagram : Datagram) : Option (Ip × Message) :=
  match datagram.ancdata.find? (fun cmsg => cmsg.level == 0 && cmsg.type == 20) with
  | none => none
  | some cmsg =>
      let port := (cmsg.data.drop 2).take 2
      let ip := (cmsg.data.drop 4).take 4
      if port.length = 2 ∧ ip.length = 4 ∧ ofBigEndian port ≠ 0 ∧ inMeshNetwork ip
          ∧ isServer ∧ inetNtoa ip ∈ cfg.meshMembers then
        some (inetNtoa ip, ⟨datagram.addr.2, ofBigEndian port, ip, datagram.data⟩)
      else
        none

/-- What forwarding reads off a datagram. -/
theorem rudpRoute_message {cfg : Config} {isServer : Bool} {datagram : Datagram}
    {target : Ip} {message : Message} (routed : rudpRoute cfg isServer datagram = some (target, message))
    : message.payload = datagram.data ∧ message.srcPort = datagram.addr.2
      ∧ message.held.localIp = target := by
  unfold rudpRoute at routed
  split at routed
  · cases routed
  case h_2 cmsg found =>
    dsimp only at routed
    split at routed
    case isFalse => cases routed
    case isTrue fits =>
      obtain ⟨rfl, rfl⟩ := Prod.mk.inj (Option.some.inj routed)
      have whole : fourBytes ((cmsg.data.drop 4).take 4) = (cmsg.data.drop 4).take 4 := by
        have length := fits.2.1
        generalize (cmsg.data.drop 4).take 4 = ip at length ⊢
        rw [fourBytes, List.take_append_of_le_length (Nat.le_of_eq length.symm), ← length,
          List.take_length]
      exact ⟨rfl, rfl, congrArg inetNtoa whole⟩

/-- Forwarding a datagram, as far as the journal shows it. -/
def Journal.forward (cfg : Config) (j : Journal) (datagram : Datagram) : Journal :=
  match rudpRoute cfg j.isServer datagram with
  | some (dst, message) => j.send dst message .forwarded
  | none => j

/-- What the app and `drain_intercept` do to a journal: emissions, and forwarded reads. -/
inductive Journal.DrainStep (cfg : Config) : Journal → Journal → Prop where
  | emit (j : Journal) (datagrams : List Datagram) : DrainStep cfg j (j.emit datagrams)
  | forward {j : Journal} {datagram : Datagram} {rest : List Datagram}
    (queued : j.queue = datagram :: rest)
    : DrainStep cfg j ((j.take rest).forward cfg datagram)

abbrev Journal.Drains (cfg : Config) : Journal → Journal → Prop :=
  Relation.ReflTransGen (Journal.DrainStep cfg)

/-- Two journals that differ in sending and in the intercept socket only. -/
structure Journal.SameReceipt (j j' : Journal) : Prop where
  ctrl : j'.ctrl = j.ctrl
  recvSeq : j'.recvSeq = j.recvSeq
  isServer : j'.isServer = j.isServer
  consumed : j'.consumed = j.consumed
  overtaking : j'.overtaking = j.overtaking
  delivered : j'.delivered = j.delivered
  control : j'.control = j.control

theorem Journal.SameReceipt.refl (j : Journal) : j.SameReceipt j :=
  ⟨rfl, rfl, rfl, rfl, rfl, rfl, rfl⟩

theorem Journal.SameReceipt.trans {a b c : Journal} (first : a.SameReceipt b)
    (second : b.SameReceipt c)
    : a.SameReceipt c where
  ctrl := second.ctrl.trans first.ctrl
  recvSeq := second.recvSeq.trans first.recvSeq
  isServer := second.isServer.trans first.isServer
  consumed := second.consumed.trans first.consumed
  overtaking := second.overtaking.trans first.overtaking
  delivered := second.delivered.trans first.delivered
  control := second.control.trans first.control

theorem Journal.sameReceipt_forward (cfg : Config) (j : Journal) (datagram : Datagram)
    : j.SameReceipt (j.forward cfg datagram) := by
  unfold Journal.forward
  split <;> exact ⟨rfl, rfl, rfl, rfl, rfl, rfl, rfl⟩

theorem Journal.DrainStep.sameReceipt {cfg : Config} {j j' : Journal}
    (step : Journal.DrainStep cfg j j') : j.SameReceipt j' := by
  cases step with
  | emit => exact ⟨rfl, rfl, rfl, rfl, rfl, rfl, rfl⟩
  | forward =>
      obtain ⟨ctrl, recvSeq, isServer, consumed, overtaking, delivered, control⟩ :=
        Journal.sameReceipt_forward ..
      exact ⟨ctrl, recvSeq, isServer, consumed, overtaking, delivered, control⟩

theorem Journal.Drains.sameReceipt {cfg : Config} {j j' : Journal}
    (drains : Journal.Drains cfg j j') : j.SameReceipt j' := by
  induction drains with
  | refl => exact .refl j
  | tail _ step ih => exact ih.trans step.sameReceipt

-----------------------------------------------------------------------------------------
-- Ending a snapshot
-----------------------------------------------------------------------------------------

/-- The id as the artifact shows it; `none` when it is not valid UTF-8. -/
def snapshotName : Option Bytes → Option (Option String)
  | none => some none
  | some [] => some none
  | some id => (decode? id).map some

/-- The artifact that `_build_artifact` returns, unless the id is not valid UTF-8. -/
def SnapshotController.artifact? (ctrl : SnapshotController) (cfg : Config) (status : Status)
    : Option Artifact :=
  (snapshotName ctrl.currentSnapshotId).map fun snapshotId => {
    snapshotId
    node := nodeName cfg
    status
    peers := ctrl.artifactPeers.map (fun peer => (peer, ctrl.peerArtifact peer))
  }

/-- Recorded messages are no markers. -/
def SnapshotController.RecordsPlain (ctrl : SnapshotController) : Prop :=
  ∀ ⦃ip recorded message⦄,
    ctrl.channelStates.get? ip = some recorded → message ∈ recorded
    → markerId? message.held.payload = none

/-- The recorded messages, in the order in which a flush replays them. -/
def SnapshotController.replayed (ctrl : SnapshotController) : List PeerPacket :=
  ctrl.channelStates.entries.flatMap fun entry =>
    (sortRecorded entry.2).map fun recorded => ⟨entry.1, recorded.seq, recorded.held⟩

/-- `_flush_and_reset`, for recorded messages that are no markers. -/
def Journal.flush (j : Journal) : Journal :=
  { j with
    ctrl := { selfIpCache := j.ctrl.selfIpCache }
    delivered := j.delivered ++ j.ctrl.replayed }

/-- `_finish_global_snapshot` or `_abort_snapshot`. -/
def Journal.Ends (cfg : Config) (status : Status) (j j' : Journal) : Prop :=
  ∃ artifact stored,
    j.ctrl.artifact? cfg status = some artifact
    ∧ j' = (j.log (.posted artifact stored)).flush

/-- A snapshot whose channels are all closed ends at once. -/
def Journal.Settles (cfg : Config) (j j' : Journal) : Prop :=
  if j.ctrl.recordingChannels = [] then j.Ends cfg .complete j' else j' = j

theorem Journal.settles_closed {cfg : Config} {j j' : Journal}
    (closed : j.ctrl.recordingChannels = []) : j.Settles cfg j' ↔ j.Ends cfg .complete j' := by
  rw [Settles, if_pos closed]

theorem Journal.settles_open {cfg : Config} {j j' : Journal}
    (opened : j.ctrl.recordingChannels ≠ []) : j.Settles cfg j' ↔ j' = j := by
  rw [Settles, if_neg opened]

-----------------------------------------------------------------------------------------
-- Beginning a snapshot
-----------------------------------------------------------------------------------------

/-- The answer of `_self_mesh_ip` and the cached address behind it. -/
inductive Detects (cfg : Config) (cache : Option Ip) : Option Ip → Option Ip → Prop where
  | override {ip : Ip} (set : cfg.meshSelf.filter (· ≠ "") = some ip)
    : Detects cfg cache (some ip) cache
  | cached {ip : Ip} (known : cache = some ip) : Detects cfg cache (some ip) cache
  | route : Detects cfg cache (some cfg.address) (some cfg.address)
  | failed : Detects cfg cache none cache

namespace Journal

/-- The head of the snapshot-start branch. -/
def reset (j : Journal) (id : Bytes) : Journal :=
  (j.setCtrl { j.ctrl with
    isSnapshotting := true
    currentSnapshotId := some id
    channelStates := ∅
    recordedSendSeq := ∅
    recordedRecvSeq := ∅ }).log (.began id j.consumed.length)

def watch (j : Journal) (cache : Option Ip) (channels : List Ip) : Journal :=
  j.setCtrl { j.ctrl with selfIpCache := cache, recordingChannels := channels }

def sendMarker (payload : Bytes) (j : Journal) (ip : Ip) : Journal :=
  (j.send ip ⟨0, 0, zeroIp, payload⟩ .marker).setCtrl { j.ctrl with
    recordedSendSeq := j.ctrl.recordedSendSeq.set ip (j.sendSeq ip + 1) }

def sendMarkers (j : Journal) (payload : Bytes) (members : List Ip) : Journal :=
  members.foldl (sendMarker payload) j

/-- The tail of the snapshot-start branch: open every channel, but for the origin's. -/
def openAll (j : Journal) (members : List Ip) (origin : Ip) (seq : Nat) (deadline : Int)
    : Journal :=
  let states := openChannels j.ctrl.channelStates j.ctrl.recordingChannels
  j.setCtrl { j.ctrl with
    channelStates := if origin ∈ members then states.set origin [] else states
    recordedRecvSeq :=
      if origin ∈ members then j.ctrl.recordedRecvSeq.set origin (seq + 1)
      else j.ctrl.recordedRecvSeq
    snapshotDeadline := some deadline }

end Journal

/-- The snapshot-start branch of `process_message`, with the app active around it. -/
inductive Journal.Begins (cfg : Config) (origin : Ip) (seq : Nat) (payload id : Bytes)
    (j j' : Journal) : Prop where
  | mk (selfIp cache : Option Ip) (drained frozen rest : Journal) (late later : List Datagram)
    (target exportPath : String) (ok : Bool) (deadline : Int)
    (detected : Detects cfg j.ctrl.selfIpCache selfIp cache)
    (drains
      : Journal.Drains cfg
          ((j.reset id).watch cache
            ((cutMembers cfg selfIp).dedup.filter (fun ip => ip ≠ origin))) drained)
    (empty : drained.queue = [])
    (freezes : frozen = drained.emit late)
    (thaws
      : rest = (frozen.log (.checkpointed id target exportPath ok frozen.reads
          frozen.emitted.length frozen.delivered.length)).emit later)
    (settles
      : ((rest.sendMarkers payload (cutMembers cfg selfIp)).openAll (cutMembers cfg selfIp)
          origin seq deadline).Settles cfg j')

-----------------------------------------------------------------------------------------
-- `process_and_deliver`
-----------------------------------------------------------------------------------------

/-- `channel_states[peer].append(message)` -/
def Journal.record (j : Journal) (packet : PeerPacket) (recorded : List Recorded) : Journal :=
  j.setCtrl { j.ctrl with
    channelStates :=
      j.ctrl.channelStates.set packet.peer (recorded ++ [⟨packet.seq, packet.held⟩]) }

/-- The marker of an open channel closes it. -/
def Journal.close (j : Journal) (peer : Ip) (seq : Nat) : Journal :=
  j.setCtrl { j.ctrl with
    recordedRecvSeq := j.ctrl.recordedRecvSeq.set peer (seq + 1)
    recordingChannels := j.ctrl.recordingChannels.filter (fun ip => ip ≠ peer) }

/-- The marker branch of `process_message`, in its four outcomes. -/
inductive Journal.Hears (cfg : Config) (peer : Ip) (seq : Nat) (payload id : Bytes)
    (j j' : Journal) : Prop where
  | begins (idle : j.ctrl.isSnapshotting = false)
    (begun
      : (j.log (.heard peer seq id j.ctrl.currentSnapshotId)).Begins cfg peer seq payload id j')
  | discards (recording : j.ctrl.isSnapshotting = true)
    (other : some id ≠ j.ctrl.currentSnapshotId)
    (unchanged : j' = j.log (.heard peer seq id j.ctrl.currentSnapshotId))
  | ignores (recording : j.ctrl.isSnapshotting = true)
    (same : some id = j.ctrl.currentSnapshotId) (closed : peer ∉ j.ctrl.recordingChannels)
    (unchanged : j' = j.log (.heard peer seq id j.ctrl.currentSnapshotId))
  | closes (recording : j.ctrl.isSnapshotting = true)
    (same : some id = j.ctrl.currentSnapshotId) (found : peer ∈ j.ctrl.recordingChannels)
    (settles
      : ((j.log (.heard peer seq id j.ctrl.currentSnapshotId)).close peer seq).Settles cfg j')

/-- `process_and_deliver`, in its three outcomes. -/
inductive Journal.Processes (cfg : Config) (packet : PeerPacket) (j j' : Journal) : Prop where
  | marker (id : Bytes) (isMarker : markerId? packet.held.payload = some id)
    (hears : j.Hears cfg packet.peer packet.seq packet.held.payload id j')
  | records (plain : markerId? packet.held.payload = none)
    (recording : j.ctrl.isSnapshotting = true) (found : packet.peer ∈ j.ctrl.recordingChannels)
    (recorded : List Recorded) (state : j.ctrl.channelStates.get? packet.peer = some recorded)
    (appended : j' = j.record packet recorded)
  | delivers (plain : markerId? packet.held.payload = none)
    (passes : ¬ (j.ctrl.isSnapshotting = true ∧ packet.peer ∈ j.ctrl.recordingChannels))
    (delivered : j' = j.deliver packet)

-----------------------------------------------------------------------------------------
-- Moves
-----------------------------------------------------------------------------------------

/-- Everything a callback does to a journal is a sequence of these moves. -/
inductive Journal.Move (cfg : Config) : Journal → Journal → Prop where
  | emit (j : Journal) (datagrams : List Datagram) : Move cfg j (j.emit datagrams)
  | forward {j : Journal} {datagram : Datagram} {rest : List Datagram}
    (queued : j.queue = datagram :: rest)
    (plain : startPrefix.isPrefixOf datagram.data = false)
    : Move cfg j ((j.take rest).forward cfg datagram)
  | command {j j' : Journal} {datagram : Datagram} {rest : List Datagram}
    (queued : j.queue = datagram :: rest)
    (isStart : startPrefix.isPrefixOf datagram.data = true) (id : Bytes)
    (hears
      : ((j.take rest).log (.start id)).Hears cfg loopback 0 (markerPrefix ++ id) id j')
    (named : ∀ given, datagram.data = startPrefix ++ 58 :: given → id = given)
    : Move cfg j j'
  | send (j : Journal) (dst : Ip) (message : Message) : Move cfg j (j.send dst message .direct)
  | pass {j j' : Journal} {packet : PeerPacket} (next : packet.seq = j.recvSeq packet.peer)
    (processes : (j.note packet).Processes cfg packet j')
    : Move cfg j (j'.pass packet)
  | abort {j j' : Journal} (recording : j.ctrl.isSnapshotting = true)
    (ends : j.Ends cfg .aborted j')
    : Move cfg j j'

abbrev Journal.Moves (cfg : Config) : Journal → Journal → Prop :=
  Relation.ReflTransGen (Journal.Move cfg)

end MeshSnapshot
