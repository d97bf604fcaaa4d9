import MeshSnapshot.Model.Controller

/-! The event-loop callbacks of one sidecar: tunnel datagrams, the intercept socket, and one
round of the retransmit loop. Between two callbacks the app and the host may do anything.
-/

namespace MeshSnapshot

open Procedure

-----------------------------------------------------------------------------------------
-- `TunnelProtocol.datagram_received`
-----------------------------------------------------------------------------------------

/-- The channel of `ip` is closed, and messages recorded on it still wait for the flush. -/
def SnapshotController.withholds (ctrl : SnapshotController) (ip : Ip) : Bool :=
  ctrl.isSnapshotting && !ctrl.recordingChannels.contains ip
    && ((ctrl.channelStates.get? ip).getD []) ≠ []

def Sidecar.logOvertaking (s : Sidecar) (packet : PeerPacket) : Sidecar :=
  if markerId? packet.held.payload = none ∧ s.ctrl.withholds packet.peer then
    { s with trace := { s.trace with overtaking := s.trace.overtaking ++ [packet] } }
  else
    s

def Sidecar.logConsumed (s : Sidecar) (packet : PeerPacket) : Sidecar :=
  { s with trace := { s.trace with consumed := s.trace.consumed ++ [packet] } }

/-- Deliver the packet at the head of a peer's stream, then `recv_seq += 1`. -/
def passPacket (cfg : Config) (ip : Ip) (held : Held) : Py Unit := do
  let s ← read
  update fun s => s.logOvertaking ⟨ip, (s.peer ip).recvSeq, held⟩
  processAndDeliver cfg callDepth ip (s.peer ip).recvSeq held
  update fun s => s.logConsumed ⟨ip, (s.peer ip).recvSeq, held⟩
  modifyPeer ip fun peer => { peer with recvSeq := peer.recvSeq + 1 }

/-- `while peer.recv_seq in peer.recv_buffer`. Every iteration pops one entry, so the size of
the buffer bounds the iterations.
-/
def flushBuffer (cfg : Config) (ip : Ip) : Nat → Py Unit
  | 0 => pure ()
  | fuel + 1 => do
      let s ← read
      match (s.peer ip).recvBuffer.get? (s.peer ip).recvSeq with
      | none => pure ()
      | some held => do
          modifyPeer ip fun peer => { peer with
            recvBuffer := peer.recvBuffer.erase peer.recvSeq }
          passPacket cfg ip held
          flushBuffer cfg ip fuel

/-- The Type-0 branch of `datagram_received`. -/
def dataReceived (cfg : Config) (remoteIp : Ip) (seq : Nat) (held : Held) : Py Unit := do
  tunnelSendto (packAck seq) remoteIp
  let s ← read
  if seq = (s.peer remoteIp).recvSeq then do
    passPacket cfg remoteIp held
    let s ← read
    flushBuffer cfg remoteIp (s.peer remoteIp).recvBuffer.size
  else if (s.peer remoteIp).recvSeq < seq then
    modifyPeer remoteIp fun peer => { peer with
      recvBuffer := peer.recvBuffer.set seq held }
  else
    pure ()

/-- The Type-2 branch of `datagram_received`. -/
def plainReceived (remoteIp : Ip) (held : Held) : Py Unit := do
  let sock ← getSpoofSock (remoteIp, held.srcPort)
  spoofSendto sock held.payload (held.localIp, held.dstPort)

/-- The Type-1 branch of `datagram_received`. -/
def ackReceived (remoteIp : Ip) (seq : Nat) : Py Unit :=
  modifyPeer remoteIp fun peer => { peer with unacked := peer.unacked.erase seq }

def datagramReceived (cfg : Config) (packet : Bytes) (remoteIp : Ip) : Py Unit := do
  getPeer remoteIp
  match parseFrame packet with
  | .data seq held => dataReceived cfg remoteIp seq held
  | .plain held => plainReceived remoteIp held
  | .ack seq => ackReceived remoteIp seq
  | .ignored => pure ()

-----------------------------------------------------------------------------------------
-- `MeshProxy._handle_local_intercept`
-----------------------------------------------------------------------------------------

/-- The id of a START command, drawn freshly when the command carries none. -/
def startId (data : Bytes) : Py Bytes :=
  if (startPrefix ++ [58]).isPrefixOf data then
    pure (data.drop (startPrefix.length + 1))
  else
    uuid4

/-- A START command: the local node takes part as if it had received a marker. -/
def handleStart (cfg : Config) (data : Bytes) : Py Unit := do
  let id ← startId data
  logControl (.start id)
  let _ ← processMessage cfg callDepth loopback 0
    { payload := markerPrefix ++ id, srcPort := 0, dstPort := 0, localIp := loopback }

def handleDatagram (cfg : Config) (datagram : Datagram) : Py Unit :=
  if startPrefix.isPrefixOf datagram.data then
    handleStart cfg datagram.data
  else
    forwardIntercepted cfg datagram

/-- The receive loop, bounded as the one of `drain_intercept`. -/
def handleLoop (cfg : Config) : Nat → Py Unit
  | 0 => pure ()
  | fuel + 1 => do
      let received ← recvmsg
      match received with
      | none => pure ()
      | some datagram => do
          handleDatagram cfg datagram
          handleLoop cfg fuel

def handleLocalIntercept (cfg : Config) : Py Unit := do
  let s ← read
  handleLoop cfg (s.pending + 1)

-----------------------------------------------------------------------------------------
-- `MeshProxy._retransmit_loop`
-----------------------------------------------------------------------------------------

/-- Send one unacknowledged packet again once it is older than `RETRY_TIMEOUT`. -/
def retransmit (now : Int) (ip : Ip) (seq : Nat) (sentAt : Int) (packet : Bytes) : Py Unit := do
  let s ← read
  if retryTimeout < now - sentAt ∧ s.tunnelTransport then do
    tunnelSendto packet ip
    modifyPeer ip fun peer => { peer with unacked := peer.unacked.set seq (now, packet) }
  else
    pure ()

/-- One round of the loop body. -/
def retransmitRound (cfg : Config) : Py Unit := do
  let now ← time
  checkTimeout cfg
  let s ← read
  forEach
    (fun (ip, peer) =>
      forEach (fun (seq, sentAt, packet) => retransmit now ip seq sentAt packet)
        peer.unacked.entries)
    s.peers.entries

-----------------------------------------------------------------------------------------
-- Callbacks
-----------------------------------------------------------------------------------------

inductive Callback where
  /-- The app queues datagrams on the intercept socket while the sidecar is idle. -/
  | emit (datagrams : List Datagram)
  /-- A `send_data` call with these arguments. -/
  | send (dst : Ip) (message : Message)
  | intercept
  | received (packet : Bytes) (src : Ip)
  | retransmit

def Callback.run (cfg : Config) : Callback → Py Unit
  | .emit datagrams => update fun s => s.emit datagrams
  | .send dst message => do
      getPeer dst
      sendData dst message .direct
  | .intercept => handleLocalIntercept cfg
  | .received packet src => datagramReceived cfg packet src
  | .retransmit => retransmitRound cfg

/-- The calls through which a callback reaches the snapshot controller. -/
inductive ControllerEvent where
  /-- A START command is read. -/
  | start (data : Bytes)
  /-- A marker or a message comes, from any address. -/
  | arrival (packet : PeerPacket)
  | tick

def ControllerEvent.run (cfg : Config) : ControllerEvent → Py Unit
  | .start data => handleStart cfg data
  | .arrival packet => processAndDeliver cfg callDepth packet.peer packet.seq packet.held
  | .tick => checkTimeout cfg

/-- A callback runs to its normal end, with the host behaving as `host` while it runs. -/
def Sidecar.call (cfg : Config) (s : Sidecar) (callback : Callback) (host : Host)
    : Option Sidecar :=
  match callback.run cfg { s with host } with
  | .ok _ next => some next
  | .error _ _ => none

theorem Sidecar.call_eq_some {cfg : Config} {s next : Sidecar} {callback : Callback}
    {host : Host}
    : s.call cfg callback host = some next
      ↔ callback.run cfg { s with host } = .ok () next := by
  unfold Sidecar.call
  split <;> simp_all

/-- The state of a sidecar once `start` has resolved its own address and opened its sockets. -/
def Sidecar.started (isServer : Bool) (selfIpCache : Option Ip) : Sidecar where
  isServer := isServer
  tunnelTransport := true
  ctrl := { selfIpCache := selfIpCache }

/-- The outcomes of `start`, which asks `_self_mesh_ip` for the sidecar's own address. -/
inductive Sidecar.Starts (cfg : Config) : Sidecar → Prop where
  | override {ip : Ip} (set : cfg.meshSelf.filter (· ≠ "") = some ip)
    : Starts cfg (.started (cfg.meshMembers.contains ip) none)
  | route (unset : cfg.meshSelf.filter (· ≠ "") = none)
    : Starts cfg (.started (cfg.meshMembers.contains cfg.address) (some cfg.address))
  | failed (unset : cfg.meshSelf.filter (· ≠ "") = none) : Starts cfg (.started false none)

/-- A sidecar has just started, and knows its own address if it has found any. -/
theorem Sidecar.Starts.started {cfg : Config} {s : Sidecar} (starts : s.Starts cfg)
    : ∃ isServer selfIpCache,
        s = .started isServer selfIpCache
        ∧ (selfIpCache = none ∨ selfIpCache = some cfg.address) := by
  cases starts with
  | override => exact ⟨_, _, rfl, .inl rfl⟩
  | route => exact ⟨_, _, rfl, .inr rfl⟩
  | failed => exact ⟨_, _, rfl, .inl rfl⟩

/-- The states of a freshly started sidecar between callbacks, none of which raised. -/
inductive Sidecar.Run (cfg : Config) : Sidecar → Prop where
  | start {s : Sidecar} (starts : s.Starts cfg) : Run cfg s
  | call {s next : Sidecar} (callback : Callback) (host : Host) (before : Run cfg s)
    (returned : s.call cfg callback host = some next)
    : Run cfg next

/-- Run a list of callbacks one after another. -/
def Sidecar.callAll (cfg : Config) (s : Sidecar) : List (Callback × Host) → Option Sidecar
  | [] => some s
  | (callback, host) :: rest =>
      (s.call cfg callback host).bind (fun next => next.callAll cfg rest)

theorem Sidecar.Run.callAll {cfg : Config} {s final : Sidecar}
    {calls : List (Callback × Host)} (run : s.Run cfg)
    (returned : s.callAll cfg calls = some final)
    : final.Run cfg := by
  induction calls generalizing s with
  | nil =>
      obtain rfl := Option.some.inj returned
      exact run
  | cons call rest ih =>
      obtain ⟨callback, host⟩ := call
      obtain ⟨next, called, returned⟩ := Option.bind_eq_some_iff.mp returned
      exact ih (run.call callback host called) returned

end MeshSnapshot
