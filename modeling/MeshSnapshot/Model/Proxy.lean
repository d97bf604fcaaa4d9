import MeshSnapshot.Model.State

/-! `MeshProxy`: peers, spoof sockets, sending, and forwarding of intercepted datagrams.
Each definition follows the function of `mesh_proxy.py` whose name it bears.
-/

namespace MeshSnapshot

open Procedure

-----------------------------------------------------------------------------------------
-- Calls that leave the process
-----------------------------------------------------------------------------------------

/-- A system or HTTP call without a result; it raises `OSError` when the host says so. -/
def outsideCall : Py Unit := do
  let s ← read
  match s.host.faults with
  | [] => pure ()
  | fails :: rest => do
      update fun s => { s with host := { s.host with faults := rest } }
      if fails then raise .osError else pure ()

/-- A call whose every exception is swallowed; the answer says whether it succeeded. -/
def outsideAnswer : Py Bool :=
  attempt (do outsideCall; pure true) (fun _ => pure false)

/-- `time.time()` -/
def time : Py Int := do
  let s ← read
  match s.host.clock with
  | [] => pure 0
  | now :: rest => do
      update fun s => { s with host := { s.host with clock := rest } }
      pure now

/-- `str(uuid.uuid4()).encode()` -/
def uuid4 : Py Bytes := do
  let s ← read
  match s.host.uuids with
  | [] => pure []
  | id :: rest => do
      update fun s => { s with host := { s.host with uuids := rest } }
      pure id

/-- The app queues `datagrams` on the intercept socket. -/
def Sidecar.emit (s : Sidecar) (datagrams : List Datagram) : Sidecar :=
  { s with
    localSock := s.localSock ++ datagrams
    trace := { s.trace with emitted := s.trace.emitted ++ datagrams } }

/-- A point at which the app may run while the sidecar is inside a callback. -/
def appPoint : Py Unit := do
  let s ← read
  match s.host.app with
  | [] => pure ()
  | datagrams :: rest =>
      update fun s => { (s.emit datagrams) with host := { s.host with app := rest } }

-----------------------------------------------------------------------------------------
-- Peers
-----------------------------------------------------------------------------------------

def Sidecar.setPeer (s : Sidecar) (ip : Ip) (peer : PeerState) : Sidecar :=
  { s with peers := s.peers.set ip peer }

/-- `get_peer`: create the entry of an unknown peer. The entry is then addressed by key. -/
def getPeer (ip : Ip) : Py Unit := do
  let s ← read
  match s.peers.get? ip with
  | some _ => pure ()
  | none => update fun s => s.setPeer ip {}

def modifyPeer (ip : Ip) (change : PeerState → PeerState) : Py Unit :=
  update fun s => s.setPeer ip (change (s.peer ip))

-----------------------------------------------------------------------------------------
-- Spoof sockets
-----------------------------------------------------------------------------------------

/-- `socket.socket(AF_INET, SOCK_DGRAM)` -/
def newSock : Py Nat := do
  outsideCall
  let s ← read
  update fun s => { s with nextSock := s.nextSock + 1 }
  pure s.nextSock

/-- The cache eviction at the head of `get_spoof_sock`'s miss path. -/
def evictSpoofSock (capacity : Nat := maxSpoofSockets) : Py Unit := do
  let s ← read
  if capacity ≤ s.spoofSockets.size then
    match s.spoofSockets.entries with
    | [] => pure ()
    | (oldKey, oldSock) :: _ =>
        update fun s => { s with
          spoofSockets := s.spoofSockets.erase oldKey
          trace := { s.trace with closed := s.trace.closed ++ [oldSock] } }
  else
    pure ()

/-- `sock.bind(key)`, and the generic outbound socket that replaces a socket whose bind
raised `OSError`.
-/
def bindOrFallback (key : Ip × Nat) (id : Nat) : Py SpoofSock := do
  let bound ← outsideAnswer
  if bound then
    pure { id, bound := some key }
  else do
    let id ← newSock
    outsideCall
    pure { id, bound := none }

/-- `get_spoof_sock`, for any value of `MAX_SPOOF_SOCKETS`. -/
def getSpoofSock (key : Ip × Nat) (capacity : Nat := maxSpoofSockets) : Py SpoofSock := do
  let s ← read
  match s.spoofSockets.get? key with
  | some sock => do
      update fun s => { s with spoofSockets := s.spoofSockets.moveToEnd key }
      pure sock
  | none => do
      evictSpoofSock capacity
      let id ← newSock
      outsideCall  -- the four setsockopt calls
      let sock ← bindOrFallback key id
      update fun s => { s with spoofSockets := s.spoofSockets.set key sock }
      pure sock

/-- `spoof_sock.sendto(payload, dst)` -/
def spoofSendto (sock : SpoofSock) (payload : Bytes) (dst : Ip × Nat) : Py Unit := do
  outsideCall
  update fun s => { s with
    trace := { s.trace with spoofed := s.trace.spoofed ++ [(sock, payload, dst)] } }

def Sidecar.logDelivered (s : Sidecar) (packet : PeerPacket) : Sidecar :=
  { s with trace := { s.trace with delivered := s.trace.delivered ++ [packet] } }

/-- The delivery half of `process_and_deliver`. -/
def deliver (ip : Ip) (seq : Nat) (held : Held) : Py Unit := do
  let sock ← getSpoofSock (ip, held.srcPort)
  spoofSendto sock held.payload (held.localIp, held.dstPort)
  update fun s => s.logDelivered ⟨ip, seq, held⟩

-----------------------------------------------------------------------------------------
-- Sending on the tunnel
-----------------------------------------------------------------------------------------

def Sidecar.putWire (s : Sidecar) (packet : Bytes) (dst : Ip) : Sidecar :=
  { s with trace := { s.trace with wire := s.trace.wire ++ [(packet, dst)] } }

/-- `tunnel_transport.sendto(packet, (dst, TUNNEL_PORT))`. The asyncio transport reports
socket errors to the protocol and does not raise them; before `connection_made` there is no
transport to call.
-/
def tunnelSendto (packet : Bytes) (dst : Ip) : Py Unit := do
  let s ← read
  if s.tunnelTransport then
    update fun s => s.putWire packet dst
  else
    raise .attributeError

def orStructError : Option Bytes → Py Bytes
  | some bytes => pure bytes
  | none => raise .structError

def Sidecar.logSent (s : Sidecar) (call : SendCall) : Sidecar :=
  { s with trace := { s.trace with sent := s.trace.sent ++ [call] } }

/-- `send_data`. The argument `origin` is proof-only: it says on whose behalf the call is. -/
def sendData (peerIp : Ip) (message : Message) (origin : SendOrigin) : Py Unit := do
  let s ← read
  let packet ← orStructError (dataPacket (s.peer peerIp).sendSeq message)
  tunnelSendto packet peerIp
  let now ← time
  modifyPeer peerIp fun peer => { peer with
    unacked := peer.unacked.set peer.sendSeq (now, packet)
    sendSeq := peer.sendSeq + 1 }
  update fun s => s.logSent ⟨peerIp, message, origin, s.trace.reads⟩

def sendPlain (peerIp : Ip) (message : Message) : Py Unit := do
  let packet ← orStructError (plainPacket message)
  tunnelSendto packet peerIp

/-- `_use_rudp` -/
def useRudp (cfg : Config) (s : Sidecar) (peerIp : Ip) : Bool :=
  s.isServer && cfg.meshMembers.contains peerIp

-----------------------------------------------------------------------------------------
-- The intercept socket
-----------------------------------------------------------------------------------------

/-- One datagram is read, which leaves `rest` on the intercept socket. -/
def Sidecar.take (s : Sidecar) (rest : List Datagram) : Sidecar :=
  { s with localSock := rest, trace := { s.trace with reads := s.trace.reads + 1 } }

/-- `local_sock.recvmsg(65536, 1024)` on the non-blocking intercept socket. Nothing else
raises `BlockingIOError`, and both receive loops end on it: it is the answer `none` here.
-/
def recvmsg : Py (Option Datagram) := do
  appPoint
  outsideCall
  let s ← read
  match s.localSock with
  | [] => pure none
  | datagram :: rest => do
      update fun s => s.take rest
      pure (some datagram)

/-- The original destination in the first `IP_RECVORIGDSTADDR` control message. -/
def originalDst (ancdata : List Cmsg) : Py (Option (Bytes × Nat)) :=
  match ancdata.find? (fun cmsg => cmsg.level == 0 && cmsg.type == 20) with
  | none => pure none
  | some cmsg =>
      let port := (cmsg.data.drop 2).take 2
      let ip := (cmsg.data.drop 4).take 4
      if port.length ≠ 2 then raise .structError
      else if ip.length ≠ 4 then raise .osError
      else pure (some (ip, ofBigEndian port))

/-- `_forward_intercepted`. `inet_aton(inet_ntoa(ip))` is `ip` for a four-byte address. -/
def forwardIntercepted (cfg : Config) (datagram : Datagram) : Py Unit := do
  let target ← originalDst datagram.ancdata
  match target with
  | none => pure ()
  | some (ip, port) =>
      if port = 0 then
        pure ()
      else if inMeshNetwork ip then do
        let message : Message := ⟨datagram.addr.2, port, ip, datagram.data⟩
        let s ← read
        if useRudp cfg s (inetNtoa ip) then do
          getPeer (inetNtoa ip)
          sendData (inetNtoa ip) message .forwarded
        else
          sendPlain (inetNtoa ip) message
      else do
        let sock ← getSpoofSock datagram.addr
        spoofSendto sock datagram.data (inetNtoa ip, port)

/-- Datagrams that a receive loop can still read: those queued, and those the app will
queue while the loop runs.
-/
def Sidecar.pending (s : Sidecar) : Nat :=
  s.localSock.length + (s.host.app.map List.length).sum

/-- The receive loop of `drain_intercept`. Every iteration reads one pending datagram, so
`Sidecar.pending` bounds the iterations before the socket would block.
-/
def drainLoop (cfg : Config) : Nat → Py Unit
  | 0 => pure ()
  | fuel + 1 => do
      let received ← recvmsg
      match received with
      | none => pure ()
      | some datagram => do
          forwardIntercepted cfg datagram
          drainLoop cfg fuel

def drainIntercept (cfg : Config) : Py Unit := do
  let s ← read
  drainLoop cfg (s.pending + 1)

end MeshSnapshot
