import MeshSnapshot.Library.Base64
import MeshSnapshot.Library.Dict
import MeshSnapshot.Library.Procedure
import MeshSnapshot.Model.Wire

/-! The data model of one sidecar: `PeerState`, `SnapshotController`, `MeshProxy`, and the
artifact a snapshot leaves behind. The trace and the host are proof-only: they record what
the sidecar did and decide how the calls that leave the process turn out.
-/

namespace MeshSnapshot

-----------------------------------------------------------------------------------------
-- Configuration (`config.py` and the environment of `snapshot_handler.py`)
-----------------------------------------------------------------------------------------

structure Config where
  meshMembers : List Ip
  meshSelf : Option String := none
  /-- The source address the kernel routes from toward the mesh. -/
  address : Ip
  checkpointTarget : Option String := none
  hostname : String := "sidecar"
deriving DecidableEq

/-- `RETRY_TIMEOUT`, in milliseconds. -/
def retryTimeout : Int := 500

/-- `SNAPSHOT_TIMEOUT`, in milliseconds. -/
def snapshotTimeout : Int := 30000

def maxSpoofSockets : Nat := 512

/-- Membership in `MESH_SUBNET = "10.24.24.0/24"` of a four-byte address. -/
def inMeshNetwork (ip : Bytes) : Bool := ip.take 3 == [10, 24, 24]

-----------------------------------------------------------------------------------------
-- Transport state (`mesh_proxy.py`)
-----------------------------------------------------------------------------------------

/-- `PeerState`: sequence and buffer state per remote node. -/
structure PeerState where
  sendSeq : Nat := 0
  /-- seq ↦ (timestamp, packet) -/
  unacked : Dict Nat (Int × Bytes) := ∅
  recvSeq : Nat := 0
  recvBuffer : Dict Nat Held := ∅

/-- One entry of `recvmsg`'s ancillary data. -/
structure Cmsg where
  level : Nat
  type : Nat
  data : Bytes
deriving DecidableEq

/-- A datagram pending on the intercept socket, as `recvmsg` returns it. -/
structure Datagram where
  data : Bytes
  ancdata : List Cmsg
  addr : Ip × Nat
deriving DecidableEq

/-- A spoof socket: its identity, and the address it is bound to unless it is the generic
outbound fallback.
-/
structure SpoofSock where
  id : Nat
  bound : Option (Ip × Nat)
deriving DecidableEq

-----------------------------------------------------------------------------------------
-- Snapshot state (`snapshot_handler.py`)
-----------------------------------------------------------------------------------------

/-- One recorded in-flight message of `channel_states`. -/
structure Recorded where
  seq : Nat
  held : Held
deriving DecidableEq

structure SnapshotController where
  isSnapshotting : Bool := false
  currentSnapshotId : Option Bytes := none
  recordingChannels : List Ip := []
  channelStates : Dict Ip (List Recorded) := ∅
  recordedSendSeq : Dict Ip Nat := ∅
  recordedRecvSeq : Dict Ip Nat := ∅
  snapshotDeadline : Option Int := none
  selfIpCache : Option Ip := none

inductive Status where
  | complete
  | aborted
deriving DecidableEq

structure ChannelMessage where
  seq : Nat
  payloadB64 : String
  srcPort : Nat
  dstPort : Nat
  targetLocalIp : Ip
deriving DecidableEq

structure PeerArtifact where
  sendSeq : Option Nat
  recvSeq : Option Nat
  channel : List ChannelMessage
deriving DecidableEq

/-- The JSON that `_build_artifact` serializes; `peers` is in sorted key order. -/
structure Artifact where
  snapshotId : Option String
  node : String
  status : Status
  peers : List (Ip × PeerArtifact)
deriving DecidableEq

-----------------------------------------------------------------------------------------
-- Trace: what a sidecar did, in order, one log per kind of action
-----------------------------------------------------------------------------------------

/-- On whose behalf `send_data` is called. -/
inductive SendOrigin where
  /-- The last app datagram read is forwarded. -/
  | forwarded
  /-- A call from outside the modelled callbacks. -/
  | direct
  /-- The marker fan-out. -/
  | marker
deriving DecidableEq

/-- One `send_data` call, made when `reads` app datagrams had been read. -/
structure SendCall where
  dst : Ip
  message : Message
  origin : SendOrigin
  reads : Nat
deriving DecidableEq

/-- A packet of a peer with its position in that peer's stream. -/
structure PeerPacket where
  peer : Ip
  seq : Nat
  held : Held
deriving DecidableEq

inductive ControlEvent where
  /-- A START command was read from the intercept socket. -/
  | start (id : Bytes)
  /-- `process_message` was called with a marker while `recording` was being recorded. -/
  | heard (peer : Ip) (seq : Nat) (id : Bytes) (recording : Option Bytes)
  /-- The snapshot-start branch was entered after so many packets had been passed. -/
  | began (id : Bytes) (passed : Nat)
  /-- The `/checkpoint` request froze the app, which had emitted and been delivered so many
  datagrams. So many emissions had been read from the intercept socket.
  -/
  | checkpointed (id : Bytes) (target exportPath : String) (ok : Bool)
    (reads emitted delivered : Nat)
  /-- `_post_artifact` was called; `stored` is the answer of the receiver. -/
  | posted (artifact : Artifact) (stored : Bool)
deriving DecidableEq

structure Trace where
  /-- Datagrams handed to the tunnel socket, with their destination. -/
  wire : List (Bytes × Ip) := []
  sent : List SendCall := []
  /-- Packets that the in-order stream of a peer has passed. -/
  consumed : List PeerPacket := []
  /-- Those that were no markers and came while older messages of their peer were waiting in
  the recorded state of a closed channel.
  -/
  overtaking : List PeerPacket := []
  /-- Packets sent to the local app by `process_and_deliver`. -/
  delivered : List PeerPacket := []
  /-- Every send on a spoof socket. -/
  spoofed : List (SpoofSock × Bytes × Ip × Nat) := []
  closed : List SpoofSock := []
  /-- App datagrams queued on the intercept socket, and how many of them were read. -/
  emitted : List Datagram := []
  reads : Nat := 0
  control : List ControlEvent := []

/-- How the calls that leave the process turn out: whether the next ones fail, what the
clock shows, which ids are drawn, and what the app queues whenever it gets to run.
-/
structure Host where
  faults : List Bool := []
  clock : List Int := []
  uuids : List Bytes := []
  app : List (List Datagram) := []

/-- `MeshProxy` with its `SnapshotController`. -/
structure Sidecar where
  peers : Dict Ip PeerState := ∅
  spoofSockets : Dict (Ip × Nat) SpoofSock := ∅
  nextSock : Nat := 0
  tunnelTransport : Bool := false
  localSock : List Datagram := []
  isServer : Bool := false
  ctrl : SnapshotController := {}
  host : Host := {}
  trace : Trace := {}

/-- The state kept for a peer; an unknown peer has that of a new `PeerState`. -/
def Sidecar.peer (s : Sidecar) (ip : Ip) : PeerState := (s.peers.get? ip).getD {}

inductive PyErr where
  | osError
  | structError
  | unicodeDecodeError
  | keyError
  | indexError
  | attributeError
  | binasciiError
  | recursionError
deriving DecidableEq

abbrev Py := Procedure PyErr Sidecar

end MeshSnapshot
