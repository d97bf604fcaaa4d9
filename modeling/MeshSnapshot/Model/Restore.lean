import MeshSnapshot.Model.Callbacks

/-! `restore_from_artifact`: a fresh sidecar takes over the cut coordinates that its node has
recorded, and replays the recorded channels into the local app.
-/

namespace MeshSnapshot

open Procedure

/-- `base64.b64decode` -/
def b64decode (text : String) : Py Bytes :=
  match Base64.decode text with
  | some bytes => pure bytes
  | none => raise .binasciiError

/-- Coordinates that are null are skipped. -/
def PeerState.seed (peer : PeerState) (peerArtifact : PeerArtifact) : PeerState :=
  { peer with
    sendSeq := peerArtifact.sendSeq.getD peer.sendSeq
    recvSeq := peerArtifact.recvSeq.getD peer.recvSeq }

def seedPeer (peerIp : Ip) (peerArtifact : PeerArtifact) : Py Unit := do
  getPeer peerIp
  modifyPeer peerIp fun peer => peer.seed peerArtifact

/-- `sorted(peer_artifact.get("channel", []), key=lambda m: m["seq"])` -/
def sortChannel (channel : List ChannelMessage) : List ChannelMessage :=
  channel.insertionSort (fun a b => a.seq ≤ b.seq)

def replayMessage (cfg : Config) (peerIp : Ip) (msg : ChannelMessage) : Py Unit := do
  let payload ← b64decode msg.payloadB64
  processAndDeliver cfg callDepth peerIp msg.seq
    { payload, srcPort := msg.srcPort, dstPort := msg.dstPort, localIp := msg.targetLocalIp }

def replayChannel (cfg : Config) (peerIp : Ip) (peerArtifact : PeerArtifact) : Py Unit :=
  forEach (replayMessage cfg peerIp) (sortChannel peerArtifact.channel)

/-- The entry of this node, `entry.get("node") == CHECKPOINT_TARGET`, where `nodeOf` reads the node of
an entry.
-/
def ownEntryBy {α : Type} (nodeOf : α → Option String) (cfg : Config) (nodes : List α) : Option α :=
  nodes.find? (fun entry => nodeOf entry = cfg.checkpointTarget)

def ownEntry (cfg : Config) (nodes : List Artifact) : Option Artifact :=
  ownEntryBy (fun entry => some entry.node) cfg nodes

/-- The body of the `try`; `reply` is what the receiver answers, or nothing if the request or
its decoding raises.
-/
def restorePeers (cfg : Config) (reply : Option (List Artifact)) : Py Unit :=
  match reply with
  | none => raise .osError
  | some nodes =>
      match ownEntry cfg nodes with
      | none => pure ()
      | some node => do
          forEach (fun (peerIp, peerArtifact) => seedPeer peerIp peerArtifact) node.peers
          forEach (fun (peerIp, peerArtifact) => replayChannel cfg peerIp peerArtifact) node.peers

/-- `restore_from_artifact`, for the value of `RESTORE_SNAPSHOT_ID`. -/
def restoreFromArtifact (cfg : Config) (restoreSnapshotId : Option String)
    (reply : Option (List Artifact)) : Py Unit :=
  if restoreSnapshotId.filter (· ≠ "") = none then
    pure ()
  else
    attempt (restorePeers cfg reply) (fun _ => pure ())

/-- The restore is the last step of `start`, and never raises. -/
def Sidecar.restored (cfg : Config) (restoreSnapshotId : Option String)
    (reply : Option (List Artifact)) (host : Host) (s : Sidecar) : Sidecar :=
  final (restoreFromArtifact cfg restoreSnapshotId reply { s with host })

end MeshSnapshot
