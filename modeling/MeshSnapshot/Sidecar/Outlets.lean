import MeshSnapshot.Model.Life

/-! The outlets of a sidecar: its spoof sockets, what it has sent on them, and the tunnel socket.
Whatever every use of a spoof socket respects, and what does not depend on anything but the
outlets, holds of whole callbacks.
-/

namespace MeshSnapshot

open Procedure

structure Outlets where
  tunnelTransport : Bool
  spoofSockets : Dict (Ip × Nat) SpoofSock
  spoofed : List (SpoofSock × Bytes × Ip × Nat)
  delivered : List PeerPacket

def Sidecar.outlets (s : Sidecar) : Outlets :=
  ⟨s.tunnelTransport, s.spoofSockets, s.trace.spoofed, s.trace.delivered⟩

/-- A relation that sees the outlets only, and that every use of a spoof socket stays within. -/
structure Respects (relation : Sidecar → Sidecar → Prop) : Prop where
  unseen : ∀ {s s' : Sidecar}, s'.outlets = s.outlets → relation s s'
  trans : ∀ {a b c : Sidecar}, relation a b → relation b c → relation a c
  sends
    : ∀ key payload dst,
        Within relation (getSpoofSock key >>= fun sock => spoofSendto sock payload dst : Py Unit)
  delivers : ∀ ip seq held, Within relation (deliver ip seq held)

namespace Respects

variable {relation : Sidecar → Sidecar → Prop} (respects : Respects relation)

include respects

theorem refl (s : Sidecar) : relation s s := respects.unseen rfl

theorem pure {α : Type} (a : α) : Within relation (Pure.pure a : Py α) :=
  Within.pure respects.refl a

theorem raise {α : Type} (error : PyErr) : Within relation (Procedure.raise error : Py α) :=
  Within.raise respects.refl error

theorem update {change : Sidecar → Sidecar}
    (same : ∀ s, (change s).outlets = s.outlets)
    : Within relation (Procedure.update change : Py Unit) :=
  fun s => respects.unseen (same s)

theorem bind {α β : Type} {x : Py α} {f : α → Py β} (first : Within relation x)
    (second : ∀ a, Within relation (f a)) : Within relation (x >>= f) :=
  Within.bind respects.trans first second

theorem readBind {β : Type} {f : Sidecar → Py β} (second : ∀ s, Within relation (f s))
    : Within relation (read >>= f) :=
  respects.bind (Within.read respects.refl) second

theorem attempt {α : Type} {body : Py α} {handler : PyErr → Py α} (tried : Within relation body)
    (handled : ∀ e, Within relation (handler e)) : Within relation (Procedure.attempt body handler) :=
  Within.attempt respects.trans tried handled

theorem forEach {α : Type} {body : α → Py Unit} (items : List α)
    (each : ∀ item, Within relation (body item)) : Within relation (Procedure.forEach body items) :=
  Within.forEach respects.refl respects.trans items fun item _ => each item

-----------------------------------------------------------------------------------------
-- Calls that leave the process, and sending
-----------------------------------------------------------------------------------------

theorem outsideCall : Within relation outsideCall := by
  refine respects.readBind fun s => ?_
  split
  · exact respects.pure ()
  · refine respects.bind (respects.update fun _ => rfl) fun _ => ?_
    split
    · exact respects.raise _
    · exact respects.pure ()

theorem outsideAnswer : Within relation outsideAnswer :=
  respects.attempt (respects.bind respects.outsideCall fun _ => respects.pure true) fun _ =>
    respects.pure false

theorem time : Within relation time := by
  refine respects.readBind fun s => ?_
  split
  · exact respects.pure 0
  · exact respects.bind (respects.update fun _ => rfl) fun _ => respects.pure _

theorem appPoint : Within relation appPoint := by
  refine respects.readBind fun s => ?_
  split
  · exact respects.pure ()
  · exact respects.update fun _ => rfl

theorem getPeer (ip : Ip) : Within relation (getPeer ip) := by
  refine respects.readBind fun s => ?_
  split
  · exact respects.pure ()
  · exact respects.update fun _ => rfl

theorem tunnelSendto (packet : Bytes) (dst : Ip) : Within relation (tunnelSendto packet dst) := by
  refine respects.readBind fun s => ?_
  split
  · exact respects.update fun _ => rfl
  · exact respects.raise _

theorem orStructError (packet : Option Bytes) : Within relation (orStructError packet) := by
  cases packet with
  | some bytes => exact respects.pure bytes
  | none => exact respects.raise _

theorem sendData (ip : Ip) (message : Message) (origin : SendOrigin)
    : Within relation (sendData ip message origin) :=
  respects.readBind fun _ => respects.bind (respects.orStructError _) fun _ =>
    respects.bind (respects.tunnelSendto _ _) fun _ => respects.bind respects.time fun _ =>
      respects.bind (respects.update fun _ => rfl) fun _ => respects.update fun _ => rfl

theorem recvmsg : Within relation recvmsg := by
  refine respects.bind respects.appPoint fun _ => respects.bind respects.outsideCall fun _ =>
    respects.readBind fun s => ?_
  split
  · exact respects.pure none
  · exact respects.bind (respects.update fun _ => rfl) fun _ => respects.pure _

theorem forwardIntercepted (cfg : Config) (datagram : Datagram)
    : Within relation (forwardIntercepted cfg datagram) := by
  have target : Within relation (originalDst datagram.ancdata) := by
    unfold originalDst
    split
    · exact respects.pure none
    · dsimp only
      split
      · exact respects.raise _
      · split
        · exact respects.raise _
        · exact respects.pure _
  refine respects.bind target fun target => ?_
  split
  · exact respects.pure ()
  · split
    · exact respects.pure ()
    · split
      · refine respects.readBind fun s => ?_
        split
        · exact respects.bind (respects.getPeer _) fun _ => respects.sendData _ _ _
        · exact respects.bind (respects.orStructError _) fun _ => respects.tunnelSendto _ _
      · exact respects.sends _ _ _

theorem drainIntercept (cfg : Config) : Within relation (drainIntercept cfg) := by
  have loops (fuel : Nat) : Within relation (drainLoop cfg fuel) := by
    induction fuel with
    | zero => exact respects.pure ()
    | succ fuel ih =>
        refine respects.bind respects.recvmsg fun received => ?_
        split
        · exact respects.pure ()
        · exact respects.bind (respects.forwardIntercepted cfg _) fun _ => ih
  exact respects.readBind fun s => loops _

-----------------------------------------------------------------------------------------
-- Snapshots
-----------------------------------------------------------------------------------------

theorem decode (bytes : Bytes) : Within relation (decode bytes) := by
  unfold MeshSnapshot.decode
  split
  · exact respects.pure _
  · exact respects.raise _

theorem selfMeshIp (cfg : Config) : Within relation (selfMeshIp cfg) := by
  have first : Within relation (firstMember cfg) := by
    unfold firstMember
    split
    · exact respects.raise _
    · exact respects.pure _
  unfold MeshSnapshot.selfMeshIp
  split
  · exact respects.pure _
  · refine respects.readBind fun s => ?_
    split
    · exact respects.pure _
    · exact respects.attempt (respects.bind respects.outsideCall fun _ =>
        respects.bind first fun _ => respects.bind (respects.update fun _ => rfl) fun _ => respects.pure _)
        fun _ => respects.pure _

theorem sendMarker (payload : Bytes) (ip : Ip) : Within relation (sendMarker payload ip) :=
  respects.bind (respects.getPeer ip) fun _ => respects.bind (respects.sendData _ _ _) fun _ =>
    respects.update fun _ => rfl

section Snapshot

variable {reenter : Ip → Nat → Held → Py Unit}
  (again : ∀ ip seq held, Within relation (reenter ip seq held)) (cfg : Config)

include again

theorem flush : Within relation (flushAndReset reenter) := by
  refine respects.bind (respects.update fun _ => rfl) fun _ => respects.readBind fun s => ?_
  refine respects.bind (respects.forEach _ fun (ip, recorded) => ?_) fun _ => respects.update fun _ => rfl
  exact respects.bind (respects.update fun _ => rfl) fun _ => respects.forEach _ fun msg => again _ _ _

theorem finish (status : Status)
    : Within relation (do
        let artifact ← buildArtifact cfg status
        let _ ← postArtifact artifact
        flushAndReset reenter : Py Unit) := by
  have named (id : Option Bytes) : Within relation (artifactId id) := by
    unfold artifactId
    split
    · exact respects.pure _
    · exact respects.pure _
    · exact respects.bind (respects.decode _) fun _ => respects.pure _
  have builds : Within relation (buildArtifact cfg status) :=
    respects.readBind fun s => respects.bind (named _) fun _ => respects.pure _
  have posts (artifact : Artifact) : Within relation (postArtifact artifact) :=
    respects.bind respects.outsideAnswer fun _ => respects.bind (respects.update fun _ => rfl) fun _ =>
      respects.pure _
  exact respects.bind builds fun artifact => respects.bind (posts artifact) fun _ =>
    respects.flush again

theorem finishIfClosed : Within relation (finishIfClosed cfg reenter) := by
  refine respects.readBind fun s => ?_
  split
  · exact respects.finish again cfg .complete
  · exact respects.pure ()

theorem startSnapshot (remoteIp : Ip) (seq : Nat) (payload markerId : Bytes)
    : Within relation (startSnapshot cfg reenter remoteIp seq payload markerId) := by
  have triggers (snapshotId : String) : Within relation (triggerAppSnapshot cfg markerId snapshotId) :=
    respects.bind respects.appPoint fun _ => respects.bind respects.outsideAnswer fun _ =>
      respects.readBind fun _ => respects.bind (respects.update fun _ => rfl) fun _ => respects.appPoint
  have closes (members : List Ip) : Within relation (closeOrigin members remoteIp seq) := by
    unfold closeOrigin
    split
    · exact respects.update fun _ => rfl
    · exact respects.pure ()
  refine respects.bind (respects.update fun _ => rfl) fun _ => respects.readBind fun s => ?_
  refine respects.bind (respects.update fun _ => rfl) fun _ => ?_
  refine respects.bind (respects.selfMeshIp cfg) fun _ => ?_
  refine respects.bind (respects.update fun _ => rfl) fun _ => ?_
  refine respects.bind (respects.drainIntercept cfg) fun _ => ?_
  refine respects.bind (respects.decode markerId) fun _ => respects.bind (triggers _) fun _ => ?_
  refine respects.bind (respects.forEach _ fun ip => respects.sendMarker payload ip) fun _ => ?_
  refine respects.bind (respects.update fun _ => rfl) fun _ => respects.bind (closes _) fun _ => ?_
  exact respects.bind respects.time fun _ => respects.bind (respects.update fun _ => rfl) fun _ =>
    respects.finishIfClosed again cfg

theorem handleMarker (remoteIp : Ip) (seq : Nat) (payload markerId : Bytes)
    : Within relation (handleMarker cfg reenter remoteIp seq payload markerId) := by
  refine respects.readBind fun s => respects.bind (respects.update fun _ => rfl) fun _ => ?_
  split
  · refine respects.readBind fun s => ?_
    split
    · exact respects.bind (respects.decode _) fun _ => respects.pure ()
    · split
      · exact respects.bind (respects.update fun _ => rfl) fun _ => respects.finishIfClosed again cfg
      · exact respects.pure ()
  · exact respects.startSnapshot again cfg remoteIp seq payload markerId

end Snapshot

theorem processMessage (cfg : Config) (depth : Nat) (ip : Ip) (seq : Nat) (held : Held)
    : Within relation (processMessage cfg depth ip seq held) := by
  induction depth generalizing ip seq held with
  | zero => exact respects.raise _
  | succ depth ih =>
      have again (ip : Ip) (seq : Nat) (held : Held) : Within relation (do
          let consumed ← MeshSnapshot.processMessage cfg depth ip seq held
          if consumed then Pure.pure () else deliver ip seq held : Py Unit) := by
        refine respects.bind (ih ip seq held) fun consumed => ?_
        split
        · exact respects.pure ()
        · exact respects.delivers ip seq held
      have records : Within relation (recordMessage ip seq held) := by
        refine respects.readBind fun s => ?_
        split
        · exact respects.raise _
        · exact respects.update fun _ => rfl
      unfold MeshSnapshot.processMessage
      split
      · exact respects.bind (respects.handleMarker again cfg ip seq _ _) fun _ => respects.pure _
      · refine respects.readBind fun s => ?_
        split
        · exact respects.bind records fun _ => respects.pure _
        · exact respects.pure _

theorem processAndDeliver (cfg : Config) (depth : Nat) (ip : Ip) (seq : Nat) (held : Held)
    : Within relation (processAndDeliver cfg depth ip seq held) := by
  refine respects.bind (respects.processMessage cfg depth ip seq held) fun consumed => ?_
  split
  · exact respects.pure ()
  · exact respects.delivers ip seq held

-----------------------------------------------------------------------------------------
-- Callbacks
-----------------------------------------------------------------------------------------

theorem passPacket (cfg : Config) (ip : Ip) (held : Held)
    : Within relation (passPacket cfg ip held) := by
  have notes : Within relation
      (Procedure.update fun s => s.logOvertaking ⟨ip, (s.peer ip).recvSeq, held⟩ : Py Unit) := by
    refine respects.update fun s => ?_
    unfold Sidecar.logOvertaking
    split <;> rfl
  exact respects.readBind fun s => respects.bind notes fun _ =>
    respects.bind (respects.processAndDeliver cfg callDepth ip _ held) fun _ =>
      respects.bind (respects.update fun _ => rfl) fun _ => respects.update fun _ => rfl

theorem dataReceived (cfg : Config) (ip : Ip) (seq : Nat) (held : Held)
    : Within relation (dataReceived cfg ip seq held) := by
  have flushes (fuel : Nat) : Within relation (flushBuffer cfg ip fuel) := by
    induction fuel with
    | zero => exact respects.pure ()
    | succ fuel ih =>
        refine respects.readBind fun s => ?_
        split
        · exact respects.pure ()
        · exact respects.bind (respects.update fun _ => rfl) fun _ => respects.bind (respects.passPacket cfg ip _)
            fun _ => ih
  refine respects.bind (respects.tunnelSendto _ ip) fun _ => respects.readBind fun s => ?_
  split
  · exact respects.bind (respects.passPacket cfg ip held) fun _ => respects.readBind fun s =>
      flushes _
  · split
    · exact respects.update fun _ => rfl
    · exact respects.pure ()

theorem handleLoop (cfg : Config) (fuel : Nat) : Within relation (handleLoop cfg fuel) := by
  have starts (data : Bytes) : Within relation (startId data) := by
    unfold startId
    split
    · exact respects.pure _
    · refine respects.readBind fun s => ?_
      split
      · exact respects.pure []
      · exact respects.bind (respects.update fun _ => rfl) fun _ => respects.pure _
  induction fuel with
  | zero => exact respects.pure ()
  | succ fuel ih =>
      refine respects.bind respects.recvmsg fun received => ?_
      split
      · exact respects.pure ()
      · refine respects.bind ?_ fun _ => ih
        unfold handleDatagram
        split
        · exact respects.bind (starts _) fun id => respects.bind (respects.update fun _ => rfl) fun _ =>
            respects.bind (respects.processMessage cfg callDepth loopback 0 _) fun _ =>
              respects.pure ()
        · exact respects.forwardIntercepted cfg _

theorem retransmitRound (cfg : Config) : Within relation (retransmitRound cfg) := by
  have checks : Within relation (checkTimeout cfg) := by
    refine respects.readBind fun s => ?_
    split
    · refine respects.bind respects.time fun now => ?_
      split
      · exact respects.finish (respects.processAndDeliver cfg callDepth) cfg .aborted
      · exact respects.pure ()
    · exact respects.pure ()
  have again (now : Int) (ip : Ip) (seq : Nat) (sentAt : Int) (packet : Bytes)
      : Within relation (retransmit now ip seq sentAt packet) := by
    refine respects.readBind fun s => ?_
    split
    · exact respects.bind (respects.tunnelSendto _ _) fun _ => respects.update fun _ => rfl
    · exact respects.pure ()
  exact respects.bind respects.time fun now => respects.bind checks fun _ =>
    respects.readBind fun s => respects.forEach _ fun (ip, peer) =>
      respects.forEach _ fun (seq, sentAt, packet) => again now ip seq sentAt packet

/-- However it ends, a callback stays within what its uses of spoof sockets stay within. -/
theorem run (cfg : Config) (callback : Callback) : Within relation (callback.run cfg) := by
  cases callback with
  | emit datagrams => exact respects.update fun _ => rfl
  | send dst message =>
      exact respects.bind (respects.getPeer dst) fun _ => respects.sendData dst message .direct
  | intercept => exact respects.readBind fun s => respects.handleLoop cfg _
  | retransmit => exact respects.retransmitRound cfg
  | received packet src =>
      refine respects.bind (respects.getPeer src) fun _ => ?_
      split
      · exact respects.dataReceived cfg src _ _
      · exact respects.sends _ _ _
      · exact respects.update fun _ => rfl
      · exact respects.pure ()

/-- However it ends, a restore stays within what its uses of spoof sockets stay within. -/
theorem restored (cfg : Config) (restoreSnapshotId : Option String)
    (reply : Option (List Artifact)) (host : Host) (s : Sidecar)
    : relation s (s.restored cfg restoreSnapshotId reply host) := by
  have seeds (ip : Ip) (entry : PeerArtifact) : Within relation (seedPeer ip entry) :=
    respects.bind (respects.getPeer ip) fun _ => respects.update fun _ => rfl
  have decodes (text : String) : Within relation (b64decode text) := by
    unfold b64decode
    split
    · exact respects.pure _
    · exact respects.raise _
  have replays (ip : Ip) (entry : PeerArtifact) : Within relation (replayChannel cfg ip entry) :=
    respects.forEach _ fun msg => respects.bind (decodes _) fun _ =>
      respects.processAndDeliver cfg callDepth ip msg.seq _
  have restores : Within relation (restorePeers cfg reply) := by
    unfold restorePeers
    split
    · exact respects.raise _
    · split
      · exact respects.pure ()
      · exact respects.bind (respects.forEach _ fun (ip, entry) => seeds ip entry) fun _ =>
          respects.forEach _ fun (ip, entry) => replays ip entry
  have whole : Within relation (restoreFromArtifact cfg restoreSnapshotId reply) := by
    unfold restoreFromArtifact
    split
    · exact respects.pure ()
    · exact respects.attempt restores fun _ => respects.pure ()
  have hosted : relation s { s with host } := respects.unseen rfl
  exact respects.trans hosted (whole _)

end Respects

end MeshSnapshot
