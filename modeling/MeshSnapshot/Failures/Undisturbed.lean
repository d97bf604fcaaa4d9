import MeshSnapshot.Model.Life
import MeshSnapshot.Sidecar.Frames

/-! What leaves the snapshot alone, however it ends: sockets, peers, forwarding and delivery do
not touch the controller and its log.
-/

namespace MeshSnapshot

open Procedure

variable {α β : Type}

/-- The controller of a sidecar, its log, and whether markers can be sent. -/
structure Desk where
  ctrl : SnapshotController
  control : List ControlEvent
  transport : Bool

def Sidecar.desk (s : Sidecar) : Desk := ⟨s.ctrl, s.trace.control, s.tunnelTransport⟩

def Undisturbed (s s' : Sidecar) : Prop := s'.desk = s.desk

theorem Undisturbed.refl (s : Sidecar) : Undisturbed s s := rfl

theorem Undisturbed.trans {a b c : Sidecar} (first : Undisturbed a b) (second : Undisturbed b c)
    : Undisturbed a c :=
  Eq.trans second first

/-- A procedure that does not disturb the snapshot, however it ends. -/
abbrev Calm (body : Py α) : Prop := Within Undisturbed body

namespace Calm

theorem pure (a : α) : Calm (Pure.pure a : Py α) := Within.pure Undisturbed.refl a

theorem read : Calm Procedure.read := Within.read Undisturbed.refl

theorem raise (error : PyErr) : Calm (Procedure.raise error : Py α) :=
  Within.raise Undisturbed.refl error

theorem update {change : Sidecar → Sidecar}
    (same : ∀ s, (change s).desk = s.desk)
    : Calm (Procedure.update change) :=
  same

theorem bind {x : Py α} {f : α → Py β} (first : Calm x) (second : ∀ a, Calm (f a))
    : Calm (x >>= f) :=
  Within.bind Undisturbed.trans first second

theorem attempt {body : Py α} {handler : PyErr → Py α} (tried : Calm body)
    (handled : ∀ e, Calm (handler e)) : Calm (Procedure.attempt body handler) :=
  Within.attempt Undisturbed.trans tried handled

theorem forEach {body : α → Py Unit} (items : List α) (each : ∀ item, Calm (body item))
    : Calm (Procedure.forEach body items) :=
  Within.forEach Undisturbed.refl Undisturbed.trans items fun item _ => each item

/-- Whatever is known of the controller and its log stays known. -/
theorem keeps {body : Py α} (calm : Calm body) (known : Desk → Prop)
    : Keeps (fun s => known s.desk) body (fun s => known s.desk) :=
  .of_within calm fun {s s'} before same => (same : s'.desk = s.desk) ▸ before

end Calm

-----------------------------------------------------------------------------------------
-- Calls that leave the process, sockets and peers
-----------------------------------------------------------------------------------------

theorem calm_outsideCall : Calm outsideCall := by
  refine .bind .read fun s => ?_
  split
  · exact .pure ()
  · refine .bind (.update fun _ => rfl) fun _ => ?_
    split
    · exact .raise _
    · exact .pure ()

theorem calm_outsideAnswer : Calm outsideAnswer :=
  .attempt (.bind calm_outsideCall fun _ => .pure true) fun _ => .pure false

theorem calm_time : Calm time := by
  refine .bind .read fun s => ?_
  split
  · exact .pure 0
  · exact .bind (.update fun _ => rfl) fun _ => .pure _

theorem calm_startId (data : Bytes) : Calm (startId data) := by
  unfold startId
  split
  · exact .pure _
  · refine .bind .read fun s => ?_
    split
    · exact .pure []
    · exact .bind (.update fun _ => rfl) fun _ => .pure _

theorem calm_appPoint : Calm appPoint := by
  refine .bind .read fun s => ?_
  split
  · exact .pure ()
  · exact .update fun _ => rfl

theorem calm_getPeer (ip : Ip) : Calm (getPeer ip) := by
  refine .bind .read fun s => ?_
  split
  · exact .pure ()
  · exact .update fun _ => rfl

theorem calm_modifyPeer (ip : Ip) (change : PeerState → PeerState)
    : Calm (modifyPeer ip change) :=
  .update fun _ => rfl

theorem calm_newSock : Calm newSock :=
  .bind calm_outsideCall fun _ => .bind .read fun _ => .bind (.update fun _ => rfl) fun _ => .pure _

theorem calm_evictSpoofSock : Calm evictSpoofSock := by
  refine .bind .read fun s => ?_
  split
  · split
    · exact .pure ()
    · exact .update fun _ => rfl
  · exact .pure ()

theorem calm_bindOrFallback (key : Ip × Nat) (id : Nat) : Calm (bindOrFallback key id) := by
  refine .bind calm_outsideAnswer fun bound => ?_
  split
  · exact .pure _
  · exact .bind calm_newSock fun _ => .bind calm_outsideCall fun _ => .pure _

theorem calm_getSpoofSock (key : Ip × Nat) : Calm (getSpoofSock key) := by
  refine .bind .read fun s => ?_
  split
  · exact .bind (.update fun _ => rfl) fun _ => .pure _
  · exact .bind calm_evictSpoofSock fun _ => .bind calm_newSock fun _ =>
      .bind calm_outsideCall fun _ => .bind (calm_bindOrFallback _ _) fun _ =>
        .bind (.update fun _ => rfl) fun _ => .pure _

theorem calm_spoofSendto (sock : SpoofSock) (payload : Bytes) (dst : Ip × Nat)
    : Calm (spoofSendto sock payload dst) :=
  .bind calm_outsideCall fun _ => .update fun _ => rfl

theorem calm_deliver (ip : Ip) (seq : Nat) (held : Held) : Calm (deliver ip seq held) :=
  .bind (calm_getSpoofSock _) fun _ => .bind (calm_spoofSendto _ _ _) fun _ => .update fun _ => rfl

theorem calm_plainReceived (ip : Ip) (held : Held) : Calm (plainReceived ip held) :=
  .bind (calm_getSpoofSock _) fun _ => calm_spoofSendto _ _ _

-----------------------------------------------------------------------------------------
-- Sending and forwarding
-----------------------------------------------------------------------------------------

theorem calm_tunnelSendto (packet : Bytes) (dst : Ip) : Calm (tunnelSendto packet dst) := by
  refine .bind .read fun s => ?_
  split
  · exact .update fun _ => rfl
  · exact .raise _

theorem calm_orStructError (packet : Option Bytes) : Calm (orStructError packet) := by
  cases packet with
  | some bytes => exact .pure bytes
  | none => exact .raise _

theorem calm_sendData (ip : Ip) (message : Message) (origin : SendOrigin)
    : Calm (sendData ip message origin) :=
  .bind .read fun _ => .bind (calm_orStructError _) fun _ => .bind (calm_tunnelSendto _ _) fun _ =>
    .bind calm_time fun _ => .bind (calm_modifyPeer _ _) fun _ => .update fun _ => rfl

theorem calm_sendPlain (ip : Ip) (message : Message) : Calm (sendPlain ip message) :=
  .bind (calm_orStructError _) fun _ => calm_tunnelSendto _ _

theorem calm_recvmsg : Calm recvmsg := by
  refine .bind calm_appPoint fun _ => .bind calm_outsideCall fun _ => .bind .read fun s => ?_
  split
  · exact .pure none
  · exact .bind (.update fun _ => rfl) fun _ => .pure _

theorem calm_originalDst (ancdata : List Cmsg) : Calm (originalDst ancdata) := by
  unfold originalDst
  split
  · exact .pure none
  · dsimp only
    split
    · exact .raise _
    · split
      · exact .raise _
      · exact .pure _

theorem calm_forwardIntercepted (cfg : Config) (datagram : Datagram)
    : Calm (forwardIntercepted cfg datagram) := by
  refine .bind (calm_originalDst _) fun target => ?_
  cases target with
  | none => exact .pure ()
  | some address =>
      dsimp only
      split
      · exact .pure ()
      · split
        · refine .bind .read fun s => ?_
          split
          · exact .bind (calm_getPeer _) fun _ => calm_sendData _ _ _
          · exact calm_sendPlain _ _
        · exact .bind (calm_getSpoofSock _) fun _ => calm_spoofSendto _ _ _

theorem calm_drainIntercept (cfg : Config) : Calm (drainIntercept cfg) := by
  have loops (fuel : Nat) : Calm (drainLoop cfg fuel) := by
    induction fuel with
    | zero => exact .pure ()
    | succ fuel ih =>
        refine .bind calm_recvmsg fun received => ?_
        cases received with
        | none => exact .pure ()
        | some datagram => exact .bind (calm_forwardIntercepted cfg datagram) fun _ => ih
  exact .bind .read fun _ => loops _

theorem calm_retransmit (now : Int) (ip : Ip) (seq : Nat) (sentAt : Int) (packet : Bytes)
    : Calm (retransmit now ip seq sentAt packet) := by
  refine .bind .read fun s => ?_
  split
  · exact .bind (calm_tunnelSendto _ _) fun _ => calm_modifyPeer _ _
  · exact .pure ()

-----------------------------------------------------------------------------------------
-- The artifact
-----------------------------------------------------------------------------------------

theorem calm_decode (bytes : Bytes) : Calm (decode bytes) := by
  unfold decode
  split
  · exact .pure _
  · exact .raise _

theorem calm_buildArtifact (cfg : Config) (status : Status) : Calm (buildArtifact cfg status) := by
  refine .bind .read fun s => .bind ?_ fun _ => .pure _
  unfold artifactId
  split
  · exact .pure _
  · exact .pure _
  · exact .bind (calm_decode _) fun _ => .pure _

-----------------------------------------------------------------------------------------
-- Callbacks
-----------------------------------------------------------------------------------------

theorem calm_logOvertaking (packet : Sidecar → PeerPacket)
    : Calm (update fun s => s.logOvertaking (packet s)) := by
  refine .update fun s => ?_
  unfold Sidecar.logOvertaking
  split <;> rfl

/-- What undisturbed procedures and the events of the controller keep, every callback keeps. -/
structure Sweeps (cfg : Config) (inv raised : Sidecar → Prop) : Prop where
  calm : ∀ {α : Type} {body : Py α}, Calm body → Keeps inv body raised
  event : ∀ event, Keeps inv (ControllerEvent.run cfg event) raised

namespace Sweeps

variable {cfg : Config} {inv raised : Sidecar → Prop} (sweeps : Sweeps cfg inv raised)

include sweeps

theorem passPacket (ip : Ip) (held : Held) : Keeps inv (passPacket cfg ip held) raised := by
  have consumes : Calm (update fun s => s.logConsumed ⟨ip, (s.peer ip).recvSeq, held⟩) :=
    .update fun _ => rfl
  refine .readThen fun s _ => ?_
  refine (sweeps.calm (calm_logOvertaking fun s => ⟨ip, (s.peer ip).recvSeq, held⟩)).bind fun _ => ?_
  refine (sweeps.event (.arrival ⟨ip, (s.peer ip).recvSeq, held⟩)).bind fun _ => ?_
  exact (sweeps.calm consumes).bind fun _ => sweeps.calm (calm_modifyPeer ip _)

theorem flushBuffer (ip : Ip) (fuel : Nat) : Keeps inv (flushBuffer cfg ip fuel) raised := by
  induction fuel with
  | zero => exact .pure fun _ after => after
  | succ fuel ih =>
      refine .readThen fun s _ => ?_
      split
      · exact .pure fun _ after => after
      · exact (sweeps.calm (calm_modifyPeer ip _)).bind fun _ =>
          (sweeps.passPacket ip _).bind fun _ => ih

theorem dataReceived (ip : Ip) (seq : Nat) (held : Held)
    : Keeps inv (dataReceived cfg ip seq held) raised := by
  refine (sweeps.calm (calm_tunnelSendto _ ip)).bind fun _ => .readThen fun s _ => ?_
  split
  · exact (sweeps.passPacket ip held).bind fun _ => .readThen fun s _ => sweeps.flushBuffer ip _
  · split
    · exact sweeps.calm (calm_modifyPeer ip _)
    · exact .pure fun _ after => after

theorem datagramReceived (packet : Bytes) (ip : Ip)
    : Keeps inv (datagramReceived cfg packet ip) raised := by
  refine (sweeps.calm (calm_getPeer ip)).bind fun _ => ?_
  split
  · exact sweeps.dataReceived ip _ _
  · exact sweeps.calm (calm_plainReceived ip _)
  · exact sweeps.calm (calm_modifyPeer ip _)
  · exact .pure fun _ after => after

theorem handleDatagram (datagram : Datagram) : Keeps inv (handleDatagram cfg datagram) raised := by
  unfold MeshSnapshot.handleDatagram
  split
  · exact sweeps.event (.start datagram.data)
  · exact sweeps.calm (calm_forwardIntercepted cfg datagram)

theorem handleLoop (fuel : Nat) : Keeps inv (handleLoop cfg fuel) raised := by
  induction fuel with
  | zero => exact .pure fun _ after => after
  | succ fuel ih =>
      refine (sweeps.calm calm_recvmsg).bind fun received => ?_
      cases received with
      | none => exact .pure fun _ after => after
      | some datagram => exact (sweeps.handleDatagram datagram).bind fun _ => ih

theorem retransmitRound : Keeps inv (retransmitRound cfg) raised := by
  refine (sweeps.calm calm_time).bind fun now => (sweeps.event .tick).bind fun _ => ?_
  refine .readThen fun s _ => sweeps.calm ?_
  exact .forEach _ fun (ip, peer) => .forEach _ fun (seq, sentAt, packet) =>
    calm_retransmit now ip seq sentAt packet

theorem run (callback : Callback) : Keeps inv (callback.run cfg) raised := by
  cases callback with
  | emit datagrams => exact sweeps.calm (.update fun _ => rfl)
  | send dst message =>
      exact (sweeps.calm (calm_getPeer dst)).bind fun _ =>
        sweeps.calm (calm_sendData dst message .direct)
  | intercept => exact .readThen fun s _ => sweeps.handleLoop _
  | received packet src => exact sweeps.datagramReceived packet src
  | retransmit => exact sweeps.retransmitRound

end Sweeps

end MeshSnapshot
