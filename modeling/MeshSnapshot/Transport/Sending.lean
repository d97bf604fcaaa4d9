import MeshSnapshot.Sidecar.Frames
import MeshSnapshot.Transport.Views

/-! Whatever a sidecar does between two packets of a stream, its links only see it send.
This covers `process_message` as a whole, however it ends: draining, markers, the artifact,
and the replay of recorded messages.
-/

namespace MeshSnapshot.Transport

open Procedure

-----------------------------------------------------------------------------------------
-- Changes that no link can see
-----------------------------------------------------------------------------------------

/-- Peers, tunnel traffic, and the record of passed packets are as before. -/
structure Quiet (s s' : Sidecar) : Prop where
  peer : ∀ ip, s'.peer ip = s.peer ip
  wire : s'.trace.wire = s.trace.wire
  sent : s'.trace.sent = s.trace.sent
  consumed : s'.trace.consumed = s.trace.consumed

theorem Quiet.trans {a b c : Sidecar} (first : Quiet a b) (second : Quiet b c) : Quiet a c :=
  ⟨fun ip => (second.peer ip).trans (first.peer ip), second.wire.trans first.wire,
    second.sent.trans first.sent, second.consumed.trans first.consumed⟩

/-- A procedure that no link can see, however it ends. -/
abbrev Quietly {α : Type} (body : Py α) : Prop := Within Quiet body

theorem quiet_of_sameCore {s s' : Sidecar} (same : SameCore s s') : Quiet s s' where
  peer := same.peer
  wire := same.wire
  sent := congrArg Journal.sent same.journal
  consumed := congrArg Journal.consumed same.journal

theorem quietly_of_framed {α : Type} {body : Py α} (framed : Framed body) : Quietly body :=
  fun s => quiet_of_sameCore (framed s)

namespace Quietly

variable {α β : Type}

theorem pure (a : α) : Quietly (Pure.pure a : Py α) := quietly_of_framed (.pure a)

theorem read : Quietly Procedure.read := quietly_of_framed .read

theorem bind {x : Py α} {f : α → Py β} (first : Quietly x) (second : ∀ a, Quietly (f a))
    : Quietly (x >>= f) :=
  Within.bind Quiet.trans first second

theorem attempt {body : Py α} {handler : PyErr → Py α} (tried : Quietly body)
    (handled : ∀ e, Quietly (handler e)) : Quietly (Procedure.attempt body handler) :=
  Within.attempt Quiet.trans tried handled

end Quietly

/-- An update outside the peers, the wire and the two logs. -/
theorem quietly_update {change : Sidecar → Sidecar}
    (same
      : ∀ s,
          (change s).peers = s.peers ∧ (change s).trace.wire = s.trace.wire
          ∧ (change s).trace.sent = s.trace.sent ∧ (change s).trace.consumed = s.trace.consumed)
    : Quietly (update change) := by
  intro s
  obtain ⟨peers, wire, sent, consumed⟩ := same s
  exact ⟨fun _ => by simp only [update_run, final, Sidecar.peer, peers], wire, sent, consumed⟩

theorem quietly_modifyCtrl (change : SnapshotController → SnapshotController)
    : Quietly (modifyCtrl change) :=
  quietly_update fun _ => ⟨rfl, rfl, rfl, rfl⟩

-----------------------------------------------------------------------------------------
-- Sending
-----------------------------------------------------------------------------------------

/-- The moves of a sending half; `acked` holds of the numbers that may be confirmed. -/
inductive SenderView.Step (acked : Nat → Prop) (view : SenderView) : SenderView → Prop where
  | send {held : Held} {packet : Bytes}
    (framed : parseFrame packet = .data view.sendSeq held)
    : Step acked view (view.send held packet)
  | resend {seq : Nat} {held : Held} {packet : Bytes}
    (found : view.unacked seq = some packet) (framed : parseFrame packet = .data seq held)
    : Step acked view (view.resend seq held)
  | confirm {seq : Nat} (confirmed : acked seq) : Step acked view (view.confirm seq)

abbrev SenderView.Steps (acked : Nat → Prop) : SenderView → SenderView → Prop :=
  Relation.ReflTransGen (SenderView.Step acked)

/-- A link stays sound while its sender moves and its receiver rests. -/
theorem LinkOk.steps {history : List Held} {hand : Option Held} {sender sender' : SenderView}
    {receiver : ReceiverView} (ok : LinkOk history hand sender receiver)
    (steps : SenderView.Steps (· ∈ receiver.acks) sender sender')
    : LinkOk history hand sender' receiver := by
  induction steps with
  | refl => exact ok
  | tail _ step ih =>
      cases step with
      | send framed => exact ih.send framed
      | resend found framed =>
          obtain ⟨held, logged, parsed⟩ := ih.packets found
          obtain ⟨-, rfl⟩ := Frame.data.inj (framed.symm.trans parsed)
          exact ih.resend logged
      | confirm confirmed => exact ih.confirm confirmed

/-- Every link only sees its sender send. -/
structure Sends (s s' : Sidecar) : Prop where
  sender
    : ∀ dst, SenderView.Steps (fun _ => False) (senderView s dst) (senderView s' dst)
  receiver : ∀ src, receiverView s' src = receiverView s src

theorem Sends.refl (s : Sidecar) : Sends s s := ⟨fun _ => .refl, fun _ => rfl⟩

theorem Sends.trans {a b c : Sidecar} (first : Sends a b) (second : Sends b c) : Sends a c :=
  ⟨fun dst => (first.sender dst).trans (second.sender dst),
    fun src => (second.receiver src).trans (first.receiver src)⟩

theorem Quiet.senderView {s s' : Sidecar} (quiet : Quiet s s') (ip : Ip)
    : senderView s' ip = Transport.senderView s ip := by
  simp only [Transport.senderView, sentTo, quiet.peer, quiet.wire, quiet.sent]

theorem Quiet.receiverView {s s' : Sidecar} (quiet : Quiet s s') (ip : Ip)
    : receiverView s' ip = Transport.receiverView s ip := by
  simp only [Transport.receiverView, consumedFrom, quiet.peer, quiet.wire, quiet.consumed]

theorem Quiet.sends {s s' : Sidecar} (quiet : Quiet s s') : Sends s s' where
  sender dst := quiet.senderView dst ▸ .refl
  receiver := quiet.receiverView

/-- A procedure of which the links only see sending, however it ends. -/
abbrev Sending {α : Type} (body : Py α) : Prop := Within Sends body

namespace Sending

variable {α β : Type}

theorem pure (a : α) : Sending (Pure.pure a : Py α) := Within.pure Sends.refl a

theorem raise (error : PyErr) : Sending (Procedure.raise error : Py α) :=
  Within.raise Sends.refl error

theorem read : Sending Procedure.read := Within.read Sends.refl

theorem bind {x : Py α} {f : α → Py β} (first : Sending x) (second : ∀ a, Sending (f a))
    : Sending (x >>= f) :=
  Within.bind Sends.trans first second

theorem forEach {body : α → Py Unit} (items : List α) (each : ∀ item, Sending (body item))
    : Sending (Procedure.forEach body items) :=
  Within.forEach Sends.refl Sends.trans items fun item _ => each item

theorem of_quietly {body : Py α} (quietly : Quietly body) : Sending body :=
  fun s => (quietly s).sends

theorem of_framed {body : Py α} (framed : Framed body) : Sending body :=
  of_quietly (quietly_of_framed framed)

end Sending

-----------------------------------------------------------------------------------------
-- `send_data` and `send_plain`
-----------------------------------------------------------------------------------------

/-- `send_data` appends to the stream of its destination and leaves the others alone. -/
theorem sending_sendData (peerIp : Ip) (message : Message) (origin : SendOrigin)
    : Sending (sendData peerIp message origin) := by
  intro s
  have outcome := sendData_outcome peerIp message origin s
  revert outcome
  cases sendData peerIp message origin s with
  | error error s' => exact fun same => (quiet_of_sameCore same).sends
  | ok u s' =>
      rintro ⟨packet, now, built, core⟩
      have framed := parseFrame_dataPacket built
      have peer : s'.peer = _ := congrArg Core.peer core
      have wire : s'.trace.wire = s.trace.wire ++ [(packet, peerIp)] := congrArg Core.wire core
      have sent : s'.trace.sent = s.trace.sent ++ [⟨peerIp, message, origin, s.trace.reads⟩] :=
        congrArg (fun core => core.journal.sent) core
      have consumed : s'.trace.consumed = s.trace.consumed :=
        congrArg (fun core => core.journal.consumed) core
      refine ⟨fun dst => ?_, fun src => ?_⟩
      · by_cases here : dst = peerIp
        · subst here
          have viewed : senderView s' dst = (senderView s dst).send message.held packet := by
            refine SenderView.ext ?_ ?_ ?_ ?_
            · simp [senderView, sentTo, sent, SenderView.send]
            · simp [senderView, peer, Core.sendData, SenderView.send, Sidecar.core]
            · funext seq
              by_cases last : seq = (s.peer dst).sendSeq <;>
                simp [senderView, peer, Core.sendData, SenderView.send, Sidecar.core, last]
            · simp only [senderView, wire, SenderView.send, dataTo_append_data framed]
          simp only [final, viewed]
          exact .single (.send framed)
        · have viewed : senderView s' dst = senderView s dst := by
            simp only [senderView, sentTo, peer, wire, sent, dataTo_append_other here]
            simp [Core.sendData, Sidecar.core, here, eq_comm (a := peerIp)]
          simp only [final, viewed]
          exact .refl
      · have noAck (seq : Nat) : parseFrame packet ≠ .ack seq := by simp [framed]
        simp only [final, receiverView, consumedFrom, wire, consumed, peer,
          acksTo_append_else noAck]
        by_cases here : src = peerIp <;> simp [Core.sendData, Sidecar.core, here]

/-- A packet that is neither data nor an acknowledgement belongs to no stream. -/
theorem quiet_wire {s : Sidecar} {packet : Bytes} {dst : Ip}
    (noData : ∀ seq held, parseFrame packet ≠ .data seq held)
    (noAck : ∀ seq, parseFrame packet ≠ .ack seq)
    : Sends s (s.putWire packet dst) where
  sender ip := by
    have viewed : senderView (s.putWire packet dst) ip = senderView s ip :=
      SenderView.ext rfl rfl rfl (dataTo_append_else noData)
    rw [viewed]
  receiver ip := ReceiverView.ext (acksTo_append_else noAck) rfl rfl rfl

theorem sending_sendPlain (peerIp : Ip) (message : Message)
    : Sending (sendPlain peerIp message) := by
  intro s
  simp only [sendPlain, bind_run]
  cases built : plainPacket message with
  | none => exact Sends.refl s
  | some packet =>
      simp only [orStructError, pure_run, tunnelSendto, bind_run, read_run]
      split
      · refine quiet_wire ?_ ?_ <;> simp [parseFrame_plainPacket built]
      · exact Sends.refl s

-----------------------------------------------------------------------------------------
-- The intercept socket
-----------------------------------------------------------------------------------------

theorem quietly_appPoint : Quietly appPoint := by
  refine .bind .read (fun s => ?_)
  split
  · exact .pure ()
  · exact quietly_update fun _ => ⟨rfl, rfl, rfl, rfl⟩

theorem quietly_recvmsg : Quietly recvmsg := by
  refine .bind quietly_appPoint fun _ => .bind (quietly_of_framed framed_outsideCall) fun _ =>
    .bind .read fun s => ?_
  split
  · exact .pure none
  · exact .bind (quietly_update fun _ => ⟨rfl, rfl, rfl, rfl⟩) fun _ => .pure _

theorem sending_forwardIntercepted (cfg : Config) (datagram : Datagram)
    : Sending (forwardIntercepted cfg datagram) := by
  refine .bind (.of_framed (framed_originalDst _)) fun target => ?_
  cases target with
  | none => exact .pure ()
  | some address =>
      dsimp only
      split
      · exact .pure ()
      · split
        · refine .bind .read fun s => ?_
          split
          · exact .bind (.of_framed (framed_getPeer _)) fun _ => sending_sendData _ _ _
          · exact sending_sendPlain _ _
        · exact .bind (.of_framed (framed_getSpoofSock _)) fun _ =>
            .of_framed (framed_spoofSendto _ _ _)

theorem sending_drainLoop (cfg : Config) (fuel : Nat) : Sending (drainLoop cfg fuel) := by
  induction fuel with
  | zero => exact .pure ()
  | succ fuel ih =>
      refine .bind (.of_quietly quietly_recvmsg) fun received => ?_
      cases received with
      | none => exact .pure ()
      | some datagram => exact .bind (sending_forwardIntercepted cfg datagram) fun _ => ih

theorem sending_drainIntercept (cfg : Config) : Sending (drainIntercept cfg) :=
  .bind .read fun _ => sending_drainLoop cfg _

-----------------------------------------------------------------------------------------
-- The controller
-----------------------------------------------------------------------------------------

theorem quietly_logControl (event : ControlEvent) : Quietly (logControl event) :=
  quietly_update fun _ => ⟨rfl, rfl, rfl, rfl⟩

theorem quietly_deliver (ip : Ip) (seq : Nat) (held : Held) : Quietly (deliver ip seq held) :=
  .bind (quietly_of_framed (framed_getSpoofSock _)) fun _ =>
    .bind (quietly_of_framed (framed_spoofSendto _ _ _)) fun _ =>
      quietly_update fun _ => ⟨rfl, rfl, rfl, rfl⟩

theorem quietly_selfMeshIp (cfg : Config) : Quietly (selfMeshIp cfg) := by
  unfold selfMeshIp
  split
  · exact .pure _
  · refine .bind .read fun s => ?_
    split
    · exact .pure _
    · refine .attempt ?_ fun _ => .pure _
      exact .bind (quietly_of_framed framed_outsideCall) fun _ =>
        .bind (quietly_of_framed (framed_firstMember _)) fun _ =>
          .bind (quietly_modifyCtrl _) fun _ => .pure _

theorem quietly_triggerAppSnapshot (cfg : Config) (markerId : Bytes) (snapshotId : String)
    : Quietly (triggerAppSnapshot cfg markerId snapshotId) :=
  .bind quietly_appPoint fun _ => .bind (quietly_of_framed framed_outsideAnswer) fun _ =>
    .bind .read fun _ => .bind (quietly_logControl _) fun _ => quietly_appPoint

theorem quietly_postArtifact (artifact : Artifact) : Quietly (postArtifact artifact) :=
  .bind (quietly_of_framed framed_outsideAnswer) fun _ => .bind (quietly_logControl _) fun _ =>
    .pure _

theorem quietly_recordMessage (remoteIp : Ip) (seq : Nat) (held : Held)
    : Quietly (recordMessage remoteIp seq held) := by
  refine .bind .read fun s => ?_
  split
  · exact quietly_of_framed (.raise _)
  · exact quietly_modifyCtrl _

theorem sending_sendMarker (payload : Bytes) (peerIp : Ip)
    : Sending (sendMarker payload peerIp) :=
  .bind (.of_framed (framed_getPeer _)) fun _ => .bind (sending_sendData _ _ _) fun _ =>
    .of_quietly (quietly_update fun _ => ⟨rfl, rfl, rfl, rfl⟩)

theorem quietly_closeOrigin (members : List Ip) (remoteIp : Ip) (seq : Nat)
    : Quietly (closeOrigin members remoteIp seq) := by
  unfold closeOrigin
  split
  · exact quietly_modifyCtrl _
  · exact .pure ()

section Reenter

variable {reenter : Ip → Nat → Held → Py Unit}
  (reenters : ∀ ip seq held, Sending (reenter ip seq held))

include reenters

theorem sending_flushAndReset : Sending (flushAndReset reenter) := by
  refine .bind (.of_quietly (quietly_modifyCtrl _)) fun _ => .bind .read fun s =>
    .bind (.forEach _ fun entry => ?_) fun _ => .of_quietly (quietly_modifyCtrl _)
  exact .bind (.of_quietly (quietly_modifyCtrl _)) fun _ => .forEach _ fun _ => reenters _ _ _

theorem sending_finishGlobalSnapshot (cfg : Config)
    : Sending (finishGlobalSnapshot cfg reenter) :=
  .bind (.of_framed (framed_buildArtifact _ _)) fun _ =>
    .bind (.of_quietly (quietly_postArtifact _)) fun _ => sending_flushAndReset reenters

theorem sending_abortSnapshot (cfg : Config) : Sending (abortSnapshot cfg reenter) :=
  .bind (.of_framed (framed_buildArtifact _ _)) fun _ =>
    .bind (.of_quietly (quietly_postArtifact _)) fun _ => sending_flushAndReset reenters

theorem sending_finishIfClosed (cfg : Config) : Sending (finishIfClosed cfg reenter) := by
  refine .bind .read fun s => ?_
  split
  · exact sending_finishGlobalSnapshot reenters cfg
  · exact .pure ()

theorem sending_startSnapshot (cfg : Config) (remoteIp : Ip) (seq : Nat)
    (payload markerId : Bytes)
    : Sending (startSnapshot cfg reenter remoteIp seq payload markerId) := by
  refine .bind (.of_quietly (quietly_modifyCtrl _)) fun _ => .bind .read fun _ => ?_
  refine .bind (.of_quietly (quietly_logControl _)) fun _ => ?_
  refine .bind (.of_quietly (quietly_selfMeshIp _)) fun _ => ?_
  refine .bind (.of_quietly (quietly_modifyCtrl _)) fun _ => ?_
  refine .bind (sending_drainIntercept _) fun _ => ?_
  refine .bind (.of_framed (framed_decode _)) fun _ => ?_
  refine .bind (.of_quietly (quietly_triggerAppSnapshot _ _ _)) fun _ => ?_
  refine .bind (.forEach _ (sending_sendMarker payload)) fun _ => ?_
  refine .bind (.of_quietly (quietly_modifyCtrl _)) fun _ => ?_
  refine .bind (.of_quietly (quietly_closeOrigin _ _ _)) fun _ => ?_
  refine .bind (.of_framed framed_time) fun _ => ?_
  exact .bind (.of_quietly (quietly_modifyCtrl _)) fun _ => sending_finishIfClosed reenters cfg

theorem sending_receiveMarker (cfg : Config) (remoteIp : Ip) (seq : Nat) (markerId : Bytes)
    : Sending (receiveMarker cfg reenter remoteIp seq markerId) := by
  refine .bind .read fun s => ?_
  split
  · exact .bind (.of_framed (framed_decode _)) fun _ => .pure ()
  · split
    · exact .bind (.of_quietly (quietly_modifyCtrl _)) fun _ =>
        sending_finishIfClosed reenters cfg
    · exact .pure ()

theorem sending_handleMarker (cfg : Config) (remoteIp : Ip) (seq : Nat)
    (payload markerId : Bytes)
    : Sending (handleMarker cfg reenter remoteIp seq payload markerId) := by
  refine .bind .read fun s => .bind (.of_quietly (quietly_logControl _)) fun _ => ?_
  split
  · exact sending_receiveMarker reenters cfg remoteIp seq markerId
  · exact sending_startSnapshot reenters cfg remoteIp seq payload markerId

end Reenter

/-- By induction on the calls that may still nest. -/
theorem sending_processMessage (cfg : Config) (depth : Nat) (remoteIp : Ip) (seq : Nat)
    (held : Held) : Sending (processMessage cfg depth remoteIp seq held) := by
  induction depth generalizing remoteIp seq held with
  | zero => exact .raise _
  | succ depth ih =>
      unfold processMessage
      split
      · refine .bind (sending_handleMarker (fun ip seq held => ?_) _ _ _ _ _) fun _ => .pure _
        refine .bind (ih ip seq held) fun consumed => ?_
        split
        · exact .pure ()
        · exact .of_quietly (quietly_deliver _ _ _)
      · refine .bind .read fun s => ?_
        split
        · exact .bind (.of_quietly (quietly_recordMessage _ _ _)) fun _ => .pure _
        · exact .pure _

theorem sending_processAndDeliver (cfg : Config) (depth : Nat) (ip : Ip) (seq : Nat)
    (held : Held) : Sending (processAndDeliver cfg depth ip seq held) := by
  refine .bind (sending_processMessage cfg depth ip seq held) fun consumed => ?_
  split
  · exact .pure ()
  · exact .of_quietly (quietly_deliver _ _ _)

theorem sending_checkTimeout (cfg : Config) : Sending (checkTimeout cfg) := by
  refine .bind .read fun s => ?_
  split
  · refine .bind (.of_framed framed_time) fun now => ?_
    split
    · exact sending_abortSnapshot (sending_processAndDeliver cfg callDepth) cfg
    · exact .pure ()
  · exact .pure ()

theorem sending_handleStart (cfg : Config) (data : Bytes) : Sending (handleStart cfg data) := by
  refine .bind (.of_framed (framed_startId data)) fun id => ?_
  refine .bind (.of_quietly (quietly_logControl _)) fun _ => ?_
  exact .bind (sending_processMessage cfg _ _ _ _) fun _ => .pure ()

theorem sending_handleLoop (cfg : Config) (fuel : Nat) : Sending (handleLoop cfg fuel) := by
  induction fuel with
  | zero => exact .pure ()
  | succ fuel ih =>
      refine .bind (.of_quietly quietly_recvmsg) fun received => ?_
      cases received with
      | none => exact .pure ()
      | some datagram =>
          refine .bind ?_ fun _ => ih
          unfold handleDatagram
          split
          · exact sending_handleStart cfg datagram.data
          · exact sending_forwardIntercepted cfg datagram

end MeshSnapshot.Transport
