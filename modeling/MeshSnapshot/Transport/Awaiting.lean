import MeshSnapshot.Transport.Sending

/-! Whatever contains all sending contains `check_timeout`, with the abort, the replay and the
snapshots that the replay may start. So the packets that are pending are still pending after it,
since the same times.
-/

namespace MeshSnapshot.Transport

open Procedure

/-- A relation within which a sidecar stays while its links only see it send. -/
structure ContainsSends (relation : Sidecar → Sidecar → Prop) : Prop where
  quiet : ∀ {s s' : Sidecar}, Quiet s s' → relation s s'
  trans : ∀ {a b c : Sidecar}, relation a b → relation b c → relation a c
  sendData : ∀ ip message origin, Within relation (sendData ip message origin)
  sendPlain : ∀ ip message, Within relation (sendPlain ip message)

namespace ContainsSends

variable {α β : Type} {relation : Sidecar → Sidecar → Prop}
  (contains : ContainsSends relation)

include contains

theorem refl (s : Sidecar) : relation s s := contains.quiet (quiet_of_sameCore (.refl s))

theorem quietly {body : Py α} (quietly : Quietly body) : Within relation body :=
  fun s => contains.quiet (quietly s)

theorem framed {body : Py α} (framed : Framed body) : Within relation body :=
  contains.quietly (quietly_of_framed framed)

theorem pure (a : α) : Within relation (Pure.pure a : Py α) := contains.framed (.pure a)

theorem bind {x : Py α} {f : α → Py β} (first : Within relation x)
    (second : ∀ a, Within relation (f a)) : Within relation (x >>= f) :=
  Within.bind contains.trans first second

theorem readBind {f : Sidecar → Py β} (second : ∀ s, Within relation (f s))
    : Within relation (read >>= f) :=
  contains.bind (contains.framed .read) second

theorem forEach {body : α → Py Unit} (items : List α) (each : ∀ item, Within relation (body item))
    : Within relation (Procedure.forEach body items) :=
  Within.forEach contains.refl contains.trans items fun item _ => each item

theorem modifyCtrl (change : SnapshotController → SnapshotController)
    : Within relation (modifyCtrl change) :=
  contains.quietly (quietly_modifyCtrl change)

theorem forwardIntercepted (cfg : Config) (datagram : Datagram)
    : Within relation (forwardIntercepted cfg datagram) := by
  refine contains.bind (contains.framed (framed_originalDst _)) fun target => ?_
  cases target with
  | none => exact contains.pure ()
  | some address =>
      dsimp only
      split
      · exact contains.pure ()
      · split
        · refine contains.readBind fun s => ?_
          split
          · exact contains.bind (contains.framed (framed_getPeer _)) fun _ =>
              contains.sendData _ _ _
          · exact contains.sendPlain _ _
        · exact contains.bind (contains.framed (framed_getSpoofSock _)) fun _ =>
            contains.framed (framed_spoofSendto _ _ _)

theorem drainIntercept (cfg : Config) : Within relation (drainIntercept cfg) := by
  have loops (fuel : Nat) : Within relation (drainLoop cfg fuel) := by
    induction fuel with
    | zero => exact contains.pure ()
    | succ fuel ih =>
        refine contains.bind (contains.quietly quietly_recvmsg) fun received => ?_
        cases received with
        | none => exact contains.pure ()
        | some datagram =>
            exact contains.bind (contains.forwardIntercepted cfg datagram) fun _ => ih
  exact contains.readBind fun s => loops _

theorem sendMarker (payload : Bytes) (ip : Ip) : Within relation (sendMarker payload ip) :=
  contains.bind (contains.framed (framed_getPeer ip)) fun _ =>
    contains.bind (contains.sendData _ _ _) fun _ =>
      contains.quietly (quietly_update fun _ => ⟨rfl, rfl, rfl, rfl⟩)

section Reenter

variable {reenter : Ip → Nat → Held → Py Unit}
  (again : ∀ ip seq held, Within relation (reenter ip seq held)) (cfg : Config)

include again

/-- The end of a snapshot, complete or aborted. -/
theorem finish (status : Status)
    : Within relation (do
        let artifact ← buildArtifact cfg status
        let _ ← postArtifact artifact
        flushAndReset reenter : Py Unit) := by
  refine contains.bind (contains.framed (framed_buildArtifact _ _)) fun artifact => ?_
  refine contains.bind (contains.quietly (quietly_postArtifact _)) fun _ => ?_
  refine contains.bind (contains.modifyCtrl _) fun _ => contains.readBind fun s => ?_
  refine contains.bind (contains.forEach _ fun entry => ?_) fun _ => contains.modifyCtrl _
  exact contains.bind (contains.modifyCtrl _) fun _ => contains.forEach _ fun _ => again _ _ _

theorem finishIfClosed : Within relation (finishIfClosed cfg reenter) := by
  refine contains.readBind fun s => ?_
  split
  · exact contains.finish again cfg .complete
  · exact contains.pure ()

theorem startSnapshot (remoteIp : Ip) (seq : Nat) (payload markerId : Bytes)
    : Within relation (startSnapshot cfg reenter remoteIp seq payload markerId) := by
  refine contains.bind (contains.modifyCtrl _) fun _ => contains.readBind fun _ => ?_
  refine contains.bind (contains.quietly (quietly_logControl _)) fun _ => ?_
  refine contains.bind (contains.quietly (quietly_selfMeshIp _)) fun _ => ?_
  refine contains.bind (contains.modifyCtrl _) fun _ => ?_
  refine contains.bind (contains.drainIntercept _) fun _ => ?_
  refine contains.bind (contains.framed (framed_decode _)) fun _ => ?_
  refine contains.bind (contains.quietly (quietly_triggerAppSnapshot _ _ _)) fun _ => ?_
  refine contains.bind (contains.forEach _ (contains.sendMarker payload)) fun _ => ?_
  refine contains.bind (contains.modifyCtrl _) fun _ => ?_
  refine contains.bind (contains.quietly (quietly_closeOrigin _ _ _)) fun _ => ?_
  refine contains.bind (contains.framed framed_time) fun _ => ?_
  exact contains.bind (contains.modifyCtrl _) fun _ => contains.finishIfClosed again cfg

theorem handleMarker (remoteIp : Ip) (seq : Nat) (payload markerId : Bytes)
    : Within relation (handleMarker cfg reenter remoteIp seq payload markerId) := by
  refine contains.readBind fun s =>
    contains.bind (contains.quietly (quietly_logControl _)) fun _ => ?_
  split
  · refine contains.readBind fun s => ?_
    split
    · exact contains.bind (contains.framed (framed_decode _)) fun _ => contains.pure ()
    · split
      · exact contains.bind (contains.modifyCtrl _) fun _ => contains.finishIfClosed again cfg
      · exact contains.pure ()
  · exact contains.startSnapshot again cfg remoteIp seq payload markerId

end Reenter

/-- By induction on the calls that may still nest. -/
theorem processMessage (cfg : Config) (depth : Nat) (ip : Ip) (seq : Nat) (held : Held)
    : Within relation (processMessage cfg depth ip seq held) := by
  induction depth generalizing ip seq held with
  | zero => exact contains.framed (.raise _)
  | succ depth ih =>
      unfold MeshSnapshot.processMessage
      split
      · refine contains.bind (contains.handleMarker (fun ip seq held => ?_) _ _ _ _ _) fun _ =>
          contains.pure _
        refine contains.bind (ih ip seq held) fun consumed => ?_
        split
        · exact contains.pure ()
        · exact contains.quietly (quietly_deliver _ _ _)
      · refine contains.readBind fun s => ?_
        split
        · exact contains.bind (contains.quietly (quietly_recordMessage _ _ _)) fun _ =>
            contains.pure _
        · exact contains.pure _

theorem processAndDeliver (cfg : Config) (depth : Nat) (ip : Ip) (seq : Nat) (held : Held)
    : Within relation (processAndDeliver cfg depth ip seq held) := by
  refine contains.bind (contains.processMessage cfg depth ip seq held) fun consumed => ?_
  split
  · exact contains.pure ()
  · exact contains.quietly (quietly_deliver _ _ _)

theorem checkTimeout (cfg : Config) : Within relation (checkTimeout cfg) := by
  refine contains.readBind fun s => ?_
  split
  · refine contains.bind (contains.framed framed_time) fun now => ?_
    split
    · exact contains.finish (contains.processAndDeliver cfg callDepth) cfg .aborted
    · exact contains.pure ()
  · exact contains.pure ()

end ContainsSends

/-- Every pending packet stays pending, since the same time, and what was sent stays sent. -/
structure Awaits (s s' : Sidecar) : Prop where
  sendSeq : ∀ dst, (s.peer dst).sendSeq ≤ (s'.peer dst).sendSeq
  unacked
    : ∀ dst, ∀ seq < (s.peer dst).sendSeq,
        (s'.peer dst).unacked.get? seq = (s.peer dst).unacked.get? seq
  wire : s.trace.wire <+: s'.trace.wire

theorem Quiet.awaits {s s' : Sidecar} (quiet : Quiet s s') : Awaits s s' where
  sendSeq dst := (quiet.peer dst) ▸ Nat.le_refl _
  unacked dst seq _ := by rw [quiet.peer]
  wire := quiet.wire ▸ List.prefix_rfl

theorem Awaits.trans {a b c : Sidecar} (first : Awaits a b) (second : Awaits b c) : Awaits a c where
  sendSeq dst := Nat.le_trans (first.sendSeq dst) (second.sendSeq dst)
  unacked dst seq sent :=
    (second.unacked dst seq (Nat.lt_of_lt_of_le sent (first.sendSeq dst))).trans
      (first.unacked dst seq sent)
  wire := first.wire.trans second.wire

theorem awaits_sendData (ip : Ip) (message : Message) (origin : SendOrigin)
    : Within Awaits (sendData ip message origin) := by
  intro s
  have outcome := sendData_outcome ip message origin s
  cases ended : sendData ip message origin s with
  | error error s' =>
      rw [ended] at outcome
      exact (quiet_of_sameCore outcome).awaits
  | ok u s' =>
      rw [ended] at outcome
      obtain ⟨packet, now, -, core⟩ := outcome
      have peer : s'.peer = _ := congrArg Core.peer core
      have wire : s'.trace.wire = s.trace.wire ++ [(packet, ip)] := congrArg Core.wire core
      refine ⟨fun dst => ?_, fun dst seq sent => ?_, ?_⟩
      · by_cases here : dst = ip
        · subst here
          simp [final, peer, Core.sendData, Sidecar.core]
        · simp [final, peer, Core.sendData, Sidecar.core, here]
      · by_cases here : dst = ip
        · subst here
          simp [final, peer, Core.sendData, Sidecar.core, Nat.ne_of_lt sent]
        · simp [final, peer, Core.sendData, Sidecar.core, here]
      · exact wire ▸ List.prefix_append _ _

theorem awaits_sendPlain (ip : Ip) (message : Message) : Within Awaits (sendPlain ip message) := by
  intro s
  simp only [sendPlain, bind_run]
  cases plainPacket message with
  | none => exact (quiet_of_sameCore (.refl s)).awaits
  | some packet =>
      simp only [orStructError, pure_run, tunnelSendto, bind_run, read_run]
      split
      · exact ⟨fun _ => Nat.le_refl _, fun _ _ _ => rfl, List.prefix_append _ _⟩
      · exact (quiet_of_sameCore (.refl s)).awaits

theorem awaits_containsSends : ContainsSends Awaits where
  quiet := Quiet.awaits
  trans := Awaits.trans
  sendData := awaits_sendData
  sendPlain := awaits_sendPlain

end MeshSnapshot.Transport
