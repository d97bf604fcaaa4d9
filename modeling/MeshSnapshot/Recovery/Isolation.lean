import MeshSnapshot.Model.Rollout
import MeshSnapshot.Recovery.Resumption
import MeshSnapshot.Transport.Reliable

/-! A rollout keeps the old and the new incarnation of a mesh apart, as long as no datagram of the
old one tells a restored sidecar anything. Frames carry no incarnation, so the sidecars cannot see
to that themselves.
-/

namespace MeshSnapshot

open Procedure Transport

-----------------------------------------------------------------------------------------
-- Datagrams that tell nothing
-----------------------------------------------------------------------------------------

/-- A datagram that changes nothing that `s` knows of the peer: data that it has passed, or the
acknowledgement of nothing that waits for one.
-/
def Sidecar.Stale (s : Sidecar) (src : Ip) (packet : Bytes) : Prop :=
  match parseFrame packet with
  | .data seq _ => seq < (s.peer src).recvSeq
  | .ack seq => (s.peer src).unacked.get? seq = none
  | .plain _ | .ignored => True

instance (s : Sidecar) (src : Ip) (packet : Bytes) : Decidable (s.Stale src packet) := by
  unfold Sidecar.Stale
  split <;> infer_instance

namespace Transport

variable {cfg : Config} {s s' : Sidecar} {u : Unit} {packet : Bytes} {ip src dst : Ip}
  {callback : Callback} {host : Host} {history : List Held} {sender : SenderView}
  {receiver : ReceiverView}

/-- What a stale datagram changes: old data is acknowledged once more. -/
structure Reacknowledges (s s' : Sidecar) : Prop where
  sender : ∀ dst, senderView s' dst = senderView s dst
  receiver
    : ∀ src,
        receiverView s' src = receiverView s src
        ∨ ∃ seq < (receiverView s src).next,
            receiverView s' src = (receiverView s src).acknowledge seq

theorem Quiet.reacknowledges (quiet : Quiet s s') : Reacknowledges s s' :=
  ⟨quiet.senderView, fun src => .inl (quiet.receiverView src)⟩

theorem stale_data {seq : Nat} {held : Held} (fits : seq < 2 ^ 64)
    (returned : dataReceived cfg ip seq held s = .ok u s') (old : seq < (s.peer ip).recvSeq)
    : Reacknowledges s s' := by
  obtain ⟨_, s₁, acked, returned⟩ := bind_ok.mp returned
  obtain ⟨_, _, read, returned⟩ := bind_ok.mp returned
  obtain ⟨rfl, rfl⟩ := read_ok.mp read
  have viewed := tunnelSendto_view fits acked
  obtain rfl := tunnelSendto_ok acked
  have framed := parseFrame_packAck fits
  have old : seq < ((s.putWire (packAck seq) ip).peer ip).recvSeq := old
  rw [if_neg (Nat.ne_of_lt old), if_neg (Nat.not_lt_of_gt old)] at returned
  obtain ⟨-, rfl⟩ := pure_ok.mp returned
  refine ⟨fun dst => ?_, fun src => ?_⟩
  · exact SenderView.ext rfl rfl rfl (dataTo_append_else (by simp [framed]))
  · by_cases here : src = ip
    · subst here
      exact .inr ⟨seq, old, viewed⟩
    · exact .inl (ReceiverView.ext (acksTo_append_other here) rfl rfl rfl)

theorem stale_ack {seq : Nat} (framed : parseFrame packet = .ack seq)
    (returned : ackReceived ip seq s = .ok u s')
    (settled : (s.peer ip).unacked.get? seq = none)
    : Reacknowledges s s' := by
  have receivers := (ackReceived_moves returned framed).confirming ⟨packet, rfl, framed⟩
  refine ⟨fun dst => ?_, fun src => .inl (receivers src)⟩
  obtain rfl := modifyPeer_ok.mp returned
  by_cases here : dst = ip
  · subst here
    refine SenderView.ext rfl ?_ ?_ rfl
    · simp [senderView, Sidecar.peer_setPeer]
    · funext other
      by_cases same : other = seq
      · subst same
        simp [senderView, Sidecar.peer_setPeer, settled]
      · simp [senderView, Sidecar.peer_setPeer, same]
  · simp only [senderView, Sidecar.peer_setPeer, Function.update_of_ne here]
    rfl

theorem stale_received (stale : s.Stale src packet)
    (called : s.call cfg (.received packet src) host = some s')
    : Reacknowledges s s' := by
  have returned : datagramReceived cfg packet src { s with host } = .ok () s' :=
    Sidecar.call_eq_some.mp called
  obtain ⟨_, s₁, known, returned⟩ := bind_ok.mp returned
  have same := (framed_getPeer src).ok known
  have quiet : Quiet s s₁ := ⟨same.peer, same.wire, congrArg Journal.sent same.journal,
    congrArg Journal.consumed same.journal⟩
  have peer : s₁.peer src = s.peer src := same.peer src
  suffices changes : Reacknowledges s₁ s' from
    ⟨fun dst => (changes.sender dst).trans (quiet.senderView dst), fun other => by
      have changes := changes.receiver other
      rwa [quiet.receiverView other] at changes⟩
  unfold Sidecar.Stale at stale
  cases framed : parseFrame packet with
  | data seq held =>
      simp only [framed] at returned stale
      exact stale_data (parseFrame_data_lt framed) returned (peer ▸ stale)
  | ack seq =>
      simp only [framed] at returned stale
      exact stale_ack framed returned (peer ▸ stale)
  | plain held =>
      simp only [framed] at returned
      exact (quiet_of_sameCore ((framed_plainReceived src held).ok returned)).reacknowledges
  | ignored =>
      simp only [framed] at returned
      obtain ⟨-, rfl⟩ := pure_ok.mp returned
      exact (quiet_of_sameCore (.refl s₁)).reacknowledges

-----------------------------------------------------------------------------------------
-- The two halves of a link
-----------------------------------------------------------------------------------------

/-- Both halves of a link at the cut. -/
theorem linkRests_unsent (history : List Held)
    : LinkRests history (.unsent history.length) (.unheard history.length) := by
  have link : linkOf history none (.unsent history.length) (.unheard history.length)
      = SelectiveRepeat.Link.start history := by
    ext1
    case unacked =>
      ext seq
      simp [linkOf, SenderView.unsent, SelectiveRepeat.Link.start]
    case log => exact List.append_nil history
    case passed => exact List.append_nil history
    all_goals rfl
  exact {
    ok := {
      inv := link ▸ SelectiveRepeat.Link.Inv.start history
      counted := rfl
      packets := fun found => by cases found
    }
    absent := rfl
  }

/-- The receiving half keeps a link sound if the sending half has sent what it receives, unless
that is stale.
-/
theorem LinkRests.receives (rests : LinkRests history sender (receiverView s src))
    (called : s.call cfg callback host = some s') (framed : ∀ dst, (senderView s dst).Framed)
    (heard
      : ∀ packet,
          callback = .received packet src
          → (∀ seq held, parseFrame packet = .data seq held → (seq, held) ∈ sender.data)
            ∨ s.Stale src packet)
    : LinkRests history sender (receiverView s' src) := by
  by_cases stale : ∃ packet, callback = .received packet src ∧ s.Stale src packet
  · obtain ⟨packet, rfl, stale⟩ := stale
    rcases (stale_received stale called).receiver src with same | ⟨seq, old, acknowledges⟩
    · rwa [same]
    · rw [acknowledges]
      exact ⟨rests.ok.acknowledge (.inl old), rests.absent⟩
  · refine (call_moves called framed).receiver rests fun {packet seq held} isReceived parsed => ?_
    have sent := (heard packet isReceived).resolve_right fun old => stale ⟨packet, isReceived, old⟩
    exact sent seq held parsed

/-- The sending half keeps a link sound if the receiving half has sent the acknowledgement that it
receives, unless that is stale.
-/
theorem LinkRests.sends (rests : LinkRests history (senderView s dst) receiver)
    (called : s.call cfg callback host = some s') (framed : ∀ dst, (senderView s dst).Framed)
    (heard
      : ∀ packet,
          callback = .received packet dst
          → (∀ seq, parseFrame packet = .ack seq → seq ∈ receiver.acks) ∨ s.Stale dst packet)
    : LinkRests history (senderView s' dst) receiver := by
  by_cases stale : ∃ packet, callback = .received packet dst ∧ s.Stale dst packet
  · obtain ⟨packet, rfl, stale⟩ := stale
    rwa [(stale_received stale called).sender dst]
  · have steps := ((call_moves called framed).sender dst).mono_acked
      fun {seq} (acks : Acks callback dst seq) => by
        obtain ⟨packet, isReceived, parsed⟩ := acks
        have sent := (heard packet isReceived).resolve_right
          fun old => stale ⟨packet, isReceived, old⟩
        exact sent seq parsed
    exact ⟨rests.ok.steps steps, rests.absent⟩

/-- A packet that the sending half no longer keeps has been received. -/
theorem LinkRests.kept {r : Sidecar}
    (rests : LinkRests history (senderView s dst) (receiverView r src)) {k : Nat} {held : Held}
    (found : (sentTo s dst)[k]? = some held)
    : (∃ entry, (s.peer dst).unacked.get? (history.length + k) = some entry)
      ∨ (consumedFrom r src)[k]? = some held
      ∨ (r.peer src).recvBuffer.get? (history.length + k) = some held := by
  have inv := rests.ok.inv
  have logged : (history ++ sentTo s dst)[history.length + k]? = some held := by
    rw [List.getElem?_append_right (Nat.le_add_right _ _), Nat.add_sub_cancel_left, found]
  rcases Nat.lt_or_ge (history.length + k) (receiverView r src).next with passed | later
  · have shown := congrArg (fun list => list[history.length + k]?) inv.passedLogged
    simp only [linkOf] at shown
    rw [List.getElem?_append_right (Nat.le_add_right _ _), Nat.add_sub_cancel_left,
      List.getElem?_take_of_lt passed] at shown
    exact .inr (.inl (shown.trans logged))
  · rcases inv.retained logged later with waiting | buffered | ⟨-, inHand⟩
    · obtain ⟨packet, waiting⟩ := waiting
      obtain ⟨entry, waiting, -⟩ := Option.map_eq_some_iff.mp waiting
      exact .inl ⟨entry, waiting⟩
    · exact .inr (.inr buffered)
    · cases inHand

end Transport

-----------------------------------------------------------------------------------------
-- Rollouts
-----------------------------------------------------------------------------------------

namespace Rollout

variable {cfg : Ip → Config} {mesh : Mesh} {members : List Ip} {nodes : Ip → List Artifact}
  {snapshotId : String} {stored : Ip → Artifact} {rollout next : Rollout}

/-- A restored member takes over nothing from another incarnation. Its restore runs to its end, and
it has sent nothing over RUDP before.
-/
def Separates (cfg : Ip → Config) (nodes : Ip → List Artifact) (members : List Ip)
    (rollout : Rollout)
    : Action → Prop
  | .call node callback _ =>
      node ∈ members → node ∈ rollout.restored
      → ∀ packet, ∀ src ∈ members,
          src ≠ node
          → callback = .received packet src
          → src ∈ rollout.restored ∧ rollout.mesh.Sent src node packet
            ∨ (rollout.mesh node).Stale src packet
  | .restore node fresh host =>
      node ∈ members
      → fresh.Early (cfg node) (AllSpared (cfg node))
        ∧ ∃ s, restorePeers (cfg node) (some (nodes node)) { fresh with host } = .ok () s

/-- The sending half of a channel, which starts at the cut. -/
def sender (rollout : Rollout) (stored : Ip → Artifact) (source target : Ip) : SenderView :=
  if source ∈ rollout.restored then senderView (rollout.mesh source) target
  else .unsent ((stored source).cutTo target)

/-- The receiving half of a channel, which starts at the cut. -/
def receiver (rollout : Rollout) (stored : Ip → Artifact) (source target : Ip) : ReceiverView :=
  if target ∈ rollout.restored then receiverView (rollout.mesh target) source
  else .unheard ((stored target).cutFrom source)

/-- Every restored member goes on from its artifact, and the links between restored members are
sound, where a member that is not restored yet is as if it had just been restored.
-/
structure Coherent (members : List Ip) (stored : Ip → Artifact) (rollout : Rollout) : Prop where
  resumed
    : ∀ ip ∈ members, ip ∈ rollout.restored → (rollout.mesh ip).Resumed (stored ip)
  links
    : ∀ source ∈ members, ∀ target ∈ members,
        source ≠ target
        → ∃ history : List Held,
            history.length = (stored source).cutTo target
            ∧ LinkRests history (rollout.sender stored source target)
                (rollout.receiver stored source target)

/-- What is known of the artifacts: they stem from controllers, and the cuts of both ends agree. -/
structure Sources (cfg : Ip → Config) (nodes : Ip → List Artifact) (members : List Ip)
    (stored : Ip → Artifact)
    : Prop where
  built
    : ∀ ip ∈ members,
        ∃ ctrl : SnapshotController,
          ctrl.RecordsPlain ∧ ctrl.artifact? (cfg ip) (stored ip).status = some (stored ip)
          ∧ ownEntry (cfg ip) (nodes ip) = some (stored ip)
  listed
    : ∀ ip ∈ members, ∀ peer ∈ members, ip ≠ peer → ∃ entry, (stored ip).peer? peer = some entry
  aligned
    : ∀ source ∈ members, ∀ target ∈ members,
        source ≠ target → (stored source).cutTo target = (stored target).cutFrom source

theorem Coherent.start (sources : Sources cfg nodes members stored) (mesh : Mesh)
    : Coherent members stored { mesh } where
  resumed ip _ restored := by cases restored
  links source sourceMember target targetMember distinct := by
    let blank : Held := ⟨[], 0, 0, ""⟩
    have rests := linkRests_unsent (List.replicate ((stored source).cutTo target) blank)
    refine ⟨List.replicate ((stored source).cutTo target) blank, List.length_replicate, ?_⟩
    rw [List.length_replicate] at rests
    simp only [sender, receiver, List.not_mem_nil, if_false,
      ← sources.aligned source sourceMember target targetMember distinct]
    exact rests

/-- A callback on a coherent rollout. -/
theorem Coherent.call (coherent : Coherent members stored rollout) {node : Ip}
    {callback : Callback} {host : Host} {s' : Sidecar}
    (met : rollout.Separates cfg nodes members (.call node callback host))
    (called : (rollout.mesh node).call (cfg node) callback host = some s')
    : Coherent members stored { rollout with mesh := Function.update rollout.mesh node s' } where
  resumed ip member restored := by
    have before := coherent.resumed ip member restored
    change (Function.update rollout.mesh node s' ip).Resumed (stored ip)
    by_cases here : ip = node
    · subst here
      rw [Function.update_self]
      exact before.call called
    · rw [Function.update_of_ne here]
      exact before
  links source sourceMember target targetMember distinct := by
    obtain ⟨history, length, rests⟩ :=
      coherent.links source sourceMember target targetMember distinct
    refine ⟨history, length, ?_⟩
    by_cases sends : source = node
    · subst sends
      have others : receiver { rollout with mesh := Function.update rollout.mesh source s' } stored
          source target = rollout.receiver stored source target := by
        simp only [receiver, Function.update_of_ne (Ne.symm distinct)]
      rw [others]
      by_cases restored : source ∈ rollout.restored
      · simp only [sender, if_pos restored, Function.update_self] at rests ⊢
        have framed := (coherent.resumed source sourceMember restored).framed
        refine rests.sends called framed fun packet isReceived => ?_
        have told := met sourceMember restored packet target targetMember (Ne.symm distinct)
          isReceived
        refine told.imp_left fun current seq parsed => ?_
        rw [receiver, if_pos current.1]
        exact ⟨packet, current.2, parsed⟩
      · simpa only [sender, if_neg restored] using rests
    · have others : sender { rollout with mesh := Function.update rollout.mesh node s' } stored
          source target = rollout.sender stored source target := by
        simp only [sender, Function.update_of_ne sends]
      rw [others]
      by_cases receives : target = node
      · subst receives
        by_cases restored : target ∈ rollout.restored
        · simp only [receiver, if_pos restored, Function.update_self] at rests ⊢
          have framed := (coherent.resumed target targetMember restored).framed
          refine rests.receives called framed fun packet isReceived => ?_
          have told := met targetMember restored packet source sourceMember distinct isReceived
          refine told.imp_left fun current seq held parsed => ?_
          rw [sender, if_pos current.1]
          exact ⟨packet, current.2, parsed⟩
        · simpa only [receiver, if_neg restored] using rests
      · simpa only [receiver, Function.update_of_ne receives] using rests

/-- A restored sidecar takes over the halves of its links as they were seen before. -/
theorem Coherent.restore (coherent : Coherent members stored rollout)
    (sources : Sources cfg nodes members stored) (set : snapshotId ≠ "") {node : Ip}
    {fresh : Sidecar} {host : Host}
    (met : rollout.Separates cfg nodes members (.restore node fresh host))
    (pending : node ∉ rollout.restored)
    : Coherent members stored {
        mesh := Function.update rollout.mesh node
          (fresh.restored (cfg node) (some snapshotId) (some (nodes node)) host)
        past := Function.update rollout.past node (rollout.mesh node).trace.wire
        restored := node :: rollout.restored
      } := by
  have resumes (member : node ∈ members)
      : (∀ peer ∈ members, node ≠ peer
          → senderView (fresh.restored (cfg node) (some snapshotId) (some (nodes node)) host) peer
              = .unsent ((stored node).cutTo peer)
            ∧ receiverView
                (fresh.restored (cfg node) (some snapshotId) (some (nodes node)) host) peer
              = .unheard ((stored node).cutFrom peer))
        ∧ (fresh.restored (cfg node) (some snapshotId) (some (nodes node)) host).Resumed
            (stored node) := by
    obtain ⟨early, s, replays⟩ := met member
    obtain ⟨ctrl, plain, built, own⟩ := sources.built node member
    obtain ⟨final, views, resumed⟩ :=
      (early_blank early).restored plain built own set replays
    rw [final]
    refine ⟨fun peer peerMember distinct => ?_, resumed⟩
    obtain ⟨entry, found⟩ := sources.listed node member peer peerMember distinct
    exact views found
  constructor
  case resumed =>
    intro ip member restored
    change (Function.update rollout.mesh node _ ip).Resumed (stored ip)
    by_cases here : ip = node
    · subst here
      rw [Function.update_self]
      exact (resumes member).2
    · rw [Function.update_of_ne here]
      exact coherent.resumed ip member ((List.mem_cons.mp restored).resolve_left here)
  case links =>
    intro source sourceMember target targetMember distinct
    obtain ⟨history, length, rests⟩ :=
      coherent.links source sourceMember target targetMember distinct
    refine ⟨history, length, ?_⟩
    by_cases sends : source = node
    · subst sends
      have same := ((resumes sourceMember).1 target targetMember distinct).1
      simp only [sender, receiver, if_neg pending, List.mem_cons, true_or, if_true,
        Function.update_self, same, Ne.symm distinct, false_or,
        Function.update_of_ne (Ne.symm distinct)] at rests ⊢
      exact rests
    · by_cases receives : target = node
      · subst receives
        have same := ((resumes targetMember).1 source sourceMember (Ne.symm distinct)).2
        simp only [sender, receiver, if_neg pending, List.mem_cons, true_or, if_true,
          Function.update_self, same, distinct, false_or,
          Function.update_of_ne distinct] at rests ⊢
        exact rests
      · simp only [sender, receiver, List.mem_cons, sends, receives, false_or,
          Function.update_of_ne sends, Function.update_of_ne receives] at rests ⊢
        exact rests

/-- In a rollout that separates the incarnations, everything stays coherent. -/
theorem Run.coherent (sources : Sources cfg nodes members stored) (set : snapshotId ≠ "")
    (run : Run cfg snapshotId nodes (Separates cfg nodes members) mesh rollout)
    : Coherent members stored rollout := by
  induction run with
  | start => exact .start sources mesh
  | step _ action _ met stepped coherent =>
      cases action with
      | call node callback host =>
          obtain ⟨-, s', called, rfl⟩ := step_call_eq_some.mp stepped
          exact coherent.call met called
      | restore node fresh host =>
          obtain ⟨pending, rfl⟩ := step_restore_eq_some.mp stepped
          exact coherent.restore sources set met pending

-----------------------------------------------------------------------------------------
-- Isolation
-----------------------------------------------------------------------------------------

end Rollout

variable {members : List Ip} {cfg : Ip → Config} {mesh : Mesh} {nodes : Ip → List Artifact}
  {snapshotId : String} {id : Bytes} {stored : Ip → Artifact}

/-- The members have completed one snapshot, and these are their artifacts. -/
def Mesh.Completed (members : List Ip) (cfg : Ip → Config) (mesh : Mesh) (id : Bytes)
    (nodes : Ip → List Artifact) (stored : Ip → Artifact)
    : Prop :=
  ∀ ip ∈ members,
    stored ip ∈ postsOf (mesh ip).trace.control
    ∧ (stored ip).For id
    ∧ (stored ip).status = .complete
    ∧ ownEntry (cfg ip) (nodes ip) = some (stored ip)

/-- The artifacts of the members list each other, and agree on the cut of every channel. -/
def Rollout.Aligned (members : List Ip) (stored : Ip → Artifact) : Prop :=
  ∀ source ∈ members, ∀ target ∈ members,
    source ≠ target
    → ∃ toTarget fromSource cut,
        (stored source).peer? target = some toTarget
        ∧ (stored target).peer? source = some fromSource
        ∧ toTarget.sendSeq = some cut
        ∧ fromSource.recvSeq = some cut

/-- The artifacts of one snapshot are what a rollout can start from, if they agree on the cuts. -/
theorem Mesh.Reachable.sources (reachable : Mesh.Reachable cfg mesh)
    (completed : mesh.Completed members cfg id nodes stored)
    (aligned : Rollout.Aligned members stored)
    : Rollout.Sources cfg nodes members stored := by
  constructor
  case built =>
    intro ip member
    obtain ⟨posted, -, -, own⟩ := completed ip member
    obtain ⟨ctrl, plain, built⟩ := (reachable.run ip).postsBuilt (stored ip) posted
    exact ⟨ctrl, plain, built, own⟩
  case listed =>
    intro ip member peer peerMember distinct
    obtain ⟨toTarget, -, -, found, -⟩ := aligned ip member peer peerMember distinct
    exact ⟨toTarget, found⟩
  case aligned =>
    intro source sourceMember target targetMember distinct
    obtain ⟨toTarget, fromSource, cut, sentTo, receivedFrom, sendSeq, recvSeq⟩ :=
      aligned source sourceMember target targetMember distinct
    simp [Artifact.cutTo, Artifact.cutFrom, sentTo, receivedFrom, sendSeq, recvSeq]

/-- The artifacts of a complete snapshot agree on the cuts. -/
theorem Mesh.Reachable.aligned (deployed : ∀ ip, (cfg ip).Deployed members ip)
    (reachable : Mesh.Reachable cfg mesh) (lawful : mesh.Lawful members)
    (completed : mesh.Completed members cfg id nodes stored)
    : Rollout.Aligned members stored := by
  obtain ⟨net, shows⟩ := reachable.shows deployed lawful
  intro source sourceMember target targetMember distinct
  obtain ⟨sent, sentFor, -, -⟩ := completed source sourceMember
  obtain ⟨received, receivedFor, complete, -⟩ := completed target targetMember
  obtain ⟨toTarget, fromSource, cut, sentTo, receivedFrom, sendSeq, recvSeq, shown⟩ :=
    shows.coordinates distinct sourceMember targetMember sent sentFor received receivedFor
  exact ⟨toTarget, fromSource, cut + 1, sentTo, receivedFrom, sendSeq,
    recvSeq.resolve_left (shown complete)⟩

end MeshSnapshot
