import MeshSnapshot.Transport.Sending

/-! One callback on the links of its sidecar. A sending half sends, sends again, or lets go of
an acknowledged packet. A receiving half takes the packets of its stream in order, whatever
the sending half at the other end was when the callback began.
-/

namespace MeshSnapshot.Transport

open Procedure

/-- A link whose receiver is between two callbacks. -/
structure LinkRests (history : List Held) (sender : SenderView) (receiver : ReceiverView)
    : Prop where
  ok : LinkOk history none sender receiver
  absent : receiver.buffer.get? receiver.next = none

-----------------------------------------------------------------------------------------
-- What one stream cannot change
-----------------------------------------------------------------------------------------

/-- Receiving for the stream of `ip`: the sending halves send, and other streams rest. -/
structure StreamMoves (ip : Ip) (s s' : Sidecar) : Prop where
  sender
    : ∀ dst, SenderView.Steps (fun _ => False) (senderView s dst) (senderView s' dst)
  other : ∀ src, src ≠ ip → receiverView s' src = receiverView s src

theorem StreamMoves.refl (ip : Ip) (s : Sidecar) : StreamMoves ip s s :=
  ⟨fun _ => .refl, fun _ _ => rfl⟩

theorem StreamMoves.trans {ip : Ip} {a b c : Sidecar} (first : StreamMoves ip a b)
    (second : StreamMoves ip b c) : StreamMoves ip a c :=
  ⟨fun dst => (first.sender dst).trans (second.sender dst),
    fun src other => (second.other src other).trans (first.other src other)⟩

/-- A procedure that belongs to the stream of `ip`, however it ends. -/
abbrev Streaming (ip : Ip) {α : Type} (body : Py α) : Prop := Within (StreamMoves ip) body

namespace Streaming

variable {α β : Type} {ip : Ip}

theorem pure (a : α) : Streaming ip (Pure.pure a : Py α) := Within.pure (StreamMoves.refl ip) a

theorem read : Streaming ip Procedure.read := Within.read (StreamMoves.refl ip)

theorem bind {x : Py α} {f : α → Py β} (first : Streaming ip x)
    (second : ∀ a, Streaming ip (f a)) : Streaming ip (x >>= f) :=
  Within.bind StreamMoves.trans first second

theorem of_sending {body : Py α} (sending : Sending body) : Streaming ip body :=
  fun s => ⟨(sending s).sender, fun src _ => (sending s).receiver src⟩

end Streaming

/-- The sending halves do not see what is received, nor do the other streams. -/
theorem streamMoves_setPeer {s : Sidecar} {ip : Ip} {peer : PeerState}
    (sendSeq : peer.sendSeq = (s.peer ip).sendSeq) (unacked : peer.unacked = (s.peer ip).unacked)
    : StreamMoves ip s (s.setPeer ip peer) where
  sender dst := by
    have same : senderView (s.setPeer ip peer) dst = senderView s dst := by
      by_cases here : dst = ip
      · subst here
        simp only [senderView, Sidecar.peer_setPeer, Function.update_self, sendSeq, unacked]
        rfl
      · simp only [senderView, Sidecar.peer_setPeer, Function.update_of_ne here]
        rfl
    rw [same]
  other src other := by
    simp only [receiverView, Sidecar.peer_setPeer, Function.update_of_ne other]
    rfl

/-- Logging a passed packet shows in its own stream only. -/
theorem streamMoves_logConsumed (s : Sidecar) (packet : PeerPacket)
    : StreamMoves packet.peer s (s.logConsumed packet) where
  sender _ := .refl
  other src other := by
    refine ReceiverView.ext rfl rfl rfl ?_
    simp [receiverView, consumedFrom, Sidecar.logConsumed, Ne.symm other]

theorem quietly_logOvertaking (packet : Sidecar → PeerPacket)
    : Quietly (update fun s => s.logOvertaking (packet s)) := by
  refine Within.update fun s => ?_
  unfold Sidecar.logOvertaking
  split <;> exact ⟨fun _ => rfl, rfl, rfl, rfl⟩

theorem streaming_passPacket (cfg : Config) (ip : Ip) (held : Held)
    : Streaming ip (passPacket cfg ip held) :=
  .bind .read fun _ => .bind (.of_sending (.of_quietly (quietly_logOvertaking _))) fun _ =>
    .bind (.of_sending (sending_processAndDeliver _ _ _ _ _)) fun _ =>
      .bind (fun s => streamMoves_logConsumed s ⟨ip, (s.peer ip).recvSeq, held⟩) fun _ =>
        Within.update fun _ => streamMoves_setPeer rfl rfl

theorem streaming_flushBuffer (cfg : Config) (ip : Ip) (fuel : Nat)
    : Streaming ip (flushBuffer cfg ip fuel) := by
  induction fuel with
  | zero => exact .pure ()
  | succ fuel ih =>
      refine .bind .read fun s => ?_
      split
      · exact .pure ()
      · exact .bind (Within.update fun _ => streamMoves_setPeer rfl rfl) fun _ =>
          .bind (streaming_passPacket cfg ip _) fun _ => ih

theorem streaming_tunnelSendto (ip : Ip) {seq : Nat} (fits : seq < 2 ^ 64)
    : Streaming ip (tunnelSendto (packAck seq) ip) := by
  have framed := parseFrame_packAck fits
  refine .bind .read fun s => ?_
  split
  · refine Within.update fun s => ⟨fun dst => ?_, fun src other => ?_⟩
    · have same : senderView (s.putWire (packAck seq) ip) dst = senderView s dst :=
        SenderView.ext rfl rfl rfl (dataTo_append_else (by simp [framed]))
      rw [same]
    · exact ReceiverView.ext (acksTo_append_other other) rfl rfl rfl
  · exact Within.raise (StreamMoves.refl ip) _

theorem streaming_dataReceived (cfg : Config) (ip : Ip) {seq : Nat} (fits : seq < 2 ^ 64)
    (held : Held) : Streaming ip (dataReceived cfg ip seq held) := by
  refine .bind (streaming_tunnelSendto ip fits) fun _ => .bind .read fun s => ?_
  split
  · exact .bind (streaming_passPacket cfg ip held) fun _ => .bind .read fun _ =>
      streaming_flushBuffer cfg ip _
  · split
    · exact Within.update fun _ => streamMoves_setPeer rfl rfl
    · exact .pure ()

-----------------------------------------------------------------------------------------
-- The in-order stream
-----------------------------------------------------------------------------------------

variable {cfg : Config} {ip : Ip} {held : Held} {s s' : Sidecar} {u : Unit}
  {history : List Held} {sender : SenderView}

/-- One packet of a stream: the receiving half passes it. -/
theorem passPacket_view (returned : passPacket cfg ip held s = .ok u s')
    : receiverView s' ip = (receiverView s ip).pass held := by
  obtain ⟨_, _, read, returned⟩ := bind_ok.mp returned
  obtain ⟨rfl, rfl⟩ := read_ok.mp read
  obtain ⟨_, s₀, noted, returned⟩ := bind_ok.mp returned
  have noted := ((quietly_logOvertaking _).ok noted).receiverView ip
  obtain ⟨_, s₁, processed, returned⟩ := bind_ok.mp returned
  obtain ⟨_, s₂, logged, returned⟩ := bind_ok.mp returned
  obtain rfl := update_ok.mp logged
  obtain rfl := modifyPeer_ok.mp returned
  have same := ((sending_processAndDeliver cfg callDepth ip _ held).ok processed).receiver ip
  rw [← noted, ← same]
  have peer : (s₁.logConsumed ⟨ip, (s₁.peer ip).recvSeq, held⟩).peer = s₁.peer := rfl
  refine ReceiverView.ext rfl ?_ ?_ ?_
  · simp [receiverView, Sidecar.peer_setPeer, ReceiverView.pass, peer]
  · simp [receiverView, Sidecar.peer_setPeer, ReceiverView.pass, peer]
  · simp [receiverView, consumedFrom, ReceiverView.pass, Sidecar.setPeer, Sidecar.logConsumed]

/-- A change of one buffer alone. -/
theorem receiverView_buffer (s : Sidecar) (ip : Ip) (buffer : Dict Nat Held)
    : receiverView (s.setPeer ip { s.peer ip with recvBuffer := buffer }) ip
      = { receiverView s ip with buffer } := by
  simp only [receiverView, Sidecar.peer_setPeer, Function.update_self]
  rfl

/-- The flush loop ends with nothing buffered for the next number, and every packet it passes
was buffered under its own number.
-/
theorem flushBuffer_link {fuel : Nat} (returned : flushBuffer cfg ip fuel s = .ok u s')
    (ok : LinkOk history none sender (receiverView s ip))
    (enough : (receiverView s ip).buffer.size ≤ fuel)
    : LinkRests history sender (receiverView s' ip) := by
  induction fuel generalizing s with
  | zero =>
      obtain ⟨-, rfl⟩ := pure_ok.mp returned
      have nothing : (receiverView s ip).buffer.entries = [] := by
        simpa [Dict.size] using enough
      exact ⟨ok, by simp [Dict.get?, nothing, Dict.lookupEntry]⟩
  | succ fuel ih =>
      obtain ⟨_, _, read, returned⟩ := bind_ok.mp returned
      obtain ⟨rfl, rfl⟩ := read_ok.mp read
      cases found : (s.peer ip).recvBuffer.get? (s.peer ip).recvSeq with
      | none =>
          simp only [found] at returned
          obtain ⟨-, rfl⟩ := pure_ok.mp returned
          exact ⟨ok, found⟩
      | some held =>
          simp only [found] at returned
          obtain ⟨_, s₁, popped, returned⟩ := bind_ok.mp returned
          obtain rfl := modifyPeer_ok.mp popped
          obtain ⟨_, s₂, passed, returned⟩ := bind_ok.mp returned
          have popped := receiverView_buffer s ip
            ((s.peer ip).recvBuffer.erase (s.peer ip).recvSeq)
          have passed := (passPacket_view passed).trans (congrArg (·.pass held) popped)
          refine ih returned ?_ ?_
          · rw [passed]
            exact (ok.takeBuffered found).pass (by simp [ReceiverView.takeBuffered])
          · have smaller := Dict.size_erase_lt found
            rw [passed]
            simp only [ReceiverView.pass]
            have bound : (s.peer ip).recvBuffer.size ≤ fuel + 1 := enough
            omega

theorem tunnelSendto_view {seq : Nat} (fits : seq < 2 ^ 64)
    (returned : tunnelSendto (packAck seq) ip s = .ok u s')
    : receiverView s' ip = (receiverView s ip).acknowledge seq := by
  obtain rfl := tunnelSendto_ok returned
  exact ReceiverView.ext (acksTo_append_ack (parseFrame_packAck fits)) rfl rfl rfl

/-- One data packet that `sender` has put on the network. -/
theorem dataReceived_link {seq : Nat} (fits : seq < 2 ^ 64)
    (returned : dataReceived cfg ip seq held s = .ok u s')
    (rests : LinkRests history sender (receiverView s ip)) (copy : (seq, held) ∈ sender.data)
    : LinkRests history sender (receiverView s' ip) := by
  obtain ⟨_, s₁, acked, returned⟩ := bind_ok.mp returned
  have viewed := tunnelSendto_view fits acked
  obtain ⟨_, _, read, returned⟩ := bind_ok.mp returned
  obtain ⟨rfl, rfl⟩ := read_ok.mp read
  have sameNext : (s₁.peer ip).recvSeq = (s.peer ip).recvSeq :=
    congrArg ReceiverView.next viewed
  have sameBuffer : (s₁.peer ip).recvBuffer = (s.peer ip).recvBuffer :=
    congrArg ReceiverView.buffer viewed
  split at returned
  case isTrue current =>
    -- the acknowledged packet is in hand until it has been processed
    have here : seq = (receiverView s ip).next := current.trans sameNext
    obtain ⟨_, s₂, passed, returned⟩ := bind_ok.mp returned
    obtain ⟨_, _, read, returned⟩ := bind_ok.mp returned
    obtain ⟨rfl, rfl⟩ := read_ok.mp read
    refine flushBuffer_link returned ?_ (Nat.le_refl _)
    rw [passPacket_view passed, viewed]
    have inHand := (rests.ok.takeData (here ▸ copy)).acknowledge
      (Or.inr (Or.inr ⟨here, held, rfl⟩))
    exact inHand.pass rests.absent
  case isFalse notCurrent =>
    split at returned
    case isTrue future =>
      obtain rfl := modifyPeer_ok.mp returned
      have stored := receiverView_buffer s₁ ip ((s₁.peer ip).recvBuffer.set seq held)
      rw [viewed, sameBuffer] at stored
      have later : (receiverView s ip).next < seq := lt_of_eq_of_lt sameNext.symm future
      have kept : LinkOk history none sender
          (((receiverView s ip).hold seq held).acknowledge seq) :=
        (rests.ok.hold copy later).acknowledge
          (Or.inr (Or.inl ⟨held, by simp [linkOf, ReceiverView.hold]⟩))
      rw [sameBuffer]
      refine stored ▸ ⟨kept, ?_⟩
      have apart : (receiverView s ip).next ≠ seq := Nat.ne_of_lt later
      have absent : (s.peer ip).recvBuffer.get? (receiverView s ip).next = none := rests.absent
      simpa [ReceiverView.acknowledge, apart] using absent
    case isFalse notFuture =>
      obtain ⟨-, rfl⟩ := pure_ok.mp returned
      have past : seq < (s.peer ip).recvSeq := by omega
      exact viewed ▸ ⟨rests.ok.acknowledge (Or.inl past), rests.absent⟩

-----------------------------------------------------------------------------------------
-- Callbacks
-----------------------------------------------------------------------------------------

/-- The numbers that a callback may confirm for a peer. -/
def Acks (callback : Callback) (dst : Ip) (seq : Nat) : Prop :=
  ∃ packet, callback = .received packet dst ∧ parseFrame packet = .ack seq

/-- A callback on the links of its sidecar. The receiving half of a link stays sound for a
sender that has sent what the callback receives.
-/
structure CallbackMoves (callback : Callback) (s s' : Sidecar) : Prop where
  sender : ∀ dst, SenderView.Steps (Acks callback dst) (senderView s dst) (senderView s' dst)
  receiver
    : ∀ {src history sender},
        LinkRests history sender (receiverView s src)
        → (∀ {packet seq held},
            callback = .received packet src → parseFrame packet = .data seq held
            → (seq, held) ∈ sender.data)
        → LinkRests history sender (receiverView s' src)
  confirming
    : ∀ {dst seq}, Acks callback dst seq → ∀ src, receiverView s' src = receiverView s src

/-- More may be confirmed. -/
theorem SenderView.Steps.mono_acked {acked more : Nat → Prop} {view view' : SenderView}
    (steps : SenderView.Steps acked view view') (weaker : ∀ {seq}, acked seq → more seq)
    : SenderView.Steps more view view' :=
  Relation.ReflTransGen.mono (fun _ _ step => by
    cases step with
    | send framed => exact .send framed
    | resend found framed => exact .resend found framed
    | confirm confirmed => exact .confirm (weaker confirmed)) _ _ steps

theorem Sends.callback {callback : Callback} {s s' : Sidecar} (sends : Sends s s')
    : CallbackMoves callback s s' where
  sender dst := (sends.sender dst).mono_acked False.elim
  receiver rests _ := by rwa [sends.receiver]
  confirming _ := sends.receiver

theorem ackReceived_moves {packet : Bytes} {seq : Nat}
    (returned : ackReceived ip seq s = .ok u s') (framed : parseFrame packet = .ack seq)
    : CallbackMoves (.received packet ip) s s' := by
  obtain rfl := modifyPeer_ok.mp returned
  have receivers (src : Ip)
      : receiverView (s.setPeer ip { s.peer ip with
          unacked := (s.peer ip).unacked.erase seq }) src = receiverView s src := by
    refine ReceiverView.ext rfl ?_ ?_ rfl <;>
      by_cases here : src = ip <;> simp [receiverView, Sidecar.peer_setPeer, here]
  constructor
  case sender =>
    intro dst
    by_cases here : dst = ip
    · subst here
      have confirmed : senderView (s.setPeer dst { s.peer dst with
          unacked := (s.peer dst).unacked.erase seq }) dst = (senderView s dst).confirm seq := by
        refine SenderView.ext rfl ?_ ?_ rfl
        · simp [senderView, Sidecar.peer_setPeer, SenderView.confirm]
        · funext other
          by_cases same : other = seq <;>
            simp [senderView, Sidecar.peer_setPeer, SenderView.confirm, same]
      rw [confirmed]
      exact .single (.confirm ⟨packet, rfl, framed⟩)
    · have same : senderView (s.setPeer ip { s.peer ip with
          unacked := (s.peer ip).unacked.erase seq }) dst = senderView s dst := by
        simp only [senderView, Sidecar.peer_setPeer, Function.update_of_ne here]
        rfl
      rw [same]
  case receiver => exact fun rests _ => (receivers _).symm ▸ rests
  case confirming => exact fun _ => receivers

theorem datagramReceived_moves {packet : Bytes}
    (returned : datagramReceived cfg packet ip s = .ok u s')
    : CallbackMoves (.received packet ip) s s' := by
  obtain ⟨_, s₁, known, returned⟩ := bind_ok.mp returned
  have quiet : Quiet s s₁ := (quietly_of_framed (framed_getPeer ip)).ok known
  have moves : CallbackMoves (.received packet ip) s₁ s' := by
    cases framed : parseFrame packet with
    | data seq held =>
        simp only [framed] at returned
        have fits := parseFrame_data_lt framed
        have stream := (streaming_dataReceived cfg ip fits held).ok returned
        constructor
        case sender => exact fun dst => (stream.sender dst).mono_acked False.elim
        case receiver =>
          intro src history sender rests heard
          by_cases here : src = ip
          · subst here
            exact dataReceived_link fits returned rests (heard rfl framed)
          · rwa [stream.other src here]
        case confirming =>
          rintro dst other ⟨_, same, isAck⟩
          obtain ⟨rfl, -⟩ := Callback.received.inj same
          cases framed.symm.trans isAck
    | plain held =>
        simp only [framed] at returned
        exact (quiet_of_sameCore ((framed_plainReceived ip held).ok returned)).sends.callback
    | ack seq =>
        simp only [framed] at returned
        exact ackReceived_moves returned framed
    | ignored =>
        simp only [framed] at returned
        obtain ⟨-, rfl⟩ := pure_ok.mp returned
        exact (Sends.refl _).callback
  constructor
  case sender => exact fun dst => quiet.senderView dst ▸ moves.sender dst
  case receiver =>
    intro src history sender rests heard
    exact moves.receiver (quiet.receiverView src ▸ rests) heard
  case confirming =>
    intro dst seq acks src
    rw [moves.confirming acks src, quiet.receiverView]

/-- The unacknowledged packets of a sending half are data packets under their own numbers. -/
def SenderView.Framed (view : SenderView) : Prop :=
  ∀ {seq packet}, view.unacked seq = some packet → ∃ held, parseFrame packet = .data seq held

theorem LinkOk.framed {hand : Option Held} {receiver : ReceiverView}
    (ok : LinkOk history hand sender receiver) : sender.Framed := fun found =>
  let ⟨held, _, parsed⟩ := ok.packets found
  ⟨held, parsed⟩

theorem SenderView.Steps.framed {acked : Nat → Prop} {view view' : SenderView}
    (steps : SenderView.Steps acked view view') (framed : view.Framed) : view'.Framed := by
  induction steps with
  | refl => exact framed
  | tail _ step ih =>
      intro seq packet found
      cases step with
      | @send held first parsed =>
          simp only [SenderView.send, Function.update_apply] at found
          split at found
          case isTrue last =>
            obtain rfl := Option.some.inj found
            exact ⟨held, last ▸ parsed⟩
          case isFalse => exact ih found
      | resend => exact ih found
      | confirm =>
          simp only [SenderView.confirm, Function.update_apply] at found
          split at found
          case isTrue => cases found
          case isFalse => exact ih found

/-- Packets are sent again: their numbers stay unacknowledged under the same packets. -/
structure Resends (s s' : Sidecar) : Prop where
  sends : Sends s s'
  unacked : ∀ dst, (senderView s' dst).unacked = (senderView s dst).unacked

theorem Resends.refl (s : Sidecar) : Resends s s := ⟨.refl s, fun _ => rfl⟩

theorem Resends.trans {a b c : Sidecar} (first : Resends a b) (second : Resends b c)
    : Resends a c :=
  ⟨first.sends.trans second.sends,
    fun dst => (second.unacked dst).trans (first.unacked dst)⟩

theorem retransmit_resends {now sentAt : Int} {seq : Nat} {packet : Bytes}
    (returned : retransmit now ip seq sentAt packet s = .ok u s')
    (found : (senderView s ip).unacked seq = some packet)
    (framed : parseFrame packet = .data seq held)
    : Resends s s' := by
  obtain ⟨_, _, read, returned⟩ := bind_ok.mp returned
  obtain ⟨rfl, rfl⟩ := read_ok.mp read
  split at returned
  case isFalse =>
    obtain ⟨-, rfl⟩ := pure_ok.mp returned
    exact .refl s
  case isTrue due =>
    obtain ⟨_, s₁, put, returned⟩ := bind_ok.mp returned
    obtain rfl := tunnelSendto_ok put
    obtain rfl := modifyPeer_ok.mp returned
    have peer : (s.putWire packet ip).peer = s.peer := rfl
    have noAck (seq : Nat) : parseFrame packet ≠ .ack seq := by simp [framed]
    have view (dst : Ip)
        : senderView ((s.putWire packet ip).setPeer ip { s.peer ip with
            unacked := (s.peer ip).unacked.set seq (now, packet) }) dst
          = if dst = ip then (senderView s dst).resend seq held else senderView s dst := by
      by_cases here : dst = ip
      · subst here
        rw [if_pos rfl]
        refine SenderView.ext rfl ?_ ?_ (dataTo_append_data framed)
        · simp [senderView, Sidecar.peer_setPeer, SenderView.resend]
        · funext other
          by_cases same : other = seq
          · subst same
            simpa [senderView, Sidecar.peer_setPeer, SenderView.resend] using found.symm
          · simp [senderView, Sidecar.peer_setPeer, SenderView.resend, same]
      · rw [if_neg here]
        refine SenderView.ext rfl ?_ ?_ (dataTo_append_other here) <;>
          simp [senderView, Sidecar.peer_setPeer, here, peer]
    refine ⟨⟨fun dst => ?_, fun src => ?_⟩, fun dst => ?_⟩
    · rw [peer, view]
      split
      · next here =>
          subst here
          exact .single (.resend found framed)
      · exact .refl
    · refine ReceiverView.ext (acksTo_append_else noAck) ?_ ?_ rfl <;>
        by_cases here : src = ip <;> simp [receiverView, Sidecar.peer_setPeer, here, peer]
    · rw [peer, view]
      split <;> rfl

/-- One round: what a timeout flushes, then the packets that are due again. -/
theorem retransmitRound_sends (returned : retransmitRound cfg s = .ok u s')
    (framed : ∀ dst, (senderView s dst).Framed) : Sends s s' := by
  obtain ⟨now, s₁, ticked, returned⟩ := bind_ok.mp returned
  obtain ⟨_, s₂, checked, returned⟩ := bind_ok.mp returned
  obtain ⟨_, _, read, returned⟩ := bind_ok.mp returned
  obtain ⟨rfl, rfl⟩ := read_ok.mp read
  have flushed : Sends s s₂ := (quiet_of_sameCore (framed_time.ok ticked)).sends.trans
    ((sending_checkTimeout cfg).ok checked)
  have resent : Resends s₂ s' := by
    refine forEach_ok (Resends s₂) returned (.refl s₂) ?_
    rintro ⟨ip, peer⟩ known t t' before looped
    refine forEach_ok (Resends s₂) looped before ?_
    rintro ⟨seq, sentAt, packet⟩ pending t t' before again
    have unacked : (senderView s₂ ip).unacked seq = some packet := by
      have known := Dict.mem_entries_iff.mp known
      have pending := Dict.mem_entries_iff.mp pending
      simp [senderView, Sidecar.peer, known, pending]
    obtain ⟨held, parsed⟩ := (flushed.sender ip).framed (framed ip) unacked
    rw [← before.unacked] at unacked
    exact before.trans (retransmit_resends again unacked parsed)
  exact flushed.trans resent.sends

theorem run_moves {callback : Callback} (returned : callback.run cfg s = .ok u s')
    (framed : ∀ dst, (senderView s dst).Framed)
    : CallbackMoves callback s s' := by
  cases callback with
  | emit datagrams =>
      have emitted : update (fun s => s.emit datagrams) s = .ok u s' := returned
      obtain rfl := update_ok.mp emitted
      have unseen : Sends s (s.emit datagrams) := ⟨fun _ => .refl, fun _ => rfl⟩
      exact unseen.callback
  | send dst message =>
      have sending : Sending (Callback.run cfg (.send dst message)) :=
        .bind (.of_framed (framed_getPeer dst)) fun _ => sending_sendData dst message .direct
      exact Sends.callback (sending.ok returned)
  | intercept =>
      have sending : Sending (Callback.run cfg .intercept) :=
        .bind .read fun _ => sending_handleLoop cfg _
      exact Sends.callback (sending.ok returned)
  | received packet src => exact datagramReceived_moves returned
  | retransmit => exact Sends.callback (retransmitRound_sends returned framed)

/-- Every callback moves the links of its sidecar as it should. -/
theorem call_moves {callback : Callback} {host : Host}
    (returned : s.call cfg callback host = some s')
    (framed : ∀ dst, (senderView s dst).Framed)
    : CallbackMoves callback s s' := by
  have moves := run_moves (Sidecar.call_eq_some.mp returned) framed
  exact ⟨moves.sender, moves.receiver, moves.confirming⟩

end MeshSnapshot.Transport
