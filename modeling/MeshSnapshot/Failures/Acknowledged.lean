import MeshSnapshot.Failures.Start
import MeshSnapshot.Transport.Delivery

/-! Exceptions and acknowledged packets. A data packet is acknowledged before it is processed,
so an exception out of `process_and_deliver` leaves its number acknowledged, below no `recv_seq`
and in no buffer. No other exception loses a packet.
-/

namespace MeshSnapshot.Transport

open Procedure

variable {cfg : Config} {ip : Ip} {held : Held} {s s' : Sidecar} {u : Unit} {first : Nat}

namespace ReceiverView

/-- Every acknowledged packet of a stream has been passed or is buffered. The number with which
the stream began is `first`.
-/
structure Retains (first : Nat) (view : ReceiverView) : Prop where
  passed : view.next = first + view.passed.length
  later : ∀ {seq held}, view.buffer.get? seq = some held → view.next ≤ seq
  acked : ∀ {seq held}, view.buffer.get? seq = some held → seq ∈ view.acks
  kept : ∀ {seq}, seq ∈ view.acks → seq < view.next ∨ ∃ held, view.buffer.get? seq = some held

/-- A stream between two callbacks. -/
structure RetainsAtRest (first : Nat) (view : ReceiverView) : Prop where
  retains : view.Retains first
  absent : view.buffer.get? view.next = none

/-- The next packet is acknowledged, and the stream has it nowhere but in hand. -/
structure InHand (first : Nat) (view : ReceiverView) : Prop where
  passed : view.next = first + view.passed.length
  later : ∀ {seq held}, view.buffer.get? seq = some held → view.next < seq
  acked : ∀ {seq held}, view.buffer.get? seq = some held → seq ∈ view.acks
  held : view.next ∈ view.acks
  kept : ∀ {seq}, seq ∈ view.acks → seq ≤ view.next ∨ ∃ held, view.buffer.get? seq = some held

variable {view : ReceiverView}

theorem InHand.pass (inHand : view.InHand first) (held : Held)
    : (view.pass held).Retains first where
  passed := by
    simp only [ReceiverView.pass, inHand.passed, List.length_append, List.length_singleton]
    omega
  later := inHand.later
  acked := inHand.acked
  kept := fun {seq} acked => by
    rcases inHand.kept acked with past | buffered
    · exact .inl (Nat.lt_succ_of_le past)
    · exact .inr buffered

/-- The packet that the flush loop pops is in hand until it is processed. -/
theorem Retains.takeBuffered (retains : view.Retains first)
    (found : view.buffer.get? view.next = some held) : view.takeBuffered.InHand first where
  passed := retains.passed
  later := fun {seq held} buffered => by
    simp only [ReceiverView.takeBuffered, Dict.get?_erase] at buffered ⊢
    split at buffered
    · cases buffered
    · have := retains.later buffered
      omega
  acked := fun {seq held} buffered => by
    simp only [ReceiverView.takeBuffered, Dict.get?_erase] at buffered
    split at buffered
    · cases buffered
    · exact retains.acked buffered
  held := retains.acked found
  kept := fun {seq} acked => by
    by_cases here : seq = view.next
    · exact .inl (Nat.le_of_eq here)
    · rcases retains.kept acked with past | ⟨held, buffered⟩
      · exact .inl (Nat.le_of_lt past)
      · exact .inr ⟨held, by simpa [ReceiverView.takeBuffered, here] using buffered⟩

namespace RetainsAtRest

variable (rests : view.RetainsAtRest first)

include rests

theorem later {seq : Nat} {held : Held} (buffered : view.buffer.get? seq = some held)
    : view.next < seq := by
  refine Nat.lt_of_le_of_ne (rests.retains.later buffered) ?_
  rintro rfl
  simp [rests.absent] at buffered

theorem acknowledgeNext : (view.acknowledge view.next).InHand first where
  passed := rests.retains.passed
  later := rests.later
  acked := fun buffered => .inr (rests.retains.acked buffered)
  held := .inl rfl
  kept := by
    rintro seq (rfl | acked)
    · exact .inl (Nat.le_refl _)
    · rcases rests.retains.kept acked with past | buffered
      · exact .inl (Nat.le_of_lt past)
      · exact .inr buffered

/-- A packet that is acknowledged again was passed before. -/
theorem acknowledgePast {seq : Nat} (past : seq < view.next)
    : (view.acknowledge seq).RetainsAtRest first := by
  refine ⟨⟨rests.retains.passed, rests.retains.later,
    fun buffered => .inr (rests.retains.acked buffered), ?_⟩, rests.absent⟩
  rintro other (rfl | acked)
  · exact .inl past
  · exact rests.retains.kept acked

theorem hold {seq : Nat} (future : view.next < seq) (held : Held)
    : ((view.acknowledge seq).hold seq held).RetainsAtRest first := by
  have apart : view.next ≠ seq := Nat.ne_of_lt future
  have lookup (other : Nat) : ((view.acknowledge seq).hold seq held).buffer.get? other
      = if other = seq then some held else view.buffer.get? other :=
    Dict.get?_set ..
  refine ⟨⟨rests.retains.passed, ?_, ?_, ?_⟩, ?_⟩
  · intro other kept buffered
    rw [lookup] at buffered
    split at buffered
    case isTrue here => exact Nat.le_of_lt (here ▸ future)
    case isFalse => exact rests.retains.later buffered
  · intro other kept buffered
    rw [lookup] at buffered
    split at buffered
    case isTrue here => exact .inl here
    case isFalse => exact .inr (rests.retains.acked buffered)
  · rintro other (rfl | acked)
    · exact .inr ⟨held, by rw [lookup, if_pos rfl]⟩
    · rcases rests.retains.kept acked with past | ⟨kept, buffered⟩
      · exact .inl past
      · rw [lookup]
        split
        · exact .inr ⟨held, rfl⟩
        · exact .inr ⟨kept, buffered⟩
  · exact (lookup view.next).trans ((if_neg apart).trans rests.absent)

end RetainsAtRest

end ReceiverView

-----------------------------------------------------------------------------------------
-- Receiving a data packet
-----------------------------------------------------------------------------------------

/-- Processing a packet raises with the packet in hand. -/
theorem passPacket_retains (cfg : Config) (ip : Ip) (held : Held) (first : Nat)
    : Triple (fun s => (receiverView s ip).InHand first) (passPacket cfg ip held)
        (fun _ s => (receiverView s ip).Retains first)
        (fun s => (receiverView s ip).InHand first) := by
  refine .of_outcomes (fun {s _ s'} inHand returned => ?_) fun {s e s'} inHand raised => ?_
  · rw [passPacket_view returned]
    exact inHand.pass held
  · have overtakes (seq : Sidecar → Nat) : Keeps (fun s => (receiverView s ip).InHand first)
        (update fun s => s.logOvertaking ⟨ip, seq s, held⟩)
        (fun s => (receiverView s ip).InHand first) :=
      .of_within (quietly_logOvertaking _) fun inHand quiet => quiet.receiverView ip ▸ inHand
    have processes (seq : Nat) : Keeps (fun s => (receiverView s ip).InHand first)
        (processAndDeliver cfg callDepth ip seq held)
        (fun s => (receiverView s ip).InHand first) :=
      .of_within (sending_processAndDeliver _ _ _ _ _) fun inHand sends =>
        sends.receiver ip ▸ inHand
    have logs : Triple (fun s => (receiverView s ip).InHand first)
        (update fun s => s.logConsumed ⟨ip, (s.peer ip).recvSeq, held⟩ : Py Unit)
        (fun _ _ => True) (fun s => (receiverView s ip).InHand first) :=
      .update fun _ _ => trivial
    have passes : Triple (fun s => (receiverView s ip).InHand first) (passPacket cfg ip held)
        (fun _ _ => True) (fun s => (receiverView s ip).InHand first) :=
      .readThen fun s _ => (overtakes fun s => (s.peer ip).recvSeq).bind fun _ =>
        (processes _).bind fun _ => logs.bind fun _ => .update fun _ _ => trivial
    exact passes.error inHand raised

/-- The flush loop passes what has become next until nothing has. -/
theorem flushBuffer_retains (cfg : Config) (ip : Ip) (fuel first : Nat)
    : Triple (fun s => (receiverView s ip).Retains first
          ∧ (receiverView s ip).buffer.size ≤ fuel)
        (flushBuffer cfg ip fuel) (fun _ s => (receiverView s ip).RetainsAtRest first)
        (fun s => (receiverView s ip).InHand first) := by
  induction fuel with
  | zero =>
      refine .pure fun s ⟨retains, enough⟩ => ⟨retains, ?_⟩
      rw [Dict.eq_empty_of_size (Nat.le_zero.mp enough), Dict.get?_empty]
  | succ fuel ih =>
      refine .readBind fun s ⟨retains, enough⟩ => ?_
      cases found : (s.peer ip).recvBuffer.get? (s.peer ip).recvSeq with
      | none => exact .pure fun _ same => same ▸ ⟨retains, found⟩
      | some held =>
          have smaller := Dict.size_erase_lt found
          have bound : (s.peer ip).recvBuffer.size ≤ fuel + 1 := enough
          have pops : Triple (fun t => t = s)
              (modifyPeer ip fun peer => { peer with
                recvBuffer := peer.recvBuffer.erase peer.recvSeq })
              (fun _ t => receiverView t ip = (receiverView s ip).takeBuffered)
              (fun t => (receiverView t ip).InHand first) :=
            .update fun t same => same ▸ receiverView_buffer s ip _
          have passes : Triple (fun t => receiverView t ip = (receiverView s ip).takeBuffered)
              (passPacket cfg ip held)
              (fun _ t => (receiverView t ip).Retains first
                ∧ (receiverView t ip).buffer.size ≤ fuel)
              (fun t => (receiverView t ip).InHand first) := by
            have inHand := retains.takeBuffered found
            refine .of_outcomes (fun {t _ t'} popped returned => ?_) fun {t e t'} popped raised => ?_
            · rw [passPacket_view returned, popped]
              refine ⟨inHand.pass held, ?_⟩
              change ((s.peer ip).recvBuffer.erase (s.peer ip).recvSeq).size ≤ fuel
              omega
            · rw [← popped] at inHand
              exact (passPacket_retains cfg ip held first).error inHand raised
          exact pops.bind fun _ => passes.bind fun _ => ih

theorem tunnelSendto_acknowledges (ip : Ip) {seq : Nat} (fits : seq < 2 ^ 64)
    (view : ReceiverView)
    : Triple (fun s => s.tunnelTransport = true ∧ receiverView s ip = view)
        (tunnelSendto (packAck seq) ip) (fun _ s => receiverView s ip = view.acknowledge seq)
        (fun _ => False) := by
  refine .of_outcomes (fun {s _ s'} before returned => ?_) fun {s e s'} before raised => ?_
  · rw [tunnelSendto_view fits returned, before.2]
  · exact (tunnelSendto_returns _ ip).error before.1 raised

/-- A data packet is acknowledged and passed or buffered, or the exception leaves one in hand. -/
theorem dataReceived_retains (cfg : Config) (ip : Ip) {seq : Nat} (fits : seq < 2 ^ 64)
    (held : Held) (first : Nat)
    : Triple (fun s => s.tunnelTransport = true ∧ (receiverView s ip).RetainsAtRest first)
        (dataReceived cfg ip seq held) (fun _ s => (receiverView s ip).RetainsAtRest first)
        (fun s => (receiverView s ip).InHand first) := by
  rintro s ⟨transport, rests⟩
  have acknowledges : Triple
      (fun t => t.tunnelTransport = true ∧ receiverView t ip = receiverView s ip)
      (tunnelSendto (packAck seq) ip)
      (fun _ t => receiverView t ip = (receiverView s ip).acknowledge seq)
      (fun t => (receiverView t ip).InHand first) :=
    (tunnelSendto_acknowledges ip fits _).weaken (fun _ before => before)
      (fun _ _ after => after) fun _ never => never.elim
  refine Triple.bind acknowledges (fun _ => .readBind fun t acked => ?_) s ⟨transport, rfl⟩
  have sameNext : (t.peer ip).recvSeq = (s.peer ip).recvSeq := congrArg ReceiverView.next acked
  split
  case isTrue current =>
    have here : seq = (receiverView s ip).next := current.trans sameNext
    have inHand : (receiverView t ip).InHand first := by
      rw [acked, here]
      exact rests.acknowledgeNext
    have passes : Triple (fun u => u = t) (passPacket cfg ip held)
        (fun _ u => (receiverView u ip).Retains first)
        (fun u => (receiverView u ip).InHand first) :=
      (passPacket_retains cfg ip held first).weaken (fun _ same => same ▸ inHand)
        (fun _ _ after => after) fun _ after => after
    refine passes.bind fun _ => .readBind fun u retains => ?_
    rintro v rfl
    exact flushBuffer_retains cfg ip _ first v ⟨retains, Nat.le_refl _⟩
  case isFalse =>
    split
    case isTrue future =>
      have later : (receiverView s ip).next < seq := lt_of_eq_of_lt sameNext.symm future
      refine .update fun u same => ?_
      have stored := receiverView_buffer t ip ((t.peer ip).recvBuffer.set seq held)
      subst same
      have whole := rests.hold later held
      rw [← acked] at whole
      exact stored ▸ whole
    case isFalse =>
      have past : seq < (receiverView s ip).next := by
        have : (receiverView s ip).next = (s.peer ip).recvSeq := rfl
        omega
      refine .pure fun u same => ?_
      rw [same, acked]
      exact rests.acknowledgePast past

-----------------------------------------------------------------------------------------
-- All other callbacks
-----------------------------------------------------------------------------------------

/-- The stream, number and message of a data packet that a callback receives. -/
def dataOf : Callback → Option (Ip × Nat × Held)
  | .received packet src =>
      match parseFrame packet with
      | .data seq held => some (src, seq, held)
      | _ => none
  | _ => none

theorem dataOf_eq_some {callback : Callback} {src : Ip} {seq : Nat}
    (received : dataOf callback = some (src, seq, held))
    : ∃ packet, callback = .received packet src ∧ parseFrame packet = .data seq held := by
  cases callback with
  | emit | send | intercept | retransmit => cases received
  | received packet ip =>
      refine ⟨packet, ?_⟩
      cases parsed : parseFrame packet <;> simp [dataOf, parsed] at received
      obtain ⟨rfl, rfl, rfl⟩ := received
      exact ⟨rfl, rfl⟩

/-- No stream moves, and what waits for an acknowledgement are still data packets. -/
structure Unmoved (s s' : Sidecar) : Prop where
  receiver : ∀ src, receiverView s' src = receiverView s src
  framed : (∀ dst, (senderView s dst).Framed) → ∀ dst, (senderView s' dst).Framed

theorem Sends.unmoved (sends : Sends s s') : Unmoved s s' :=
  ⟨sends.receiver, fun framed dst => (sends.sender dst).framed (framed dst)⟩

/-- Sending again is guarded by the presence of the tunnel socket. -/
theorem retransmit_returns (now : Int) (ip : Ip) (seq : Nat) (sentAt : Int) (packet : Bytes)
    : Triple (fun _ => True) (retransmit now ip seq sentAt packet) (fun _ _ => True)
        (fun _ => False) := by
  refine .readBind fun s _ => ?_
  split
  case isTrue due =>
    have sends : Triple (fun t => t = s) (tunnelSendto packet ip) (fun _ _ => True)
        (fun _ => False) :=
      (tunnelSendto_returns packet ip).weaken (fun _ same => same ▸ due.2)
        (fun _ _ after => after) fun _ never => never
    exact sends.bind fun _ => .update fun _ _ => trivial
  case isFalse => exact .pure fun _ _ => trivial

/-- What raises in a round of the retransmit loop is the flush of an aborted snapshot. -/
theorem retransmitRound_raises (cfg : Config) (s : Sidecar)
    : Triple (Sends s) (retransmitRound cfg) (fun _ _ => True) (Sends s) := by
  have ticks : Keeps (Sends s) time (Sends s) :=
    .of_within framed_time fun sends same => sends.trans (quiet_of_sameCore same).sends
  have checks : Keeps (Sends s) (checkTimeout cfg) (Sends s) :=
    .of_within (sending_checkTimeout cfg) fun sends more => sends.trans more
  have loops (peers : List (Ip × PeerState)) (now : Int) : Triple (fun _ => True)
      (forEach
        (fun (entry : Ip × PeerState) =>
          forEach (fun (held : Nat × Int × Bytes) => retransmit now entry.1 held.1 held.2.1 held.2.2)
            entry.2.unacked.entries)
        peers : Py Unit) (fun _ _ => True) (fun _ => False) :=
    .forEach fun entry _ => .forEach fun held _ =>
      retransmit_returns now entry.1 held.1 held.2.1 held.2.2
  exact ticks.bind fun now => checks.bind fun _ => .readThen fun t _ =>
    (loops t.peers.entries now).weaken (fun _ _ => trivial) (fun _ _ after => after)
      fun _ never => never.elim

/-- A callback that receives no data packet moves no stream, however it ends. -/
theorem run_unmoved (cfg : Config) {callback : Callback} (noData : dataOf callback = none)
    (framed : ∀ dst, (senderView s dst).Framed)
    : Triple (fun t => t = s) (callback.run cfg) (fun _ t => Unmoved s t) (Unmoved s) := by
  have sends {body : Py Unit} (sending : Sending body)
      : Triple (fun t => t = s) body (fun _ t => Unmoved s t) (Unmoved s) :=
    .of_within sending fun same sent => same ▸ sent.unmoved
  cases callback with
  | emit datagrams =>
      have unseen : Sends s (s.emit datagrams) := ⟨fun _ => .refl, fun _ => rfl⟩
      exact .update fun _ same => same ▸ unseen.unmoved
  | send dst message =>
      exact sends (.bind (.of_framed (framed_getPeer dst)) fun _ =>
        sending_sendData dst message .direct)
  | intercept => exact sends (.bind .read fun _ => sending_handleLoop cfg _)
  | retransmit =>
      refine .of_outcomes (fun same returned => ?_) fun same raised => ?_
      · exact (retransmitRound_sends (same ▸ returned) framed).unmoved
      · exact ((retransmitRound_raises cfg s).error (same ▸ .refl s) raised).unmoved
  | received packet src =>
      cases parsed : parseFrame packet with
      | data seq held => simp [dataOf, parsed] at noData
      | plain held =>
          have sending : Sending (Callback.run cfg (.received packet src)) := by
            refine .bind (.of_framed (framed_getPeer src)) fun _ => ?_
            rw [parsed]
            exact .of_framed (framed_plainReceived src held)
          exact sends sending
      | ignored =>
          have sending : Sending (Callback.run cfg (.received packet src)) := by
            refine .bind (.of_framed (framed_getPeer src)) fun _ => ?_
            rw [parsed]
            exact .pure ()
          exact sends sending
      | ack seq =>
          refine .of_outcomes (fun same returned => ?_) fun same raised => ?_
          · subst same
            have moves := datagramReceived_moves returned
            exact ⟨moves.confirming ⟨packet, rfl, parsed⟩, fun framed dst =>
              (moves.sender dst).framed (framed dst)⟩
          · have returns : Triple (fun _ => True) (Callback.run cfg (.received packet src))
                (fun _ _ => True) (fun _ => False) := by
              refine (getPeer_returns src).bind fun _ => ?_
              rw [parsed]
              exact .update fun _ _ => trivial
            exact (returns.error trivial raised).elim

theorem datagramReceived_unmoved (cfg : Config) (src : Ip) {packet : Bytes} {seq : Nat}
    (parsed : parseFrame packet = .data seq held)
    : Streaming src (datagramReceived cfg packet src) := by
  refine .bind (.of_sending (.of_framed (framed_getPeer src))) fun _ => ?_
  rw [parsed]
  exact streaming_dataReceived cfg src (parseFrame_data_lt parsed) held

theorem datagramReceived_retains (cfg : Config) (src : Ip) {packet : Bytes} {seq : Nat}
    (parsed : parseFrame packet = .data seq held) (first : Nat)
    : Triple (fun s => s.tunnelTransport = true ∧ (receiverView s src).RetainsAtRest first)
        (datagramReceived cfg packet src) (fun _ s => (receiverView s src).RetainsAtRest first)
        (fun s => (receiverView s src).InHand first) := by
  have knows : Triple (fun s => s.tunnelTransport = true ∧ (receiverView s src).RetainsAtRest first)
      (getPeer src)
      (fun _ s => s.tunnelTransport = true ∧ (receiverView s src).RetainsAtRest first)
      (fun s => (receiverView s src).InHand first) := by
    refine .of_outcomes (fun {s _ s'} ⟨transport, rests⟩ returned => ?_) fun {s e s'} _ raised => ?_
    · have calm : s'.desk = s.desk := (calm_getPeer src).ok returned
      have quiet := (quietly_of_framed (framed_getPeer src)).ok returned
      exact ⟨(congrArg Desk.transport calm).trans transport, quiet.receiverView src ▸ rests⟩
    · exact ((getPeer_returns src).error trivial raised).elim
  refine knows.bind fun _ => ?_
  rw [parsed]
  exact dataReceived_retains cfg src (parseFrame_data_lt parsed) held first

/-- A data packet cannot be acknowledged without the tunnel socket. -/
theorem datagramReceived_transport {src : Ip} {packet : Bytes} {seq : Nat}
    (parsed : parseFrame packet = .data seq held)
    (returned : datagramReceived cfg packet src s = .ok u s') : s.tunnelTransport = true := by
  obtain ⟨_, s₁, known, returned⟩ := bind_ok.mp returned
  rw [parsed] at returned
  obtain ⟨_, s₂, sent, -⟩ := bind_ok.mp returned
  obtain ⟨_, _, read, sent⟩ := bind_ok.mp sent
  obtain ⟨rfl, rfl⟩ := read_ok.mp read
  have same : s₁.desk = s.desk := (calm_getPeer src).ok known
  split at sent
  case isTrue open_ => exact (congrArg Desk.transport same).symm.trans open_
  case isFalse => exact (raise_ok.mp sent).elim

-----------------------------------------------------------------------------------------
-- The life of a sidecar
-----------------------------------------------------------------------------------------

/-- All streams of a sidecar that started as `boot`. -/
structure Accounted (boot s : Sidecar) : Prop where
  streams : ∀ src, (receiverView s src).RetainsAtRest (boot.peer src).recvSeq
  framed : ∀ dst, (senderView s dst).Framed

/-- A sidecar that has neither sent nor passed a packet, and holds none. -/
structure Unused (s : Sidecar) : Prop where
  idle : s.ctrl.isSnapshotting = false
  wire : s.trace.wire = []
  consumed : s.trace.consumed = []
  unacked : ∀ ip, (s.peer ip).unacked = ∅
  recvBuffer : ∀ ip, (s.peer ip).recvBuffer = ∅

theorem keeps_unused {α : Type} {body : Py α} (quietly : Quietly body) (calm : Calm body)
    : Keeps Unused body Unused := by
  intro s unused
  have quiet := quietly s
  have same : (final (body s)).ctrl = s.ctrl := congrArg Desk.ctrl (calm s)
  have kept : Unused (final (body s)) := by
    refine ⟨?_, quiet.wire.trans unused.wire, quiet.consumed.trans unused.consumed,
      fun ip => ?_, fun ip => ?_⟩
    · rw [same, unused.idle]
    · rw [quiet.peer, unused.unacked]
    · rw [quiet.peer, unused.recvBuffer]
  cases stopped : body s <;> simpa [stopped, final] using kept

theorem unused_of_boots {boot : Sidecar} (boots : boot.Boots cfg) : Unused boot := by
  refine boots.induct Unused (fun host starts => ?_) (fun unused => unused.idle)
    (fun ip artifact => ?_) fun packet => ?_
  · obtain ⟨isServer, cache, rfl, -⟩ := starts.started
    exact ⟨rfl, rfl, rfl, fun _ => rfl, fun _ => rfl⟩
  · have seeds : Keeps Unused (modifyPeer ip fun peer => peer.seed artifact) Unused := by
      refine .update fun s unused => ⟨unused.idle, unused.wire, unused.consumed, ?_, ?_⟩ <;>
        intro other <;> by_cases here : other = ip
      · simp [Sidecar.peer_setPeer, PeerState.seed, here, unused.unacked]
      · simp [Sidecar.peer_setPeer, here, unused.unacked]
      · simp [Sidecar.peer_setPeer, PeerState.seed, here, unused.recvBuffer]
      · simp [Sidecar.peer_setPeer, here, unused.recvBuffer]
    exact (keeps_unused (quietly_of_framed (framed_getPeer ip)) (calm_getPeer ip)).bind fun _ =>
      seeds
  · exact keeps_unused (quietly_deliver _ _ _) (calm_deliver _ _ _)

theorem Unused.accounted {boot : Sidecar} (unused : Unused boot) : Accounted boot boot := by
  refine ⟨fun src => ⟨⟨?_, ?_, ?_, ?_⟩, ?_⟩, fun dst => ?_⟩
  · simp [receiverView, consumedFrom, unused.consumed]
  · intro seq held buffered
    simp [receiverView, unused.recvBuffer] at buffered
  · intro seq held buffered
    simp [receiverView, unused.recvBuffer] at buffered
  · intro seq acked
    simp [receiverView, acksTo, unused.wire] at acked
  · simp [receiverView, unused.recvBuffer]
  · intro seq packet found
    simp [senderView, unused.unacked] at found

theorem Unmoved.accounted {boot : Sidecar} (unmoved : Unmoved s s') (accounted : Accounted boot s)
    : Accounted boot s' :=
  ⟨fun src => unmoved.receiver src ▸ accounted.streams src, unmoved.framed accounted.framed⟩

/-- A callback that returns keeps account of all streams. -/
theorem Accounted.returned {boot : Sidecar} (accounted : Accounted boot s) {callback : Callback}
    (returned : callback.run cfg s = .ok u s') : Accounted boot s' := by
  cases received : dataOf callback with
  | none =>
      have unmoved := (run_unmoved cfg received accounted.framed).ok rfl returned
      exact unmoved.accounted accounted
  | some data =>
      obtain ⟨src, seq, held⟩ := data
      obtain ⟨packet, rfl, parsed⟩ := dataOf_eq_some received
      have transport := datagramReceived_transport parsed returned
      have moves := (datagramReceived_unmoved cfg src parsed).ok returned
      refine ⟨fun other => ?_, fun dst => (moves.sender dst).framed (accounted.framed dst)⟩
      by_cases here : other = src
      · subst here
        exact (datagramReceived_retains cfg other parsed _).ok
          ⟨transport, accounted.streams other⟩ returned
      · rw [moves.other other here]
        exact accounted.streams other

/-- So does an exception, unless a data packet was being received. -/
theorem Accounted.raised {boot : Sidecar} (accounted : Accounted boot s) {callback : Callback}
    {e : PyErr} (noData : dataOf callback = none) (raised : callback.run cfg s = .error e s')
    : Accounted boot s' :=
  ((run_unmoved cfg noData accounted.framed).error rfl raised).accounted accounted

end MeshSnapshot.Transport

namespace MeshSnapshot

/-- Every packet of a stream whose number was acknowledged was passed before the sidecar was
restored, has been processed since, or is buffered where the stream will get to it.
-/
def Sidecar.RetainsAcked (s boot : Sidecar) : Prop :=
  ∀ ip, ∀ seq ∈ Transport.acksTo s.trace.wire ip,
    seq < (boot.peer ip).recvSeq
    ∨ (seq < (s.peer ip).recvSeq
      ∧ ∃ held, (Transport.consumedFrom s ip)[seq - (boot.peer ip).recvSeq]? = some held)
    ∨ ((s.peer ip).recvSeq ≤ seq ∧ ∃ held, (s.peer ip).recvBuffer.get? seq = some held)

variable {cfg : Config} {boot s : Sidecar} {running : Bool}

namespace Transport

theorem Accounted.retains (accounted : Accounted boot s) : s.RetainsAcked boot := by
  intro ip seq acked
  have stream := (accounted.streams ip).retains
  have passed : (s.peer ip).recvSeq = (boot.peer ip).recvSeq + (consumedFrom s ip).length :=
    stream.passed
  by_cases before : seq < (boot.peer ip).recvSeq
  · exact .inl before
  · rcases stream.kept acked with past | ⟨held, buffered⟩
    · have past : seq < (s.peer ip).recvSeq := past
      refine .inr (.inl ⟨past, _, List.getElem?_eq_getElem ?_⟩)
      omega
    · exact .inr (.inr ⟨stream.later buffered, held, buffered⟩)

/-- The packet in hand when an exception is raised is acknowledged, and lost. -/
theorem ReceiverView.InHand.loses {ip : Ip}
    (inHand : (receiverView s ip).InHand (boot.peer ip).recvSeq) : ¬ s.RetainsAcked boot := by
  intro retains
  have passed : (s.peer ip).recvSeq = (boot.peer ip).recvSeq + (consumedFrom s ip).length :=
    inHand.passed
  rcases retains ip (s.peer ip).recvSeq inHand.held with before | ⟨past, -⟩ | ⟨-, held, buffered⟩
  · omega
  · omega
  · exact Nat.lt_irrefl _ (inHand.later buffered)

end Transport

open Transport Procedure

theorem Sidecar.Life.accounted
    (life : Life cfg (fun callback _ => dataOf callback = none) boot running s)
    : Accounted boot s := by
  induction life with
  | start boots => exact (unused_of_boots boots).accounted
  | @returned _ s _ callback host _ _ returns ih =>
      have before : Accounted boot { s with host } := ⟨ih.streams, ih.framed⟩
      exact before.returned returns
  | @raised _ s _ _ callback host _ _ raises noData ih =>
      have before : Accounted boot { s with host } := ⟨ih.streams, ih.framed⟩
      exact before.raised noData raises

/-- As long as no exception is raised while a data packet is received, every acknowledged packet
is retained. Such an exception loses one.
-/
theorem Sidecar.Life.retainsAcked
    (life : Life cfg (fun callback _ => dataOf callback = none) boot running s)
    : s.RetainsAcked boot
      ∧ ∀ (callback : Callback) (host : Host) (error : PyErr) (next : Sidecar),
          s.tunnelTransport = true
          → callback.run cfg { s with host } = .error error next
          → (next.RetainsAcked boot ↔ dataOf callback = none) := by
  refine ⟨life.accounted.retains, fun callback host error next transport raises => ?_⟩
  have before : Accounted boot { s with host } := ⟨life.accounted.streams, life.accounted.framed⟩
  cases received : dataOf callback with
  | none => exact iff_of_true (before.raised received raises).retains rfl
  | some data =>
      obtain ⟨src, seq, held⟩ := data
      obtain ⟨packet, rfl, parsed⟩ := dataOf_eq_some received
      have inHand := (datagramReceived_retains cfg src parsed _).error (s := { s with host })
        ⟨transport, before.streams src⟩ raises
      exact iff_of_false inHand.loses (by simp)

/-- The packet after the next one of A, which B has to buffer. -/
def aheadFrame : Callback := .received (dataFrame 1 [10, 24, 24, 11] [109]) nodeA

/-- A client's datagram cannot be delivered; then a packet of A is buffered. -/
theorem Sidecar.Life.retainsAcked_failedClientDelivery
    : ∃ s failed : Sidecar,
        Callback.run (threeMembers nodeB) clientDatagram
            { threeStarted nodeB with host := { faults := [true] } }
          = .error .osError failed
        ∧ Callback.run (threeMembers nodeB) aheadFrame { failed with host := {} } = .ok () s
        ∧ s.trace.wire = [(packAck 1, nodeA)]
        ∧ s.RetainsAcked (threeStarted nodeB) := by
  have ran : (match Callback.run (threeMembers nodeB) clientDatagram
          { threeStarted nodeB with host := { faults := [true] } } with
      | .error .osError failed =>
          (returned? (Callback.run (threeMembers nodeB) aheadFrame { failed with host := {} })).any
            (fun next => next.2.trace.wire == [(packAck 1, nodeA)])
      | _ => false) = true := by
    decide +kernel
  cases stopped : Callback.run (threeMembers nodeB) clientDatagram
    { threeStarted nodeB with host := { faults := [true] } } with
  | ok _ _ => simp [stopped] at ran
  | error e failed =>
      rw [stopped] at ran
      cases e <;> simp only [Bool.false_eq_true] at ran
      obtain ⟨⟨_, s⟩, returns, shown⟩ := (Option.any_eq_true _ _).mp ran
      have returns := returned?_eq_some.mp returns
      have booted : Life (threeMembers nodeB) (fun callback _ => dataOf callback = none)
          (threeStarted nodeB) true (threeStarted nodeB) :=
        .start (.fresh (threeStarted_starts nodeB))
      have life := booted.raised clientDatagram _ (fun _ => rfl) stopped (by decide +kernel)
      have life := life.returned aheadFrame {} (fun _ => rfl) returns
      exact ⟨s, failed, rfl, returns, beq_iff_eq.mp shown, (Sidecar.Life.retainsAcked life).1⟩

/-- B acknowledges the first packet of A, and cannot open a socket to hand it to the app. -/
theorem Sidecar.Life.acked_lost
    : ∃ s : Sidecar,
        Life (threeMembers nodeB) (fun _ _ => True) (threeStarted nodeB) true s
        ∧ s.trace.wire = [(packAck 0, nodeA)]
        ∧ ¬ s.RetainsAcked (threeStarted nodeB) := by
  have ran : ((threeStarted nodeB).outlive (threeMembers nodeB) true
      [(.received (dataFrame 0 [10, 24, 24, 11] [109]) nodeA, { faults := [true] })]).any
        (fun (running, s) =>
          running && s.trace.wire == [(packAck 0, nodeA)] && (s.peer nodeA).recvSeq == 0
          && (s.peer nodeA).recvBuffer.get? 0 == none) = true := by
    decide +kernel
  obtain ⟨⟨running, s⟩, ran, shown⟩ := (Option.any_eq_true _ _).mp ran
  simp only [Bool.and_eq_true, beq_iff_eq] at shown
  obtain ⟨⟨⟨rfl, wire⟩, recvSeq⟩, buffer⟩ := shown
  refine ⟨s, (Life.start (.fresh (threeStarted_starts nodeB))).outlive ran, wire, ?_⟩
  intro retains
  have acked : 0 ∈ Transport.acksTo s.trace.wire nodeA :=
    ⟨packAck 0, by rw [wire]; exact List.mem_singleton_self _, parseFrame_packAck (by decide)⟩
  rcases retains nodeA 0 acked with before | ⟨past, -⟩ | ⟨-, held, buffered⟩
  · exact absurd before (Nat.not_lt_zero _)
  · omega
  · rw [buffer] at buffered
    cases buffered

end MeshSnapshot
