import MeshSnapshot.Sidecar.Effects

/-! Every callback is a sequence of journal moves. The one invariant this rests on is that
recorded messages are no markers, so that a flush cannot begin a snapshot.
-/

namespace MeshSnapshot

open Procedure

-----------------------------------------------------------------------------------------
-- Recorded messages are no markers
-----------------------------------------------------------------------------------------

theorem recordsPlain_empty {ctrl : SnapshotController} (empty : ctrl.channelStates = ∅)
    : ctrl.RecordsPlain := by
  intro ip recorded message found
  simp [empty] at found

namespace Journal

variable {cfg : Config} {j j' : Journal}

theorem recordsPlain_flush (j : Journal) : j.flush.ctrl.RecordsPlain := recordsPlain_empty rfl

theorem Ends.recordsPlain {status : Status} (ends : j.Ends cfg status j')
    : j'.ctrl.RecordsPlain := by
  obtain ⟨artifact, stored, -, rfl⟩ := ends
  exact recordsPlain_flush _

theorem Settles.recordsPlain (settles : j.Settles cfg j') (plain : j.ctrl.RecordsPlain)
    : j'.ctrl.RecordsPlain := by
  by_cases closed : j.ctrl.recordingChannels = []
  · exact ((settles_closed closed).mp settles).recordsPlain
  · rwa [(settles_open closed).mp settles]

/-- A begin clears what was recorded before it opens the channels. -/
theorem Begins.recordsPlain {origin : Ip} {seq : Nat} {payload id : Bytes}
    (begins : j.Begins cfg origin seq payload id j') : j'.ctrl.RecordsPlain := by
  obtain ⟨selfIp, cache, drained, opened, -, -, -, opens, settles⟩ := begins.opened
  exact settles.recordsPlain opens.recordsPlain

theorem Hears.recordsPlain {peer : Ip} {seq : Nat} {payload id : Bytes}
    (hears : j.Hears cfg peer seq payload id j') (plain : j.ctrl.RecordsPlain)
    : j'.ctrl.RecordsPlain := by
  cases hears with
  | begins _ begun => exact begun.recordsPlain
  | discards _ _ unchanged => rwa [unchanged]
  | ignores _ _ _ unchanged => rwa [unchanged]
  | closes _ _ _ settles => exact settles.recordsPlain plain

theorem Processes.recordsPlain {packet : PeerPacket} (processes : j.Processes cfg packet j')
    (plain : j.ctrl.RecordsPlain) : j'.ctrl.RecordsPlain := by
  cases processes with
  | marker id _ hears => exact hears.recordsPlain plain
  | records isPlain _ _ recorded state appended =>
      subst appended
      intro ip recorded' message found member
      simp only [record, setCtrl, Dict.get?_set] at found
      split at found
      · obtain rfl := Option.some.inj found
        rcases List.mem_append.mp member with earlier | last
        · exact plain state earlier
        · obtain rfl := List.mem_singleton.mp last
          exact isPlain
      · exact plain found member
  | delivers _ _ delivered => rwa [delivered]

theorem Move.recordsPlain (move : Move cfg j j') (plain : j.ctrl.RecordsPlain)
    : j'.ctrl.RecordsPlain := by
  cases move with
  | emit => exact plain
  | forward => rwa [(sameReceipt_forward ..).ctrl]
  | command _ _ _ hears => exact hears.recordsPlain plain
  | send => exact plain
  | pass _ processes => exact processes.recordsPlain plain
  | abort _ ends => exact ends.recordsPlain

/-- A move keeps an invariant; then so does a sequence of moves. -/
theorem Moves.keeps {invariant : Journal → Prop} (moves : Moves cfg j j')
    (step : ∀ {a b}, Move cfg a b → invariant a → invariant b) (start : invariant j)
    : invariant j' := by
  induction moves with
  | refl => exact start
  | tail _ move ih => exact step move ih

-----------------------------------------------------------------------------------------
-- Processing leaves the streams alone
-----------------------------------------------------------------------------------------

/-- Two journals whose in-order streams stand at the same packets. -/
structure SameStreams (j j' : Journal) : Prop where
  recvSeq : j'.recvSeq = j.recvSeq
  consumed : j'.consumed = j.consumed
  isServer : j'.isServer = j.isServer

theorem Settles.sameStreams (settles : j.Settles cfg j') : j.SameStreams j' := by
  by_cases closed : j.ctrl.recordingChannels = []
  · obtain ⟨artifact, stored, -, rfl⟩ := (settles_closed closed).mp settles
    exact ⟨rfl, rfl, rfl⟩
  · rw [(settles_open closed).mp settles]
    exact ⟨rfl, rfl, rfl⟩

theorem Begins.sameStreams {origin : Ip} {seq : Nat} {payload id : Bytes}
    (begins : j.Begins cfg origin seq payload id j') : j.SameStreams j' := by
  obtain ⟨selfIp, cache, drained, opened, -, -, -, opens, settles⟩ := begins.opened
  have same := settles.sameStreams
  exact ⟨same.recvSeq.trans opens.recvSeq, same.consumed.trans opens.consumed,
    same.isServer.trans opens.isServer⟩

theorem Hears.sameStreams {peer : Ip} {seq : Nat} {payload id : Bytes}
    (hears : j.Hears cfg peer seq payload id j') : j.SameStreams j' := by
  cases hears with
  | begins _ begun =>
      have same := begun.sameStreams
      exact ⟨same.recvSeq, same.consumed, same.isServer⟩
  | discards _ _ unchanged => exact unchanged ▸ ⟨rfl, rfl, rfl⟩
  | ignores _ _ _ unchanged => exact unchanged ▸ ⟨rfl, rfl, rfl⟩
  | closes _ _ _ settles =>
      have same := settles.sameStreams
      exact ⟨same.recvSeq, same.consumed, same.isServer⟩

theorem Processes.sameStreams {packet : PeerPacket} (processes : j.Processes cfg packet j')
    : j.SameStreams j' := by
  cases processes with
  | marker id _ hears => exact hears.sameStreams
  | records _ _ _ _ _ appended => exact appended ▸ ⟨rfl, rfl, rfl⟩
  | delivers _ _ delivered => exact delivered ▸ ⟨rfl, rfl, rfl⟩

end Journal

-----------------------------------------------------------------------------------------
-- Callbacks
-----------------------------------------------------------------------------------------

variable {cfg : Config} {s s' : Sidecar} {u : Unit}

/-- A change of a peer that keeps both sequence counters does not show in the journal. -/
theorem modifyPeer_journal {ip : Ip} {change : PeerState → PeerState}
    (returned : modifyPeer ip change s = .ok u s')
    (sendSeq : ∀ peer, (change peer).sendSeq = peer.sendSeq)
    (recvSeq : ∀ peer, (change peer).recvSeq = peer.recvSeq)
    : s'.journal = s.journal := by
  obtain rfl := modifyPeer_ok.mp returned
  refine (congrArg Core.journal (core_setPeer s ip _)).trans ?_
  refine Journal.eq_of_seqs rfl ?_ ?_
  · rw [Core.setPeer, sendSeq]
    exact Function.update_eq_self ip _
  · rw [Core.setPeer, recvSeq]
    exact Function.update_eq_self ip _

theorem journal_logOvertaking (s : Sidecar) (packet : PeerPacket)
    : (s.logOvertaking packet).journal = s.journal.note packet := by
  unfold Sidecar.logOvertaking Journal.note
  have ctrl : s.journal.ctrl = s.ctrl := rfl
  simp only [ctrl]
  split <;> rfl

theorem passPacket_ok {ip : Ip} {held : Held} (plain : s.ctrl.RecordsPlain)
    (returned : passPacket cfg ip held s = .ok u s')
    : Journal.Move cfg s.journal s'.journal := by
  obtain ⟨_, _, read, returned⟩ := bind_ok.mp returned
  obtain ⟨rfl, rfl⟩ := read_ok.mp read
  obtain ⟨_, s₁, noted, returned⟩ := bind_ok.mp returned
  obtain rfl := update_ok.mp noted
  have noted := journal_logOvertaking s ⟨ip, (s.peer ip).recvSeq, held⟩
  obtain ⟨_, s₂, processed, returned⟩ := bind_ok.mp returned
  obtain ⟨_, s₃, logged, returned⟩ := bind_ok.mp returned
  obtain rfl := update_ok.mp logged
  obtain rfl := modifyPeer_ok.mp returned
  have processes := processAndDeliver_ok (by rw [← Sidecar.journal_ctrl, noted]; exact plain)
    processed
  rw [noted] at processes
  have recvSeq : (s₂.peer ip).recvSeq = (s.peer ip).recvSeq := congrFun processes.sameStreams.recvSeq ip
  have move := Journal.Move.pass rfl processes
  refine (congrArg (Journal.Move cfg s.journal) ?_).mpr move
  have core := congrArg Core.journal (core_setPeer
    (s₂.logConsumed ⟨ip, (s₂.peer ip).recvSeq, held⟩) ip
    { s₂.peer ip with recvSeq := (s₂.peer ip).recvSeq + 1 })
  refine core.trans ?_
  rw [recvSeq]
  refine Journal.eq_of_seqs rfl ?_ ?_
  · exact Function.update_eq_self ip _
  · simp only [Core.setPeer, Journal.pass]
    rw [← recvSeq]
    rfl

theorem flushBuffer_ok {ip : Ip} {fuel : Nat} (plain : s.ctrl.RecordsPlain)
    (returned : flushBuffer cfg ip fuel s = .ok u s')
    : Journal.Moves cfg s.journal s'.journal := by
  induction fuel generalizing s with
  | zero =>
      obtain ⟨-, rfl⟩ := pure_ok.mp returned
      exact .refl
  | succ fuel ih =>
      obtain ⟨_, _, read, returned⟩ := bind_ok.mp returned
      obtain ⟨rfl, rfl⟩ := read_ok.mp read
      cases found : (s.peer ip).recvBuffer.get? (s.peer ip).recvSeq with
      | none =>
          simp only [found] at returned
          obtain ⟨-, rfl⟩ := pure_ok.mp returned
          exact .refl
      | some held =>
          simp only [found] at returned
          obtain ⟨_, s₁, popped, returned⟩ := bind_ok.mp returned
          have same := modifyPeer_journal popped (fun _ => rfl) fun _ => rfl
          have plain : s₁.journal.ctrl.RecordsPlain := same ▸ plain
          obtain ⟨_, s₂, passed, returned⟩ := bind_ok.mp returned
          have move := passPacket_ok plain passed
          have more := ih (move.recordsPlain plain) returned
          rw [same] at move
          exact more.head move

/-- A data packet: the packet itself when it is next, then what was buffered behind it. -/
theorem dataReceived_ok {ip : Ip} {seq : Nat} {held : Held} (plain : s.ctrl.RecordsPlain)
    (returned : dataReceived cfg ip seq held s = .ok u s')
    : Journal.Moves cfg s.journal s'.journal := by
  obtain ⟨_, s₁, acked, returned⟩ := bind_ok.mp returned
  obtain rfl := tunnelSendto_ok acked
  obtain ⟨_, _, read, returned⟩ := bind_ok.mp returned
  obtain ⟨rfl, rfl⟩ := read_ok.mp read
  split at returned
  case isTrue =>
    obtain ⟨_, s₂, passed, returned⟩ := bind_ok.mp returned
    obtain ⟨_, _, read, returned⟩ := bind_ok.mp returned
    obtain ⟨rfl, rfl⟩ := read_ok.mp read
    have move := passPacket_ok (s := s.putWire (packAck seq) ip) plain passed
    exact (flushBuffer_ok (move.recordsPlain plain) returned).head move
  case isFalse =>
    split at returned
    case isTrue =>
      rw [modifyPeer_journal returned (fun _ => rfl) fun _ => rfl]
      exact .refl
    case isFalse =>
      obtain ⟨-, rfl⟩ := pure_ok.mp returned
      exact .refl

theorem datagramReceived_ok {packet : Bytes} {ip : Ip} (plain : s.ctrl.RecordsPlain)
    (returned : datagramReceived cfg packet ip s = .ok u s')
    : Journal.Moves cfg s.journal s'.journal := by
  obtain ⟨_, s₁, known, returned⟩ := bind_ok.mp returned
  have same := (framed_getPeer ip).ok known
  rw [← same.journal]
  rw [← same.ctrl] at plain
  cases framed : parseFrame packet with
  | data seq held =>
      simp only [framed] at returned
      exact dataReceived_ok plain returned
  | plain held =>
      simp only [framed] at returned
      rw [((framed_plainReceived ip held).ok returned).journal]
  | ack seq =>
      simp only [framed] at returned
      rw [modifyPeer_journal returned (fun _ => rfl) fun _ => rfl]
  | ignored =>
      simp only [framed] at returned
      obtain ⟨-, rfl⟩ := pure_ok.mp returned
      exact .refl

/-- The id that a START command gives is taken from it. -/
theorem startId_given {data id given : Bytes} (drawn : startId data s = .ok id s')
    (named : data = startPrefix ++ 58 :: given)
    : id = given := by
  have isNamed : (startPrefix ++ [58]).isPrefixOf data = true := by
    rw [named, List.isPrefixOf_iff_prefix, List.append_cons]
    exact List.prefix_append _ _
  unfold startId at drawn
  rw [if_pos isNamed] at drawn
  obtain ⟨rfl, -⟩ := pure_ok.mp drawn
  rw [named]
  rfl

/-- One datagram from the intercept socket: a START command, or one to forward. -/
theorem handleDatagram_ok {j : Journal} {datagram : Datagram} {rest : List Datagram}
    (plain : s.ctrl.RecordsPlain) (queued : j.queue = datagram :: rest)
    (taken : s.journal = j.take rest)
    (returned : handleDatagram cfg datagram s = .ok u s')
    : Journal.Move cfg j s'.journal := by
  unfold handleDatagram at returned
  split at returned
  case isTrue isStart =>
    obtain ⟨id, s₁, drawn, returned⟩ := bind_ok.mp returned
    have same := (framed_startId _).ok drawn
    obtain ⟨_, s₂, logged, returned⟩ := bind_ok.mp returned
    have logged := logControl_ok logged
    obtain ⟨consumed, s₃, processed, returned⟩ := bind_ok.mp returned
    obtain ⟨-, rfl⟩ := pure_ok.mp returned
    have ctrl : s₂.ctrl = s.ctrl := (congrArg Journal.ctrl logged).trans same.ctrl
    obtain ⟨-, hears⟩ := processMessage_marker_ok (ctrl ▸ plain) (markerId?_marker id) processed
    rw [logged, same.journal, taken] at hears
    exact .command queued isStart id hears fun given => startId_given drawn
  case isFalse forwards =>
    rw [(forwardIntercepted_ok returned).1, taken]
    exact .forward queued (Bool.eq_false_iff.mpr forwards)

theorem handleLoop_ok {fuel : Nat} (plain : s.ctrl.RecordsPlain)
    (returned : handleLoop cfg fuel s = .ok u s')
    : Journal.Moves cfg s.journal s'.journal := by
  induction fuel generalizing s with
  | zero =>
      obtain ⟨-, rfl⟩ := pure_ok.mp returned
      exact .refl
  | succ fuel ih =>
      obtain ⟨received, s₁, ran, returned⟩ := bind_ok.mp returned
      obtain ⟨datagrams, outcome⟩ := recvmsg_ok ran
      cases received with
      | none =>
          obtain ⟨-, rfl⟩ := pure_ok.mp returned
          exact .single (outcome.1 ▸ .emit _ _)
      | some datagram =>
          obtain ⟨rest, queued, taken, -⟩ := outcome
          obtain ⟨_, s₂, handled, returned⟩ := bind_ok.mp returned
          have ctrl : s₁.ctrl = s.ctrl := congrArg Journal.ctrl taken
          have move := handleDatagram_ok (ctrl ▸ plain) queued taken handled
          exact .head (.emit _ datagrams) (.head move (ih (move.recordsPlain plain) returned))

theorem checkTimeout_cases (plain : s.ctrl.RecordsPlain)
    (returned : checkTimeout cfg s = .ok u s')
    : s'.journal = s.journal
      ∨ s.ctrl.isSnapshotting = true ∧ s.journal.Ends cfg .aborted s'.journal := by
  obtain ⟨_, _, read, returned⟩ := bind_ok.mp returned
  obtain ⟨rfl, rfl⟩ := read_ok.mp read
  cases recording : s.ctrl.isSnapshotting with
  | false =>
      simp only [recording] at returned
      obtain ⟨-, rfl⟩ := pure_ok.mp returned
      exact .inl rfl
  | true =>
      cases set : s.ctrl.snapshotDeadline with
      | none =>
          simp only [recording, set] at returned
          obtain ⟨-, rfl⟩ := pure_ok.mp returned
          exact .inl rfl
      | some deadline =>
          simp only [recording, set] at returned
          obtain ⟨now, s₁, ticked, returned⟩ := bind_ok.mp returned
          have same := framed_time.ok ticked
          rw [← same.ctrl] at plain
          rw [← same.journal]
          split at returned
          · exact .inr ⟨rfl,
              abortSnapshot_ok (replays_processAndDeliver cfg callDepth) plain returned⟩
          · obtain ⟨-, rfl⟩ := pure_ok.mp returned
            exact .inl rfl

theorem checkTimeout_ok (plain : s.ctrl.RecordsPlain) (returned : checkTimeout cfg s = .ok u s')
    : Journal.Moves cfg s.journal s'.journal := by
  rcases checkTimeout_cases plain returned with same | ⟨recording, ends⟩
  · exact same ▸ .refl
  · exact .single (.abort recording ends)

theorem retransmit_ok {now sentAt : Int} {ip : Ip} {seq : Nat} {packet : Bytes}
    (returned : retransmit now ip seq sentAt packet s = .ok u s')
    : s'.journal = s.journal := by
  obtain ⟨_, _, read, returned⟩ := bind_ok.mp returned
  obtain ⟨rfl, rfl⟩ := read_ok.mp read
  split at returned
  case isTrue =>
    obtain ⟨_, s₁, put, returned⟩ := bind_ok.mp returned
    obtain rfl := tunnelSendto_ok put
    exact (modifyPeer_journal returned (fun _ => rfl) fun _ => rfl).trans rfl
  case isFalse =>
    obtain ⟨-, rfl⟩ := pure_ok.mp returned
    rfl

theorem retransmitRound_ok (plain : s.ctrl.RecordsPlain)
    (returned : retransmitRound cfg s = .ok u s')
    : Journal.Moves cfg s.journal s'.journal := by
  obtain ⟨now, s₁, ticked, returned⟩ := bind_ok.mp returned
  have same := framed_time.ok ticked
  rw [← same.ctrl] at plain
  rw [← same.journal]
  obtain ⟨_, s₂, checked, returned⟩ := bind_ok.mp returned
  obtain ⟨_, _, read, returned⟩ := bind_ok.mp returned
  obtain ⟨rfl, rfl⟩ := read_ok.mp read
  have resent : s'.journal = s₂.journal := by
    refine forEach_ok (fun t => t.journal = s₂.journal) returned rfl ?_
    rintro ⟨ip, peer⟩ - t t' before looped
    refine forEach_ok (fun t => t.journal = s₂.journal) looped before ?_
    rintro ⟨seq, sentAt, packet⟩ - t t' before again
    exact (retransmit_ok again).trans before
  rw [resent]
  exact checkTimeout_ok plain checked

theorem run_ok {callback : Callback} (plain : s.ctrl.RecordsPlain)
    (returned : callback.run cfg s = .ok u s')
    : Journal.Moves cfg s.journal s'.journal := by
  cases callback with
  | emit datagrams =>
      have emitted : update (fun s => s.emit datagrams) s = .ok u s' := returned
      obtain rfl := update_ok.mp emitted
      exact .single (.emit s.journal datagrams)
  | send dst message =>
      obtain ⟨_, s₁, known, returned⟩ := bind_ok.mp returned
      rw [(sendData_ok returned).1, ((framed_getPeer dst).ok known).journal]
      exact .single (.send s.journal dst message)
  | intercept =>
      obtain ⟨_, _, read, returned⟩ := bind_ok.mp returned
      obtain ⟨rfl, rfl⟩ := read_ok.mp read
      exact handleLoop_ok plain returned
  | received packet src => exact datagramReceived_ok plain returned
  | retransmit => exact retransmitRound_ok plain returned

/-- Every callback is a sequence of journal moves. -/
theorem call_ok {callback : Callback} {host : Host} (plain : s.ctrl.RecordsPlain)
    (returned : s.call cfg callback host = some s')
    : Journal.Moves cfg s.journal s'.journal :=
  run_ok (s := { s with host }) plain (Sidecar.call_eq_some.mp returned)

end MeshSnapshot
