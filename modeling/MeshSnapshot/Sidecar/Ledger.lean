import MeshSnapshot.Library.Deferral
import MeshSnapshot.Sidecar.Moves

/-! The ledger of a peer: what became of the packets of its stream. Snapshots defer the
delivery of a stream, and every journal move moves the ledger of every peer accordingly.
-/

namespace MeshSnapshot

-----------------------------------------------------------------------------------------
-- Ledgers
-----------------------------------------------------------------------------------------

def isMarker (held : Held) : Bool := (markerId? held.payload).isSome

/-- The packets of one peer, with their sequence numbers. -/
def packetsOf (packets : List PeerPacket) (peer : Ip) : List (Nat × Held) :=
  (packets.filter (fun packet => packet.peer = peer)).map
    (fun packet => (packet.seq, packet.held))

@[simp] theorem packetsOf_append (packets more : List PeerPacket) (peer : Ip)
    : packetsOf (packets ++ more) peer = packetsOf packets peer ++ packetsOf more peer := by
  simp [packetsOf]

theorem packetsOf_singleton (packet : PeerPacket) (peer : Ip)
    : packetsOf [packet] peer
      = if packet.peer = peer then [(packet.seq, packet.held)] else [] := by
  by_cases here : packet.peer = peer <;> simp [packetsOf, here]

/-- What `channel_states` stores for a peer. -/
def SnapshotController.stored (ctrl : SnapshotController) (peer : Ip) : List (Nat × Held) :=
  ((ctrl.channelStates.get? peer).getD []).map (fun recorded => (recorded.seq, recorded.held))

namespace Journal

variable {cfg : Config} {j j' : Journal} {peer : Ip}

/-- The stream of a peer as a stream with deferred delivery. -/
def ledger (j : Journal) (peer : Ip) : Deferral.Stream Held where
  consumed := (packetsOf j.consumed peer).map Prod.snd
  delivered := packetsOf j.delivered peer
  deferred := j.ctrl.stored peer
  deferring := j.ctrl.isSnapshotting
  overtaken := j.overtaking.any (fun packet => packet.peer = peer)

/-- The packets of every peer have been passed in the order of their numbers. -/
def Counted (j : Journal) : Prop :=
  ∀ peer, (packetsOf j.consumed peer).map Prod.fst = List.range (j.recvSeq peer)

theorem Counted.length (counted : j.Counted) (peer : Ip)
    : (j.ledger peer).consumed.length = j.recvSeq peer := by
  have same := congrArg List.length (counted peer)
  rw [List.length_map, List.length_range] at same
  exact (List.length_map _).trans same

/-- The packets passed for a peer are its stream, numbered from zero. -/
theorem Counted.numbered (counted : j.Counted) (peer : Ip)
    : packetsOf j.consumed peer
      = Deferral.numbered (fun _ => false) (j.ledger peer).consumed := by
  have numbers := counted peer
  refine List.ext_getElem (by simp [Deferral.numbered, ledger]) fun index bound _ => ?_
  have number : (packetsOf j.consumed peer)[index].1 = index := by
    have here := congrArg (fun list => list[index]?) numbers
    simp only [List.getElem?_map, List.getElem?_eq_getElem bound, Option.map_some] at here
    obtain ⟨_, same⟩ := List.getElem?_eq_some_iff.mp here.symm
    rw [← same, List.getElem_range]
  refine Prod.ext ?_ ?_ <;> simp [Deferral.numbered, ledger, number]

/-- Below `recv_seq`, the stream of a peer has passed one packet under every number. -/
theorem Counted.consumed_at (counted : j.Counted) {peer : Ip} {seq : Nat}
    (below : seq < j.recvSeq peer)
    : ∃ held,
        (j.ledger peer).consumed[seq]? = some held
        ∧ (packetsOf j.consumed peer).filter (fun entry => entry.1 = seq) = [(seq, held)] := by
  rw [← counted.length peer] at below
  have found := List.getElem?_eq_getElem below
  refine ⟨_, found, ?_⟩
  rw [counted.numbered]
  exact Deferral.filter_numbered found rfl

theorem Counted.same (counted : j.Counted) (same : j.SameStreams j') : j'.Counted := by
  intro peer
  rw [same.consumed, same.recvSeq]
  exact counted peer

theorem Counted.pass (counted : j.Counted) {packet : PeerPacket}
    (next : packet.seq = j.recvSeq packet.peer) : (j.pass packet).Counted := by
  intro peer
  simp only [Journal.pass, packetsOf_append, packetsOf_singleton, List.map_append, counted peer]
  by_cases here : packet.peer = peer
  · subst here
    simp [List.range_succ, next]
  · simp [here, Ne.symm here]

theorem Move.counted (move : Move cfg j j') (counted : j.Counted) : j'.Counted := by
  cases move with
  | emit => exact counted
  | @forward datagram rest =>
      have receipt := sameReceipt_forward cfg (j.take rest) datagram
      exact counted.same ⟨receipt.recvSeq, receipt.consumed, receipt.isServer⟩
  | command _ _ _ hears =>
      have same := hears.sameStreams
      exact counted.same ⟨same.recvSeq, same.consumed, same.isServer⟩
  | send => exact counted
  | pass next processes =>
      have same := processes.sameStreams
      exact (counted.same ⟨same.recvSeq, same.consumed, same.isServer⟩).pass
        (next.trans (congrFun same.recvSeq _).symm)
  | abort _ ends =>
      obtain ⟨artifact, stored, -, rfl⟩ := ends
      exact counted

-----------------------------------------------------------------------------------------
-- A snapshot on the ledgers
-----------------------------------------------------------------------------------------

/-- What a flush replays of one peer. -/
theorem packetsOf_replayed (ctrl : SnapshotController) (peer : Ip)
    : packetsOf ctrl.replayed peer
      = (sortRecorded ((ctrl.channelStates.get? peer).getD [])).map
          (fun recorded => (recorded.seq, recorded.held)) := by
  unfold packetsOf SnapshotController.replayed
  rw [Dict.filter_flatMap_entries _ peer _ PeerPacket.peer (by simp)]
  cases ctrl.channelStates.get? peer <;> simp [sortRecorded]

/-- A flush replays the messages of every peer in the order of their numbers. -/
theorem flush_ledger (j : Journal) (peer : Ip)
    : Deferral.Step isMarker (j.ledger peer) (j.flush.ledger peer) := by
  have replayed := packetsOf_replayed j.ctrl peer
  have flushed : j.flush.ledger peer = { j.ledger peer with
      delivered := (j.ledger peer).delivered ++ packetsOf j.ctrl.replayed peer
      deferred := []
      deferring := false } := by
    simp [ledger, flush, SnapshotController.stored]
  rw [flushed]
  refine .flush ?_ ?_
  · rw [replayed]
    exact (List.perm_insertionSort _ _).map _
  · rw [replayed, List.pairwise_map]
    exact List.pairwise_insertionSort (fun a b : Recorded => a.seq ≤ b.seq) _

theorem Ends.ledger {status : Status} (ends : j.Ends cfg status j') (peer : Ip)
    : Deferral.Step isMarker (j.ledger peer) (j'.ledger peer) := by
  obtain ⟨artifact, stored, -, rfl⟩ := ends
  exact flush_ledger (j.log (.posted artifact stored)) peer

theorem Settles.ledger (settles : j.Settles cfg j') (peer : Ip)
    : Deferral.Steps isMarker (j.ledger peer) (j'.ledger peer) := by
  by_cases closed : j.ctrl.recordingChannels = []
  · exact .single (((settles_closed closed).mp settles).ledger peer)
  · rw [(settles_open closed).mp settles]

theorem Begins.ledger {origin : Ip} {seq : Nat} {payload id : Bytes}
    (begins : j.Begins cfg origin seq payload id j') (idle : j.ctrl.isSnapshotting = false)
    (peer : Ip)
    : Deferral.Steps isMarker (j.ledger peer) (j'.ledger peer) := by
  obtain ⟨selfIp, cache, drained, opened, -, -, -, opens, settles⟩ := begins.opened
  refine .head (.begin idle) ?_
  refine (congrArg (Deferral.Steps isMarker · _) ?_).mp (settles.ledger peer)
  have nothing : opened.ctrl.stored peer = [] := by
    unfold SnapshotController.stored
    rw [opens.channelStates]
    split <;> rfl
  simp [Journal.ledger, opens.consumed, opens.delivered, opens.overtaking, opens.isSnapshotting,
    nothing]

theorem Hears.ledger {origin : Ip} {seq : Nat} {payload id : Bytes}
    (hears : j.Hears cfg origin seq payload id j') (peer : Ip)
    : Deferral.Steps isMarker (j.ledger peer) (j'.ledger peer) := by
  cases hears with
  | begins idle begun => exact begun.ledger idle peer
  | discards _ _ unchanged => exact unchanged ▸ .refl
  | ignores _ _ _ unchanged => exact unchanged ▸ .refl
  | closes _ _ _ settles => exact settles.ledger peer

-----------------------------------------------------------------------------------------
-- A packet on the ledgers
-----------------------------------------------------------------------------------------

theorem ledger_pass (j : Journal) (packet : PeerPacket) (peer : Ip)
    : (j.pass packet).ledger peer
      = { j.ledger peer with
          consumed :=
            (j.ledger peer).consumed ++ if packet.peer = peer then [packet.held] else [] } := by
  by_cases here : packet.peer = peer <;> simp [ledger, Journal.pass, packetsOf_singleton, here]

/-- A packet that is recorded is deferred, on the ledger of its peer. -/
theorem ledger_record (j : Journal) (packet : PeerPacket) {recorded : List Recorded}
    (state : j.ctrl.channelStates.get? packet.peer = some recorded) (peer : Ip)
    : (j.record packet recorded).ledger peer
      = { j.ledger peer with
          deferred :=
            (j.ledger peer).deferred
              ++ if packet.peer = peer then [(packet.seq, packet.held)] else [] } := by
  by_cases here : packet.peer = peer
  · subst here
    simp [ledger, record, setCtrl, SnapshotController.stored, state]
  · simp [ledger, record, setCtrl, SnapshotController.stored, here, Ne.symm here]

theorem ledger_deliver (j : Journal) (packet : PeerPacket) (peer : Ip)
    : (j.deliver packet).ledger peer
      = { j.ledger peer with
          delivered :=
            (j.ledger peer).delivered
              ++ if packet.peer = peer then [(packet.seq, packet.held)] else [] } := by
  by_cases here : packet.peer = peer <;> simp [ledger, deliver, packetsOf_singleton, here]

/-- A packet is noted on the ledger of its peer when older messages are withheld. -/
theorem ledger_note (j : Journal) (packet : PeerPacket) (peer : Ip)
    : (j.note packet).ledger peer
      = { j.ledger peer with
          overtaken :=
            (j.ledger peer).overtaken
              || (decide (packet.peer = peer) && decide (markerId? packet.held.payload = none)
                && j.ctrl.withholds packet.peer) } := by
  by_cases noted : markerId? packet.held.payload = none ∧ j.ctrl.withholds packet.peer
  · simp [ledger, note, noted]
  · have silent : (decide (markerId? packet.held.payload = none)
        && j.ctrl.withholds packet.peer) = false := by
      simpa using noted
    simp only [ledger, note, if_neg noted, Bool.and_assoc, silent, Bool.and_false, Bool.or_false]

/-- A channel that does not record withholds what is deferred. -/
theorem withholds_eq
    (passes : ¬ (j.ctrl.isSnapshotting = true ∧ peer ∈ j.ctrl.recordingChannels))
    : j.ctrl.withholds peer
      = ((j.ledger peer).deferring && !(j.ledger peer).deferred.isEmpty) := by
  cases recording : j.ctrl.isSnapshotting with
  | false => simp [SnapshotController.withholds, ledger, recording]
  | true =>
      have closed : peer ∉ j.ctrl.recordingChannels := fun found => passes ⟨recording, found⟩
      simp only [SnapshotController.withholds, ledger, recording, SnapshotController.stored]
      cases (j.ctrl.channelStates.get? peer).getD [] <;> simp [closed]

/-- Passing a packet of another peer. -/
theorem Processes.ledger_other {packet : PeerPacket}
    (processes : (j.note packet).Processes cfg packet j') (other : packet.peer ≠ peer)
    : Deferral.Steps isMarker (j.ledger peer) ((j'.pass packet).ledger peer) := by
  have noted : (j.note packet).ledger peer = j.ledger peer := by
    simp [ledger_note, other]
  have passed : (j'.pass packet).ledger peer = j'.ledger peer := by
    simp [ledger_pass, other]
  rw [← noted, passed]
  cases processes with
  | marker _ _ hears => exact hears.ledger peer
  | records _ _ _ recorded state appended =>
      rw [appended, ledger_record _ packet state]
      simp only [if_neg other, List.append_nil]
      exact .refl
  | delivers _ _ delivered =>
      rw [delivered, ledger_deliver]
      simp only [if_neg other, List.append_nil]
      exact .refl

/-- Passing a packet of the peer itself: one step, after what a marker sets off. -/
private theorem Processes.ledger_own {packet : PeerPacket} (counted : j.Counted)
    (next : packet.seq = j.recvSeq packet.peer)
    (processes : (j.note packet).Processes cfg packet j')
    : Deferral.Steps isMarker (j.ledger packet.peer)
        ((j'.pass packet).ledger packet.peer) := by
  have number : packet.seq = (j.ledger packet.peer).consumed.length :=
    next.trans (counted.length packet.peer).symm
  cases processes with
  | marker id isMarker_ hears =>
      have unnoted : (j.note packet).ledger packet.peer = j.ledger packet.peer := by
        simp [ledger_note, isMarker_]
      rw [← unnoted, ledger_pass]
      refine .tail (hears.ledger packet.peer) ?_
      simp only [if_true]
      exact .skip (by simp [isMarker, isMarker_])
  | records plain recording found recorded state appended =>
      have kept : j.ctrl.withholds packet.peer = false := by
        have found : packet.peer ∈ j.ctrl.recordingChannels := found
        simp [SnapshotController.withholds, found]
      rw [appended, ledger_pass, ledger_record _ packet state, ledger_note, number]
      simp only [kept, Bool.and_false, Bool.or_false, if_true]
      exact .single (.defer (by simp [isMarker, plain]) recording)
  | delivers plain passes delivered =>
      have passes : ¬ (j.ctrl.isSnapshotting = true
          ∧ packet.peer ∈ j.ctrl.recordingChannels) := passes
      have withheld := withholds_eq passes
      rw [delivered, ledger_pass, ledger_deliver, ledger_note, number]
      simp only [plain, decide_true, Bool.true_and, withheld, if_true]
      exact .single (.deliver (by simp [isMarker, plain]))

/-- Every move is a sequence of steps of the ledger of every peer. -/
theorem Move.ledger (move : Move cfg j j') (counted : j.Counted) (peer : Ip)
    : Deferral.Steps isMarker (j.ledger peer) (j'.ledger peer) := by
  cases move with
  | emit => exact .refl
  | @forward datagram rest =>
      obtain ⟨ctrl, -, -, consumed, overtaking, delivered, -⟩ :=
        sameReceipt_forward cfg (j.take rest) datagram
      have same : ((j.take rest).forward cfg datagram).ledger peer = j.ledger peer := by
        unfold Journal.ledger
        rw [ctrl, consumed, overtaking, delivered]
        rfl
      rw [same]
  | command _ _ _ hears => exact hears.ledger peer
  | send => exact .refl
  | @pass _ packet next processes =>
      by_cases here : packet.peer = peer
      · exact here ▸ processes.ledger_own counted next
      · exact processes.ledger_other here
  | abort _ ends => exact .single (ends.ledger peer)

/-- Every ledger satisfies the invariant of deferred delivery. -/
structure Balanced (j : Journal) : Prop where
  recordsPlain : j.ctrl.RecordsPlain
  counted : j.Counted
  ledger : ∀ peer, Deferral.Inv isMarker (j.ledger peer)

theorem Move.balanced (move : Move cfg j j') (balanced : j.Balanced) : j'.Balanced where
  recordsPlain := move.recordsPlain balanced.recordsPlain
  counted := move.counted balanced.counted
  ledger peer := (balanced.ledger peer).steps (move.ledger balanced.counted peer)

/-- A packet that has been passed and is no marker was delivered once, or is stored once while a
snapshot is recorded, and never both.
-/
theorem Balanced.once (balanced : j.Balanced) {peer : Ip} {seq : Nat} {held : Held}
    (found : (j.ledger peer).consumed[seq]? = some held) (plain : markerId? held.payload = none)
    : (packetsOf j.delivered peer).filter (fun entry => entry.1 = seq) = [(seq, held)]
          ∧ (j.ctrl.stored peer).filter (fun entry => entry.1 = seq) = []
        ∨ j.ctrl.isSnapshotting = true
          ∧ (packetsOf j.delivered peer).filter (fun entry => entry.1 = seq) = []
          ∧ (j.ctrl.stored peer).filter (fun entry => entry.1 = seq) = [(seq, held)] := by
  have ledger := balanced.ledger peer
  rcases ledger.once found (by simp [isMarker, plain]) with once | ⟨undelivered, once⟩
  · exact .inl once
  · refine .inr ⟨?_, undelivered, once⟩
    cases recording : j.ctrl.isSnapshotting with
    | true => rfl
    | false =>
        rw [ledger.idle recording] at once
        cases once

end Journal

/-- Between the callbacks of a fresh sidecar, every ledger is balanced. -/
theorem Sidecar.Run.balanced {cfg : Config} {s : Sidecar} (run : s.Run cfg)
    : s.journal.Balanced := by
  induction run with
  | start starts =>
      obtain ⟨isServer, selfIpCache, rfl, -⟩ := starts.started
      refine ⟨?_, ?_, ?_⟩
      · intro ip recorded message found
        simp [Sidecar.journal, Sidecar.started] at found
      · intro peer
        simp [Sidecar.journal, Sidecar.started, Sidecar.peer, packetsOf]
      · intro peer
        exact Deferral.Inv.start
  | call callback host _ returned balanced =>
      exact (call_ok balanced.recordsPlain returned).keeps Journal.Move.balanced balanced

end MeshSnapshot
