import MeshSnapshot.Sidecar.Ledger

/-! The ledger of a peer in a sidecar that does not begin at the beginning: what it delivers goes on
from messages that were delivered before, whatever the numbers of the peer's packets are.
-/

namespace MeshSnapshot.Journal

variable {cfg : Config} {j j' : Journal} {earlier : List Held} {peer : Ip}

/-- The ledger of a peer goes on from the messages `earlier`. -/
def GoesOn (earlier : List Held) (peer : Ip) (j : Journal) : Prop :=
  Deferral.Continues isMarker earlier (j.recvSeq peer) (j.ledger peer)

/-- Whatever passes no packet of the peer begins or ends its deferring at most. -/
theorem GoesOn.still (goesOn : j.GoesOn earlier peer)
    (steps : Deferral.Steps isMarker (j.ledger peer) (j'.ledger peer))
    (recvSeq : j'.recvSeq peer = j.recvSeq peer)
    (consumed : (j'.ledger peer).consumed = (j.ledger peer).consumed)
    : j'.GoesOn earlier peer := by
  unfold GoesOn
  rw [recvSeq]
  exact Deferral.Continues.steps goesOn steps (Nat.le_of_eq (congrArg List.length consumed))

theorem GoesOn.sameStreams (goesOn : j.GoesOn earlier peer)
    (steps : Deferral.Steps isMarker (j.ledger peer) (j'.ledger peer)) (same : j.SameStreams j')
    : j'.GoesOn earlier peer := by
  refine goesOn.still steps (congrFun same.recvSeq peer) ?_
  simp only [ledger, same.consumed]

theorem Hears.goesOn {origin : Ip} {seq : Nat} {payload id : Bytes}
    (hears : j.Hears cfg origin seq payload id j') (goesOn : j.GoesOn earlier peer)
    : j'.GoesOn earlier peer :=
  goesOn.sameStreams (hears.ledger peer) hears.sameStreams

/-- A packet of another peer leaves the packets of the peer as they were. -/
theorem Processes.goesOn_other {packet : PeerPacket}
    (processes : (j.note packet).Processes cfg packet j') (other : packet.peer ≠ peer)
    (goesOn : j.GoesOn earlier peer)
    : (j'.pass packet).GoesOn earlier peer := by
  have same := processes.sameStreams
  refine goesOn.still (processes.ledger_other other) ?_ ?_
  · have others : (j'.pass packet).recvSeq peer = j'.recvSeq peer :=
      Function.update_of_ne (Ne.symm other) _ _
    exact others.trans (congrFun same.recvSeq peer)
  · have passed := ledger_pass j' packet peer
    rw [if_neg other, List.append_nil] at passed
    rw [passed]
    simp only [ledger, same.consumed]
    rfl

/-- A packet of the peer itself goes behind what has been delivered or deferred. -/
theorem Processes.goesOn_own {packet : PeerPacket}
    (next : packet.seq = j.recvSeq packet.peer)
    (processes : (j.note packet).Processes cfg packet j')
    (goesOn : j.GoesOn earlier packet.peer)
    : (j'.pass packet).GoesOn earlier packet.peer := by
  have counter : (j'.pass packet).recvSeq packet.peer = j.recvSeq packet.peer + 1 := by
    have same := congrFun processes.sameStreams.recvSeq packet.peer
    simp only [Journal.pass, Function.update_self, same]
    rfl
  unfold GoesOn
  rw [counter, ledger_pass]
  cases processes with
  | marker id isMarker_ hears =>
      have unnoted : (j.note packet).ledger packet.peer = j.ledger packet.peer := by
        simp [ledger_note, isMarker_]
      have noted : (j.note packet).GoesOn earlier packet.peer := by
        unfold GoesOn
        rw [unnoted]
        exact goesOn
      have heard := hears.goesOn noted
      unfold GoesOn at heard
      rw [hears.sameStreams.recvSeq] at heard
      simp only [if_true]
      exact heard.skip (by simp [isMarker, isMarker_])
  | records plain recording found recorded state appended =>
      have kept : j.ctrl.withholds packet.peer = false := by
        have found : packet.peer ∈ j.ctrl.recordingChannels := found
        simp [SnapshotController.withholds, found]
      rw [appended, ledger_record _ packet state, ledger_note, next]
      simp only [kept, Bool.and_false, Bool.or_false, if_true]
      exact Deferral.Continues.defer goesOn (by simp [isMarker, plain]) recording
  | delivers plain passes delivered =>
      have passes : ¬ (j.ctrl.isSnapshotting = true
          ∧ packet.peer ∈ j.ctrl.recordingChannels) := passes
      have withheld := withholds_eq passes
      rw [delivered, ledger_deliver, ledger_note, next]
      simp only [plain, decide_true, Bool.true_and, withheld, if_true]
      exact Deferral.Continues.deliver goesOn (by simp [isMarker, plain])

/-- Every move lets a ledger go on. -/
theorem Move.goesOn (move : Move cfg j j') (goesOn : j.GoesOn earlier peer)
    : j'.GoesOn earlier peer := by
  cases move with
  | emit => exact goesOn
  | @forward datagram rest =>
      obtain ⟨ctrl, recvSeq, -, consumed, overtaking, delivered, -⟩ :=
        sameReceipt_forward cfg (j.take rest) datagram
      unfold GoesOn Journal.ledger
      rw [ctrl, recvSeq, consumed, overtaking, delivered]
      exact goesOn
  | command _ _ _ hears => exact hears.goesOn (show GoesOn _ _ _ from goesOn)
  | send => exact goesOn
  | @pass _ packet next processes =>
      by_cases here : packet.peer = peer
      · subst here
        exact processes.goesOn_own next goesOn
      · exact processes.goesOn_other here goesOn
  | abort _ ends =>
      have steps := Relation.ReflTransGen.single (ends.ledger peer)
      obtain ⟨artifact, stored, -, rfl⟩ := ends
      exact goesOn.sameStreams steps ⟨rfl, rfl, rfl⟩

end MeshSnapshot.Journal
