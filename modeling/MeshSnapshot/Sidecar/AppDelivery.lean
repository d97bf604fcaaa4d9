import MeshSnapshot.Model.Mesh
import MeshSnapshot.Sidecar.Ledger
import MeshSnapshot.Sidecar.Spoofing

/-! What reaches the local app, and in which order: the balanced ledgers of one sidecar read
as statements about its state and its trace.
-/

namespace MeshSnapshot

variable {cfg : Config} {s : Sidecar}

-----------------------------------------------------------------------------------------
-- Exactly once
-----------------------------------------------------------------------------------------

/-- Every packet below `recv_seq` that is no marker has been delivered once, or is stored once while a
snapshot is recorded, and never both. Every delivery is a send of its own to the app.
-/
theorem Sidecar.Run.delivered_or_stored_once (run : s.Run cfg) (peer : Ip) (seq : Nat)
    (below : seq < (s.peer peer).recvSeq)
    : (∃ held,
        (packetsOf s.trace.consumed peer).filter (fun entry => entry.1 = seq) = [(seq, held)]
        ∧ (markerId? held.payload = none
          → (packetsOf s.trace.delivered peer).filter (fun entry => entry.1 = seq)
                = [(seq, held)]
              ∧ (s.ctrl.stored peer).filter (fun entry => entry.1 = seq) = []
            ∨ s.ctrl.isSnapshotting = true
              ∧ (packetsOf s.trace.delivered peer).filter (fun entry => entry.1 = seq) = []
              ∧ (s.ctrl.stored peer).filter (fun entry => entry.1 = seq) = [(seq, held)]))
      ∧ s.trace.delivered.SublistForall₂ PeerPacket.SentAs s.trace.spoofed := by
  have balanced := run.balanced
  obtain ⟨held, found, unique⟩ := balanced.counted.consumed_at below
  exact ⟨⟨held, unique, balanced.once found⟩, run.faithful.delivered⟩

/-- A channel closes while another is still open. What it has recorded waits, and a later
message of the same peer passes it.
-/
def overtakingCalls : List (Callback × Host) := [
  (.emit [startCommand [49]], {}),
  (.intercept, {}),
  (.received (dataFrame 0 [10, 24, 24, 11] [109]) nodeA, {}),
  (.received (markerFrame 1 [49]) nodeA, {}),
  (.received (dataFrame 2 [10, 24, 24, 11] [110]) nodeA, {}),
  (.received (markerFrame 0 [49]) nodeC, {})
]

/-- While the channel waits for its flush, the recorded message is stored and not delivered. -/
theorem Sidecar.Run.stored_once_overtakingCalls
    : ∃ s held,
        (threeStarted nodeB).callAll (threeMembers nodeB)
            (overtakingCalls.take 5) = some s
        ∧ (packetsOf s.trace.delivered nodeA).filter (fun entry => entry.1 = 0) = []
        ∧ (s.ctrl.stored nodeA).filter (fun entry => entry.1 = 0) = [(0, held)] := by
  have ran : ((threeStarted nodeB).callAll (threeMembers nodeB)
      (overtakingCalls.take 5)).any (fun s =>
        (s.peer nodeA).recvSeq == 3
        && (packetsOf s.trace.consumed nodeA).all (fun entry =>
            entry.1 != 0 || markerId? entry.2.payload == none)
        && (packetsOf s.trace.delivered nodeA).all (fun entry => entry.1 != 0)) = true := by
    decide +kernel
  obtain ⟨s, returned, shown⟩ := (Option.any_eq_true _ _).mp ran
  simp only [Bool.and_eq_true, beq_iff_eq, List.all_eq_true, bne_iff_ne, Bool.or_eq_true]
    at shown
  obtain ⟨⟨received, plain⟩, undelivered⟩ := shown
  have run := (Sidecar.Run.start (threeStarted_starts nodeB)).callAll returned
  obtain ⟨⟨held, unique, once⟩, -⟩ := run.delivered_or_stored_once nodeA 0 (by omega)
  have kept : (0, held) ∈ (packetsOf s.trace.consumed nodeA).filter
      (fun entry => entry.1 = 0) := unique ▸ List.mem_singleton_self _
  have isPlain := (plain _ (List.mem_filter.mp kept).1).resolve_left fun nonzero => nonzero rfl
  refine ⟨s, held, returned, ?_⟩
  rcases once isPlain with ⟨delivered, -⟩ | ⟨-, once⟩
  · have sent : (0, held) ∈ (packetsOf s.trace.delivered nodeA).filter
        (fun entry => entry.1 = 0) := delivered ▸ List.mem_singleton_self _
    exact (undelivered _ (List.mem_filter.mp sent).1 rfl).elim
  · exact once

-----------------------------------------------------------------------------------------
-- In order
-----------------------------------------------------------------------------------------

/-- The packets of a peer reach the app in order as long as none overtakes recorded ones, and
between snapshots only then.
-/
theorem Sidecar.Run.delivered_increasing (run : s.Run cfg) (peer : Ip)
    : ((∀ packet ∈ s.trace.overtaking, packet.peer ≠ peer)
        → Deferral.Increasing (packetsOf s.trace.delivered peer))
      ∧ (s.ctrl.isSnapshotting = false
        → Deferral.Increasing (packetsOf s.trace.delivered peer)
        → ∀ packet ∈ s.trace.overtaking, packet.peer ≠ peer) := by
  have ledger := run.balanced.ledger peer
  have overtaken : (s.journal.ledger peer).overtaken = false
      ↔ ∀ packet ∈ s.trace.overtaking, packet.peer ≠ peer := by
    simp [Journal.ledger, Sidecar.journal]
  rw [← overtaken, ledger.ordered]
  refine ⟨fun increasing => (List.pairwise_append.mp increasing).1, fun idle increasing => ?_⟩
  rw [ledger.idle idle, List.append_nil]
  exact increasing

/-- The marker of C ends the snapshot before message 2 arrives. -/
def flushedCalls : List (Callback × Host) := [
  (.emit [startCommand [49]], {}),
  (.intercept, {}),
  (.received (dataFrame 0 [10, 24, 24, 11] [109]) nodeA, {}),
  (.received (markerFrame 1 [49]) nodeA, {}),
  (.received (markerFrame 0 [49]) nodeC, {}),
  (.received (dataFrame 2 [10, 24, 24, 11] [110]) nodeA, {})
]

theorem Sidecar.Run.delivered_increasing_flushedCalls
    : ∃ s,
        (threeStarted nodeB).callAll (threeMembers nodeB) flushedCalls = some s
        ∧ (packetsOf s.trace.delivered nodeA).map Prod.fst = [0, 2]
        ∧ Deferral.Increasing (packetsOf s.trace.delivered nodeA) := by
  have ran : ((threeStarted nodeB).callAll (threeMembers nodeB) flushedCalls).any (fun s =>
      s.trace.overtaking.isEmpty
      && (packetsOf s.trace.delivered nodeA).map Prod.fst == [0, 2]) = true := by
    decide +kernel
  obtain ⟨s, returned, shown⟩ := (Option.any_eq_true _ _).mp ran
  simp only [Bool.and_eq_true, List.isEmpty_iff, beq_iff_eq] at shown
  obtain ⟨inOrder, order⟩ := shown
  have run := (Sidecar.Run.start (threeStarted_starts nodeB)).callAll returned
  refine ⟨s, returned, order, (run.delivered_increasing nodeA).1 ?_⟩
  simp [inOrder]

/-- The flush delivers message 0 after message 2. -/
theorem Sidecar.Run.delivered_not_increasing
    : ∃ s,
        Sidecar.Run (threeMembers nodeB) s
        ∧ s.ctrl.isSnapshotting = false
        ∧ ¬ Deferral.Increasing (packetsOf s.trace.delivered nodeA) := by
  have ran : ((threeStarted nodeB).callAll (threeMembers nodeB)
      overtakingCalls).map
        (fun s => (s.ctrl.isSnapshotting, (packetsOf s.trace.delivered nodeA).map Prod.fst))
      = some (false, [2, 0]) := by decide +kernel
  obtain ⟨s, returned, shown⟩ := Option.map_eq_some_iff.mp ran
  obtain ⟨idle, order⟩ := Prod.mk.inj shown
  refine ⟨s, (Sidecar.Run.start (threeStarted_starts nodeB)).callAll returned, idle, ?_⟩
  rw [Deferral.Increasing, ← List.pairwise_map, order]
  decide

end MeshSnapshot
