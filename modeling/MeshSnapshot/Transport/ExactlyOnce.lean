import MeshSnapshot.Sidecar.Ledger
import MeshSnapshot.Transport.Reliable

/-! Exactly-once in-order transport: what one sidecar passes to `send_data` for another is
what the other passes to `process_and_deliver`, message by message and number by number.
-/

namespace MeshSnapshot

open Transport

variable {cfg : Ip → Config} {mesh : Mesh}

/-- The states of every sidecar of a mesh are those of a run of this sidecar. -/
theorem Mesh.Reachable.run (reachable : Mesh.Reachable cfg mesh) (node : Ip)
    : (mesh node).Run (cfg node) := by
  induction reachable with
  | init starts => exact .start (starts node)
  | step at_ callback host _ stepped ih =>
      obtain ⟨-, s', called, rfl⟩ := step_eq_some.mp stepped
      by_cases here : node = at_
      · subst here
        rw [Function.update_self]
        exact ih.call callback host called
      · rwa [Function.update_of_ne here]

/-- The messages passed to `send_data` for `dst`, numbered from zero. -/
def numberedTo (s : Sidecar) (dst : Ip) : List (Nat × Held) :=
  Deferral.numbered (fun _ => false) (sentTo s dst)

theorem packetsOf_consumed {s : Sidecar} (counted : s.journal.Counted) (src : Ip)
    : packetsOf s.trace.consumed src
      = Deferral.numbered (fun _ => false) (consumedFrom s src) := by
  have stream : (s.journal.ledger src).consumed = consumedFrom s src := by
    simp [Journal.ledger, packetsOf, consumedFrom, Sidecar.journal, Function.comp_def]
  rw [← stream]
  exact counted.numbered src

/-- At all times the receiver has passed on a prefix of what the sender was given. -/
theorem Mesh.Reachable.passes_prefix (reachable : Mesh.Reachable cfg mesh) (src dst : Ip)
    : packetsOf (mesh dst).trace.consumed src <+: numberedTo (mesh src) dst := by
  rw [packetsOf_consumed (reachable.run dst).balanced.counted src]
  exact Deferral.numbered_prefix (linksRest_of_reachable reachable src dst).ok.inv.passed_prefix

/-- Once nothing is unacknowledged, it has passed on all of it, and holds nothing back. -/
theorem Mesh.Reachable.passes_all (reachable : Mesh.Reachable cfg mesh) {src dst : Ip}
    (settled : ((mesh src).peer dst).unacked = ∅)
    : packetsOf (mesh dst).trace.consumed src = numberedTo (mesh src) dst
      ∧ ((mesh dst).peer src).recvBuffer = ∅ := by
  have link := linksRest_of_reachable reachable src dst
  have unacked : (linkOf [] none (senderView (mesh src) dst)
      (receiverView (mesh dst) src)).unacked = ∅ := by
    simp [linkOf, senderView, settled]
  obtain ⟨-, passed, buffer⟩ := link.ok.inv.drained unacked rfl link.absent
  rw [packetsOf_consumed (reachable.run dst).balanced.counted src]
  exact ⟨congrArg (Deferral.numbered fun _ => false) passed, Dict.eq_empty_of_get? buffer⟩

theorem Mesh.Reachable.consumed_prefix (reachable : Mesh.Reachable cfg mesh) (src dst : Ip)
    : packetsOf (mesh dst).trace.consumed src <+: numberedTo (mesh src) dst
      ∧ (((mesh src).peer dst).unacked = ∅
        → packetsOf (mesh dst).trace.consumed src = numberedTo (mesh src) dst
          ∧ ((mesh dst).peer src).recvBuffer = ∅) :=
  ⟨reachable.passes_prefix src dst, reachable.passes_all⟩

/-- Two messages, of which the second arrives first and the first one arrives twice. -/
def reorderedCalls : List (Ip × Callback × Host) := [
  (nodeA, .send nodeB ⟨5000, 5000, [10, 24, 24, 11], [109]⟩, {}),
  (nodeA, .send nodeB ⟨5000, 5000, [10, 24, 24, 11], [110]⟩, {}),
  (nodeB, .received (dataFrame 1 [10, 24, 24, 11] [110]) nodeA, {}),
  (nodeB, .received (dataFrame 0 [10, 24, 24, 11] [109]) nodeA, {}),
  (nodeB, .received (dataFrame 0 [10, 24, 24, 11] [109]) nodeA, {}),
  (nodeA, .received (packAck 1) nodeB, {}),
  (nodeA, .received (packAck 0) nodeB, {})
]

theorem Mesh.Reachable.consumed_all_reorderedCalls
    : ∃ mesh : Mesh,
        threeStarted.runAll threeMembers reorderedCalls = some mesh
        ∧ (numberedTo (mesh nodeA) nodeB).length = 2
        ∧ packetsOf (mesh nodeB).trace.consumed nodeA = numberedTo (mesh nodeA) nodeB := by
  have ran : (threeStarted.runAll threeMembers reorderedCalls).any
      (fun mesh => ((mesh nodeA).peer nodeB).unacked.size == 0
        && (numberedTo (mesh nodeA) nodeB).length == 2) = true := by
    decide +kernel
  obtain ⟨mesh, ran, shown⟩ := (Option.any_eq_true _ _).mp ran
  simp only [Bool.and_eq_true, beq_iff_eq] at shown
  have reachable := (Mesh.Reachable.init threeStarted_starts).runAll ran
  have settled := Dict.eq_empty_of_size shown.1
  exact ⟨mesh, ran, shown.2, ((reachable.consumed_prefix nodeA nodeB).2 settled).1⟩

end MeshSnapshot
