import MeshSnapshot.Counter.Sum
import MeshSnapshot.Recovery.Settlement

/-! `counter.py` on a mesh that is restored from a snapshot: when everything has arrived, the counters
add up to what they began with, before the snapshot.
-/

namespace MeshSnapshot

open Counter Text Transport

variable {members : List Ip} {cfg : Ip → Config} {mesh : Mesh} {id : Bytes}

/-- What is known of a node at its start is known of it in the image. -/
theorem Mesh.HoldsCounter.sound {own : Ip} {artifact : Artifact} {start node : Node}
    {waiting : List PeerPacket}
    (holds : mesh.HoldsCounter members cfg id own artifact start node waiting)
    : IsToken node.name ∧ node.RepliesOther := by
  obtain ⟨reads, emitted, delivered, -, -, runs⟩ := holds.imaged
  obtain ⟨named, others, -⟩ := runs.accounts holds.named holds.others
  exact ⟨named, others⟩

end MeshSnapshot
