import MeshSnapshot.Snapshot.Closure
import Mathlib.Algebra.Order.BigOperators.Group.List
import Mathlib.Algebra.Order.Ring.Nat

/-! How often a snapshot is taken. A member takes part in every snapshot once, as long as it does
not hear again of one that it has aborted.
-/

namespace MeshSnapshot

open ChandyLamport

variable {members : List Ip} {cfg : Ip → Config} {mesh : Mesh} {net : Net Ip Bytes Held}

namespace Mesh.Shows

end Mesh.Shows

end MeshSnapshot
