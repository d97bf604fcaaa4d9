import MeshSnapshot.Model.Restore

/-! The order of events in `MeshProxy.start`. The reader of the intercept socket is registered
before `start` waits for the tunnel socket, so the handler may run during that wait; the restore
follows the wait, and live traffic follows the restore.
-/

namespace MeshSnapshot

open Procedure

/-- The states of a sidecar while `start` waits for the tunnel socket, whose transport is set
before any reader runs. The app may queue datagrams, and the handler may read them, in runs that
`meets` admits; the event loop goes on when the handler raises.
-/
inductive Sidecar.Early (cfg : Config) (meets : Sidecar → Host → Prop) : Sidecar → Prop where
  | start {s : Sidecar} (starts : s.Starts cfg) : Early cfg meets s
  | emit {s : Sidecar} (before : Early cfg meets s) (datagrams : List Datagram)
    : Early cfg meets (s.emit datagrams)
  | intercept {s : Sidecar} (before : Early cfg meets s) (host : Host) (met : meets s host)
    : Early cfg meets (final (handleLocalIntercept cfg { s with host }))

theorem Sidecar.Early.mono {cfg : Config} {meets more : Sidecar → Host → Prop} {s : Sidecar}
    (early : s.Early cfg meets) (weaker : ∀ s host, meets s host → more s host)
    : s.Early cfg more := by
  induction early with
  | start starts => exact .start starts
  | emit _ datagrams ih => exact ih.emit datagrams
  | intercept _ host met ih => exact ih.intercept host (weaker _ host met)

/-- The states of a sidecar in restore mode from its restore on, whether or not its callbacks
raise.
-/
inductive Sidecar.Restarts (cfg : Config) (meets : Sidecar → Host → Prop)
    (restoreSnapshotId : Option String) (reply : Option (List Artifact)) : Sidecar → Prop where
  | restored {s : Sidecar} (early : s.Early cfg meets) (host : Host)
    : Restarts cfg meets restoreSnapshotId reply (s.restored cfg restoreSnapshotId reply host)
  | callback {s : Sidecar} (before : Restarts cfg meets restoreSnapshotId reply s)
    (callback : Callback) (host : Host)
    : Restarts cfg meets restoreSnapshotId reply (final (callback.run cfg { s with host }))

end MeshSnapshot
