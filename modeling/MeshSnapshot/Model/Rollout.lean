import MeshSnapshot.Model.Mesh
import MeshSnapshot.Model.Startup

/-! A mesh whose members are torn down and restored one node at a time, as `run_restore.sh` does.
A sidecar that is not restored yet keeps running, and what a torn-down sidecar has sent may still
arrive.
-/

namespace MeshSnapshot

structure Rollout where
  mesh : Mesh
  /-- Datagrams that the torn-down sidecar of a node has handed to the tunnel socket. -/
  past : Ip → List (Bytes × Ip) := fun _ => []
  restored : List Ip := []

namespace Rollout

inductive Action where
  | call (node : Ip) (callback : Callback) (host : Host)
  /-- The sidecar of a node is torn down, and `fresh` runs the restore in its place. -/
  | restore (node : Ip) (fresh : Sidecar) (host : Host)

/-- One sidecar runs one callback, or is replaced by its restored successor, which happens once. A
received datagram was sent to the node, before or after the sender was restored.
-/
def step (cfg : Ip → Config) (snapshotId : String) (nodes : Ip → List Artifact)
    (rollout : Rollout)
    : Action → Option Rollout
  | .call node callback host =>
      let admitted : Bool :=
        match callback with
        | .received packet src =>
            (rollout.mesh src).trace.wire.contains (packet, node)
            || (rollout.past src).contains (packet, node)
        | _ => true
      if admitted then
        ((rollout.mesh node).call (cfg node) callback host).map fun next =>
          { rollout with mesh := Function.update rollout.mesh node next }
      else
        none
  | .restore node fresh host =>
      if node ∈ rollout.restored then
        none
      else
        some {
          mesh := Function.update rollout.mesh node
            (fresh.restored (cfg node) (some snapshotId) (some (nodes node)) host)
          past := Function.update rollout.past node (rollout.mesh node).trace.wire
          restored := node :: rollout.restored
        }

/-- The sidecar that takes the place of a torn-down one is starting. -/
def Action.Starting (cfg : Ip → Config) : Action → Prop
  | .call .. => True
  | .restore node fresh _ => fresh.Early (cfg node) fun _ _ => True

/-- The states of a rollout that begins with `mesh`, where every action meets `meets`. -/
inductive Run (cfg : Ip → Config) (snapshotId : String) (nodes : Ip → List Artifact)
    (meets : Rollout → Action → Prop) (mesh : Mesh) : Rollout → Prop where
  | start : Run cfg snapshotId nodes meets mesh { mesh }
  | step {rollout next : Rollout} (before : Run cfg snapshotId nodes meets mesh rollout)
    (action : Action) (starting : action.Starting cfg) (met : meets rollout action)
    (stepped : rollout.step cfg snapshotId nodes action = some next)
    : Run cfg snapshotId nodes meets mesh next

/-- Take a list of actions one after another, as long as `admits` admits them. -/
def runAll (cfg : Ip → Config) (snapshotId : String) (nodes : Ip → List Artifact)
    (admits : Rollout → Action → Bool) (rollout : Rollout)
    : List Action → Option Rollout
  | [] => some rollout
  | action :: rest =>
      if admits rollout action then
        (rollout.step cfg snapshotId nodes action).bind fun next =>
          next.runAll cfg snapshotId nodes admits rest
      else
        none

variable {cfg : Ip → Config} {snapshotId : String} {nodes : Ip → List Artifact}
  {meets : Rollout → Action → Prop} {mesh : Mesh} {rollout : Rollout}

theorem Run.runAll (run : Run cfg snapshotId nodes meets mesh rollout)
    {admits : Rollout → Action → Bool} {actions : List Action} {final : Rollout}
    (starting : ∀ action ∈ actions, action.Starting cfg)
    (met : ∀ action ∈ actions, ∀ rollout, admits rollout action = true → meets rollout action)
    (ran : rollout.runAll cfg snapshotId nodes admits actions = some final)
    : Run cfg snapshotId nodes meets mesh final := by
  induction actions generalizing rollout with
  | nil =>
      obtain rfl := Option.some.inj ran
      exact run
  | cons action rest ih =>
      unfold Rollout.runAll at ran
      split at ran
      case isFalse => cases ran
      case isTrue admitted =>
        obtain ⟨next, stepped, ran⟩ := Option.bind_eq_some_iff.mp ran
        have first := met action List.mem_cons_self rollout admitted
        refine ih (run.step action (starting action List.mem_cons_self) first stepped) ?_ ?_ ran
        · exact fun later member => starting later (List.mem_cons_of_mem _ member)
        · exact fun later member => met later (List.mem_cons_of_mem _ member)

/-- A callback of one sidecar, on a datagram that was sent to it. -/
theorem step_call_eq_some {node : Ip} {callback : Callback} {host : Host} {next : Rollout}
    : rollout.step cfg snapshotId nodes (.call node callback host) = some next
      ↔ (∀ packet src,
          callback = .received packet src
          → rollout.mesh.Sent src node packet ∨ (packet, node) ∈ rollout.past src)
        ∧ ∃ s', (rollout.mesh node).call (cfg node) callback host = some s'
            ∧ next = { rollout with mesh := Function.update rollout.mesh node s' } := by
  unfold Rollout.step Mesh.Sent
  cases callback <;> simp [eq_comm (a := next)]

theorem step_restore_eq_some {node : Ip} {fresh : Sidecar} {host : Host} {next : Rollout}
    : rollout.step cfg snapshotId nodes (.restore node fresh host) = some next
      ↔ node ∉ rollout.restored
        ∧ next = {
            mesh := Function.update rollout.mesh node
              (fresh.restored (cfg node) (some snapshotId) (some (nodes node)) host)
            past := Function.update rollout.past node (rollout.mesh node).trace.wire
            restored := node :: rollout.restored
          } := by
  simp only [Rollout.step]
  split <;> simp_all [eq_comm (a := next)]

end Rollout

end MeshSnapshot
