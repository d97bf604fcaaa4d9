import MeshSnapshot.Model.Callbacks
import Mathlib.Logic.Function.Basic

/-! A mesh of sidecars over a network that loses, duplicates, delays and reorders datagrams.
Every datagram ever handed to a tunnel socket stays receivable, any number of times.
-/

namespace MeshSnapshot

/-- The sidecar at every mesh address. -/
abbrev Mesh := Ip → Sidecar

/-- A datagram that `src` has sent to `dst`. -/
def Mesh.Sent (mesh : Mesh) (src dst : Ip) (packet : Bytes) : Prop :=
  (packet, dst) ∈ (mesh src).trace.wire

/-- One sidecar runs one callback. A received datagram is one that was sent to it. -/
def Mesh.step (cfg : Ip → Config) (mesh : Mesh) (node : Ip) (callback : Callback)
    (host : Host) : Option Mesh :=
  let admitted : Bool :=
    match callback with
    | .received packet src => (mesh src).trace.wire.contains (packet, node)
    | _ => true
  if admitted then
    ((mesh node).call (cfg node) callback host).map (fun next => Function.update mesh node next)
  else
    none

/-- A mesh step is a callback of one sidecar, on a datagram that was sent to it. -/
theorem step_eq_some {cfg : Ip → Config} {mesh next : Mesh} {node : Ip} {callback : Callback}
    {host : Host}
    : mesh.step cfg node callback host = some next
      ↔ (∀ packet src, callback = .received packet src → mesh.Sent src node packet)
        ∧ ∃ s', (mesh node).call (cfg node) callback host = some s'
            ∧ next = Function.update mesh node s' := by
  unfold Mesh.step Mesh.Sent
  cases callback <;> simp [eq_comm (a := next)]

/-- The states of a mesh whose sidecars all start fresh. -/
inductive Mesh.Reachable (cfg : Ip → Config) : Mesh → Prop where
  | init {mesh : Mesh} (starts : ∀ ip, (mesh ip).Starts (cfg ip)) : Reachable cfg mesh
  | step {mesh next : Mesh} (node : Ip) (callback : Callback) (host : Host)
    (before : Reachable cfg mesh) (stepped : mesh.step cfg node callback host = some next)
    : Reachable cfg next

/-- Run a list of callbacks one after another. -/
def Mesh.runAll (cfg : Ip → Config) (mesh : Mesh)
    : List (Ip × Callback × Host) → Option Mesh
  | [] => some mesh
  | (node, callback, host) :: rest =>
      (mesh.step cfg node callback host).bind (fun next => next.runAll cfg rest)

/-- Running callbacks from a reachable state stays within the reachable states. -/
theorem Mesh.Reachable.runAll {cfg : Ip → Config} {mesh final : Mesh}
    {calls : List (Ip × Callback × Host)} (reachable : Mesh.Reachable cfg mesh)
    (ran : mesh.runAll cfg calls = some final)
    : Mesh.Reachable cfg final := by
  induction calls generalizing mesh with
  | nil =>
      obtain rfl := Option.some.inj ran
      exact reachable
  | cons call rest ih =>
      obtain ⟨node, callback, host⟩ := call
      obtain ⟨next, stepped, ran⟩ := Option.bind_eq_some_iff.mp ran
      exact ih (reachable.step node callback host stepped) ran

/-- A sidecar that runs no callback stays as it was. -/
theorem Mesh.runAll_other {cfg : Ip → Config} {mesh final : Mesh}
    {calls : List (Ip × Callback × Host)} (ran : mesh.runAll cfg calls = some final) {ip : Ip}
    (idle : ∀ call ∈ calls, call.1 ≠ ip)
    : final ip = mesh ip := by
  induction calls generalizing mesh with
  | nil =>
      obtain rfl := Option.some.inj ran
      rfl
  | cons call rest ih =>
      obtain ⟨node, callback, host⟩ := call
      obtain ⟨next, stepped, ran⟩ := Option.bind_eq_some_iff.mp ran
      rw [ih ran fun call member => idle call (List.mem_cons_of_mem _ member)]
      have other : ip ≠ node := Ne.symm (idle _ List.mem_cons_self)
      obtain ⟨-, s', -, rfl⟩ := step_eq_some.mp stepped
      rw [Function.update_of_ne other]

-----------------------------------------------------------------------------------------
-- A mesh of three members
-----------------------------------------------------------------------------------------

def nodeA : Ip := "10.24.24.10"
def nodeB : Ip := "10.24.24.11"
def nodeC : Ip := "10.24.24.12"

/-- The configuration of each of three members. -/
def threeMembers (ip : Ip) : Config where
  meshMembers := [nodeA, nodeB, nodeC]
  address := ip
  checkpointTarget := some ("counter-" ++ ip)

/-- Three members that have just started, and any other nodes. -/
def threeStarted : Mesh := fun ip =>
  .started ((threeMembers ip).meshMembers.contains ip) (some ip)

/-- What holds of idle sidecars, and of the three members after a run, holds of all. -/
theorem forall_of_runAll (property : Ip → Sidecar → Prop) {final : Mesh}
    {calls : List (Ip × Callback × Host)}
    (ran : threeStarted.runAll threeMembers calls = some final)
    (callers : ∀ call ∈ calls, call.1 ∈ [nodeA, nodeB, nodeC])
    (idle : ∀ ip isServer cache, property ip (.started isServer cache))
    (members : ∀ ip ∈ [nodeA, nodeB, nodeC], property ip (final ip)) (ip : Ip)
    : property ip (final ip) := by
  by_cases member : ip ∈ [nodeA, nodeB, nodeC]
  · exact members ip member
  · have elsewhere (call : Ip × Callback × Host) (listed : call ∈ calls) : call.1 ≠ ip := by
      rintro rfl
      exact member (callers call listed)
    rw [Mesh.runAll_other ran elsewhere]
    exact idle ip _ _

theorem threeStarted_starts (ip : Ip) : (threeStarted ip).Starts (threeMembers ip) := .route rfl

/-- The `snapshot` command for one node. -/
def startCommand (id : Bytes) : Datagram where
  data := startPrefix ++ 58 :: id
  ancdata := []
  addr := (loopback, 40000)

/-- What A's app sends to port 5000 of B's app. -/
def datagramToB (data : Bytes) : Datagram where
  data := data
  ancdata := [⟨0, 20, [0, 2, 19, 136, 10, 24, 24, 11]⟩]
  addr := (nodeA, 5000)

def markerFrame (seq : Nat) (id : Bytes) : Bytes :=
  (dataPacket seq ⟨0, 0, zeroIp, markerPrefix ++ id⟩).getD []

/-- An app message to the app behind `target`. -/
def dataFrame (seq : Nat) (target payload : Bytes) : Bytes :=
  (dataPacket seq ⟨5000, 5000, target, payload⟩).getD []

end MeshSnapshot
