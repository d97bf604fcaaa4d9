import MeshSnapshot.Model.Life
import MeshSnapshot.Model.Mesh

/-! A mesh whose callbacks may raise at any point. Every event loop goes on with the state that
the exception left, and a sidecar whose retransmit task has raised sends nothing again.
-/

namespace MeshSnapshot

open Procedure

/-- A callback that raised, and the state that it left. -/
structure Interruption where
  node : Ip
  callback : Callback
  left : Sidecar

/-- The sidecars of a mesh, those whose retransmit task has ended, and all that has raised. -/
structure Fleet where
  mesh : Mesh
  ended : List Ip := []
  interruptions : List Interruption := []

/-- A datagram can be received once it was sent. -/
def Mesh.admits (mesh : Mesh) (node : Ip) : Callback → Bool
  | .received packet src => (mesh src).trace.wire.contains (packet, node)
  | _ => true

/-- What is left by a callback that returned, or that raised. -/
def Fleet.after (fleet : Fleet) (node : Ip) (callback : Callback)
    : EStateM.Result PyErr Sidecar Unit → Fleet
  | .ok _ next => { fleet with mesh := Function.update fleet.mesh node next }
  | .error _ next => {
      mesh := Function.update fleet.mesh node next
      ended := if callback.isRetransmit then node :: fleet.ended else fleet.ended
      interruptions := fleet.interruptions ++ [⟨node, callback, next⟩]
    }

/-- One sidecar runs one callback, whether or not it raises. -/
def Fleet.step (cfg : Ip → Config) (fleet : Fleet) (node : Ip) (callback : Callback)
    (host : Host) : Option Fleet :=
  if fleet.mesh.admits node callback
      && !(callback.isRetransmit && fleet.ended.contains node) then
    some (fleet.after node callback (callback.run (cfg node) { fleet.mesh node with host }))
  else
    none

/-- The states of a fleet whose sidecars all start fresh. -/
inductive Fleet.Reachable (cfg : Ip → Config) : Fleet → Prop where
  | init {mesh : Mesh} (starts : ∀ ip, (mesh ip).Starts (cfg ip)) : Reachable cfg { mesh }
  | step {fleet next : Fleet} (node : Ip) (callback : Callback) (host : Host)
    (before : Reachable cfg fleet) (stepped : fleet.step cfg node callback host = some next)
    : Reachable cfg next

/-- Run a list of callbacks one after another, whether or not they raise. -/
def Fleet.runAll (cfg : Ip → Config) (fleet : Fleet) : List (Ip × Callback × Host) → Option Fleet
  | [] => some fleet
  | (node, callback, host) :: rest =>
      (fleet.step cfg node callback host).bind (fun next => next.runAll cfg rest)

theorem Fleet.Reachable.runAll {cfg : Ip → Config} {fleet final : Fleet}
    {calls : List (Ip × Callback × Host)} (reachable : Fleet.Reachable cfg fleet)
    (ran : fleet.runAll cfg calls = some final)
    : Fleet.Reachable cfg final := by
  induction calls generalizing fleet with
  | nil =>
      obtain rfl := Option.some.inj ran
      exact reachable
  | cons call rest ih =>
      obtain ⟨node, callback, host⟩ := call
      obtain ⟨next, stepped, ran⟩ := Option.bind_eq_some_iff.mp ran
      exact ih (reachable.step node callback host stepped) ran

variable {cfg : Ip → Config} {fleet next : Fleet} {node : Ip} {callback : Callback} {host : Host}

theorem Mesh.admits_iff {mesh : Mesh}
    : mesh.admits node callback
      ↔ ∀ packet src, callback = .received packet src → mesh.Sent src node packet := by
  unfold Mesh.admits Mesh.Sent
  cases callback <;> simp

/-- A step leaves one sidecar in the state in which its callback ended. -/
theorem Fleet.step_eq_some (stepped : fleet.step cfg node callback host = some next)
    : fleet.mesh.admits node callback
      ∧ next.mesh
        = Function.update fleet.mesh node
            (final (callback.run (cfg node) { fleet.mesh node with host }))
      ∧ ((∃ s', callback.run (cfg node) { fleet.mesh node with host } = .ok () s'
            ∧ next.interruptions = fleet.interruptions)
        ∨ ∃ error s', callback.run (cfg node) { fleet.mesh node with host } = .error error s'
            ∧ next.interruptions = fleet.interruptions ++ [⟨node, callback, s'⟩]) := by
  unfold Fleet.step at stepped
  split at stepped
  case isFalse => cases stepped
  case isTrue permitted =>
    obtain ⟨admitted, -⟩ := Bool.and_eq_true_iff.mp permitted
    obtain rfl := Option.some.inj stepped
    cases ended : callback.run (cfg node) { fleet.mesh node with host } with
    | ok _ s' => exact ⟨admitted, rfl, .inl ⟨s', rfl, rfl⟩⟩
    | error error s' => exact ⟨admitted, rfl, .inr ⟨error, s', rfl, rfl⟩⟩

/-- A step of a mesh, in which nothing raises, is one of a fleet. -/
theorem Fleet.step_of_mesh {mesh next : Mesh}
    (stepped : mesh.step cfg node callback host = some next)
    : Fleet.step cfg { mesh } node callback host = some { mesh := next } := by
  obtain ⟨admitted, s', called, rfl⟩ := MeshSnapshot.step_eq_some.mp stepped
  have permitted : (mesh.admits node callback
      && !(callback.isRetransmit && List.contains [] node)) = true := by
    simp [Mesh.admits_iff.mpr admitted]
  unfold Fleet.step
  rw [if_pos permitted, Sidecar.call_eq_some.mp called]
  rfl

theorem Fleet.Reachable.of_mesh {mesh : Mesh} (reachable : Mesh.Reachable cfg mesh)
    : Fleet.Reachable cfg { mesh } := by
  induction reachable with
  | init starts => exact .init starts
  | step node callback host _ stepped ih => exact ih.step node callback host (step_of_mesh stepped)

theorem Fleet.runAll_of_mesh {mesh final : Mesh} {calls : List (Ip × Callback × Host)}
    (ran : mesh.runAll cfg calls = some final)
    : Fleet.runAll cfg { mesh } calls = some { mesh := final } := by
  induction calls generalizing mesh with
  | nil =>
      obtain rfl := Option.some.inj ran
      rfl
  | cons call rest ih =>
      obtain ⟨node, callback, host⟩ := call
      obtain ⟨next, stepped, ran⟩ := Option.bind_eq_some_iff.mp ran
      exact Option.bind_eq_some_iff.mpr ⟨_, step_of_mesh stepped, ih ran⟩

end MeshSnapshot
