import MeshSnapshot.Model.Restore

/-! Runs in which callbacks may raise. The event loop reports what a reader or a protocol
callback raises and goes on with the state that it left; an exception in the retransmit task
ends that task.
-/

namespace MeshSnapshot

open Procedure

/-- What a reply holds under any node has been recorded, and so is no marker. -/
def PlainReply (reply : Option (List Artifact)) : Prop :=
  ∀ nodes, reply = some nodes → ∀ node ∈ nodes, ∀ entry ∈ node.peers,
    ∀ msg ∈ entry.2.channel, ∀ payload,
      Base64.decode msg.payloadB64 = some payload → markerId? payload = none

/-- A sidecar that has completed `start`, with or without a restore. -/
inductive Sidecar.Boots (cfg : Config) : Sidecar → Prop where
  | fresh {s : Sidecar} (starts : s.Starts cfg) : Boots cfg s
  | restored {s : Sidecar} (starts : s.Starts cfg) (restoreSnapshotId : Option String)
    (reply : Option (List Artifact)) (plain : PlainReply reply) (host : Host)
    : Boots cfg (s.restored cfg restoreSnapshotId reply host)

def Callback.isRetransmit : Callback → Bool
  | .retransmit => true
  | _ => false

/-- The states of a sidecar between callbacks, any of which may raise, where `meets` holds of
every callback that raises and the state it leaves. The retransmit task is running as long as
the flag is set.
-/
inductive Sidecar.Life (cfg : Config) (meets : Callback → Sidecar → Prop) (boot : Sidecar)
    : Bool → Sidecar → Prop where
  | start (boots : boot.Boots cfg) : Life cfg meets boot true boot
  | returned {running : Bool} {s next : Sidecar} (callback : Callback) (host : Host)
    (before : Life cfg meets boot running s) (scheduled : callback.isRetransmit → running)
    (returns : callback.run cfg { s with host } = .ok () next)
    : Life cfg meets boot running next
  | raised {running : Bool} {s next : Sidecar} {error : PyErr} (callback : Callback) (host : Host)
    (before : Life cfg meets boot running s) (scheduled : callback.isRetransmit → running)
    (raises : callback.run cfg { s with host } = .error error next) (left : meets callback next)
    : Life cfg meets boot (running && !callback.isRetransmit) next

/-- A run in which nothing raises is a life. -/
theorem Sidecar.Life.callAll {cfg : Config} {meets : Callback → Sidecar → Prop}
    {boot s final : Sidecar} {calls : List (Callback × Host)} (life : Life cfg meets boot true s)
    (returned : s.callAll cfg calls = some final)
    : Life cfg meets boot true final := by
  induction calls generalizing s with
  | nil =>
      obtain rfl := Option.some.inj returned
      exact life
  | cons call rest ih =>
      obtain ⟨callback, host⟩ := call
      obtain ⟨next, called, returned⟩ := Option.bind_eq_some_iff.mp returned
      exact ih (life.returned callback host (fun _ => rfl) (Sidecar.call_eq_some.mp called))
        returned

/-- Run a list of callbacks one after another, whether or not they raise. -/
def Sidecar.outlive (cfg : Config) (running : Bool) (s : Sidecar)
    : List (Callback × Host) → Option (Bool × Sidecar)
  | [] => some (running, s)
  | (callback, host) :: rest =>
      if callback.isRetransmit && !running then
        none
      else
        match callback.run cfg { s with host } with
        | .ok _ next => next.outlive cfg running rest
        | .error _ next => next.outlive cfg (running && !callback.isRetransmit) rest

theorem Sidecar.Life.outlive {cfg : Config} {running alive : Bool} {boot s final : Sidecar}
    {calls : List (Callback × Host)} (life : Life cfg (fun _ _ => True) boot running s)
    (ran : s.outlive cfg running calls = some (alive, final))
    : Life cfg (fun _ _ => True) boot alive final := by
  induction calls generalizing running s with
  | nil =>
      obtain ⟨rfl, rfl⟩ := Prod.mk.inj (Option.some.inj ran)
      exact life
  | cons call rest ih =>
      obtain ⟨callback, host⟩ := call
      unfold Sidecar.outlive at ran
      split at ran
      case isTrue => cases ran
      case isFalse due =>
        have scheduled : callback.isRetransmit → running := by
          intro isRetransmit
          simpa [isRetransmit] using due
        cases stopped : callback.run cfg { s with host } with
        | ok _ next =>
            rw [stopped] at ran
            exact ih (life.returned callback host scheduled stopped) ran
        | error e next =>
            rw [stopped] at ran
            exact ih (life.raised callback host scheduled stopped trivial) ran

end MeshSnapshot
