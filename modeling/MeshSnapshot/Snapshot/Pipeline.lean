import MeshSnapshot.Snapshot.Emissions
import MeshSnapshot.Transport.ExactlyOnce
import Mathlib.Data.List.Infix

/-! The way of an app message: from the intercept socket of its sidecar over the stream to the other
one, and from there to the app or into the recorded channel of a snapshot.
-/

namespace MeshSnapshot

open Transport

variable {cfg : Ip → Config} {mesh : Mesh} {config : Config} {source target : Ip}

/-- A message that an app has sent, and that is no START command. -/
def isAppHeld (held : Held) : Bool := !isMarker held && !startPrefix.isPrefixOf held.payload

/-- Of the stream to a peer, these are the messages that are sent on behalf of the app. -/
theorem heldTo_app {calls : List SendCall} (plain : PlainSends calls)
    (markers : ∀ call ∈ calls, call.origin = .marker → (markerId? call.message.payload).isSome)
    (indirect : ∀ call ∈ calls, call.origin ≠ .direct)
    : (heldTo calls target).filter isAppHeld = heldTo (calls.filter SendCall.isApp) target := by
  have same : ∀ call ∈ calls, isAppHeld call.message.held = call.isApp := by
    intro call listed
    have payload : call.message.held.payload = call.message.payload := rfl
    cases origin : call.origin with
    | direct => exact (indirect call listed origin).elim
    | marker =>
        have isMarker := markers call listed origin
        simp [isAppHeld, MeshSnapshot.isMarker, payload, isMarker, SendCall.isApp, origin]
    | forwarded =>
        have noMarker := plain call listed (by simp [origin])
        simp [isAppHeld, isMarker, payload, noMarker, SendCall.isApp, origin]
  rw [heldTo, heldTo, List.filter_map, List.filter_filter, List.filter_filter]
  refine congrArg _ (List.filter_congr fun call listed => ?_)
  rw [Function.comp_apply, same call listed, Bool.and_comm]

/-- The messages for `target` that are still on the intercept socket. -/
def Sidecar.unread (config : Config) (s : Sidecar) (target : Ip) : List Held :=
  heldTo ((s.localSock.zipIdx s.trace.reads).filterMap (forwardCall? config s.isServer)) target

/-- What the app has emitted for `target` among its first `n` datagrams. -/
def Sidecar.emittedTo (config : Config) (s : Sidecar) (target : Ip) (n : Nat) : List Held :=
  heldTo (s.journal.appCalls config n) target

/-- What the app has emitted has been sent, or is still on the intercept socket. -/
theorem Journal.Forwards.emittedTo {s : Sidecar} (forwards : s.journal.Forwards config)
    : s.emittedTo config target s.trace.emitted.length
      = heldTo (s.trace.sent.filter SendCall.isApp) target ++ s.unread config target := by
  have queue : s.localSock = s.trace.emitted.drop s.trace.reads := forwards.queue
  have bound : s.trace.reads ≤ s.trace.emitted.length := forwards.bound
  have calls : s.trace.sent.filter SendCall.isApp
      = (s.trace.emitted.take s.trace.reads).zipIdx.filterMap (forwardCall? config s.isServer) :=
    forwards.calls
  have whole : s.journal.appCalls config s.trace.emitted.length
      = s.trace.emitted.zipIdx.filterMap (forwardCall? config s.isServer) := by
    simp [Journal.appCalls, Sidecar.journal]
  have length : (s.trace.emitted.take s.trace.reads).length = s.trace.reads :=
    List.length_take_of_le bound
  rw [Sidecar.emittedTo, Sidecar.unread, whole, calls, queue, ← heldTo_append,
    ← List.filterMap_append]
  congr 2
  conv_lhs => rw [← List.take_append_drop s.trace.reads s.trace.emitted]
  rw [List.zipIdx_append, length, Nat.zero_add]

/-- Where the messages are that the app behind `source` has emitted for `target`: of those `passed` by
the stream, some have been handed to the app and some are recorded, the next ones are under way, and
the last ones have not been read.
-/
structure Mesh.Carries (cfg : Ip → Config) (mesh : Mesh) (source target : Ip) (passed : List Held)
    : Prop where
  emitted
    : (mesh source).emittedTo (cfg source) target (mesh source).trace.emitted.length
      = passed
        ++ ((sentTo (mesh source) target).drop ((mesh target).peer source).recvSeq).filter isAppHeld
        ++ (mesh source).unread (cfg source) target
  once
    : ((heldFrom (mesh target).trace.delivered source
        ++ ((mesh target).ctrl.stored source).map Prod.snd).filter isAppHeld).Perm passed
  inOrder
    : (∀ packet ∈ (mesh target).trace.overtaking, packet.peer ≠ source)
      → (heldFrom (mesh target).trace.delivered source
          ++ ((mesh target).ctrl.stored source).map Prod.snd).filter isAppHeld = passed
  kept
    : ∀ {seq held},
        (sentTo (mesh source) target)[seq]? = some held
        → ((mesh target).peer source).recvSeq ≤ seq
        → (∃ entry, ((mesh source).peer target).unacked.get? seq = some entry)
          ∨ ((mesh target).peer source).recvBuffer.get? seq = some held

/-- At all times, every message that an app emits for another one is in one place. -/
theorem Mesh.Reachable.carries (reachable : Mesh.Reachable cfg mesh)
    (plain : PlainSends (mesh source).trace.sent)
    (indirect : ∀ call ∈ (mesh source).trace.sent, call.origin ≠ .direct)
    : ∃ passed, mesh.Carries cfg source target passed := by
  have balanced := (reachable.run target).balanced
  have ledger := balanced.ledger source
  have forwards := (reachable.run source).forwards
  have inv := (linksRest_of_reachable reachable source target).ok.inv
  have consumed : ((mesh target).journal.ledger source).consumed
      = consumedFrom (mesh target) source := by
    simp [Journal.ledger, packetsOf, consumedFrom, Sidecar.journal]
  have length : (consumedFrom (mesh target) source).length
      = ((mesh target).peer source).recvSeq := by
    rw [← consumed]
    exact balanced.counted.length source
  have passed : consumedFrom (mesh target) source <+: sentTo (mesh source) target :=
    inv.passed_prefix
  have stream : sentTo (mesh source) target
      = consumedFrom (mesh target) source
        ++ (sentTo (mesh source) target).drop ((mesh target).peer source).recvSeq := by
    rw [← length]
    exact (List.prefix_append_drop passed)
  have noMarker (messages : List Held)
      : (messages.filter (fun held => !isMarker held)).filter isAppHeld
        = messages.filter isAppHeld := by
    rw [List.filter_filter]
    refine List.filter_congr fun held _ => ?_
    simp +contextual [isAppHeld]
  have handed : heldFrom (mesh target).trace.delivered source
        ++ ((mesh target).ctrl.stored source).map Prod.snd
      = (((mesh target).journal.ledger source).delivered
        ++ ((mesh target).journal.ledger source).deferred).map Prod.snd := by
    rw [List.map_append]
    exact congrArg (· ++ _) (map_snd_packetsOf _ _).symm
  refine ⟨(consumedFrom (mesh target) source).filter isAppHeld, ?_, ?_, ?_, ?_⟩
  case refine_1 =>
    have sent : heldTo (mesh source).trace.sent target = sentTo (mesh source) target := rfl
    rw [forwards.emittedTo, ← heldTo_app plain forwards.markers indirect, sent, ← List.filter_append,
      ← stream]
  case refine_2 =>
    have perm := (ledger.conserved.map Prod.snd).filter isAppHeld
    rwa [Deferral.map_snd_numbered_data, noMarker, ← handed, consumed] at perm
  case refine_3 =>
    intro inOrder
    have none : ((mesh target).journal.ledger source).overtaken = false := by
      simpa [Journal.ledger, Sidecar.journal] using inOrder
    rw [handed, ledger.inOrder none, Deferral.map_snd_numbered_data, noMarker, consumed]
  case refine_4 =>
    intro seq held found later
    rcases inv.retained found later with waiting | buffered | ⟨-, inHand⟩
    · obtain ⟨packet, waiting⟩ := waiting
      obtain ⟨entry, waiting, -⟩ := Option.map_eq_some_iff.mp waiting
      exact .inl ⟨entry, waiting⟩
    · exact .inr buffered
    · cases inHand

/-- The app of A sends three messages to B. B has the first one and is recording the channel, the second
one is under way, and the third one has not been read.
-/
def pipelineCalls : List (Ip × Callback × Host) := [
  (nodeA, .emit [datagramToB [109], startCommand [49]], {}),
  (nodeA, .intercept, {}),
  (nodeC, .received (markerFrame 0 [49]) nodeA, {}),
  (nodeB, .received (markerFrame 0 [49]) nodeC, {}),
  (nodeB, .received (dataFrame 0 [10, 24, 24, 11] [109]) nodeA, {}),
  (nodeA, .emit [datagramToB [110]], {}),
  (nodeA, .intercept, {}),
  (nodeA, .emit [datagramToB [111]], {})
]

theorem Mesh.Reachable.carries_pipelineCalls
    : ∃ mesh : Mesh,
        threeStarted.runAll threeMembers pipelineCalls = some mesh
        ∧ heldFrom (mesh nodeB).trace.delivered nodeA = []
        ∧ mesh.Carries threeMembers nodeA nodeB [⟨[109], 5000, 5000, nodeB⟩]
        ∧ (mesh nodeA).emittedTo (threeMembers nodeA) nodeB 4
          = [⟨[109], 5000, 5000, nodeB⟩, ⟨[110], 5000, 5000, nodeB⟩, ⟨[111], 5000, 5000, nodeB⟩] := by
  have ran : (threeStarted.runAll threeMembers pipelineCalls).any (fun mesh =>
      heldFrom (mesh nodeB).trace.delivered nodeA == []
      && ((mesh nodeB).ctrl.stored nodeA).map Prod.snd == [⟨[109], 5000, 5000, nodeB⟩]
      && (mesh nodeB).trace.overtaking == []
      && (mesh nodeA).emittedTo (threeMembers nodeA) nodeB 4
        == [⟨[109], 5000, 5000, nodeB⟩, ⟨[110], 5000, 5000, nodeB⟩, ⟨[111], 5000, 5000, nodeB⟩]
      && decide (PlainSends (mesh nodeA).trace.sent)
      && (mesh nodeA).trace.sent.all (·.origin != .direct)) = true := by
    decide +kernel
  obtain ⟨mesh, ran, shown⟩ := (Option.any_eq_true _ _).mp ran
  simp only [Bool.and_eq_true, beq_iff_eq, decide_eq_true_eq, List.all_eq_true, bne_iff_ne] at shown
  obtain ⟨⟨⟨⟨⟨delivered, stored⟩, overtaking⟩, emitted⟩, plain⟩, indirect⟩ := shown
  have reachable := (Mesh.Reachable.init threeStarted_starts).runAll ran
  obtain ⟨passed, carries⟩ : ∃ passed, mesh.Carries threeMembers nodeA nodeB passed :=
    reachable.carries plain indirect
  have inOrder := carries.inOrder fun packet member => by
    rw [overtaking] at member
    cases member
  rw [delivered, stored] at inOrder
  obtain rfl : [⟨[109], 5000, 5000, nodeB⟩] = passed := inOrder
  exact ⟨mesh, ran, delivered, carries, emitted⟩

end MeshSnapshot
