import MeshSnapshot.Transport.Delivery

/-! Exactly-once in-order delivery between any two sidecars of a mesh, over a network that
loses, duplicates, delays and reorders. The invariant of a link is that of its two halves,
wherever they run.
-/

namespace MeshSnapshot.Transport

/-- Every link of a mesh is sound; `history` is what its two ends have behind them. -/
def LinksRest (history : Ip → Ip → List Held) (mesh : Mesh) : Prop :=
  ∀ src dst,
    LinkRests (history src dst) (senderView (mesh src) dst) (receiverView (mesh dst) src)

variable {history : Ip → Ip → List Held} {cfg : Ip → Config} {mesh next : Mesh}
  {node : Ip} {callback : Callback} {host : Host}

/-- One step keeps every link sound. First the receiving half moves, while the sender is as it
was before the callback; then the sending half moves.
-/
theorem LinksRest.step (links : LinksRest history mesh)
    (stepped : mesh.step cfg node callback host = some next) : LinksRest history next := by
  obtain ⟨admitted, s', called, rfl⟩ := step_eq_some.mp stepped
  have moves := call_moves called (fun dst => (links node dst).ok.framed)
  intro src dst
  have received : LinkRests (history src dst) (senderView (mesh src) dst)
      (receiverView (Function.update mesh node s' dst) src) := by
    by_cases here : dst = node
    · subst here
      rw [Function.update_self]
      exact moves.receiver (links src dst) fun isReceived framed =>
        ⟨_, admitted _ _ isReceived, framed⟩
    · rw [Function.update_of_ne here]
      exact links src dst
  by_cases here : src = node
  · subst here
    rw [Function.update_self]
    have acked {seq : Nat} (acks : Acks callback dst seq)
        : seq ∈ (receiverView (Function.update mesh src s' dst) src).acks := by
      obtain ⟨packet, isReceived, framed⟩ := acks
      have unchanged : receiverView (Function.update mesh src s' dst) src
          = receiverView (mesh dst) src := by
        by_cases self : dst = src
        · subst self
          rw [Function.update_self]
          exact moves.confirming ⟨packet, isReceived, framed⟩ dst
        · rw [Function.update_of_ne self]
      rw [unchanged]
      exact ⟨packet, admitted packet dst isReceived, framed⟩
    exact ⟨received.ok.steps ((moves.sender dst).mono_acked acked), received.absent⟩
  · rwa [Function.update_of_ne here]

/-- Freshly started sidecars have sound links. -/
theorem linksRest_started (starts : ∀ ip, (mesh ip).Starts (cfg ip))
    : LinksRest (fun _ _ => []) mesh := by
  intro src dst
  obtain ⟨isServer, selfIpCache, sender, -⟩ := (starts src).started
  obtain ⟨isServer', selfIpCache', receiver, -⟩ := (starts dst).started
  rw [sender, receiver]
  have link : linkOf [] none (senderView (.started isServer selfIpCache) dst)
      (receiverView (.started isServer' selfIpCache') src)
      = SelectiveRepeat.Link.start [] := by
    ext1
    case unacked =>
      ext seq
      simp [linkOf, senderView, Sidecar.started, Sidecar.peer, SelectiveRepeat.Link.start]
    case data =>
      ext copy
      simp [linkOf, senderView, dataTo, Sidecar.started, SelectiveRepeat.Link.start]
    case acks =>
      ext seq
      simp [linkOf, receiverView, acksTo, Sidecar.started, SelectiveRepeat.Link.start]
    all_goals rfl
  exact {
    ok := {
      inv := link ▸ SelectiveRepeat.Link.Inv.start []
      counted := rfl
      packets := fun found => by simp [senderView, Sidecar.started, Sidecar.peer] at found
    }
    absent := rfl
  }

/-- Between callbacks, every link of a freshly started mesh is sound. -/
theorem linksRest_of_reachable (reachable : Mesh.Reachable cfg mesh)
    : LinksRest (fun _ _ => []) mesh := by
  induction reachable with
  | init starts => exact linksRest_started starts
  | step node callback host _ stepped links => exact links.step stepped

/-- While a sidecar runs one callback, it passes no packet that was not sent to it before. -/
theorem step_consumed (reachable : Mesh.Reachable cfg mesh) {s' : Sidecar}
    (stepped : mesh.step cfg node callback host = some (Function.update mesh node s'))
    (called : (mesh node).call (cfg node) callback host = some s') {packet : PeerPacket}
    (member : packet ∈ s'.trace.consumed)
    : ∃ call ∈ (mesh packet.peer).trace.sent, call.message.held = packet.held := by
  obtain ⟨admitted, -⟩ := step_eq_some.mp stepped
  have links := linksRest_of_reachable reachable
  have moves := call_moves called (fun dst => (links node dst).ok.framed)
  have link := moves.receiver (links packet.peer node) fun isReceived framed =>
    ⟨_, admitted _ _ isReceived, framed⟩
  have passed : packet.held ∈ consumedFrom s' packet.peer :=
    List.mem_map.mpr ⟨packet, List.mem_filter.mpr ⟨member, by simp⟩, rfl⟩
  obtain ⟨call, sent, same⟩ := List.mem_map.mp (link.ok.inv.passed_prefix.mem passed)
  exact ⟨call, (List.mem_filter.mp sent).1, same⟩

end MeshSnapshot.Transport
