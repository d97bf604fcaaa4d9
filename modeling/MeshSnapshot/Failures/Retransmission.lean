import MeshSnapshot.Failures.FairDelivery
import MeshSnapshot.Transport.Awaiting

/-! Recovery after an outage. A round of the retransmit loop puts a copy of every packet on the wire
that is due, whatever its timeout check does before. If these copies arrive, the receiver has passed
all the messages that were due, however many copies were lost before.
-/

namespace MeshSnapshot

open Procedure

theorem Respects.checkTimeout {relation : Sidecar → Sidecar → Prop} (respects : Respects relation)
    (cfg : Config) : Within relation (checkTimeout cfg) := by
  refine respects.readBind fun s => ?_
  split
  · refine respects.bind respects.time fun now => ?_
    split
    · exact respects.finish (respects.processAndDeliver cfg callDepth) cfg .aborted
    · exact respects.pure ()
  · exact respects.pure ()

end MeshSnapshot

namespace MeshSnapshot.Transport

open Procedure

variable {cfg : Config} {s s' : Sidecar} {u : Unit} {dst ip : Ip} {seq : Nat} {now sentAt : Int}
  {packet : Bytes}

/-- What was sent stays sent, and the tunnel socket stays. -/
structure Transmits (s s' : Sidecar) : Prop where
  wire : s.trace.wire <+: s'.trace.wire
  transport : s'.tunnelTransport = s.tunnelTransport

theorem Transmits.refl (s : Sidecar) : Transmits s s := ⟨List.prefix_rfl, rfl⟩

theorem Transmits.trans {a b c : Sidecar} (first : Transmits a b) (second : Transmits b c)
    : Transmits a c :=
  ⟨first.wire.trans second.wire, second.transport.trans first.transport⟩

theorem retransmit_due (due : retryTimeout < now - sentAt) (opened : s.tunnelTransport = true)
    : retransmit now ip seq sentAt packet s
      = .ok () ((s.putWire packet ip).setPeer ip { s.peer ip with
          unacked := (s.peer ip).unacked.set seq (now, packet) }) := by
  simp only [retransmit, tunnelSendto, modifyPeer, bind_run, read_run, update_run, opened, due,
    and_self, if_true]
  rfl

theorem transmits_retransmit : Within Transmits (retransmit now ip seq sentAt packet) := by
  intro s
  by_cases again : retryTimeout < now - sentAt ∧ s.tunnelTransport
  · rw [retransmit_due again.1 again.2]
    exact ⟨List.prefix_append _ _, rfl⟩
  · simp only [retransmit, bind_run, read_run, if_neg again, pure_run, final]
    exact .refl s

theorem transmits_checkTimeout (cfg : Config) : Within Transmits (checkTimeout cfg) := by
  intro s
  refine ⟨(awaits_containsSends.checkTimeout cfg s).wire, ?_⟩
  exact respects_transport.checkTimeout cfg s

theorem time_shows {s s' : Sidecar} (ticked : time s = .ok now s')
    : now = s.host.clock.headD 0 ∧ s'.tunnelTransport = s.tunnelTransport := by
  simp only [time, bind_run, read_run] at ticked
  cases clock : s.host.clock with
  | nil =>
      rw [clock] at ticked
      obtain ⟨rfl, rfl⟩ := pure_ok.mp ticked
      exact ⟨rfl, rfl⟩
  | cons first rest =>
      rw [clock] at ticked
      cases ticked
      exact ⟨rfl, rfl⟩

/-- A round that returns has put a copy of every packet on the wire that was due. -/
theorem retransmitRound_repeats (returned : retransmitRound cfg s = .ok u s')
    (opened : s.tunnelTransport = true) (sent : seq < (s.peer dst).sendSeq)
    (pending : (s.peer dst).unacked.get? seq = some (sentAt, packet))
    (due : retryTimeout < s.host.clock.headD 0 - sentAt)
    : (packet, dst) ∈ s'.trace.wire.drop s.trace.wire.length := by
  obtain ⟨now, s₁, ticked, returned⟩ := bind_ok.mp returned
  obtain ⟨_, s₂, checked, returned⟩ := bind_ok.mp returned
  obtain ⟨_, _, read, looped⟩ := bind_ok.mp returned
  obtain ⟨rfl, rfl⟩ := read_ok.mp read
  obtain ⟨rfl, transport⟩ := time_shows ticked
  have awaits : Awaits s s₂ := (quiet_of_sameCore (framed_time.ok ticked)).awaits.trans
    ((awaits_containsSends.checkTimeout cfg).ok checked)
  have opened₂ : s₂.tunnelTransport = true :=
    ((transmits_checkTimeout cfg).ok checked).transport.trans (transport.trans opened)
  have pending₂ := (awaits.unacked dst seq sent).trans pending
  obtain ⟨peer, known, same⟩ : ∃ peer, s₂.peers.get? dst = some peer ∧ s₂.peer dst = peer := by
    cases found : s₂.peers.get? dst with
    | none => simp [Sidecar.peer, found] at pending₂
    | some peer => exact ⟨peer, rfl, by simp [Sidecar.peer, found]⟩
  rw [same] at pending₂
  -- the two loops reach the entry, with all that was sent before still on the wire
  obtain ⟨t, t', before, inner, after⟩ := forEach_reaches Transmits.refl Transmits.trans
    (fun _ => Within.forEach Transmits.refl Transmits.trans _ fun _ _ => transmits_retransmit)
    looped (Dict.mem_entries_iff.mpr known)
  obtain ⟨v, v', before', again, after'⟩ := forEach_reaches Transmits.refl Transmits.trans
    (fun _ => transmits_retransmit) inner (Dict.mem_entries_iff.mpr pending₂)
  have reached := before.trans before'
  have left := after'.trans after
  rw [retransmit_due due (reached.transport.trans opened₂)] at again
  cases again
  obtain ⟨earlier, wire⟩ := awaits.wire.trans reached.wire
  obtain ⟨later, wire'⟩ := left.wire
  change (v.trace.wire ++ [(packet, dst)]) ++ later = _ at wire'
  rw [← wire', ← wire]
  simp

end MeshSnapshot.Transport

namespace MeshSnapshot

open Transport Procedure

variable {cfg : Ip → Config} {fleet next final : Fleet} {source target : Ip} {host : Host}
  {calls : List (Ip × Callback × Host)} {messages : List Held}

/-- A round after which the retransmit task is still running has returned. -/
theorem Fleet.step_retransmit (ticked : fleet.step cfg source .retransmit host = some next)
    (alive : source ∉ next.ended)
    : retransmitRound (cfg source) { fleet.mesh source with host } = .ok () (next.mesh source) := by
  unfold Fleet.step at ticked
  split at ticked
  case isFalse => cases ticked
  case isTrue =>
    obtain rfl := Option.some.inj ticked
    cases ended : Callback.run (cfg source) .retransmit { fleet.mesh source with host } with
    | ok _ s' =>
        simp only [Fleet.after, Function.update_self]
        exact ended
    | error error s' =>
        rw [ended] at alive
        exact absurd List.mem_cons_self alive

/-- After an outage, one round of the retransmit loop sends a copy of every packet that is due. Once
the copies arrive, it has brought the receiver up to date with all the messages that were due,
unless the processing of one of them raises.
-/
theorem Fleet.Reachable.recovers (reachable : Fleet.Reachable cfg fleet)
    (ticked : fleet.step cfg source .retransmit host = some next) (alive : source ∉ next.ended)
    (ran : next.runAll cfg calls = some final)
    (sent : messages <+: sentTo (fleet.mesh source) target)
    (due
      : ∀ seq < messages.length, ∀ sentAt packet,
          ((fleet.mesh source).peer target).unacked.get? seq = some (sentAt, packet)
          → retryTimeout < host.clock.headD 0 - sentAt)
    (heard
      : ∀ packet,
          (packet, target)
            ∈ (next.mesh source).trace.wire.drop (fleet.mesh source).trace.wire.length
          → Receives calls target source packet)
    : (∀ {dst seq sentAt packet},
        ((fleet.mesh source).peer dst).unacked.get? seq = some (sentAt, packet)
        → retryTimeout < host.clock.headD 0 - sentAt
        → (packet, dst)
          ∈ (next.mesh source).trace.wire.drop (fleet.mesh source).trace.wire.length)
      ∧ (messages <+: consumedFrom (final.mesh target) source
        ∨ (((final.mesh target).peer source).recvSeq < messages.length
          ∧ final.Interrupted target source ((final.mesh target).peer source).recvSeq)) := by
  have accounts := reachable.accounts
  have repeats {dst : Ip} {seq : Nat} {sentAt : Int} {packet : Bytes}
      (found : ((fleet.mesh source).peer dst).unacked.get? seq = some (sentAt, packet))
      (due : retryTimeout < host.clock.headD 0 - sentAt)
      : (packet, dst) ∈ (next.mesh source).trace.wire.drop (fleet.mesh source).trace.wire.length := by
    have repeated := retransmitRound_repeats (step_retransmit ticked alive)
      (accounts.opened source) (accounts.below found) found due
    exact repeated
  refine ⟨repeats, ?_⟩
  have proceeds := (accounts.step ticked).proceeds ran source target
  have grows := (accounts.sends ticked source target).grows.log.trans proceeds.grows.log
  apply proceeds.accounts.arrives (sent.trans grows)
  intro seq early
  have below : seq < (senderView (fleet.mesh source) target).sendSeq := by
    rw [accounts.counted]
    exact Nat.lt_of_lt_of_le early sent.length_le
  rcases accounts.answered source target seq below with unacked | before
  · obtain ⟨sentAt, packet, held, found, parsed⟩ := accounts.pending unacked
    have repeated := repeats found (due seq early sentAt packet found)
    exact proceeds.acknowledged (.inr ⟨packet, held, heard packet repeated, parsed⟩)
  · exact proceeds.acknowledged (.inl (accounts.acknowledges ticked (.inl before)))

/-- Two messages are lost, and sent again after 600 ms. -/
theorem Fleet.Reachable.recovers_reorderedCalls
    : ∃ fleet next final : Fleet,
        Fleet.runAll threeMembers { mesh := threeStarted } (reorderedCalls.take 2) = some fleet
        ∧ fleet.step threeMembers nodeA .retransmit { clock := [600] } = some next
        ∧ next.runAll threeMembers (reorderedCalls.drop 2) = some final
        ∧ (sentTo (fleet.mesh nodeA) nodeB).length = 2
        ∧ (∀ {seq sentAt packet},
          ((fleet.mesh nodeA).peer nodeB).unacked.get? seq = some (sentAt, packet)
          → (packet, nodeB)
            ∈ (next.mesh nodeA).trace.wire.drop (fleet.mesh nodeA).trace.wire.length)
        ∧ sentTo (fleet.mesh nodeA) nodeB <+: consumedFrom (final.mesh nodeB) nodeA := by
  have ran : (Fleet.runAll threeMembers { mesh := threeStarted } (reorderedCalls.take 2)).any
      (fun fleet => (fleet.step threeMembers nodeA .retransmit { clock := [600] }).any fun next =>
        (next.runAll threeMembers (reorderedCalls.drop 2)).any fun final =>
          (sentTo (fleet.mesh nodeA) nodeB).length == 2
          && next.ended.isEmpty && final.interruptions.isEmpty
          && (((fleet.mesh nodeA).peer nodeB).unacked.entries.all fun entry => entry.2.1 == 0)
          && ((next.mesh nodeA).trace.wire.drop (fleet.mesh nodeA).trace.wire.length).all
            fun packet => (reorderedCalls.drop 2).any (isReceipt nodeB nodeA packet.1)) = true := by
    decide +kernel
  obtain ⟨fleet, started, ran⟩ := (Option.any_eq_true _ _).mp ran
  obtain ⟨next, ticked, ran⟩ := (Option.any_eq_true _ _).mp ran
  obtain ⟨final, ran, shown⟩ := (Option.any_eq_true _ _).mp ran
  simp only [Bool.and_eq_true, beq_iff_eq, List.all_eq_true, List.isEmpty_iff] at shown
  obtain ⟨⟨⟨⟨sent, alive⟩, untouched⟩, stamped⟩, received⟩ := shown
  have reachable := (Fleet.Reachable.init threeStarted_starts).runAll started
  have due {seq : Nat} {sentAt : Int} {packet : Bytes}
      (found : ((fleet.mesh nodeA).peer nodeB).unacked.get? seq = some (sentAt, packet))
      : retryTimeout < (600 : Int) - sentAt := by
    have stamp : sentAt = 0 := stamped (seq, sentAt, packet) (Dict.mem_entries_iff.mpr found)
    rw [stamp]
    decide
  obtain ⟨repeats, delivered⟩ := Fleet.Reachable.recovers reachable ticked (by simp [alive]) ran
    (List.prefix_refl (sentTo (fleet.mesh nodeA) nodeB)) (fun _ _ _ _ found => due found)
    fun packet repeated => receives_of_any (received _ repeated)
  refine ⟨fleet, next, final, started, ticked, ran, sent, fun found => repeats found (due found), ?_⟩
  rcases delivered with all | ⟨-, interruption, member, -⟩
  · exact all
  · rw [untouched] at member
    cases member

end MeshSnapshot
