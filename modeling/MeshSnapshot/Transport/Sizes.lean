import MeshSnapshot.Sidecar.Provenance
import MeshSnapshot.Snapshot.Network

/-! The sizes of data packets. A datagram that fits UDP need not fit the tunnel, which puts a header
of 17 bytes in front of it; as long as payloads leave room for the header, every packet that waits
for its acknowledgement can be transmitted.
-/

namespace MeshSnapshot.Transport

/-- The most that a UDP datagram over IPv4 carries. -/
def maxDatagram : Nat := 65507

/-- The size of `DATA_HEADER`. -/
def headerLength : Nat := 17

/-- A data frame is its header and its payload. -/
theorem length_of_parseFrame {packet : Bytes} {seq : Nat} {held : Held}
    (parsed : parseFrame packet = .data seq held)
    : packet.length = headerLength + held.payload.length := by
  unfold parseFrame at parsed
  split at parsed
  · cases parsed
  · split at parsed <;> (try split at parsed) <;> cases parsed
    simp only [unpackData, List.length_drop, headerLength]
    omega

/-- The payload leaves room for the header. -/
def LeavesRoom (payload : Bytes) : Prop := headerLength + payload.length ≤ maxDatagram

/-- A packet can be transmitted exactly when its payload leaves room for the header. -/
theorem transmittable_iff {packet : Bytes} {seq : Nat} {held : Held}
    (parsed : parseFrame packet = .data seq held)
    : packet.length ≤ maxDatagram ↔ LeavesRoom held.payload := by
  rw [length_of_parseFrame parsed]
  exact Iff.rfl

variable {cfg : Ip → Config} {mesh : Mesh}

/-- App datagrams that go out over RUDP, and the ids of START commands behind the prefix of a
marker, leave room for the header. So do the payloads of other calls of `send_data`.
-/
structure Fits (cfg : Ip → Config) (mesh : Mesh) : Prop where
  forwarded
    : ∀ ip, ∀ datagram ∈ (mesh ip).trace.emitted,
        ∀ routed,
          rudpRoute (cfg ip) (mesh ip).isServer datagram = some routed → LeavesRoom datagram.data
  starts
    : ∀ ip id, .start id ∈ (mesh ip).trace.control → LeavesRoom (markerPrefix ++ id)
  direct
    : ∀ ip, ∀ call ∈ (mesh ip).trace.sent,
        call.origin = .direct → LeavesRoom call.message.payload

/-- Every message of a mesh leaves room for the header, relayed markers included. -/
theorem sendsOnly_of_reachable (reachable : Mesh.Reachable cfg mesh) (fits : Fits cfg mesh) (ip : Ip)
    : (mesh ip).journal.SendsOnly LeavesRoom := by
  induction reachable generalizing ip with
  | init starts =>
      obtain ⟨isServer, selfIpCache, started, -⟩ := (starts ip).started
      rw [started]
      constructor
      case queued | sent => exact fun _ member => by cases member
  | @step mesh next node callback host before stepped ih =>
      obtain ⟨-, s', called, rfl⟩ := step_eq_some.mp stepped
      have grows := Mesh.step_grows before stepped
      have moves := call_ok (before.run node).balanced.recordsPlain called
      have earlier : Fits cfg mesh := by
        refine ⟨fun ip datagram member => ?_, fun ip id member => ?_, fun ip call member => ?_⟩
        · have later := fits.forwarded ip datagram ((grows ip).emitted.mem member)
          by_cases here : ip = node
          · subst here
            rw [Function.update_self] at later
            have same : s'.isServer = (mesh ip).isServer := moves.isServer
            exact same ▸ later
          · rwa [Function.update_of_ne here] at later
        · exact fits.starts ip id ((grows ip).control.mem member)
        · exact fits.direct ip call ((grows ip).sent.mem member)
      have only := ih earlier
      by_cases here : ip = node
      · subst here
        have own := Function.update_self ip s' mesh
        have supplies : s'.journal.Supplies (cfg ip) LeavesRoom := by
          refine ⟨?_, ?_, fun packet member id isMarker => ?_, ?_⟩
          · exact fun datagram member routed => own ▸ fits.forwarded ip datagram (own.symm ▸ member) routed
          · exact fun id member => fits.starts ip id (own.symm ▸ member)
          · obtain ⟨call, sent, same⟩ := step_consumed before stepped called member
            have payload : call.message.payload = packet.held.payload := congrArg Held.payload same
            exact payload ▸ (only packet.peer).sent call sent
          · exact fun call member => fits.direct ip call (own.symm ▸ member)
        rw [own]
        exact (only ip).moves moves supplies
      · rw [Function.update_of_ne here]
        exact only ip

/-- As long as payloads leave room for the header, every packet in an unacknowledged map can be
transmitted.
-/
theorem unacked_transmittable (reachable : Mesh.Reachable cfg mesh) (fits : Fits cfg mesh)
    {ip dst : Ip} {seq : Nat} {sentAt : Int} {packet : Bytes}
    (placed : ((mesh ip).peer dst).unacked.get? seq = some (sentAt, packet))
    : packet.length ≤ maxDatagram := by
  have link := linksRest_of_reachable reachable ip dst
  have unacked : (senderView (mesh ip) dst).unacked seq = some packet := by
    simp [senderView, placed]
  obtain ⟨held, logged, parsed⟩ := link.ok.packets unacked
  have member : held ∈ sentTo (mesh ip) dst := List.mem_of_getElem? logged
  obtain ⟨call, sent, rfl⟩ := List.mem_map.mp member
  have room := (sendsOnly_of_reachable reachable fits ip).sent call (List.mem_filter.mp sent).1
  exact (transmittable_iff parsed).mpr room

def appCalls (payload : Bytes) : List (Ip × Callback × Host) := [
    (nodeA, .emit [datagramToB payload], {}),
    (nodeA, .intercept, {})
  ]

/-- The first datagram of an app waits under number 0 for its acknowledgement. -/
theorem appCalls_placed (payload : Bytes)
    : ∃ mesh,
        threeStarted.runAll threeMembers (appCalls (0 :: payload)) = some mesh
        ∧ ((mesh nodeA).peer nodeB).unacked.get? 0
          = some (0, (dataPacket 0 ⟨5000, 5000, [10, 24, 24, 11], 0 :: payload⟩).getD [])
        ∧ (mesh nodeA).trace.emitted = [datagramToB (0 :: payload)] := by
  have ran : (threeStarted.runAll threeMembers (appCalls (0 :: payload))).map
        (fun mesh => (((mesh nodeA).peer nodeB).unacked.get? 0, (mesh nodeA).trace.emitted))
      = some (some (0, (dataPacket 0 ⟨5000, 5000, [10, 24, 24, 11], 0 :: payload⟩).getD []),
          [datagramToB (0 :: payload)]) := by
    rfl
  obtain ⟨mesh, ran, shown⟩ := Option.map_eq_some_iff.mp ran
  obtain ⟨placed, emitted⟩ := Prod.mk.inj shown
  exact ⟨mesh, ran, placed, emitted⟩

/-- What the callbacks of `appCalls` leave in a log, in which only the app has a hand. -/
def quietApp (s : Sidecar) : Bool :=
  s.trace.control.isEmpty && s.trace.emitted.all (·.data = [0])
    && s.trace.sent.all (·.origin = .forwarded)

theorem unacked_transmittable_appCalls
    : ∃ mesh packet,
        Mesh.Reachable threeMembers mesh
        ∧ ((mesh nodeA).peer nodeB).unacked.get? 0 = some (0, packet)
        ∧ packet.length ≤ maxDatagram := by
  have members : (threeStarted.runAll threeMembers (appCalls [0])).all
      (fun mesh => [nodeA, nodeB, nodeC].all (fun ip => quietApp (mesh ip))) = true := by
    decide +kernel
  obtain ⟨mesh, ran, placed, -⟩ := appCalls_placed []
  have reachable := (Mesh.Reachable.init threeStarted_starts).runAll ran
  rw [ran, Option.all_some, List.all_eq_true] at members
  have quiet := forall_of_runAll (fun _ s => quietApp s = true) ran (by decide)
    (fun _ _ _ => rfl) members
  have fits : Fits threeMembers mesh := by
    constructor
    case forwarded =>
      intro ip datagram member routed _
      have quiet := quiet ip
      simp only [quietApp, Bool.and_eq_true, List.all_eq_true, decide_eq_true_eq] at quiet
      rw [quiet.1.2 datagram member]
      unfold LeavesRoom
      decide
    case starts =>
      intro ip id member
      have quiet := quiet ip
      simp only [quietApp, Bool.and_eq_true, List.isEmpty_iff] at quiet
      rw [quiet.1.1] at member
      cases member
    case direct =>
      intro ip call member isDirect
      have quiet := quiet ip
      simp only [quietApp, Bool.and_eq_true, List.all_eq_true, decide_eq_true_eq] at quiet
      rw [quiet.2 call member] at isDirect
      cases isDirect
  exact ⟨mesh, _, reachable, placed, unacked_transmittable reachable fits placed⟩

/-- A datagram that fits UDP is placed in a packet that does not. -/
theorem unacked_untransmittable
    : ¬ ∀ (cfg : Ip → Config) (mesh : Mesh),
        Mesh.Reachable cfg mesh
        → (∀ ip, ∀ datagram ∈ (mesh ip).trace.emitted, datagram.data.length ≤ maxDatagram)
        → ∀ ip dst seq sentAt packet,
            ((mesh ip).peer dst).unacked.get? seq = some (sentAt, packet)
            → packet.length ≤ maxDatagram := by
  intro claimed
  have size : (0 :: List.replicate 65499 (0 : UInt8)).length = 65500 := by
    rw [List.length_cons, List.length_replicate]
  generalize List.replicate 65499 (0 : UInt8) = payload at size
  obtain ⟨mesh, ran, placed, emitted⟩ := appCalls_placed payload
  have reachable := (Mesh.Reachable.init threeStarted_starts).runAll ran
  have legal (ip : Ip) : ∀ datagram ∈ (mesh ip).trace.emitted,
      datagram.data.length ≤ maxDatagram := by
    by_cases here : ip = nodeA
    · subst here
      rw [emitted]
      intro datagram member
      rw [List.mem_singleton.mp member]
      exact Nat.le_trans (Nat.le_of_eq size) (by decide)
    · have idle : mesh ip = threeStarted ip := by
        refine Mesh.runAll_other ran fun call member => ?_
        rcases List.mem_cons.mp member with rfl | second
        · exact Ne.symm here
        · rw [List.mem_singleton.mp second]
          exact Ne.symm here
      rw [idle]
      exact fun _ member => by cases member
  have bound := claimed threeMembers mesh reachable legal nodeA nodeB 0 0 _ placed
  have packed : packDataHeader 0 0 5000 5000 [10, 24, 24, 11]
      = some [0, 0, 0, 0, 0, 0, 0, 0, 0, 19, 136, 19, 136, 10, 24, 24, 11] := by
    decide
  simp only [dataPacket, packed, Option.map_some, Option.getD_some, List.length_append, size,
    maxDatagram] at bound
  exact absurd bound (by decide)

end MeshSnapshot.Transport
