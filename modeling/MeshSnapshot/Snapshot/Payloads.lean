import MeshSnapshot.Failures.Undisturbed
import MeshSnapshot.Sidecar.Spoofing
import MeshSnapshot.Snapshot.Image
import MeshSnapshot.Snapshot.Network
import MeshSnapshot.Transport.ExactlyOnce

/-! What the mesh makes of an app payload. One that begins with neither control prefix is
carried as it is, and no snapshot notices it but for recording it.
-/

namespace MeshSnapshot

open Procedure

variable {members : List Ip} {cfg : Ip → Config} {mesh : Mesh} {source target : Ip}

/-- The snapshot is as it was, but that the packet may have been recorded on its channel. -/
structure OnlyRecords (packet : PeerPacket) (s s' : Sidecar) : Prop where
  control : s'.trace.control = s.trace.control
  ctrl
    : ∃ states,
        s'.ctrl = { s.ctrl with channelStates := states }
        ∧ (states = s.ctrl.channelStates
          ∨ ∃ recorded,
              s.ctrl.channelStates.get? packet.peer = some recorded
              ∧ states = s.ctrl.channelStates.set packet.peer
                  (recorded ++ [⟨packet.seq, packet.held⟩]))

theorem Undisturbed.onlyRecords {s s' : Sidecar} (undisturbed : Undisturbed s s')
    (packet : PeerPacket) : OnlyRecords packet s s' where
  control := congrArg Desk.control undisturbed
  ctrl := ⟨_, congrArg Desk.ctrl undisturbed, .inl rfl⟩

theorem recordMessage_onlyRecords (packet : PeerPacket) (s : Sidecar)
    : Triple (fun t => t = s) (recordMessage packet.peer packet.seq packet.held)
        (fun _ => OnlyRecords packet s) (OnlyRecords packet s) := by
  refine .readBind fun t same => ?_
  subst same
  cases found : t.ctrl.channelStates.get? packet.peer with
  | none => exact .raise fun _ same => same ▸ (Undisturbed.refl t).onlyRecords packet
  | some recorded =>
      refine .update fun u same => ?_
      subst same
      exact ⟨rfl, _, rfl, .inr ⟨recorded, found, rfl⟩⟩

/-- Whatever state a sidecar is in, and however the processing of the packet ends. -/
theorem processAndDeliver_onlyRecords (config : Config) (depth : Nat) (packet : PeerPacket)
    (plain : markerId? packet.held.payload = none)
    : Within (OnlyRecords packet)
        (processAndDeliver config (depth + 1) packet.peer packet.seq packet.held) := by
  intro s
  have processes : Triple (fun t => t = s)
      (processMessage config (depth + 1) packet.peer packet.seq packet.held)
      (fun consumed t => if consumed then OnlyRecords packet s t else t = s)
      (OnlyRecords packet s) := by
    unfold processMessage
    rw [plain]
    refine .readBind fun t same => ?_
    subst same
    split
    · exact (recordMessage_onlyRecords packet t).bind fun _ => .pure fun _ after => after
    · exact .pure fun _ same => same
  have delivers : Triple (fun t => t = s) (deliver packet.peer packet.seq packet.held)
      (fun _ => OnlyRecords packet s) (OnlyRecords packet s) :=
    .of_within (calm_deliver _ _ _) fun same undisturbed =>
      same ▸ Undisturbed.onlyRecords undisturbed packet
  have whole : Triple (fun t => t = s)
      (processAndDeliver config (depth + 1) packet.peer packet.seq packet.held)
      (fun _ => OnlyRecords packet s) (OnlyRecords packet s) := by
    refine processes.bind fun consumed => ?_
    cases consumed with
    | true => exact .pure fun _ after => after
    | false => exact delivers
  have outcome := whole s rfl
  cases stopped : processAndDeliver config (depth + 1) packet.peer packet.seq packet.held s <;>
    simpa [stopped, final] using outcome

-----------------------------------------------------------------------------------------
-- From app to app
-----------------------------------------------------------------------------------------

/-- The app was sent this packet on a socket that serves the address of its sender. -/
def Sidecar.Spoofed (s : Sidecar) (packet : PeerPacket) : Prop :=
  ∃ sock : SpoofSock,
    sock.Serves (packet.peer, packet.held.srcPort)
    ∧ (sock, packet.held.payload, packet.held.localIp, packet.held.dstPort) ∈ s.trace.spoofed

/-- A packet of the stream that has been passed is delivered or stored, once, and what counts as
delivered has been sent to the app.
-/
theorem Sidecar.Run.handed {config : Config} {s : Sidecar} (run : s.Run config) {peer : Ip}
    {seq : Nat} {held : Held} (consumed : (seq, held) ∈ packetsOf s.trace.consumed peer)
    (plain : markerId? held.payload = none)
    : s.Spoofed ⟨peer, seq, held⟩
          ∧ (packetsOf s.trace.delivered peer).filter (fun entry => entry.1 = seq) = [(seq, held)]
        ∨ s.ctrl.isSnapshotting = true
          ∧ (packetsOf s.trace.delivered peer).filter (fun entry => entry.1 = seq) = []
          ∧ (s.ctrl.stored peer).filter (fun entry => entry.1 = seq) = [(seq, held)] := by
  have listed : (seq, held) ∈ packetsOf s.journal.consumed peer := consumed
  rw [run.balanced.counted.numbered peer] at listed
  rcases run.balanced.once (Deferral.mem_numbered.mp listed).1 plain with ⟨delivered, -⟩ | stored
  · refine .inl ⟨?_, delivered⟩
    have given : (seq, held) ∈ packetsOf s.journal.delivered peer :=
      (List.mem_filter.mp (delivered.symm ▸ List.mem_singleton_self (seq, held))).1
    obtain ⟨packet, member, same⟩ := List.mem_map.mp given
    obtain ⟨onChannel, isPeer⟩ := List.mem_filter.mp member
    obtain ⟨rfl, rfl⟩ := Prod.mk.inj same
    obtain rfl := of_decide_eq_true isPeer
    obtain ⟨sends, matched, among⟩ := List.sublistForall₂_iff.mp run.faithful.delivered
    obtain ⟨⟨sock, _⟩, sent, serves, rfl⟩ := exists_of_forall₂ matched onChannel
    exact ⟨sock, serves, among.mem sent⟩
  · exact .inr stored

/-- An app payload that begins with neither control prefix. Processing it, in any state, does
nothing to a snapshot but record it. Once its sender has read it and waits for no acknowledgement,
the app that it is addressed to has been sent the same bytes from the same address once, or it
waits in the recorded state of the channel.
-/
theorem Mesh.Reachable.payload_handed (deployed : ∀ ip, (cfg ip).Deployed members ip)
    (reachable : Mesh.Reachable cfg mesh) {k : Nat} {datagram : Datagram} {message : Message}
    (emitted : (mesh source).trace.emitted[k]? = some datagram)
    (noStart : startPrefix.isPrefixOf datagram.data = false)
    (noMarker : markerPrefix.isPrefixOf datagram.data = false)
    (routed : rudpRoute (cfg source) (mesh source).isServer datagram = some (target, message))
    : (∀ seq,
        Within (OnlyRecords ⟨source, seq, message.held⟩)
          (processAndDeliver (cfg target) callDepth source seq message.held))
      ∧ (k < (mesh source).trace.reads
        → ((mesh source).peer target).unacked = ∅
        → ∃ seq,
            (∃ sock : SpoofSock,
              sock.Serves (source, datagram.addr.2)
              ∧ (sock, datagram.data, target, message.dstPort) ∈ (mesh target).trace.spoofed)
              ∧ (packetsOf (mesh target).trace.delivered source).filter
                  (fun entry => entry.1 = seq) = [(seq, message.held)]
            ∨ (mesh target).ctrl.isSnapshotting = true
              ∧ (packetsOf (mesh target).trace.delivered source).filter
                  (fun entry => entry.1 = seq) = []
              ∧ ((mesh target).ctrl.stored source).filter (fun entry => entry.1 = seq)
                  = [(seq, message.held)]) := by
  obtain ⟨payload, srcPort, localIp⟩ := rudpRoute_message routed
  have plain : markerId? message.held.payload = none := by
    have same : message.held.payload = datagram.data := payload
    rw [markerId?, same, noMarker]
    rfl
  refine ⟨fun seq => processAndDeliver_onlyRecords (cfg target) 249 ⟨source, seq, message.held⟩
    plain, fun read settled => ?_⟩
  have captures := (reachable.run source).captures (deployed source)
  have call := captures.reads.routed read ⟨datagram, emitted, noStart, routed⟩
  have listed : message.held ∈ Transport.sentTo (mesh source) target :=
    List.mem_map.mpr ⟨_, List.mem_filter.mpr ⟨call, by simp⟩, rfl⟩
  obtain ⟨seq, found⟩ := List.getElem?_of_mem listed
  obtain ⟨all, -⟩ := reachable.passes_all settled
  have consumed : (seq, message.held) ∈ packetsOf (mesh target).trace.consumed source := by
    rw [all]
    exact Deferral.mem_numbered.mpr ⟨found, rfl⟩
  rcases (reachable.run target).handed consumed plain with ⟨⟨sock, serves, sent⟩, once⟩ | stored
  · refine ⟨seq, .inl ⟨⟨sock, ?_, ?_⟩, once⟩⟩
    · have same : message.held.srcPort = datagram.addr.2 := srcPort
      exact same ▸ serves
    · have bytes : message.held.payload = datagram.data := payload
      rw [bytes, localIp] at sent
      exact sent
  · exact ⟨seq, .inr stored⟩

/-- A's app sends one datagram, which B receives while its host behaves as `host`. -/
def oneDatagramCalls (data : Bytes) (host : Host) : List (Ip × Callback × Host) := [
  (nodeA, .emit [datagramToB data], {}),
  (nodeA, .intercept, {}),
  (nodeB, .received (dataFrame 0 [10, 24, 24, 11] data) nodeA, host),
  (nodeA, .received (packAck 0) nodeB, {})
]

theorem Mesh.Reachable.payload_handed_oneDatagramCalls
    : ∃ (mesh : Mesh) (seq : Nat),
        threeStarted.runAll threeMembers (oneDatagramCalls [109] {}) = some mesh
        ∧ (∃ sock : SpoofSock,
          sock.Serves (nodeA, 5000)
          ∧ (sock, [109], nodeB, 5000) ∈ (mesh nodeB).trace.spoofed)
        ∧ (packetsOf (mesh nodeB).trace.delivered nodeA).filter (fun entry => entry.1 = seq)
          = [(seq, ⟨[109], 5000, 5000, nodeB⟩)] := by
  have ran : (threeStarted.runAll threeMembers (oneDatagramCalls [109] {})).any (fun mesh =>
      (mesh nodeA).trace.emitted[0]? == some (datagramToB [109])
      && (mesh nodeA).trace.reads == 1
      && ((mesh nodeA).peer nodeB).unacked.size == 0
      && (mesh nodeA).isServer
      && !(mesh nodeB).ctrl.isSnapshotting) = true := by
    decide +kernel
  obtain ⟨mesh, ran, shown⟩ := (Option.any_eq_true _ _).mp ran
  simp only [Bool.and_eq_true, beq_iff_eq, Bool.not_eq_true'] at shown
  obtain ⟨⟨⟨⟨emitted, reads⟩, settled⟩, isServer⟩, idle⟩ := shown
  have routed : rudpRoute (threeMembers nodeA) (mesh nodeA).isServer (datagramToB [109])
      = some (nodeB, ⟨5000, 5000, [10, 24, 24, 11], [109]⟩) := by
    rw [isServer]
    decide +kernel
  obtain ⟨seq, handed | ⟨recording, -⟩⟩ :=
    (Mesh.Reachable.payload_handed threeMembers_deployed
      ((Mesh.Reachable.init threeStarted_starts).runAll ran) emitted (by decide) (by decide)
      routed).2 (by omega) (Dict.eq_empty_of_size settled)
  · exact ⟨mesh, seq, ran, handed⟩
  · cases recording.symm.trans idle

/-- A payload of A's app that begins as a marker does starts a snapshot at B, and B's app is not
sent it. A datagram for which the spoof socket cannot be bound reaches B's app from a generic
socket.
-/
theorem Mesh.Reachable.payload_interpreted
    : (∃ (mesh : Mesh) (passed : Nat),
        Mesh.Reachable threeMembers mesh
        ∧ (mesh nodeA).trace.emitted = [datagramToB (markerPrefix ++ [49])]
        ∧ startPrefix.isPrefixOf (datagramToB (markerPrefix ++ [49])).data = false
        ∧ (mesh nodeA).trace.reads = 1
        ∧ ((mesh nodeA).peer nodeB).unacked.size = 0
        ∧ .began [49] passed ∈ (mesh nodeB).trace.control
        ∧ (mesh nodeB).trace.spoofed = [])
      ∧ ∃ mesh : Mesh,
          Mesh.Reachable threeMembers mesh
          ∧ (mesh nodeA).trace.emitted = [datagramToB [109]]
          ∧ (mesh nodeB).trace.spoofed = [(⟨1, none⟩, [109], nodeB, 5000)] := by
  have marked : (threeStarted.runAll threeMembers (oneDatagramCalls (markerPrefix ++ [49]) {})).any
      (fun mesh =>
        (mesh nodeA).trace.emitted == [datagramToB (markerPrefix ++ [49])]
        && (mesh nodeA).trace.reads == 1
        && ((mesh nodeA).peer nodeB).unacked.size == 0
        && decide (.began [49] 0 ∈ (mesh nodeB).trace.control)
        && (mesh nodeB).trace.spoofed == []) = true := by
    decide +kernel
  have unbound : (threeStarted.runAll threeMembers
      (oneDatagramCalls [109] { faults := [false, false, true] })).any (fun mesh =>
        (mesh nodeA).trace.emitted == [datagramToB [109]]
        && (mesh nodeB).trace.spoofed == [(⟨1, none⟩, [109], nodeB, 5000)]) = true := by
    decide +kernel
  constructor
  · obtain ⟨mesh, ran, shown⟩ := (Option.any_eq_true _ _).mp marked
    simp only [Bool.and_eq_true, beq_iff_eq, decide_eq_true_eq] at shown
    obtain ⟨⟨⟨⟨emitted, reads⟩, settled⟩, began⟩, nothing⟩ := shown
    exact ⟨mesh, 0, (Mesh.Reachable.init threeStarted_starts).runAll ran, emitted, by decide,
      reads, settled, began, nothing⟩
  · obtain ⟨mesh, ran, shown⟩ := (Option.any_eq_true _ _).mp unbound
    simp only [Bool.and_eq_true, beq_iff_eq] at shown
    exact ⟨mesh, (Mesh.Reachable.init threeStarted_starts).runAll ran, shown⟩

end MeshSnapshot
