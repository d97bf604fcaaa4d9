import MeshSnapshot.Recovery.Replay
import MeshSnapshot.Sidecar.AppDelivery

/-! What a snapshot records of a node is what a restore of the node takes over: the coordinates
of every channel, and the messages that the live flush delivers, in the same order.
-/

namespace MeshSnapshot

open Procedure

variable {cfg : Config} {s s' fresh : Sidecar} {host : Host} {u : Unit}

-----------------------------------------------------------------------------------------
-- Seeding
-----------------------------------------------------------------------------------------

@[simp] theorem PeerState.seed_seed (peer : PeerState) (artifact : PeerArtifact)
    : (peer.seed artifact).seed artifact = peer.seed artifact := by
  cases sent : artifact.sendSeq <;> cases received : artifact.recvSeq <;>
    simp [PeerState.seed, sent, received]

/-- What seeding leaves alone. -/
structure Seeding (s s' : Sidecar) : Prop where
  ctrl : s'.ctrl = s.ctrl
  delivered : s'.trace.delivered = s.trace.delivered
  wire : s'.trace.wire = s.trace.wire
  journal : ∃ sendSeq recvSeq, s'.journal = { s.journal with sendSeq, recvSeq }

theorem seedPeer_outcome (ip : Ip) (artifact : PeerArtifact) (s : Sidecar)
    : ∃ s', seedPeer ip artifact s = .ok () s'
        ∧ s'.peer = Function.update s.peer ip ((s.peer ip).seed artifact)
        ∧ Seeding s s' := by
  have framed := framed_getPeer ip s
  unfold seedPeer
  rw [bind_run]
  cases known : getPeer ip s with
  | ok _ t =>
      rw [known] at framed
      have peer : t.peer = s.peer := funext framed.peer
      refine ⟨_, rfl, ?_, framed.ctrl, congrArg Journal.delivered framed.journal, framed.wire, ?_⟩
      · funext other
        rw [Sidecar.peer_setPeer, peer]
      · refine ⟨_, _, Journal.eq_of_seqs ?_ rfl rfl⟩
        rw [← framed.journal]
        rfl
  | error e t =>
      unfold getPeer at known
      cases found : s.peers.get? ip <;> simp [bind_run, found] at known

theorem seedPeers_outcome (artifact : Ip → PeerArtifact) (ips : List Ip) (s : Sidecar)
    : ∃ s', forEach (fun ip => seedPeer ip (artifact ip)) ips s = .ok () s'
        ∧ (∀ ip, s'.peer ip = if ip ∈ ips then (s.peer ip).seed (artifact ip) else s.peer ip)
        ∧ Seeding s s' := by
  induction ips generalizing s with
  | nil => exact ⟨s, rfl, by simp, rfl, rfl, rfl, _, _, rfl⟩
  | cons head rest ih =>
      obtain ⟨t, first, peer, same⟩ := seedPeer_outcome head (artifact head) s
      obtain ⟨s', looped, rested, still⟩ := ih t
      refine ⟨s', ?_, fun ip => ?_, still.ctrl.trans same.ctrl,
        still.delivered.trans same.delivered, still.wire.trans same.wire, ?_⟩
      · rw [forEach_cons, bind_run, first]
        exact looped
      · rw [rested, peer]
        by_cases here : ip = head
        · subst here
          simp
        · simp [here]
      · obtain ⟨_, _, seeds⟩ := same.journal
        obtain ⟨_, _, more⟩ := still.journal
        exact ⟨_, _, by rw [more, seeds]⟩

/-- The coordinates that a restore takes over for a peer. Those that were not recorded are the
ones of a new peer.
-/
def SnapshotController.seeded (ctrl : SnapshotController) (ip : Ip) : PeerState where
  sendSeq := (ctrl.recordedSendSeq.get? ip).getD 0
  recvSeq := (ctrl.recordedRecvSeq.get? ip).getD 0

/-- A peer that the artifact does not list has no coordinates in it. -/
theorem seed_unlisted {ctrl : SnapshotController} {ip : Ip} (unlisted : ip ∉ ctrl.artifactPeers)
    : ctrl.seeded ip = {} := by
  have unsent : ctrl.recordedSendSeq.get? ip = none :=
    Dict.get?_eq_none_iff.mpr fun key => unlisted (mem_artifactPeers.mpr (.inl key))
  have unreceived : ctrl.recordedRecvSeq.get? ip = none :=
    Dict.get?_eq_none_iff.mpr fun key => unlisted (mem_artifactPeers.mpr (.inr (.inl key)))
  simp [SnapshotController.seeded, unsent, unreceived]

-----------------------------------------------------------------------------------------
-- Restoring
-----------------------------------------------------------------------------------------

/-- The sidecar once the coordinates of an artifact are seeded. -/
def Sidecar.seededBy (s : Sidecar) (artifact : Artifact) : Sidecar :=
  final (forEach (fun (entry : Ip × PeerArtifact) => seedPeer entry.1 entry.2) artifact.peers s)

/-- A restore seeds the peers of the artifact, and then replays its messages. -/
theorem restorePeers_unseeded {status : Status} {artifact : Artifact} {nodes : List Artifact}
    {ctrl : SnapshotController} (built : ctrl.artifact? cfg status = some artifact)
    (own : ownEntry cfg nodes = some artifact) (plain : ctrl.RecordsPlain)
    (idle : s.ctrl.isSnapshotting = false) (unseeded : ∀ ip, s.peer ip = {})
    : restorePeers cfg (some nodes) s = forEach deliverPacket ctrl.restored (s.seededBy artifact)
      ∧ (s.seededBy artifact).peer = ctrl.seeded
      ∧ Seeding s (s.seededBy artifact) := by
  have listed : artifact.peers
      = ctrl.artifactPeers.map fun peer => (peer, ctrl.peerArtifact peer) := by
    obtain ⟨snapshotId, -, rfl⟩ := Option.map_eq_some_iff.mp built
    rfl
  obtain ⟨t, seeded, peer, same⟩ := seedPeers_outcome ctrl.peerArtifact ctrl.artifactPeers s
  have plainRestored (packet : PeerPacket) (member : packet ∈ ctrl.restored)
      : markerId? packet.held.payload = none := by
    obtain ⟨ip, -, member⟩ := List.mem_flatMap.mp member
    obtain ⟨recorded, listed, rfl⟩ := List.mem_map.mp member
    have member := (List.mem_insertionSort _).mp listed
    cases found : ctrl.channelStates.get? ip with
    | none => simp [found] at member
    | some messages => exact plain found (by simpa [found] using member)
  have seeds : forEach (fun (entry : Ip × PeerArtifact) => seedPeer entry.1 entry.2)
      artifact.peers s = .ok () t := by
    rw [listed, forEach_map]
    exact seeded
  have reached : s.seededBy artifact = t := congrArg final seeds
  rw [reached]
  refine ⟨?_, funext fun ip => ?_, same⟩
  · unfold restorePeers
    simp only [own]
    rw [bind_run, seeds, listed, replayChannels_eq cfg ctrl]
    exact forEach_idle cfg _ (same.ctrl ▸ idle) plainRestored
  · rw [peer, unseeded]
    by_cases listed : ip ∈ ctrl.artifactPeers
    · rw [if_pos listed]
      rfl
    · rw [if_neg listed, seed_unlisted listed]

theorem restorePeers_eq {status : Status} {artifact : Artifact} {nodes : List Artifact}
    {ctrl : SnapshotController} (built : ctrl.artifact? cfg status = some artifact)
    (own : ownEntry cfg nodes = some artifact) (plain : ctrl.RecordsPlain)
    (idle : s.ctrl.isSnapshotting = false) (unknown : s.peers = ∅)
    : restorePeers cfg (some nodes) s = forEach deliverPacket ctrl.restored (s.seededBy artifact)
      ∧ (s.seededBy artifact).peer = ctrl.seeded
      ∧ Seeding s (s.seededBy artifact) :=
  restorePeers_unseeded built own plain idle fun ip => by simp [Sidecar.peer, unknown]

/-- However the body of the `try` ends, the restore ends in the state that it leaves. -/
theorem restored_eq (cfg : Config) {snapshotId : String} (set : snapshotId ≠ "")
    (reply : Option (List Artifact)) (host : Host) (s : Sidecar)
    : s.restored cfg (some snapshotId) reply host
      = final (restorePeers cfg reply { s with host }) := by
  have given : (some snapshotId).filter (· ≠ "") ≠ none := by simp [set]
  unfold Sidecar.restored restoreFromArtifact
  rw [if_neg given, attempt_run]
  cases restorePeers cfg reply { s with host } <;> rfl

/-- A restored sidecar has taken over the coordinates of every channel, and records nothing. -/
structure Sidecar.TakesOver (s : Sidecar) (ctrl : SnapshotController) : Prop where
  sendSeq : ∀ {ip seq}, ctrl.recordedSendSeq.get? ip = some seq → (s.peer ip).sendSeq = seq
  recvSeq : ∀ {ip seq}, ctrl.recordedRecvSeq.get? ip = some seq → (s.peer ip).recvSeq = seq
  unacked : ∀ ip, (s.peer ip).unacked = ∅
  recvBuffer : ∀ ip, (s.peer ip).recvBuffer = ∅
  idle : s.ctrl.isSnapshotting = false
  states : s.ctrl.channelStates = ∅

theorem takesOver_of_seeded {ctrl : SnapshotController} (peer : s.peer = ctrl.seeded)
    (idle : s.ctrl.isSnapshotting = false) (states : s.ctrl.channelStates = ∅)
    : s.TakesOver ctrl where
  sendSeq := fun {ip _} recorded => by simp [peer, SnapshotController.seeded, recorded]
  recvSeq := fun {ip _} recorded => by simp [peer, SnapshotController.seeded, recorded]
  unacked ip := by rw [peer]; rfl
  recvBuffer ip := by rw [peer]; rfl
  idle := idle
  states := states

/-- A restore takes over what the artifact of the node was built from. Where no failing delivery
cuts a replay short, it delivers the same messages of every peer, in the same order, as the flush
of the live run does. In both, every delivery is a send of its own to the app.
-/
theorem artifact_round_trip {status : Status} {artifact : Artifact} {nodes : List Artifact}
    {snapshotId : String} (plain : s.ctrl.RecordsPlain)
    (built : buildArtifact cfg status s = .ok artifact s')
    (own : ownEntry cfg nodes = some artifact) (starts : fresh.Starts cfg)
    (set : snapshotId ≠ "") (host : Host)
    : (fresh.restored cfg (some snapshotId) (some nodes) host).TakesOver s.ctrl
      ∧ (∀ {depth : Nat} {flushed replayed : Sidecar},
          flushAndReset (fun ip seq held => processAndDeliver cfg depth ip seq held) s
            = .ok () flushed
          → restorePeers cfg (some nodes) { fresh with host } = .ok () replayed
          → ∀ peer, ∃ messages,
              packetsOf flushed.trace.delivered peer
                = packetsOf s.trace.delivered peer ++ messages
              ∧ packetsOf (fresh.restored cfg (some snapshotId) (some nodes) host).trace.delivered
                  peer = messages)
      ∧ (fresh.restored cfg (some snapshotId) (some nodes) host).Faithful
      ∧ ∀ {depth : Nat} {flushed : Sidecar},
          s.Faithful
          → flushAndReset (fun ip seq held => processAndDeliver cfg depth ip seq held) s
            = .ok () flushed
          → flushed.Faithful := by
  obtain ⟨-, built⟩ := buildArtifact_ok built
  have faithful := respects_faithful.restored cfg (some snapshotId) (some nodes) host fresh
    (Sidecar.Run.start starts).faithful
  have flushFaithful (depth : Nat) := respects_faithful.flush
    (respects_faithful.processAndDeliver cfg depth)
  obtain ⟨isServer, cache, rfl, -⟩ := starts.started
  refine and_assoc.mp ⟨?_, faithful, fun before flushes => (flushFaithful _).ok flushes before⟩
  obtain ⟨restores, peer, seeding⟩ := restorePeers_eq (s := { Sidecar.started isServer cache
    with host }) built own plain rfl rfl
  rw [restored_eq cfg set, restores]
  have handing := handing_deliverAll s.ctrl.restored
    (({ Sidecar.started isServer cache with host } : Sidecar).seededBy artifact)
  constructor
  · refine takesOver_of_seeded (handing.peer.trans peer) ?_ ?_
    · rw [handing.ctrl, seeding.ctrl]
      rfl
    · rw [handing.ctrl, seeding.ctrl]
      rfl
  · intro depth flushed replayed flushes replays peer
    refine ⟨packetsOf s.ctrl.replayed peer, ?_, ?_⟩
    · have live := flushAndReset_ok (replays_processAndDeliver cfg depth) plain flushes
      have delivered : flushed.trace.delivered = s.trace.delivered ++ s.ctrl.replayed :=
        congrArg Journal.delivered live
      rw [delivered, packetsOf_append]
    · rw [replays]
      have delivered : replayed.trace.delivered = s.ctrl.restored := by
        rw [deliverAll_ok replays, seeding.delivered]
        rfl
      rw [final, delivered, packetsOf_restored]

/-- B has recorded a message of A, whose channel is closed. -/
theorem artifact_round_trip_overtakingCalls
    : ∃ (live : Sidecar) (artifact : Artifact) (flushed replayed : Sidecar),
        Sidecar.Run (threeMembers nodeB) live
        ∧ buildArtifact (threeMembers nodeB) .complete live = .ok artifact live
        ∧ (packetsOf flushed.trace.delivered nodeA).length = 1
        ∧ packetsOf flushed.trace.delivered nodeA = packetsOf replayed.trace.delivered nodeA
        ∧ replayed
          = (threeStarted nodeB).restored (threeMembers nodeB) (some "1") (some [artifact]) {}
        ∧ (replayed.peer nodeA).recvSeq = 2
        ∧ replayed.Faithful ∧ flushed.Faithful := by
  have ran : ((threeStarted nodeB).callAll (threeMembers nodeB) (overtakingCalls.take 4)).any
      (fun live =>
        (packetsOf live.trace.delivered nodeA).isEmpty
        && live.ctrl.recordedRecvSeq.get? nodeA == some 2
        && (returned? (buildArtifact (threeMembers nodeB) .complete live)).any fun built =>
            ownEntry (threeMembers nodeB) [built.1] == some built.1
            && (returned? (flushAndReset (fun ip seq held =>
                processAndDeliver (threeMembers nodeB) callDepth ip seq held) live)).any
                (fun flushed => (packetsOf flushed.2.trace.delivered nodeA).length == 1)
            && (returned? (restorePeers (threeMembers nodeB) (some [built.1])
                { threeStarted nodeB with host := {} })).isSome) = true := by
    decide +kernel
  obtain ⟨live, called, shown⟩ := (Option.any_eq_true _ _).mp ran
  simp only [Bool.and_eq_true, beq_iff_eq, Option.any_eq_true, List.isEmpty_iff] at shown
  obtain ⟨⟨undelivered, recorded⟩, ⟨artifact, same⟩, built, ⟨own, ⟨_, flushed⟩, flushes, one⟩,
    replays⟩ := shown
  obtain ⟨⟨_, replayed⟩, replays⟩ := Option.isSome_iff_exists.mp replays
  have built := returned?_eq_some.mp built
  have flushes := returned?_eq_some.mp flushes
  have replays := returned?_eq_some.mp replays
  have run := (Sidecar.Run.start (threeStarted_starts nodeB)).callAll called
  obtain rfl := (buildArtifact_ok built).1
  obtain ⟨takesOver, agrees, faithful, flushFaithful⟩ := artifact_round_trip run.balanced.recordsPlain built own
    (threeStarted_starts nodeB) (show "1" ≠ "" by decide) {}
  obtain ⟨messages, flushed_eq, restored_eq'⟩ := agrees flushes replays nodeA
  have final : replayed
      = (threeStarted nodeB).restored (threeMembers nodeB) (some "1") (some [artifact]) {} := by
    rw [restored_eq _ (by decide), replays]
    rfl
  rw [← final] at restored_eq' faithful
  refine ⟨live, artifact, flushed, replayed, run, built, one, ?_, final, ?_, faithful,
    flushFaithful run.faithful flushes⟩
  · rw [flushed_eq, restored_eq', undelivered, List.nil_append]
  · rw [final]
    exact takesOver.recvSeq recorded

end MeshSnapshot
