import MeshSnapshot.Model.Restore
import MeshSnapshot.Sidecar.Ledger

/-! The two replays of recorded messages. Outside of a snapshot, `process_and_deliver` only
delivers, so both replays are loops of deliveries: the live flush over `channel_states`, and
the restore over the channels of the artifact.
-/

namespace MeshSnapshot

open Procedure

variable {cfg : Config} {s s' : Sidecar} {u : Unit}

-----------------------------------------------------------------------------------------
-- Deliveries
-----------------------------------------------------------------------------------------

def deliverPacket (packet : PeerPacket) : Py Unit :=
  deliver packet.peer packet.seq packet.held

/-- What a delivery leaves alone. -/
structure Handing (s s' : Sidecar) : Prop where
  peer : s'.peer = s.peer
  ctrl : s'.ctrl = s.ctrl
  wire : s'.trace.wire = s.trace.wire
  journal : ∃ delivered, s'.journal = { s.journal with delivered }

theorem Handing.refl (s : Sidecar) : Handing s s := ⟨rfl, rfl, rfl, _, rfl⟩

theorem Handing.trans {a b c : Sidecar} (first : Handing a b) (second : Handing b c)
    : Handing a c := by
  obtain ⟨delivered, last⟩ := second.journal
  obtain ⟨earlier, before⟩ := first.journal
  refine ⟨second.peer.trans first.peer, second.ctrl.trans first.ctrl,
    second.wire.trans first.wire, delivered, ?_⟩
  rw [last, before]

theorem SameCore.handing (same : SameCore s s') : Handing s s' :=
  ⟨funext same.peer, same.ctrl, same.wire, _, same.journal⟩

theorem handing_deliver (ip : Ip) (seq : Nat) (held : Held)
    : Within Handing (deliver ip seq held) := by
  refine .bind .trans (fun s => ((framed_getSpoofSock _) s).handing) fun sock => ?_
  refine .bind .trans (fun s => ((framed_spoofSendto _ _ _) s).handing) fun _ => ?_
  exact .update fun s => ⟨rfl, rfl, rfl, _, rfl⟩

theorem handing_deliverAll (packets : List PeerPacket)
    : Within Handing (forEach deliverPacket packets) :=
  .forEach Handing.refl .trans packets fun _ _ => handing_deliver _ _ _

/-- Outside of a snapshot, a message that is no marker is delivered and nothing else. -/
theorem processAndDeliver_idle {depth : Nat} {ip : Ip} {seq : Nat} {held : Held}
    (idle : s.ctrl.isSnapshotting = false) (plain : markerId? held.payload = none)
    : processAndDeliver cfg (depth + 1) ip seq held s = deliver ip seq held s := by
  have passes : processMessage cfg (depth + 1) ip seq held s = .ok false s := by
    unfold processMessage
    simp [plain, idle, bind_run]
  unfold processAndDeliver
  rw [bind_run, passes]
  rfl

/-- A loop of `process_and_deliver` over such messages is a loop of deliveries. -/
theorem forEach_idle (cfg : Config) (depth : Nat) {packets : List PeerPacket}
    (idle : s.ctrl.isSnapshotting = false)
    (plain : ∀ packet ∈ packets, markerId? packet.held.payload = none)
    : forEach (fun packet => processAndDeliver cfg (depth + 1) packet.peer packet.seq packet.held)
        packets s
      = forEach deliverPacket packets s := by
  induction packets generalizing s with
  | nil => rfl
  | cons packet rest ih =>
      rw [forEach_cons, forEach_cons, bind_run, bind_run,
        processAndDeliver_idle idle (plain packet List.mem_cons_self)]
      have handing := handing_deliver packet.peer packet.seq packet.held s
      unfold deliverPacket
      cases delivered : deliver packet.peer packet.seq packet.held s with
      | ok _ t =>
          rw [delivered] at handing
          exact ih (handing.ctrl ▸ idle)
            fun next member => plain next (List.mem_cons_of_mem _ member)
      | error e t => rfl

theorem deliverAll_ok {packets : List PeerPacket}
    (returned : forEach deliverPacket packets s = .ok u s')
    : s'.trace.delivered = s.trace.delivered ++ packets := by
  induction packets generalizing s with
  | nil =>
      obtain ⟨-, rfl⟩ := pure_ok.mp returned
      simp
  | cons packet rest ih =>
      obtain ⟨_, s₁, delivered, returned⟩ := bind_ok.mp returned
      have first : s₁.trace.delivered = s.trace.delivered ++ [packet] :=
        congrArg Journal.delivered (deliver_ok delivered)
      rw [ih returned, first, List.append_assoc, List.singleton_append]

-----------------------------------------------------------------------------------------
-- The messages of an artifact
-----------------------------------------------------------------------------------------

/-- The messages of the recorded channels in the order in which a restore replays them. -/
def SnapshotController.restored (ctrl : SnapshotController) : List PeerPacket :=
  ctrl.artifactPeers.flatMap fun peer =>
    (sortRecorded ((ctrl.channelStates.get? peer).getD [])).map
      fun recorded => ⟨peer, recorded.seq, recorded.held⟩

theorem replayMessage_encodeRecorded (cfg : Config) (ip : Ip) (recorded : Recorded)
    : replayMessage cfg ip (encodeRecorded recorded)
      = processAndDeliver cfg callDepth ip recorded.seq recorded.held := by
  unfold replayMessage b64decode encodeRecorded
  rw [Base64.decode_encode]
  rfl

/-- Encoding does not change the order of a channel. -/
theorem sortChannel_encode (recorded : List Recorded)
    : sortChannel (recorded.map encodeRecorded) = (sortRecorded recorded).map encodeRecorded :=
  (List.map_insertionSort _ _ encodeRecorded recorded fun _ _ _ _ => Iff.rfl).symm

theorem mem_artifactPeers {ctrl : SnapshotController} {ip : Ip}
    : ip ∈ ctrl.artifactPeers
      ↔ ip ∈ ctrl.recordedSendSeq.keys ∨ ip ∈ ctrl.recordedRecvSeq.keys
        ∨ ip ∈ ctrl.channelStates.keys := by
  simp [SnapshotController.artifactPeers, List.mem_insertionSort]

theorem artifactPeers_nodup (ctrl : SnapshotController) : ctrl.artifactPeers.Nodup :=
  (List.perm_insertionSort _ _).nodup_iff.mpr (List.nodup_dedup _)

/-- The restore replays the recorded messages of the artifact. -/
theorem replayChannels_eq (cfg : Config) (ctrl : SnapshotController)
    : forEach (fun (entry : Ip × PeerArtifact) => replayChannel cfg entry.1 entry.2)
        (ctrl.artifactPeers.map fun peer => (peer, ctrl.peerArtifact peer))
      = forEach (fun packet =>
          processAndDeliver cfg callDepth packet.peer packet.seq packet.held) ctrl.restored := by
  rw [forEach_map, SnapshotController.restored, forEach_flatMap]
  congr 1
  funext peer
  rw [replayChannel, SnapshotController.peerArtifact, sortChannel_encode, forEach_map, forEach_map]
  congr 1
  funext recorded
  exact replayMessage_encodeRecorded cfg peer recorded

/-- Of what is listed peer by peer, the part of one peer is listed under it. -/
theorem packetsOf_flatMap {peers : List Ip} (unique : peers.Nodup) (list : Ip → List PeerPacket)
    (owned : ∀ peer, ∀ packet ∈ list peer, packet.peer = peer) (peer : Ip)
    : packetsOf (peers.flatMap list) peer
      = if peer ∈ peers then packetsOf (list peer) peer else [] := by
  induction peers with
  | nil => rfl
  | cons head rest ih =>
      obtain ⟨absent, unique⟩ := List.nodup_cons.mp unique
      rw [List.flatMap_cons, packetsOf_append, ih unique]
      by_cases here : peer = head
      · subst here
        simp [absent]
      · have others : packetsOf (list head) peer = [] := by
          have none : (list head).filter (fun packet => packet.peer = peer) = [] :=
            List.filter_eq_nil_iff.mpr fun packet member same =>
              here ((of_decide_eq_true same).symm.trans (owned head packet member))
          rw [packetsOf, none, List.map_nil]
        simp [others, here]

/-- Of every peer, flush and restore replay the same messages in the same order. -/
theorem packetsOf_restored (ctrl : SnapshotController) (peer : Ip)
    : packetsOf ctrl.restored peer = packetsOf ctrl.replayed peer := by
  rw [Journal.packetsOf_replayed, SnapshotController.restored,
    packetsOf_flatMap (artifactPeers_nodup ctrl) _ (by simp)]
  by_cases listed : peer ∈ ctrl.artifactPeers
  · simp [listed, packetsOf, List.filter_map, Function.comp_def]
  · have unrecorded : ctrl.channelStates.get? peer = none :=
      Dict.get?_eq_none_iff.mpr fun key => listed (mem_artifactPeers.mpr (.inr (.inr key)))
    simp [listed, unrecorded, sortRecorded]

end MeshSnapshot
