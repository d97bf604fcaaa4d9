import MeshSnapshot.Recovery.Alignment
import MeshSnapshot.Recovery.Seeding
import MeshSnapshot.Sidecar.Continuation

/-! The sidecar of a node between its restore and what follows. It goes on from the cut: its links
stand at the recorded coordinates, and what it delivers comes behind the recorded messages.
-/

namespace MeshSnapshot.Transport

open Procedure

variable {cfg : Config} {s s' : Sidecar}

-----------------------------------------------------------------------------------------
-- Before the restore
-----------------------------------------------------------------------------------------

/-- A procedure that receives and delivers nothing and leaves the snapshot alone, however it ends.
-/
abbrev Outward {α : Type} (body : Py α) : Prop :=
  Within (fun s s' => s.journal.SameReceipt s'.journal) body

namespace Outward

variable {α β : Type}

theorem pure (a : α) : Outward (Pure.pure a : Py α) := Within.pure (fun _ => .refl _) a

theorem read : Outward Procedure.read := Within.read fun _ => .refl _

theorem raise (error : PyErr) : Outward (Procedure.raise error : Py α) :=
  Within.raise (fun _ => .refl _) error

theorem bind {x : Py α} {f : α → Py β} (first : Outward x) (second : ∀ a, Outward (f a))
    : Outward (x >>= f) :=
  Within.bind Journal.SameReceipt.trans first second

theorem of_framed {body : Py α} (framed : Framed body) : Outward body :=
  fun s => by
    have same := (framed s).journal
    change s.journal.SameReceipt (final (body s)).journal
    rw [same]
    exact .refl _

end Outward

theorem outward_tunnelSendto (packet : Bytes) (dst : Ip) : Outward (tunnelSendto packet dst) := by
  refine .bind .read fun s => ?_
  split
  · exact Within.update fun _ => .refl _
  · exact .raise _

theorem outward_recvmsg : Outward recvmsg := by
  refine .bind ?_ fun _ => .bind (.of_framed framed_outsideCall) fun _ => .bind .read fun s => ?_
  · refine .bind .read fun s => ?_
    split
    · exact .pure ()
    · exact Within.update fun _ => ⟨rfl, rfl, rfl, rfl, rfl, rfl, rfl⟩
  · split
    · exact .pure none
    · exact .bind (Within.update fun _ => ⟨rfl, rfl, rfl, rfl, rfl, rfl, rfl⟩) fun _ => .pure _

theorem outward_sendData (peerIp : Ip) (message : Message) (origin : SendOrigin)
    : Outward (sendData peerIp message origin) := by
  refine .bind .read fun s => .bind (.of_framed (framed_orStructError _)) fun packet =>
    .bind (outward_tunnelSendto packet peerIp) fun _ => .bind (.of_framed framed_time) fun now =>
      .bind ?_ fun _ => Within.update fun _ => ⟨rfl, rfl, rfl, rfl, rfl, rfl, rfl⟩
  refine Within.update fun s => { Journal.SameReceipt.refl s.journal with recvSeq := ?_ }
  funext ip
  by_cases here : ip = peerIp <;> simp [Sidecar.journal, Sidecar.peer_setPeer, here]

theorem outward_forwardIntercepted (cfg : Config) (datagram : Datagram)
    : Outward (forwardIntercepted cfg datagram) := by
  refine .bind (.of_framed (framed_originalDst _)) fun target => ?_
  cases target with
  | none => exact .pure ()
  | some address =>
      dsimp only
      split
      · exact .pure ()
      · split
        · refine .bind .read fun s => ?_
          split
          · exact .bind (.of_framed (framed_getPeer _)) fun _ => outward_sendData _ _ _
          · exact .bind (.of_framed (framed_orStructError _)) fun _ => outward_tunnelSendto _ _
        · exact .bind (.of_framed (framed_getSpoofSock _)) fun _ =>
            .of_framed (framed_spoofSendto _ _ _)

/-- All that is pending when the handler runs spares all peers. -/
def AllSpared (cfg : Config) (s : Sidecar) (host : Host) : Prop :=
  ∀ peer, PendingSpares cfg peer s host

/-- As long as all that is pending spares `peer`, the handler only forwards. -/
theorem receipt_handleLoop {peer : Ip} {isServer : Bool} {seq : Nat} (past : Sidecar) (fuel : Nat)
    : Keeps (fun t => Waiting cfg peer isServer seq t.outbox ∧ past.journal.SameReceipt t.journal)
        (handleLoop cfg fuel)
        (fun t => Waiting cfg peer isServer seq t.outbox
          ∧ past.journal.SameReceipt t.journal) := by
  induction fuel with
  | zero => exact .pure fun _ before => before
  | succ fuel ih =>
      refine (waiting_recvmsg.alongside outward_recvmsg .trans past).bind fun received => ?_
      split
      next => exact .pure fun _ after => ⟨after.1.1, after.2⟩
      next datagram =>
        rintro s ⟨⟨waiting, spares⟩, same⟩
        have spares := spares datagram rfl
        have handles : handleDatagram cfg datagram = forwardIntercepted cfg datagram := by
          rw [handleDatagram, spares.1]
          rfl
        rw [handles]
        have forwards : Keeps
            (fun t => Waiting cfg peer isServer seq t.outbox
              ∧ past.journal.SameReceipt t.journal) (forwardIntercepted cfg datagram) _ :=
          (waiting_forwardIntercepted spares).alongside
            (outward_forwardIntercepted cfg datagram) .trans past
        exact (forwards.bind fun _ => ih) s ⟨waiting, same⟩

/-- A receiving half that has received nothing, with its counter at `first`. -/
def ReceiverView.unheard (first : Nat) : ReceiverView := ⟨∅, first, ∅, []⟩

/-- A sidecar that has sent nothing over RUDP, and received nothing. -/
structure Blank (s : Sidecar) : Prop where
  peer : ∀ ip, s.peer ip = {}
  sender : ∀ dst, senderView s dst = .unsent 0
  receiver : ∀ src, receiverView s src = .unheard 0
  idle : s.ctrl.isSnapshotting = false
  states : s.ctrl.channelStates = ∅
  overtaking : s.trace.overtaking = []
  delivered : s.trace.delivered = []

theorem early_unheard {meets : Sidecar → Host → Prop} (early : s.Early cfg meets) (src : Ip)
    : receiverView s src = .unheard 0 := by
  induction early with
  | start starts =>
      obtain ⟨isServer, selfIpCache, rfl, -⟩ := starts.started
      refine ReceiverView.ext ?_ rfl rfl rfl
      ext seq
      simp [receiverView, acksTo, Sidecar.started, ReceiverView.unheard]
  | emit before datagrams ih => exact ih
  | @intercept s before host met ih =>
      have sending : Sending (handleLocalIntercept cfg) := .bind .read fun _ => sending_handleLoop cfg _
      exact ((sending { s with host }).receiver src).trans ih

/-- Before the restore, a sidecar whose pending datagrams spare all peers stays as it started. -/
theorem early_receipt (early : s.Early cfg (AllSpared cfg))
    : ∃ isServer cache, (Sidecar.started isServer cache).journal.SameReceipt s.journal := by
  induction early with
  | start starts =>
      obtain ⟨isServer, cache, rfl, -⟩ := starts.started
      exact ⟨isServer, cache, .refl _⟩
  | emit before datagrams ih =>
      obtain ⟨isServer, cache, same⟩ := ih
      exact ⟨isServer, cache, same.trans ⟨rfl, rfl, rfl, rfl, rfl, rfl, rfl⟩⟩
  | @intercept s before host met ih =>
      obtain ⟨isServer, cache, same⟩ := ih
      have waiting : Waiting cfg loopback s.isServer (s.peer loopback).sendSeq
          ({ s with host } : Sidecar).outbox :=
        ⟨rfl, rfl, met loopback⟩
      have handled : Keeps
          (fun t => Waiting cfg loopback s.isServer (s.peer loopback).sendSeq t.outbox
            ∧ s.journal.SameReceipt t.journal) (handleLocalIntercept cfg) _ :=
        .readThen fun t _ => receipt_handleLoop s _
      have outcome := handled { s with host } ⟨waiting, .refl _⟩
      cases ended : handleLocalIntercept cfg { s with host } with
      | ok u s' =>
          rw [ended] at outcome
          exact ⟨isServer, cache, same.trans outcome.2⟩
      | error e s' =>
          rw [ended] at outcome
          exact ⟨isServer, cache, same.trans outcome.2⟩

theorem early_blank (early : s.Early cfg (AllSpared cfg)) : Blank s := by
  have sender (dst : Ip) : senderView s dst = .unsent 0 :=
    early_unsent (early.mono fun _ _ spared => spared dst)
  have receiver := early_unheard early
  obtain ⟨isServer, cache, same⟩ := early_receipt early
  refine ⟨fun ip => ?_, sender, receiver, ?_, ?_, same.overtaking, same.delivered⟩
  · have sendSeq : (s.peer ip).sendSeq = 0 := congrArg SenderView.sendSeq (sender ip)
    have recvSeq : (s.peer ip).recvSeq = 0 := congrArg ReceiverView.next (receiver ip)
    have recvBuffer : (s.peer ip).recvBuffer = ∅ := congrArg ReceiverView.buffer (receiver ip)
    have unacked : (s.peer ip).unacked = ∅ := by
      refine Dict.eq_empty_of_get? fun seq => ?_
      have none := congrFun (congrArg SenderView.unacked (sender ip)) seq
      simpa [senderView, SenderView.unsent] using none
    cases found : s.peer ip
    simp_all
  · exact congrArg SnapshotController.isSnapshotting same.ctrl
  · exact congrArg SnapshotController.channelStates same.ctrl

end MeshSnapshot.Transport

namespace MeshSnapshot

open Procedure Transport

variable {cfg : Config} {s s' : Sidecar} {artifact : Artifact}

-----------------------------------------------------------------------------------------
-- The restore
-----------------------------------------------------------------------------------------

/-- What a restore hands on for an entry of a recorded channel. -/
def ChannelMessage.held? (message : ChannelMessage) : Option Held :=
  (Base64.decode message.payloadB64).map fun payload => {
    payload
    srcPort := message.srcPort
    dstPort := message.dstPort
    localIp := message.targetLocalIp
  }

/-- The recorded channel from a peer, in the order in which a restore replays it. -/
def Artifact.channelFrom (artifact : Artifact) (peer : Ip) : List Held :=
  (sortChannel (((artifact.peer? peer).map PeerArtifact.channel).getD [])).filterMap
    ChannelMessage.held?

/-- The number of the first message to a peer behind the cut. -/
def Artifact.cutTo (artifact : Artifact) (peer : Ip) : Nat :=
  ((artifact.peer? peer).bind PeerArtifact.sendSeq).getD 0

/-- The number of the first message from a peer behind the cut. -/
def Artifact.cutFrom (artifact : Artifact) (peer : Ip) : Nat :=
  ((artifact.peer? peer).bind PeerArtifact.recvSeq).getD 0

theorem held?_encodeRecorded (recorded : Recorded)
    : (encodeRecorded recorded).held? = some recorded.held := by
  simp [ChannelMessage.held?, encodeRecorded, Base64.decode_encode]

theorem filterMap_held?_encode (recorded : List Recorded)
    : (recorded.map encodeRecorded).filterMap ChannelMessage.held? = recorded.map Recorded.held := by
  rw [List.filterMap_map]
  exact (List.filterMap_congr fun entry _ => held?_encodeRecorded entry).trans
    (congrFun List.filterMap_eq_map' recorded)

/-- The recorded channel is what the restore replays for the peer. -/
theorem channelFrom_eq {ctrl : SnapshotController} {status : Status}
    (built : ctrl.artifact? cfg status = some artifact) {peer : Ip} {entry : PeerArtifact}
    (found : artifact.peer? peer = some entry)
    : artifact.channelFrom peer = (packetsOf ctrl.restored peer).map Prod.snd := by
  have shown : entry.channel
      = ((ctrl.channelStates.get? peer).getD []).map encodeRecorded := by
    rw [eq_peerArtifact built found]
    rfl
  rw [packetsOf_restored, Journal.packetsOf_replayed, Artifact.channelFrom, found, Option.map_some,
    Option.getD_some, shown, sortChannel_encode, filterMap_held?_encode, List.map_map]
  rfl

/-- A sidecar that has been restored goes on from what its artifact shows. -/
structure Sidecar.Resumed (artifact : Artifact) (s : Sidecar) : Prop where
  framed : ∀ dst, (senderView s dst).Framed
  recordsPlain : s.ctrl.RecordsPlain
  goesOn
    : ∀ {peer entry},
        artifact.peer? peer = some entry
        → s.journal.GoesOn (artifact.channelFrom peer) peer

/-- A restore that runs to its end leaves both halves of every recorded link at the cut. -/
theorem Transport.Blank.restored (blank : Blank s) {ctrl : SnapshotController} {status : Status}
    {nodes : List Artifact} {snapshotId : String} {host : Host} {u : Unit}
    (plain : ctrl.RecordsPlain) (built : ctrl.artifact? cfg status = some artifact)
    (own : ownEntry cfg nodes = some artifact) (set : snapshotId ≠ "")
    (replays : restorePeers cfg (some nodes) { s with host } = .ok u s')
    : s.restored cfg (some snapshotId) (some nodes) host = s'
      ∧ (∀ {peer entry},
          artifact.peer? peer = some entry
          → senderView s' peer = .unsent (artifact.cutTo peer)
            ∧ receiverView s' peer = .unheard (artifact.cutFrom peer))
      ∧ s'.Resumed artifact := by
  obtain ⟨restores, peer, seeding⟩ := restorePeers_unseeded (s := { s with host }) built own plain
    blank.idle blank.peer
  rw [restores] at replays
  have delivered := deliverAll_ok replays
  have handing := (handing_deliverAll ctrl.restored).ok replays
  obtain ⟨sendSeq, recvSeq, seeded⟩ := seeding.journal
  obtain ⟨handed, same⟩ := handing.journal
  rw [seeded] at same
  have wire : s'.trace.wire = s.trace.wire := handing.wire.trans seeding.wire
  have sent : s'.trace.sent = s.trace.sent := congrArg Journal.sent same
  have consumed : s'.trace.consumed = s.trace.consumed := congrArg Journal.consumed same
  have overtaking : s'.trace.overtaking = s.trace.overtaking := congrArg Journal.overtaking same
  have ctrl_eq : s'.ctrl = s.ctrl := handing.ctrl.trans seeding.ctrl
  have peer : s'.peer = ctrl.seeded := handing.peer.trans peer
  have sender (ip : Ip) : senderView s' ip = .unsent (ctrl.seeded ip).sendSeq := by
    have before := blank.sender ip
    refine SenderView.ext ?_ ?_ ?_ ?_
    · simpa only [senderView, sentTo, sent, SenderView.unsent] using congrArg SenderView.log before
    · simp only [senderView, peer, SenderView.unsent]
    · simp only [senderView, peer, SenderView.unsent]
      rfl
    · simpa only [senderView, wire, SenderView.unsent] using congrArg SenderView.data before
  have receiver (ip : Ip) : receiverView s' ip = .unheard (ctrl.seeded ip).recvSeq := by
    have before := blank.receiver ip
    refine ReceiverView.ext ?_ ?_ ?_ ?_
    · simpa only [receiverView, wire, ReceiverView.unheard] using congrArg ReceiverView.acks before
    · simp only [receiverView, peer, ReceiverView.unheard]
    · simp only [receiverView, peer, ReceiverView.unheard]
      rfl
    · simpa only [receiverView, consumedFrom, consumed, ReceiverView.unheard] using
        congrArg ReceiverView.passed before
  refine ⟨?_, fun {ip entry} found => ?_, fun ip seq packet found => ?_, ?_, ?_⟩
  · rw [restored_eq cfg set, restores, replays]
    rfl
  · rw [sender, receiver, Artifact.cutTo, Artifact.cutFrom, found, eq_peerArtifact built found]
    exact ⟨rfl, rfl⟩
  · rw [sender] at found
    cases found
  · rw [ctrl_eq]
    exact recordsPlain_empty blank.states
  · intro ip entry found
    rw [channelFrom_eq built found]
    have fresh : s'.journal.ledger ip = ⟨[], packetsOf ctrl.restored ip, [], false, false⟩ := by
      have passed : packetsOf s.trace.consumed ip = [] := by
        have before := congrArg ReceiverView.passed (blank.receiver ip)
        simpa [receiverView, consumedFrom, packetsOf, ReceiverView.unheard] using before
      have handedOn : s'.trace.delivered = ctrl.restored := by
        rw [delivered, seeding.delivered]
        exact congrArg (· ++ ctrl.restored) blank.delivered
      simp only [Journal.ledger, Sidecar.journal, consumed, passed, overtaking, blank.overtaking,
        handedOn, ctrl_eq, blank.idle, SnapshotController.stored, blank.states]
      rfl
    unfold Journal.GoesOn
    rw [fresh]
    exact Deferral.Continues.start _ _

/-- Every callback lets a restored sidecar go on. -/
theorem Sidecar.Resumed.call (resumed : s.Resumed artifact) {callback : Callback} {host : Host}
    (called : s.call cfg callback host = some s')
    : s'.Resumed artifact := by
  have moves := call_moves called resumed.framed
  have both : ∀ {a b : Journal}, Journal.Move cfg a b
      → a.ctrl.RecordsPlain ∧ (∀ {peer entry}, artifact.peer? peer = some entry
          → a.GoesOn (artifact.channelFrom peer) peer)
      → b.ctrl.RecordsPlain ∧ (∀ {peer entry}, artifact.peer? peer = some entry
          → b.GoesOn (artifact.channelFrom peer) peer) :=
    fun move kept => ⟨move.recordsPlain kept.1, fun found => move.goesOn (kept.2 found)⟩
  obtain ⟨plain, goesOn⟩ := (call_ok resumed.recordsPlain called).keeps both
    ⟨resumed.recordsPlain, resumed.goesOn⟩
  refine ⟨fun dst seq packet found => ?_, plain, goesOn⟩
  exact (moves.sender dst).framed (resumed.framed dst) found

end MeshSnapshot
