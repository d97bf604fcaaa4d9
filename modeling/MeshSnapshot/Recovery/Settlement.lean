import MeshSnapshot.Recovery.Balance
import MeshSnapshot.Recovery.Isolation

/-! A rollout that has settled: every member has been restored, and all that the apps have sent since
has arrived. What their apps have been given then is the recorded channels and what was sent since.
-/

namespace MeshSnapshot

open Procedure Transport

variable {cfg : Config} {s s' : Sidecar}

/-- The app's datagrams and what has been sent for them are those of `s`. -/
def Stays (s t : Sidecar) : Prop := t.journal = s.journal ∧ t.host.app = s.host.app

theorem stays_of_framed {α : Type} {body : Py α} (framed : Framed body)
    : Triple (Stays s) body (fun _ => Stays s) (Stays s) :=
  .of_within framed fun stays same =>
    ⟨same.journal.trans stays.1, same.app.trans stays.2⟩

theorem stays_tunnelSendto (packet : Bytes) (dst : Ip)
    : Triple (Stays s) (tunnelSendto packet dst) (fun _ => Stays s) (Stays s) := by
  refine .readThen fun t _ => ?_
  split
  · exact .update fun _ stays => stays
  · exact .raise fun _ stays => stays

/-- A datagram that is not forwarded has had no part of it sent. -/
theorem raises_sendData (peerIp : Ip) (message : Message) (origin : SendOrigin)
    : Triple (Stays s) (sendData peerIp message origin) (fun _ _ => True) (Stays s) := by
  refine .readThen fun t _ => .bind (stays_of_framed (framed_orStructError _)) fun packet => ?_
  refine .bind (stays_tunnelSendto packet peerIp) fun _ => ?_
  refine .bind (stays_of_framed framed_time) fun now => ?_
  have numbered : Triple (Stays s) (modifyPeer peerIp fun peer => { peer with
      unacked := peer.unacked.set peer.sendSeq (now, packet)
      sendSeq := peer.sendSeq + 1 }) (fun _ _ => True) (Stays s) :=
    .update fun _ _ => trivial
  exact numbered.bind fun _ => .update fun _ _ => trivial

theorem raises_forwardIntercepted (cfg : Config) (datagram : Datagram)
    : Triple (Stays s) (forwardIntercepted cfg datagram) (fun _ _ => True) (Stays s) := by
  refine .bind (stays_of_framed (framed_originalDst _)) fun target => ?_
  cases target with
  | none => exact .pure fun _ _ => trivial
  | some address =>
      dsimp only
      split
      · exact .pure fun _ _ => trivial
      · split
        · refine .readThen fun t _ => ?_
          split
          · exact .bind (stays_of_framed (framed_getPeer _)) fun _ => raises_sendData _ _ _
          · exact .bind (stays_of_framed (framed_orStructError _)) fun _ =>
              (stays_tunnelSendto _ _).weaken (fun _ stays => stays) (fun _ _ _ => trivial)
                (fun _ stays => stays)
        · exact .bind (stays_of_framed (framed_getSpoofSock _)) fun _ =>
            (stays_of_framed (framed_spoofSendto _ _ _)).weaken (fun _ stays => stays)
              (fun _ _ _ => trivial) (fun _ stays => stays)

/-- A datagram that spares all peers is forwarded to none. -/
theorem unrouted_of_spares {isServer : Bool} {datagram : Datagram}
    (spares : ∀ peer, Spares cfg isServer peer datagram)
    : rudpRoute cfg isServer datagram = none := by
  unfold rudpRoute
  split
  case h_1 => rfl
  case h_2 cmsg found =>
    refine if_neg fun fits => ?_
    obtain ⟨-, -, port, inMesh, server, member⟩ := fits
    have spared := (spares (inetNtoa ((cmsg.data.drop 4).take 4))).2
    unfold forwarding at spared
    simp [found, port, inMesh, server, member, Output.rudpTo?] at spared

/-- The invariant of the handler before the restore: whatever has been read was not for a peer. -/
structure Idle (cfg : Config) (isServer : Bool) (s : Sidecar) : Prop where
  server : s.isServer = isServer
  forwards : s.journal.Forwards cfg
  pending
    : ∀ datagram ∈ s.localSock ++ s.host.app.flatten, ∀ peer, Spares cfg isServer peer datagram

theorem Idle.stays {isServer : Bool} (idle : Idle cfg isServer s) (stays : Stays s s')
    : Idle cfg isServer s' where
  server := (congrArg Journal.isServer stays.1).trans idle.server
  forwards := stays.1.symm ▸ idle.forwards
  pending := by
    have queue : s'.localSock = s.localSock := congrArg Journal.queue stays.1
    rw [queue, stays.2]
    exact idle.pending

/-- A datagram that is read and spares all peers has been forwarded as far as it will be. -/
theorem Idle.take {isServer : Bool} {datagram : Datagram} {rest : List Datagram}
    (idle : Idle cfg isServer s) (queued : s.localSock = datagram :: rest)
    : Idle cfg isServer (s.take rest) := by
  have spares : ∀ other ∈ datagram :: rest ++ s.host.app.flatten, ∀ peer,
      Spares cfg isServer peer other :=
    queued ▸ idle.pending
  refine ⟨idle.server, ?_, fun other member => spares other (List.mem_cons_of_mem _ member)⟩
  have unrouted := unrouted_of_spares (spares datagram List.mem_cons_self)
  have forwards := idle.forwards.forward (show s.journal.queue = datagram :: rest from queued)
  have server : (s.journal.take rest).isServer = isServer := idle.server
  rw [Journal.forward, server, unrouted] at forwards
  exact forwards

theorem idle_recvmsg {isServer : Bool}
    : Triple (Idle cfg isServer) recvmsg
        (fun received s => Idle cfg isServer s
          ∧ ∀ datagram, received = some datagram → ∀ peer, Spares cfg isServer peer datagram)
        (Idle cfg isServer) := by
  have arrives : Triple (Idle cfg isServer) appPoint (fun _ => Idle cfg isServer)
      (Idle cfg isServer) := by
    intro s idle
    simp only [appPoint, bind_run, read_run]
    cases next : s.host.app with
    | nil => exact idle
    | cons datagrams rest =>
        refine ⟨idle.server, idle.forwards.emitted rfl rfl rfl rfl rfl, fun datagram member => ?_⟩
        have member : datagram ∈ s.localSock ++ datagrams ++ rest.flatten := member
        refine idle.pending datagram ?_
        rwa [next, List.flatten_cons, ← List.append_assoc]
  refine arrives.bind fun _ => .bind (.of_within framed_outsideCall fun idle same =>
    idle.stays ⟨same.journal, same.app⟩) fun _ => .readBind fun first idle => ?_
  split
  next => exact .pure fun _ same => same ▸ ⟨idle, by simp⟩
  next datagram rest queued =>
    rintro s rfl
    refine ⟨idle.take queued, ?_⟩
    rintro _ ⟨⟩
    exact idle.pending datagram (queued ▸ List.mem_append_left _ List.mem_cons_self)

theorem idle_handleLoop {isServer : Bool} (fuel : Nat)
    : Keeps (Idle cfg isServer) (handleLoop cfg fuel) (Idle cfg isServer) := by
  induction fuel with
  | zero => exact .pure fun _ idle => idle
  | succ fuel ih =>
      refine idle_recvmsg.bind fun received => ?_
      split
      next => exact .pure fun _ after => after.1
      next datagram =>
        rintro s ⟨idle, spares⟩
        have spares := spares datagram rfl
        have handles : handleDatagram cfg datagram = forwardIntercepted cfg datagram := by
          rw [handleDatagram, (spares loopback).1]
          rfl
        have unrouted := unrouted_of_spares spares
        have forwarded : Keeps (Idle cfg isServer) (forwardIntercepted cfg datagram)
            (Idle cfg isServer) := by
          refine .of_outcomes (fun {s u s'} idle returned => ?_) fun {s e s'} idle stopped => ?_
          · obtain ⟨journal, app⟩ := forwardIntercepted_ok returned
            have server : s.journal.isServer = isServer := idle.server
            rw [Journal.forward, server, unrouted] at journal
            exact idle.stays ⟨journal, app⟩
          · exact idle.stays ((raises_forwardIntercepted cfg datagram).error ⟨rfl, rfl⟩ stopped)
        rw [handles]
        exact (forwarded.bind fun _ => ih) s idle

/-- Before the restore, the app's datagrams have been forwarded as far as they were read. -/
theorem early_forwards (early : s.Early cfg (AllSpared cfg)) : s.journal.Forwards cfg := by
  induction early with
  | start starts => exact (Sidecar.Run.start starts).forwards
  | emit before datagrams ih => exact ih.emitted rfl rfl rfl rfl rfl
  | @intercept s before host met ih =>
      have idle : Idle cfg s.isServer { s with host } :=
        ⟨rfl, ih, fun datagram member peer => met peer datagram member⟩
      have handled : Keeps (Idle cfg s.isServer) (handleLocalIntercept cfg) (Idle cfg s.isServer) :=
        .readThen fun _ _ => idle_handleLoop _
      have outcome := handled _ idle
      cases ended : handleLocalIntercept cfg { s with host } with
      | ok u s' =>
          rw [ended] at outcome
          exact outcome.forwards
      | error e s' =>
          rw [ended] at outcome
          exact outcome.forwards

/-- A restore reads and forwards nothing. -/
theorem restored_forwards (early : s.Early cfg (AllSpared cfg)) {ctrl : SnapshotController}
    {status : Status} {artifact : Artifact} {nodes : List Artifact} {snapshotId : String}
    {host : Host} {u : Unit} (plain : ctrl.RecordsPlain)
    (built : ctrl.artifact? cfg status = some artifact)
    (own : ownEntry cfg nodes = some artifact) (set : snapshotId ≠ "")
    (replays : restorePeers cfg (some nodes) { s with host } = .ok u s')
    : (s.restored cfg (some snapshotId) (some nodes) host).journal.Forwards cfg := by
  have blank := early_blank early
  obtain ⟨final, -, -⟩ := blank.restored plain built own set replays
  obtain ⟨restores, -, seeding⟩ := restorePeers_unseeded (s := { s with host }) built own plain
    blank.idle blank.peer
  rw [restores] at replays
  obtain ⟨sendSeq, recvSeq, seeded⟩ := seeding.journal
  obtain ⟨handed, same⟩ := ((handing_deliverAll ctrl.restored).ok replays).journal
  rw [seeded] at same
  rw [final, same]
  exact (early_forwards early).same rfl rfl rfl rfl rfl

namespace Rollout

variable {cfg : Ip → Config} {mesh : Mesh} {members : List Ip} {nodes : Ip → List Artifact}
  {snapshotId : String} {stored : Ip → Artifact} {rollout : Rollout}

/-- Restored sidecars have forwarded what they have read. -/
theorem Run.forwards (sources : Sources cfg nodes members stored) (set : snapshotId ≠ "")
    (run : Run cfg snapshotId nodes (Separates cfg nodes members) mesh rollout)
    : ∀ ip ∈ members, ip ∈ rollout.restored → (rollout.mesh ip).journal.Forwards (cfg ip) := by
  induction run with
  | start => exact fun ip _ restored => by cases restored
  | @step rollout _ before action _ met stepped ih =>
      intro ip member restored
      cases action with
      | call node callback host =>
          obtain ⟨-, s', called, rfl⟩ := step_call_eq_some.mp stepped
          have known := ih ip member restored
          change (Function.update rollout.mesh node s' ip).journal.Forwards (cfg ip)
          by_cases here : ip = node
          · subst here
            rw [Function.update_self]
            have plain := ((before.coherent sources set).resumed ip member restored).recordsPlain
            exact (call_ok plain called).keeps (fun move kept => move.forwards kept) known
          · rwa [Function.update_of_ne here]
      | restore node fresh host =>
          obtain ⟨-, rfl⟩ := step_restore_eq_some.mp stepped
          change (Function.update rollout.mesh node
            (fresh.restored (cfg node) (some snapshotId) (some (nodes node)) host)
              ip).journal.Forwards (cfg ip)
          by_cases here : ip = node
          · subst here
            rw [Function.update_self]
            obtain ⟨early, s, replays⟩ := met member
            obtain ⟨ctrl, plain, built, own⟩ := sources.built ip member
            exact restored_forwards early plain built own set replays
          · rw [Function.update_of_ne here]
            exact ih ip member ((List.mem_cons.mp restored).resolve_left here)

/-- Everything that the restored members have sent has arrived, and no snapshot withholds any of it.
-/
structure Settled (members : List Ip) (rollout : Rollout) : Prop where
  restored : ∀ ip ∈ members, ip ∈ rollout.restored
  forwarded : ∀ ip ∈ members, (rollout.mesh ip).localSock = []
  arrived
    : ∀ source ∈ members, ∀ target ∈ members,
        source ≠ target
        → (sentTo (rollout.mesh source) target).length
          ≤ (consumedFrom (rollout.mesh target) source).length
  idle : ∀ ip ∈ members, (rollout.mesh ip).ctrl.isSnapshotting = false
  plain : ∀ ip ∈ members, PlainSends (rollout.mesh ip).trace.sent
  indirect : ∀ ip ∈ members, ∀ call ∈ (rollout.mesh ip).trace.sent, call.origin ≠ .direct

/-- In a rollout that has settled, the apps have been given the recorded channels and what the restored
apps have emitted.
-/
theorem Settled.balance (settled : Settled members rollout)
    (sources : Sources cfg nodes members stored) (set : snapshotId ≠ "")
    (run : Run cfg snapshotId nodes (Separates cfg nodes members) mesh rollout) {source target : Ip}
    (sourceMember : source ∈ members) (targetMember : target ∈ members) (distinct : source ≠ target)
    {M : Type} [AddCommMonoid M] (weight : Held → M)
    (neutral : ∀ held, startPrefix.isPrefixOf held.payload = true → weight held = 0)
    : weigh weight ((packetsOf (rollout.mesh target).trace.delivered source).map Prod.snd)
      = weigh weight ((stored target).channelFrom source)
        + weigh weight ((rollout.mesh source).emittedTo (cfg source) target
            (rollout.mesh source).trace.emitted.length) := by
  have coherent := run.coherent sources set
  have sourceRestored := settled.restored source sourceMember
  have targetRestored := settled.restored target targetMember
  -- what has arrived is what was sent
  obtain ⟨history, length, rests⟩ :=
    coherent.links source sourceMember target targetMember distinct
  rw [sender, receiver, if_pos sourceRestored, if_pos targetRestored] at rests
  have passed : consumedFrom (rollout.mesh target) source
      = sentTo (rollout.mesh source) target :=
    ((List.prefix_append_right_inj history).mp rests.ok.inv.passed_prefix).eq_of_length_le
      (settled.arrived source sourceMember target targetMember distinct)
  -- what was sent is what the app emitted
  have forwards := run.forwards sources set source sourceMember sourceRestored
  have read : (rollout.mesh source).journal.emitted.length
      ≤ (rollout.mesh source).journal.reads := by
    have queue := forwards.queue
    rw [show (rollout.mesh source).journal.queue = [] from settled.forwarded source sourceMember]
      at queue
    exact List.drop_eq_nil_iff.mp queue.symm
  have emits : (rollout.mesh source).journal.appCalls (cfg source)
        (rollout.mesh source).journal.reads
      = (rollout.mesh source).journal.appCalls (cfg source)
          (rollout.mesh source).trace.emitted.length :=
    congrArg _ (Nat.le_antisymm forwards.bound read)
  have sends : weigh weight ((sentTo (rollout.mesh source) target).filter
        (fun held => !isMarker held))
      = weigh weight ((rollout.mesh source).emittedTo (cfg source) target
          (rollout.mesh source).trace.emitted.length) := by
    have stream : sentTo (rollout.mesh source) target
        = heldTo (rollout.mesh source).trace.sent target :=
      rfl
    rw [stream, weigh_app weight neutral, heldTo_app (settled.plain source sourceMember)
      forwards.markers (settled.indirect source sourceMember), Sidecar.emittedTo, ← emits,
      ← forwards.calls]
    rfl
  -- what was given is the recorded channel and what has arrived
  obtain ⟨entry, found⟩ := sources.listed target targetMember source sourceMember (Ne.symm distinct)
  have goesOn := (coherent.resumed target targetMember targetRestored).goesOn found
  have kept : ((rollout.mesh target).journal.ledger source).deferred = [] :=
    goesOn.idle (settled.idle target targetMember)
  have conserved := goesOn.conserved
  have consumed : ((rollout.mesh target).journal.ledger source).consumed
      = consumedFrom (rollout.mesh target) source := by
    simp [Journal.ledger, packetsOf, consumedFrom, Sidecar.journal]
  rw [kept, List.append_nil, consumed, passed] at conserved
  exact (weigh_perm weight conserved).trans (by rw [weigh_append, sends])

end Rollout

end MeshSnapshot
