import MeshSnapshot.Failures.Acknowledged
import MeshSnapshot.Model.Startup
import MeshSnapshot.Recovery.RoundTrip
import MeshSnapshot.Sidecar.Outgoing

/-! The sequence numbers of a restored node. They go on from the recorded coordinate, provided
that the handler has sent nothing to the peer before the coordinate was seeded.
-/

namespace MeshSnapshot.Transport

open Procedure

variable {cfg : Config} {s s' : Sidecar} {first : Nat} {view view' : SenderView} {acked : Nat → Prop}

-----------------------------------------------------------------------------------------
-- Numbering
-----------------------------------------------------------------------------------------

/-- The messages of a sending half are numbered consecutively from `first` on, and whatever it has
on the wire or waiting for an acknowledgement bears such a number.
-/
structure SenderView.NumberedFrom (first : Nat) (view : SenderView) : Prop where
  counted : view.sendSeq = first + view.log.length
  sent : ∀ {k held}, view.log[k]? = some held → (first + k, held) ∈ view.data
  data
    : ∀ {seq held}, (seq, held) ∈ view.data → first ≤ seq ∧ view.log[seq - first]? = some held
  unacked
    : ∀ {seq packet},
        view.unacked seq = some packet
        → first ≤ seq
          ∧ ∃ held, view.log[seq - first]? = some held ∧ parseFrame packet = .data seq held

theorem SenderView.NumberedFrom.step (numbered : view.NumberedFrom first)
    (step : SenderView.Step acked view view')
    : view'.NumberedFrom first := by
  cases step with
  | @send held packet framed =>
      have last : view.log.length = view.sendSeq - first := by have := numbered.counted; omega
      have bound : first ≤ view.sendSeq := by have := numbered.counted; omega
      have kept {k : Nat} {logged : Held} (found : view.log[k]? = some logged)
          : (view.log ++ [held])[k]? = some logged := by
        rw [List.getElem?_append_left (List.getElem?_eq_some_iff.mp found).1, found]
      have new : (view.log ++ [held])[view.sendSeq - first]? = some held := by
        simp [← last]
      constructor
      case counted =>
        simp only [SenderView.send, numbered.counted, List.length_append, List.length_singleton]
        omega
      case sent =>
        intro k logged found
        simp only [SenderView.send, Set.mem_insert_iff] at found ⊢
        rw [List.getElem?_append] at found
        split at found
        case isTrue => exact .inr (numbered.sent found)
        case isFalse beyond =>
          obtain ⟨zero, rfl⟩ : k - view.log.length = 0 ∧ held = logged := by
            rw [List.getElem?_singleton] at found
            split at found
            · next zero => exact ⟨zero, Option.some.inj found⟩
            · cases found
          exact .inl (Prod.ext (by show first + k = view.sendSeq; omega) rfl)
      case data =>
        intro seq logged copy
        rcases Set.mem_insert_iff.mp copy with same | earlier
        · obtain ⟨rfl, rfl⟩ := Prod.mk.inj same
          exact ⟨bound, new⟩
        · exact ⟨(numbered.data earlier).1, kept (numbered.data earlier).2⟩
      case unacked =>
        intro seq other found
        simp only [SenderView.send, Function.update_apply] at found
        split at found
        case isTrue here =>
          obtain rfl := Option.some.inj found
          exact ⟨here ▸ bound, held, here ▸ new, here ▸ framed⟩
        case isFalse =>
          obtain ⟨later, logged, at_, parsed⟩ := numbered.unacked found
          exact ⟨later, logged, kept at_, parsed⟩
  | @resend seq held packet found framed =>
      obtain ⟨later, logged, at_, parsed⟩ := numbered.unacked found
      obtain ⟨-, rfl⟩ := Frame.data.inj (framed.symm.trans parsed)
      refine ⟨numbered.counted, fun found => .inr (numbered.sent found), ?_, numbered.unacked⟩
      intro other copied copy
      rcases Set.mem_insert_iff.mp copy with same | earlier
      · obtain ⟨rfl, rfl⟩ := Prod.mk.inj same
        exact ⟨later, at_⟩
      · exact numbered.data earlier
  | @confirm seq confirmed =>
      refine ⟨numbered.counted, numbered.sent, numbered.data, ?_⟩
      intro other packet found
      simp only [SenderView.confirm, Function.update_apply] at found
      split at found
      case isTrue => cases found
      case isFalse => exact numbered.unacked found

theorem SenderView.NumberedFrom.steps (numbered : view.NumberedFrom first)
    (steps : SenderView.Steps acked view view')
    : view'.NumberedFrom first := by
  induction steps with
  | refl => exact numbered
  | tail _ step ih => exact ih.step step

/-- A half that has sent nothing, with its counter at `first`. -/
def SenderView.unsent (first : Nat) : SenderView := ⟨[], first, fun _ => none, ∅⟩

theorem SenderView.numberedFrom_unsent (first : Nat)
    : (SenderView.unsent first).NumberedFrom first where
  counted := rfl
  sent found := by simp [SenderView.unsent] at found
  data copy := copy.elim
  unacked found := by cases found

theorem SenderView.Steps.sendSeq_le (steps : SenderView.Steps acked view view')
    : view.sendSeq ≤ view'.sendSeq := by
  induction steps with
  | refl => exact Nat.le_refl _
  | tail _ step ih =>
      cases step with
      | send framed => exact Nat.le_succ_of_le ih
      | resend => exact ih
      | confirm => exact ih

/-- Without anything to send again, a half whose counter stands has not moved. -/
theorem SenderView.Steps.unsent (steps : SenderView.Steps (fun _ => False) (.unsent first) view)
    (stands : view.sendSeq = first)
    : view = .unsent first := by
  rcases Relation.ReflTransGen.cases_head steps with same | ⟨next, step, rest⟩
  · exact same.symm
  · cases step with
    | send framed =>
        have more := SenderView.Steps.sendSeq_le rest
        simp only [SenderView.send, SenderView.unsent] at more
        omega
    | resend found => cases found
    | confirm confirmed => exact confirmed.elim

-----------------------------------------------------------------------------------------
-- Callbacks, however they end
-----------------------------------------------------------------------------------------

/-- Every sending half moves as it should. -/
def SendersMove (s s' : Sidecar) : Prop :=
  ∀ dst, SenderView.Steps (fun _ => True) (senderView s dst) (senderView s' dst)

theorem Sends.sendersMove (sends : Sends s s') : SendersMove s s' :=
  fun dst => (sends.sender dst).mono_acked False.elim

theorem run_sendersMove (cfg : Config) (callback : Callback)
    (framed : ∀ dst, (senderView s dst).Framed)
    : SendersMove s (final (callback.run cfg s)) := by
  cases ended : callback.run cfg s with
  | ok u s' =>
      exact fun dst => ((run_moves ended framed).sender dst).mono_acked fun _ => trivial
  | error e s' =>
      have sends {body : Py Unit} (sending : Sending body) (raised : body s = .error e s')
          : SendersMove s s' :=
        Sends.sendersMove (sending.error raised)
      cases callback with
      | emit datagrams => cases ended
      | send dst message =>
          exact sends (.bind (.of_framed (framed_getPeer dst)) fun _ =>
            sending_sendData dst message .direct) ended
      | intercept => exact sends (.bind .read fun _ => sending_handleLoop cfg _) ended
      | retransmit => exact ((retransmitRound_raises cfg s).error (.refl s) ended).sendersMove
      | received packet src =>
          cases parsed : parseFrame packet with
          | data seq held =>
              have stream := (datagramReceived_unmoved cfg src parsed).error ended
              exact fun dst => (stream.sender dst).mono_acked False.elim
          | plain held =>
              refine sends (.bind (.of_framed (framed_getPeer src)) fun _ => ?_) ended
              rw [parsed]
              exact .of_framed (framed_plainReceived src held)
          | ignored =>
              refine sends (.bind (.of_framed (framed_getPeer src)) fun _ => ?_) ended
              rw [parsed]
              exact .pure ()
          | ack seq =>
              have returns : Triple (fun _ => True) (Callback.run cfg (.received packet src))
                  (fun _ _ => True) (fun _ => False) := by
                refine (getPeer_returns src).bind fun _ => ?_
                rw [parsed]
                exact .update fun _ _ => trivial
              exact (returns.error trivial ended).elim

-----------------------------------------------------------------------------------------
-- Before the restore
-----------------------------------------------------------------------------------------

/-- The handler sends nothing to `peer` on account of the datagram: it is no START command, and
RUDP does not route it to `peer`.
-/
def Spares (cfg : Config) (isServer : Bool) (peer : Ip) (datagram : Datagram) : Prop :=
  startPrefix.isPrefixOf datagram.data = false
    ∧ (forwarding cfg isServer datagram).rudpTo? peer = none

/-- All that is pending when the handler runs, or comes while it runs, spares `peer`. -/
def PendingSpares (cfg : Config) (peer : Ip) (s : Sidecar) (host : Host) : Prop :=
  ∀ datagram ∈ s.localSock ++ host.app.flatten, Spares cfg s.isServer peer datagram

/-- The invariant of the handler before the restore. -/
structure Waiting (cfg : Config) (peer : Ip) (isServer : Bool) (seq : Nat) (o : Outbox) : Prop where
  server : o.isServer = isServer
  counter : o.sendSeq peer = seq
  pending : ∀ datagram ∈ o.queue ++ o.upcoming.flatten, Spares cfg isServer peer datagram

section Handler

variable {peer : Ip} {isServer : Bool} {seq : Nat}

theorem waiting_appPoint
    : Keeps (fun s => Waiting cfg peer isServer seq s.outbox) appPoint
        (fun s => Waiting cfg peer isServer seq s.outbox) := by
  intro s waiting
  simp only [appPoint, bind_run, read_run]
  cases next : s.host.app with
  | nil => exact waiting
  | cons datagrams rest =>
      refine ⟨waiting.server, waiting.counter, fun datagram member => ?_⟩
      have member : datagram ∈ s.localSock ++ datagrams ++ rest.flatten := member
      refine waiting.pending datagram ?_
      change datagram ∈ s.localSock ++ s.host.app.flatten
      rwa [next, List.flatten_cons, ← List.append_assoc]

theorem waiting_recvmsg
    : Triple (fun s => Waiting cfg peer isServer seq s.outbox) recvmsg
        (fun received s => Waiting cfg peer isServer seq s.outbox
          ∧ ∀ datagram, received = some datagram → Spares cfg isServer peer datagram)
        (fun s => Waiting cfg peer isServer seq s.outbox) := by
  refine waiting_appPoint.bind fun _ => ?_
  refine .bind (.of_within unheard_outsideCall fun waiting same => same ▸ waiting) fun _ => ?_
  refine .readBind fun first waiting => ?_
  split
  next => exact .pure fun _ same => same ▸ ⟨waiting, by simp⟩
  next datagram rest queue =>
    rintro s rfl
    have pending (other : Datagram) (member : other ∈ datagram :: rest ++ s.host.app.flatten)
        : Spares cfg isServer peer other := by
      rw [← queue] at member
      exact waiting.pending other member
    refine ⟨⟨waiting.server, waiting.counter, fun other member => ?_⟩, ?_⟩
    · exact pending other (List.mem_cons_of_mem _ member)
    · rintro _ ⟨⟩
      exact pending datagram List.mem_cons_self

theorem waiting_forwardIntercepted {datagram : Datagram}
    (spares : Spares cfg isServer peer datagram)
    : Keeps (fun s => Waiting cfg peer isServer seq s.outbox) (forwardIntercepted cfg datagram)
        (fun s => Waiting cfg peer isServer seq s.outbox) := by
  refine .of_outcomes (fun {s _ s'} waiting returned => ?_) fun waiting raised => ?_
  · have puts := forwardIntercepted_puts returned
    obtain ⟨server, queue, upcoming⟩ := puts.same
    have counter := puts.adds.counter peer
    rw [show s.isServer = isServer from waiting.server, spares.2] at counter
    refine ⟨server.trans waiting.server, counter.trans waiting.counter, ?_⟩
    rw [queue, upcoming]
    exact waiting.pending
  · exact (forwardIntercepted_raises raised).symm ▸ waiting

/-- As long as all that is pending spares `peer`, its counter stands. -/
theorem waiting_handleLoop (fuel : Nat)
    : Keeps (fun s => Waiting cfg peer isServer seq s.outbox) (handleLoop cfg fuel)
        (fun s => Waiting cfg peer isServer seq s.outbox) := by
  induction fuel with
  | zero => exact .pure fun _ waiting => waiting
  | succ fuel ih =>
      refine waiting_recvmsg.bind fun received => ?_
      split
      next => exact .pure fun _ after => after.1
      next datagram =>
        intro s ⟨waiting, spares⟩
        have spares := spares datagram rfl
        have handles : handleDatagram cfg datagram = forwardIntercepted cfg datagram := by
          rw [handleDatagram, spares.1]
          rfl
        rw [handles]
        exact ((waiting_forwardIntercepted spares).bind fun _ => ih) s waiting

end Handler

/-- Before the restore, a peer that all pending datagrams spare has been sent nothing. -/
theorem early_unsent {peer : Ip} (early : s.Early cfg (PendingSpares cfg peer))
    : senderView s peer = .unsent 0 := by
  induction early with
  | start starts =>
      obtain ⟨isServer, selfIpCache, rfl, -⟩ := starts.started
      refine SenderView.ext rfl rfl rfl ?_
      ext copy
      simp [senderView, dataTo, Sidecar.started, SenderView.unsent]
  | emit before datagrams ih => exact ih
  | @intercept s before host met ih =>
      have sending : Sending (handleLocalIntercept cfg) := .bind .read fun _ => sending_handleLoop cfg _
      have unmoved : senderView { s with host } peer = senderView s peer := rfl
      have steps := (sending { s with host }).sender peer
      rw [unmoved, ih] at steps
      refine steps.unsent ?_
      have counter : (s.peer peer).sendSeq = 0 := congrArg SenderView.sendSeq ih
      have waiting : Waiting cfg peer s.isServer 0 ({ s with host } : Sidecar).outbox :=
        ⟨rfl, counter, met⟩
      have handled : Keeps (fun s' : Sidecar => Waiting cfg peer s.isServer 0 s'.outbox)
          (handleLocalIntercept cfg) (fun s' => Waiting cfg peer s.isServer 0 s'.outbox) :=
        .readThen fun t _ => waiting_handleLoop _
      have outcome := handled { s with host } waiting
      cases ended : handleLocalIntercept cfg { s with host } with
      | ok u s' =>
          rw [ended] at outcome
          exact outcome.counter
      | error e s' =>
          rw [ended] at outcome
          exact Waiting.counter outcome

theorem early_framed {meets : Sidecar → Host → Prop} (early : s.Early cfg meets) (dst : Ip)
    : (senderView s dst).Framed := by
  induction early with
  | start starts =>
      obtain ⟨isServer, selfIpCache, rfl, -⟩ := starts.started
      exact fun found => by cases found
  | emit before datagrams ih => exact ih
  | @intercept s before host met ih =>
      have sending : Sending (handleLocalIntercept cfg) := .bind .read fun _ => sending_handleLoop cfg _
      intro seq packet found
      exact ((sending { s with host }).sender dst).framed ih found

-----------------------------------------------------------------------------------------
-- The restore and what follows
-----------------------------------------------------------------------------------------

/-- Seeding the entries of an artifact, none of which is listed twice. -/
theorem seedEntries_outcome {entries : List (Ip × PeerArtifact)}
    (unique : (entries.map Prod.fst).Nodup) (s : Sidecar)
    : ∃ s', forEach (fun (peerIp, peerArtifact) => seedPeer peerIp peerArtifact) entries s
          = .ok () s'
        ∧ (∀ entry ∈ entries, s'.peer entry.1 = (s.peer entry.1).seed entry.2)
        ∧ (∀ ip ∉ entries.map Prod.fst, s'.peer ip = s.peer ip)
        ∧ Seeding s s' := by
  induction entries generalizing s with
  | nil => exact ⟨s, rfl, by simp, fun _ _ => rfl, rfl, rfl, rfl, _, _, rfl⟩
  | cons head rest ih =>
      obtain ⟨absent, unique⟩ := List.nodup_cons.mp unique
      obtain ⟨t, first, peer, same⟩ := seedPeer_outcome head.1 head.2 s
      obtain ⟨s', looped, listed, unlisted, still⟩ := ih unique t
      have others {ip : Ip} (other : ip ≠ head.1) : t.peer ip = s.peer ip := by
        rw [peer, Function.update_of_ne other]
      refine ⟨s', ?_, fun entry member => ?_, fun ip outside => ?_, still.ctrl.trans same.ctrl,
        still.delivered.trans same.delivered, still.wire.trans same.wire, ?_⟩
      · change (seedPeer head.1 head.2 >>= fun _ => Procedure.forEach _ rest) s = .ok () s'
        rw [bind_run, first]
        exact looped
      · rcases List.mem_cons.mp member with rfl | later
        · rw [unlisted entry.1 absent, peer, Function.update_self]
        · have other : entry.1 ≠ head.1 := fun here =>
            absent (here ▸ List.mem_map.mpr ⟨entry, later, rfl⟩)
          rw [listed entry later, others other]
      · rw [List.map_cons, List.mem_cons, not_or] at outside
        rw [unlisted ip outside.2, others outside.1]
      · obtain ⟨_, _, seeds⟩ := same.journal
        obtain ⟨_, _, more⟩ := still.journal
        exact ⟨_, _, by rw [more, seeds]⟩

/-- Replaying recorded channels only sends, whatever they hold. -/
theorem sending_replayChannel (cfg : Config) (peerIp : Ip) (peerArtifact : PeerArtifact)
    : Sending (replayChannel cfg peerIp peerArtifact) := by
  refine .forEach _ fun msg => ?_
  have decodes : Sending (b64decode msg.payloadB64) := by
    unfold b64decode
    split
    · exact .pure _
    · exact .raise _
  exact .bind decodes fun payload => sending_processAndDeliver cfg _ _ _ _

/-- A restore that finds its artifact seeds all coordinates, and then only sends. -/
theorem restored_sends {restoreSnapshotId : String} {nodes : List Artifact} {node : Artifact}
    (named : restoreSnapshotId ≠ "") (own : ownEntry cfg nodes = some node)
    (unique : (node.peers.map Prod.fst).Nodup) (host : Host) (s : Sidecar)
    : ∃ t, Sends t (s.restored cfg (some restoreSnapshotId) (some nodes) host)
        ∧ (∀ entry ∈ node.peers, t.peer entry.1 = (s.peer entry.1).seed entry.2)
        ∧ (∀ ip ∉ node.peers.map Prod.fst, t.peer ip = s.peer ip)
        ∧ t.trace.wire = s.trace.wire ∧ t.trace.sent = s.trace.sent := by
  obtain ⟨t, seeds, listed, unlisted, same⟩ := seedEntries_outcome unique { s with host }
  have sent : t.trace.sent = s.trace.sent := by
    obtain ⟨_, _, journal⟩ := same.journal
    exact congrArg Journal.sent journal
  have replays : Sending (forEach
      (fun ((peerIp, peerArtifact) : Ip × PeerArtifact) => replayChannel cfg peerIp peerArtifact)
      node.peers) :=
    .forEach _ fun entry => sending_replayChannel cfg entry.1 entry.2
  have restores : restorePeers cfg (some nodes) { s with host }
      = forEach (fun (peerIp, peerArtifact) => replayChannel cfg peerIp peerArtifact)
          node.peers t := by
    simp only [restorePeers, own, bind_run, seeds]
  have unset : (some restoreSnapshotId).filter (· ≠ "") ≠ none := by simp [named]
  have runs : s.restored cfg (some restoreSnapshotId) (some nodes) host
      = final (restorePeers cfg (some nodes) { s with host }) := by
    simp only [Sidecar.restored, restoreFromArtifact, if_neg unset, attempt_run]
    cases restorePeers cfg (some nodes) { s with host } <;> rfl
  rw [runs, restores]
  exact ⟨t, replays t, listed, unlisted, same.wire, sent⟩

/-- From its restore on, a node numbers its messages to a peer from the recorded coordinate on:
consecutively, on the wire and in the unacknowledged map alike. The condition is that whatever was
pending when the handler ran before the restore spared the peer.
-/
theorem restarts_numberedFrom {restoreSnapshotId : String} {nodes : List Artifact}
    {node : Artifact} {peer : Ip} {peerArtifact : PeerArtifact} {n : Nat}
    (named : restoreSnapshotId ≠ "") (own : ownEntry cfg nodes = some node)
    (unique : (node.peers.map Prod.fst).Nodup) (listed : (peer, peerArtifact) ∈ node.peers)
    (recorded : peerArtifact.sendSeq = some n)
    (restarts
      : s.Restarts cfg (PendingSpares cfg peer) (some restoreSnapshotId) (some nodes))
    : (senderView s peer).NumberedFrom n := by
  suffices kept : (senderView s peer).NumberedFrom n ∧ ∀ dst, (senderView s dst).Framed from kept.1
  induction restarts with
  | @restored s early host =>
      obtain ⟨t, sends, seeded, unlisted, wire, sent⟩ :=
        restored_sends named own unique host s
      have unsent : senderView t peer = .unsent n := by
        have before := early_unsent early
        refine SenderView.ext ?_ ?_ ?_ ?_
        · simpa only [senderView, sentTo, sent, SenderView.unsent] using congrArg SenderView.log before
        · simp [senderView, seeded _ listed, PeerState.seed, recorded, SenderView.unsent]
        · simpa only [senderView, seeded _ listed, PeerState.seed, SenderView.unsent] using
            congrArg SenderView.unacked before
        · simpa only [senderView, wire, SenderView.unsent] using congrArg SenderView.data before
      refine ⟨(unsent ▸ SenderView.numberedFrom_unsent n).steps (sends.sender peer), fun dst => ?_⟩
      have unacked : (t.peer dst).unacked = (s.peer dst).unacked := by
        by_cases known : dst ∈ node.peers.map Prod.fst
        · obtain ⟨entry, member, rfl⟩ := List.mem_map.mp known
          rw [seeded entry member]
          rfl
        · rw [unlisted dst known]
      have framed : (senderView t dst).Framed := by
        intro seq packet found
        simp only [senderView, unacked] at found
        exact early_framed early dst found
      intro seq packet found
      exact (sends.sender dst).framed framed found
  | @callback s before callback host ih =>
      obtain ⟨numbered, framed⟩ := ih
      have moves := run_sendersMove (s := { s with host }) cfg callback framed
      refine ⟨SenderView.NumberedFrom.steps numbered (moves peer), fun dst => ?_⟩
      intro seq packet found
      exact (moves dst).framed (framed dst) found

/-- A's artifact of snapshot `1`: five messages to B were sent before the cut. -/
def artifactOfA : Artifact where
  snapshotId := some "1"
  node := "counter-10.24.24.10"
  status := .complete
  peers := [(nodeB, ⟨some 5, some 0, []⟩)]

/-- Before the restore, the handler forwards a datagram of the app to C. -/
def datagramToC : Datagram where
  data := [110]
  ancdata := [⟨0, 20, [0, 2, 19, 136, 10, 24, 24, 12]⟩]
  addr := (nodeA, 5000)

theorem restarts_numberedFrom_earlyDatagram
    : ∃ s : Sidecar,
        s.Restarts (threeMembers nodeA) (PendingSpares (threeMembers nodeA) nodeB) (some "1")
          (some [artifactOfA])
        ∧ (s.peer nodeC).sendSeq = 1
        ∧ (s.peer nodeB).sendSeq = 6
        ∧ (senderView s nodeB).NumberedFrom 5 := by
  have spares : PendingSpares (threeMembers nodeA) nodeB ((threeStarted nodeA).emit [datagramToC])
      {} := by
    intro datagram member
    obtain rfl : datagram = datagramToC := List.mem_singleton.mp member
    exact ⟨by decide, by decide +kernel⟩
  have early : Sidecar.Early (threeMembers nodeA) (PendingSpares (threeMembers nodeA) nodeB) _ :=
    .intercept (.emit (.start (threeStarted_starts nodeA)) [datagramToC]) {} spares
  have restored : Sidecar.Restarts (threeMembers nodeA) _ (some "1") (some [artifactOfA]) _ :=
    .restored early {}
  have restarts := (restored.callback (.emit [datagramToB [109]]) {}).callback .intercept {}
  refine ⟨_, restarts, by decide +kernel, by decide +kernel, ?_⟩
  exact restarts_numberedFrom (by decide) rfl (by decide) List.mem_cons_self rfl restarts

/-- One app datagram that is pending when the reader of the intercept socket is registered. -/
theorem restarts_reuses
    : ¬ ∀ (cfg : Config) (restoreSnapshotId : String) (nodes : List Artifact) (node : Artifact)
        (peer : Ip) (peerArtifact : PeerArtifact) (n : Nat) (s : Sidecar),
        restoreSnapshotId ≠ ""
        → ownEntry cfg nodes = some node
        → (node.peers.map Prod.fst).Nodup
        → (peer, peerArtifact) ∈ node.peers
        → peerArtifact.sendSeq = some n
        → s.Restarts cfg (fun _ _ => True) (some restoreSnapshotId) (some nodes)
        → (senderView s peer).NumberedFrom n := by
  intro claimed
  have early : ((threeStarted nodeA).emit [datagramToB [109]]).Early (threeMembers nodeA)
      (fun _ _ => True) :=
    .emit (.start (threeStarted_starts nodeA)) _
  have restarts : Sidecar.Restarts (threeMembers nodeA) _ (some "1") (some [artifactOfA]) _ :=
    .restored (early.intercept {} trivial) {}
  have numbered := claimed (threeMembers nodeA) "1" [artifactOfA] artifactOfA nodeB
    ⟨some 5, some 0, []⟩ 5 _ (by decide) rfl (by decide) List.mem_cons_self rfl restarts
  have stale : (senderView (Sidecar.restored (threeMembers nodeA) (some "1") (some [artifactOfA]) {}
      (final (handleLocalIntercept (threeMembers nodeA)
        { (threeStarted nodeA).emit [datagramToB [109]] with host := {} }))) nodeB).unacked 0
      = dataPacket 0 ⟨5000, 5000, [10, 24, 24, 11], [109]⟩ := by
    decide +kernel
  have packed : dataPacket 0 ⟨5000, 5000, [10, 24, 24, 11], [109]⟩
      = some (dataFrame 0 [10, 24, 24, 11] [109]) := by
    decide
  exact absurd (numbered.unacked (stale.trans packed)).1 (by decide)

end MeshSnapshot.Transport
