import MeshSnapshot.Recovery.RoundTrip

/-! What a failing delivery does to the two replays. Neither loop handles exceptions message by
message, so the first delivery that raises is the last one that is attempted.
-/

namespace MeshSnapshot

open Procedure

variable {cfg : Config} {s s' fresh : Sidecar} {host : Host} {u : Unit}

-----------------------------------------------------------------------------------------
-- Deliveries and the controller
-----------------------------------------------------------------------------------------

def Sidecar.withCtrl (ctrl : SnapshotController) (s : Sidecar) : Sidecar := { s with ctrl }

section Blind

variable (ctrl : SnapshotController)

theorem blind_outsideCall : Blind (Sidecar.withCtrl ctrl) outsideCall := by
  refine .readBind (fun _ => rfl) fun s => ?_
  split
  · exact .pure ()
  · refine .bind (.update fun _ => rfl) fun _ => ?_
    split
    · exact .raise _
    · exact .pure ()

theorem blind_outsideAnswer : Blind (Sidecar.withCtrl ctrl) outsideAnswer :=
  .attempt (.bind (blind_outsideCall ctrl) fun _ => .pure true) fun _ => .pure false

theorem blind_newSock : Blind (Sidecar.withCtrl ctrl) newSock :=
  .bind (blind_outsideCall ctrl) fun _ => .readBind (fun _ => rfl) fun _ =>
    .bind (.update fun _ => rfl) fun _ => .pure _

theorem blind_evictSpoofSock : Blind (Sidecar.withCtrl ctrl) evictSpoofSock := by
  refine .readBind (fun _ => rfl) fun s => ?_
  split
  · split
    · exact .pure ()
    · exact .update fun _ => rfl
  · exact .pure ()

theorem blind_bindOrFallback (key : Ip × Nat) (id : Nat)
    : Blind (Sidecar.withCtrl ctrl) (bindOrFallback key id) := by
  refine .bind (blind_outsideAnswer ctrl) fun bound => ?_
  split
  · exact .pure _
  · exact .bind (blind_newSock ctrl) fun _ => .bind (blind_outsideCall ctrl) fun _ => .pure _

theorem blind_getSpoofSock (key : Ip × Nat)
    : Blind (Sidecar.withCtrl ctrl) (getSpoofSock key) := by
  refine .readBind (fun _ => rfl) fun s => ?_
  split
  · exact .bind (.update fun _ => rfl) fun _ => .pure _
  · refine .bind (blind_evictSpoofSock ctrl) fun _ => .bind (blind_newSock ctrl) fun id => ?_
    refine .bind (blind_outsideCall ctrl) fun _ => ?_
    exact .bind (blind_bindOrFallback ctrl key id) fun _ => .bind (.update fun _ => rfl) fun _ =>
      .pure _

/-- A delivery does not depend on what the controller does meanwhile. -/
theorem blind_deliverPacket (packet : PeerPacket)
    : Blind (Sidecar.withCtrl ctrl) (deliverPacket packet) :=
  .bind (blind_getSpoofSock ctrl _) fun _ =>
    .bind (.bind (blind_outsideCall ctrl) fun _ => .update fun _ => rfl) fun _ =>
      .update fun _ => rfl

end Blind

theorem blind_deliverAll (ctrl : SnapshotController) (packets : List PeerPacket)
    : Blind (Sidecar.withCtrl ctrl) (forEach deliverPacket packets) :=
  .forEach packets (blind_deliverPacket ctrl)

-----------------------------------------------------------------------------------------
-- The flush
-----------------------------------------------------------------------------------------

/-- The messages of one channel, in the order in which a flush replays them. -/
def replayedOf (channel : Ip × List Recorded) : List PeerPacket :=
  (sortRecorded channel.2).map fun recorded => ⟨channel.1, recorded.seq, recorded.held⟩

/-- The recorded messages of one channel are sorted in place. -/
def SnapshotController.sortedAt (ctrl : SnapshotController) (channel : Ip × List Recorded)
    : SnapshotController :=
  { ctrl with channelStates := ctrl.channelStates.set channel.1 (sortRecorded channel.2) }

/-- What a flush does for one channel. -/
def flushChannel (cfg : Config) (depth : Nat) (channel : Ip × List Recorded) : Py Unit := do
  modifyCtrl fun c => c.sortedAt channel
  forEach (fun (msg : Recorded) => processAndDeliver cfg depth channel.1 msg.seq msg.held)
    (sortRecorded channel.2)

theorem flushChannel_outcome (cfg : Config) (depth : Nat) {channel : Ip × List Recorded}
    (idle : s.ctrl.isSnapshotting = false)
    (plain : ∀ message ∈ channel.2, markerId? message.held.payload = none)
    : flushChannel cfg (depth + 1) channel s
      = mapState (Sidecar.withCtrl (s.ctrl.sortedAt channel))
          (forEach deliverPacket (replayedOf channel) s) := by
  have plainHere (packet : PeerPacket) (member : packet ∈ replayedOf channel)
      : markerId? packet.held.payload = none := by
    obtain ⟨recorded, listed, rfl⟩ := List.mem_map.mp member
    exact plain recorded ((List.mem_insertionSort _).mp listed)
  have delivers := forEach_idle cfg depth (s := s.withCtrl (s.ctrl.sortedAt channel)) idle
    plainHere
  rw [← blind_deliverAll, ← delivers, replayedOf, forEach_map]
  rfl

/-- The loop of a flush delivers the messages of all channels one after another. -/
theorem flushLoop_outcome (cfg : Config) (depth : Nat) (channels : List (Ip × List Recorded))
    (idle : s.ctrl.isSnapshotting = false)
    (plain
      : ∀ channel ∈ channels, ∀ message ∈ channel.2, markerId? message.held.payload = none)
    : ∃ states,
        forEach (flushChannel cfg (depth + 1)) channels s
          = mapState (Sidecar.withCtrl { s.ctrl with channelStates := states })
              (forEach deliverPacket (channels.flatMap replayedOf) s) := by
  induction channels generalizing s with
  | nil => exact ⟨s.ctrl.channelStates, rfl⟩
  | cons channel rest ih =>
      have first := flushChannel_outcome cfg depth idle
        (plain channel List.mem_cons_self)
      rw [forEach_cons, bind_run, first, List.flatMap_cons, forEach_append, bind_run]
      cases delivered : forEach deliverPacket (replayedOf channel) s with
      | error e t => exact ⟨_, rfl⟩
      | ok _ t =>
          obtain ⟨states, rested⟩ := ih (s := t.withCtrl (s.ctrl.sortedAt channel)) idle
            fun next member => plain next (List.mem_cons_of_mem _ member)
          rw [blind_deliverAll] at rested
          refine ⟨states, Eq.trans rested ?_⟩
          dsimp only
          cases forEach deliverPacket (rest.flatMap replayedOf) t <;> rfl

/-- A flush delivers the recorded messages, and forgets them if no delivery raises. -/
theorem flushAndReset_outcome (cfg : Config) (depth : Nat) (plain : s.ctrl.RecordsPlain)
    : match forEach deliverPacket s.ctrl.replayed s with
      | .ok _ t =>
          flushAndReset (fun ip seq held => processAndDeliver cfg (depth + 1) ip seq held) s
            = .ok () (t.withCtrl { selfIpCache := s.ctrl.selfIpCache })
      | .error e t =>
          ∃ ctrl,
            flushAndReset (fun ip seq held => processAndDeliver cfg (depth + 1) ip seq held) s
              = .error e (t.withCtrl ctrl) := by
  have reset : flushAndReset (fun ip seq held => processAndDeliver cfg (depth + 1) ip seq held) s
      = (forEach (flushChannel cfg (depth + 1)) s.ctrl.channelStates.entries >>= fun _ =>
          modifyCtrl fun c => { c with channelStates := ∅ })
          (s.withCtrl { s.ctrl with
            isSnapshotting := false
            currentSnapshotId := none
            snapshotDeadline := none
            recordingChannels := []
            recordedSendSeq := ∅
            recordedRecvSeq := ∅ }) := rfl
  obtain ⟨states, looped⟩ := flushLoop_outcome cfg depth
    (s := s.withCtrl { s.ctrl with
      isSnapshotting := false
      currentSnapshotId := none
      snapshotDeadline := none
      recordingChannels := []
      recordedSendSeq := ∅
      recordedRecvSeq := ∅ }) s.ctrl.channelStates.entries rfl
    fun channel member message recorded => plain (Dict.mem_entries_iff.mp member) recorded
  rw [reset, bind_run, looped, blind_deliverAll]
  have whole : s.ctrl.channelStates.entries.flatMap replayedOf = s.ctrl.replayed := rfl
  rw [whole]
  cases forEach deliverPacket s.ctrl.replayed s with
  | ok _ t => rfl
  | error e t => exact ⟨_, rfl⟩

-----------------------------------------------------------------------------------------
-- Attempts
-----------------------------------------------------------------------------------------

/-- Every attempt to deliver a packet either delivers it or uses up a fault of the host. -/
def Sidecar.progress (s : Sidecar) : Int := s.trace.delivered.length - s.host.faults.length

/-- A procedure that never loses progress, and that gains some when it raises. -/
def Advancing {α : Type} (body : Py α) : Prop :=
  ∀ n, Triple (fun s => n ≤ s.progress) body (fun _ s => n ≤ s.progress)
    (fun s => n + 1 ≤ s.progress)

namespace Advancing

variable {α β : Type}

theorem pure (a : α) : Advancing (Pure.pure a : Py α) := fun _ => .pure fun _ before => before

theorem update {change : Sidecar → Sidecar} (same : ∀ s, (change s).progress = s.progress)
    : Advancing (Procedure.update change) :=
  fun _ => .update fun s before => (same s).symm ▸ before

theorem bind {x : Py α} {f : α → Py β} (first : Advancing x) (second : ∀ a, Advancing (f a))
    : Advancing (x >>= f) :=
  fun n => .bind (first n) fun a => second a n

theorem readBind {f : Sidecar → Py β} (second : ∀ s, Advancing (f s))
    : Advancing (read >>= f) :=
  fun n => .readBind fun s before =>
    (second s n).weaken (fun _ same => same ▸ before) (fun _ _ after => after) fun _ after => after

theorem attempt {body : Py α} {handler : PyErr → Py α} (tried : Advancing body)
    (handled : ∀ e, Advancing (handler e)) : Advancing (Procedure.attempt body handler) := by
  refine fun n => .attempt (tried n) fun e => (handled e n).weaken ?_ ?_ ?_
  · exact fun s more => by omega
  · exact fun _ _ after => after
  · exact fun _ after => after

end Advancing

theorem advancing_outsideCall : Advancing outsideCall := by
  refine fun n => .readBind fun s before => ?_
  split
  · exact .pure fun _ same => same ▸ before
  case h_2 fails rest queued =>
    have used : n + 1 ≤ ({ s with host := { s.host with faults := rest } } : Sidecar).progress := by
      simp only [Sidecar.progress, queued, List.length_cons] at before ⊢
      omega
    have uses : Triple (fun t => t = s)
        (update fun s => { s with host := { s.host with faults := rest } } : Py Unit)
        (fun _ t => n + 1 ≤ t.progress) (fun t => n + 1 ≤ t.progress) :=
      .update fun t same => same ▸ used
    refine uses.bind fun _ => ?_
    split
    · exact .raise fun _ after => after
    · exact .pure fun _ after => by omega

theorem advancing_outsideAnswer : Advancing outsideAnswer :=
  .attempt (.bind advancing_outsideCall fun _ => .pure true) fun _ => .pure false

theorem advancing_newSock : Advancing newSock :=
  .bind advancing_outsideCall fun _ => .readBind fun _ =>
    .bind (.update fun _ => rfl) fun _ => .pure _

theorem advancing_getSpoofSock (key : Ip × Nat) : Advancing (getSpoofSock key) := by
  refine .readBind fun s => ?_
  split
  · exact .bind (.update fun _ => rfl) fun _ => .pure _
  · refine .bind (.readBind fun s => ?_) fun _ => .bind advancing_newSock fun _ =>
      .bind advancing_outsideCall fun _ => .bind (.bind advancing_outsideAnswer fun bound => ?_)
        fun _ => .bind (.update fun _ => rfl) fun _ => .pure _
    · split
      · split
        · exact .pure ()
        · exact .update fun _ => rfl
      · exact .pure ()
    · split
      · exact .pure _
      · exact .bind advancing_newSock fun _ => .bind advancing_outsideCall fun _ => .pure _

/-- A delivery makes progress, whether or not it raises. -/
theorem progress_deliverPacket (packet : PeerPacket) (s : Sidecar)
    : s.progress + 1 ≤ (final (deliverPacket packet s)).progress := by
  have triple : Triple (fun t => s.progress ≤ t.progress) (deliverPacket packet)
      (fun _ t => s.progress + 1 ≤ t.progress) (fun t => s.progress + 1 ≤ t.progress) := by
    have sends (sock : SpoofSock) : Advancing
        (spoofSendto sock packet.held.payload (packet.held.localIp, packet.held.dstPort)) :=
      .bind advancing_outsideCall fun _ => .update fun _ => rfl
    refine .bind (advancing_getSpoofSock _ _) fun sock => .bind (sends sock _) fun _ => ?_
    · refine .update fun t before => ?_
      simp only [Sidecar.progress, Sidecar.logDelivered, List.length_append,
        List.length_singleton] at before ⊢
      omega
  have outcome := triple s (Int.le_refl _)
  cases delivered : deliverPacket packet s <;> simpa [delivered, final] using outcome

theorem progress_attemptEach (packets : List PeerPacket) (s : Sidecar)
    : s.progress + packets.length ≤ (final (attemptEach deliverPacket packets s)).progress := by
  induction packets generalizing s with
  | nil => simp [attemptEach, final]
  | cons packet rest ih =>
      have next : attemptEach deliverPacket (packet :: rest) s
          = attemptEach deliverPacket rest (final (deliverPacket packet s)) := by
        rw [attemptEach, forEach_cons, bind_run, attempt_run]
        cases deliverPacket packet s <;> rfl
      have first := progress_deliverPacket packet s
      have rested := ih (final (deliverPacket packet s))
      rw [next, List.length_cons]
      omega

/-- A loop of deliveries attempts them all exactly when none but the last one raises. -/
theorem deliverAll_attempts_iff (packets : List PeerPacket) (s : Sidecar)
    : final (forEach deliverPacket packets s) = final (attemptEach deliverPacket packets s)
      ↔ ∃ t, forEach deliverPacket packets.dropLast s = .ok () t := by
  rcases List.eq_nil_or_concat packets with rfl | ⟨init, last, rfl⟩
  · exact iff_of_true rfl ⟨s, rfl⟩
  · rw [List.concat_eq_append, List.dropLast_concat, forEach_append, bind_run]
    cases delivered : forEach deliverPacket init s with
    | ok _ t =>
        refine iff_of_true ?_ ⟨t, rfl⟩
        have attempted := attemptEach_of_ok delivered
        rw [attemptEach] at attempted ⊢
        rw [forEach_append, bind_run, attempted]
        dsimp only
        rw [forEach_cons, forEach_cons, bind_run, bind_run, attempt_run]
        cases deliverPacket last t <;> rfl
    | error e t =>
        refine iff_of_false (fun same => ?_) (by rintro ⟨_, returned⟩; cases returned)
        obtain ⟨rest, goesOn⟩ := attemptEach_of_error delivered
        have more := progress_attemptEach (rest ++ [last]) t
        rw [goesOn] at same
        rw [← same] at more
        simp only [final, List.length_append, List.length_singleton] at more
        omega

-----------------------------------------------------------------------------------------
-- Both replays
-----------------------------------------------------------------------------------------

/-- The flush returns normally, with every delivery attempted and nothing recorded any more,
exactly when no delivery raises. The restore attempts every delivery exactly when none but the
last one raises.
-/
theorem replays_attempt_all_iff {status : Status} {artifact : Artifact} {nodes : List Artifact}
    {snapshotId : String} (plain : s.ctrl.RecordsPlain)
    (built : buildArtifact cfg status s = .ok artifact s')
    (own : ownEntry cfg nodes = some artifact) (starts : fresh.Starts cfg)
    (set : snapshotId ≠ "") (host : Host) (depth : Nat)
    : (flushAndReset (fun ip seq held => processAndDeliver cfg (depth + 1) ip seq held) s
          = .ok () ((final (attemptEach deliverPacket s.ctrl.replayed s)).withCtrl
              { selfIpCache := s.ctrl.selfIpCache })
        ↔ ∃ t, forEach deliverPacket s.ctrl.replayed s = .ok () t)
      ∧ (fresh.restored cfg (some snapshotId) (some nodes) host
            = final (attemptEach deliverPacket s.ctrl.restored
                (({ fresh with host } : Sidecar).seededBy artifact))
          ↔ ∃ t, forEach deliverPacket s.ctrl.restored.dropLast
              (({ fresh with host } : Sidecar).seededBy artifact) = .ok () t) := by
  constructor
  · have outcome := flushAndReset_outcome cfg depth plain
    cases delivered : forEach deliverPacket s.ctrl.replayed s with
    | ok _ t =>
        rw [delivered] at outcome
        refine iff_of_true ?_ ⟨t, rfl⟩
        rw [outcome, attemptEach_of_ok delivered]
        rfl
    | error e t =>
        rw [delivered] at outcome
        obtain ⟨ctrl, raises⟩ := outcome
        refine iff_of_false (fun returned => ?_) (fun ⟨_, returned⟩ => by cases returned)
        cases raises.symm.trans returned
  · obtain ⟨-, built⟩ := buildArtifact_ok built
    obtain ⟨isServer, cache, rfl, -⟩ := starts.started
    have restores := (restorePeers_eq (s := { Sidecar.started isServer cache with host }) built own
      plain rfl rfl).1
    rw [restored_eq cfg set, restores]
    exact deliverAll_attempts_iff s.ctrl.restored _

/-- Two messages of A wait in the recorded channel when the snapshot times out. -/
def twoRecordedCalls : List (Callback × Host) := [
  (.emit [startCommand [49]], {}),
  (.intercept, {}),
  (.received (dataFrame 0 [10, 24, 24, 11] [109]) nodeA, {}),
  (.received (dataFrame 1 [10, 24, 24, 11] [110]) nodeA, {})
]

theorem replays_attempt_all_twoRecordedCalls
    : ∃ s artifact,
        Sidecar.Run (threeMembers nodeB) s
        ∧ s.ctrl.replayed.length = 2
        ∧ buildArtifact (threeMembers nodeB) .aborted s = .ok artifact s
        ∧ flushAndReset (fun ip seq held => processAndDeliver (threeMembers nodeB) callDepth ip seq
              held) s
          = .ok () ((final (attemptEach deliverPacket s.ctrl.replayed s)).withCtrl
              { selfIpCache := s.ctrl.selfIpCache }) := by
  have ran : ((threeStarted nodeB).callAll (threeMembers nodeB) twoRecordedCalls).any
      (fun s =>
        s.ctrl.replayed.length == 2
        && (returned? (forEach deliverPacket s.ctrl.replayed s)).isSome
        && (returned? (buildArtifact (threeMembers nodeB) .aborted s)).any fun built =>
            ownEntry (threeMembers nodeB) [built.1] == some built.1) = true := by
    decide +kernel
  obtain ⟨s, called, shown⟩ := (Option.any_eq_true _ _).mp ran
  simp only [Bool.and_eq_true, beq_iff_eq, Option.any_eq_true] at shown
  obtain ⟨⟨two, delivers⟩, ⟨artifact, same⟩, built, own⟩ := shown
  obtain ⟨⟨_, delivered⟩, delivers⟩ := Option.isSome_iff_exists.mp delivers
  have built := returned?_eq_some.mp built
  have run := (Sidecar.Run.start (threeStarted_starts nodeB)).callAll called
  obtain rfl := (buildArtifact_ok built).1
  have attempts := (replays_attempt_all_iff run.balanced.recordsPlain built own
    (threeStarted_starts nodeB) (show "1" ≠ "" by decide) {} 249).1
  exact ⟨s, artifact, run, two, built, attempts.mpr ⟨delivered, returned?_eq_some.mp delivers⟩⟩

/-- Sending the first message on its spoof socket fails, and nothing else does. -/
def failingHost : Host where
  faults := [false, false, false, false, true]
  clock := [40000, 40000]

/-- The timeout ends the retransmit loop with the error, and the second message has not been
attempted. An attempt of it would have delivered it.
-/
theorem replay_cut_short
    : ∃ s s',
        Sidecar.Run (threeMembers nodeB) s
        ∧ Callback.run (threeMembers nodeB) .retransmit { s with host := failingHost }
          = .error .osError s'
        ∧ s.ctrl.replayed.map PeerPacket.seq = [0, 1]
        ∧ s'.trace.delivered = []
        ∧ ((final (attemptEach deliverPacket s.ctrl.replayed
              { s with host := { faults := failingHost.faults.tail } })).trace.delivered).map
                PeerPacket.seq = [1] := by
  have ran : ((threeStarted nodeB).callAll (threeMembers nodeB) twoRecordedCalls).any
      (fun s =>
        (match Callback.run (threeMembers nodeB) .retransmit { s with host := failingHost } with
        | .error .osError s' => s'.trace.delivered == []
        | _ => false)
        && s.ctrl.replayed.map PeerPacket.seq == [0, 1]
        && ((final (attemptEach deliverPacket s.ctrl.replayed
              { s with host := { faults := failingHost.faults.tail } })).trace.delivered).map
                PeerPacket.seq == [1]) = true := by
    decide +kernel
  obtain ⟨s, called, shown⟩ := (Option.any_eq_true _ _).mp ran
  simp only [Bool.and_eq_true, beq_iff_eq] at shown
  obtain ⟨⟨raised, recorded⟩, attempted⟩ := shown
  have run := (Sidecar.Run.start (threeStarted_starts nodeB)).callAll called
  cases stopped : Callback.run (threeMembers nodeB) .retransmit { s with host := failingHost } with
  | ok _ s' => simp [stopped] at raised
  | error e s' =>
      rw [stopped] at raised
      cases e <;> simp at raised
      exact ⟨s, s', run, stopped, recorded, raised, attempted⟩

end MeshSnapshot
