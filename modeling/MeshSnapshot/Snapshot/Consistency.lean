import MeshSnapshot.Snapshot.Agreement
import MeshSnapshot.Snapshot.Image

/-! The cut as the apps see it. The app image of a snapshot and the cut of the channels are taken
one after the other, and they fit together if the app sends nothing in between.
-/

namespace MeshSnapshot

open ChandyLamport

variable {members : List Ip} {cfg : Ip → Config} {mesh : Mesh} {source target : Ip} {id : Bytes}

/-- The app of `target` had been given the app datagram number `k` of `source` when its image
was taken, after `delivered` deliveries, or the datagram is in the recorded channel.
-/
def Mesh.InCut (mesh : Mesh) (source target : Ip) (k : Nat) (message : Message)
    (delivered : Nat) (fromSource : PeerArtifact) : Prop :=
  ∃ seq,
    ((mesh source).trace.sent.filter (fun call => call.dst = target))[seq]?
        = some ⟨target, message, .forwarded, k + 1⟩
    ∧ (⟨source, seq, message.held⟩ ∈ (mesh target).trace.delivered.take delivered
      ∨ encodeRecorded ⟨seq, message.held⟩ ∈ fromSource.channel)

-----------------------------------------------------------------------------------------
-- The sending side
-----------------------------------------------------------------------------------------

/-- The markers of a snapshot stand between what was forwarded before its image and after. -/
theorem Journal.Image.forwarded_iff {own : Ip} {config : Config} {j : Journal}
    {reads emitted delivered : Nat} (deployed : config.Deployed members own)
    (image : j.Image config own id reads emitted delivered) (covered : target ∈ members)
    (other : target ≠ own)
    : ∃ cut,
        (∃ held : Held,
          (heldTo j.sent target)[cut]? = some held ∧ markerId? held.payload = some id)
        ∧ ∀ {seq : Nat} {call : SendCall},
            (j.sent.filter (fun call => call.dst = target))[seq]? = some call
            → call.origin = .forwarded → (call.reads ≤ reads ↔ seq < cut) := by
  obtain ⟨before, after, selfIp, sent, known, earlier, later⟩ := image.sent
  have inCut : target ∈ cutMembers config selfIp := by
    refine (mem_cutMembers deployed).mpr ⟨covered, ?_⟩
    rcases known with rfl | rfl <;> simp [other]
  generalize marked : ((cutMembers config selfIp).map
    (markerCall (markerPrefix ++ id) reads)).filter (fun call => call.dst = target) = markers
  have isMarker (call : SendCall) (member : call ∈ markers)
      : call.origin = .marker ∧ call.message.payload = markerPrefix ++ id := by
    rw [← marked] at member
    obtain ⟨ip, -, rfl⟩ := List.mem_map.mp (List.mem_filter.mp member).1
    exact ⟨rfl, rfl⟩
  have calls : j.sent.filter (fun call => call.dst = target)
      = before.filter (fun call => call.dst = target)
        ++ (markers ++ after.filter (fun call => call.dst = target)) := by
    rw [sent, List.filter_append, List.filter_append, marked, List.append_assoc]
  refine ⟨(before.filter (fun call => call.dst = target)).length, ?_, fun {seq call} found forwarded => ?_⟩
  · have listed : markerCall (markerPrefix ++ id) reads target ∈ markers := by
      rw [← marked]
      exact List.mem_filter.mpr ⟨List.mem_map_of_mem inCut, by simp [markerCall]⟩
    cases markers with
    | nil => cases listed
    | cons first rest =>
        obtain ⟨-, payload⟩ := isMarker first List.mem_cons_self
        refine ⟨first.message.held, ?_, by simp [Message.held, payload]⟩
        rw [heldTo, calls, List.getElem?_map, List.getElem?_append_right (Nat.le_refl _)]
        simp
  · rw [calls] at found
    rcases Nat.lt_or_ge seq (before.filter (fun call => call.dst = target)).length with left | right
    · rw [List.getElem?_append_left left] at found
      have member := (List.mem_filter.mp (List.mem_of_getElem? found)).1
      exact iff_of_true (earlier call member forwarded) left
    · rw [List.getElem?_append_right right] at found
      refine iff_of_false (Nat.not_le.mpr ?_) (Nat.not_lt.mpr right)
      rcases List.mem_append.mp (List.mem_of_getElem? found) with marker | member
      · cases (isMarker call marker).1.symm.trans forwarded
      · exact later call (List.mem_filter.mp member).1 forwarded

-----------------------------------------------------------------------------------------
-- The receiving side
-----------------------------------------------------------------------------------------

/-- What the app had been given when its image was taken, together with the recorded channel, is
what the sender has sent below the cut.
-/
theorem CutAgreement.received_iff {stream : List Held} {before cut delivered : Nat}
    {toTarget fromSource : PeerArtifact} {given : List PeerPacket} {seq : Nat} {held : Held}
    (agreement
      : CutAgreement id (Deferral.numbered (fun _ => false) stream) before cut toTarget fromSource)
    (perm
      : (packetsOf (given.take delivered) source).Perm
          (Deferral.numbered isMarker (stream.take before)))
    (found : stream[seq]? = some held) (plain : markerId? held.payload = none)
    : (⟨source, seq, held⟩ ∈ given.take delivered
        ∨ encodeRecorded ⟨seq, held⟩ ∈ fromSource.channel)
      ↔ seq < cut := by
  have given_iff : ⟨source, seq, held⟩ ∈ given.take delivered ↔ seq < before := by
    have inPackets : ⟨source, seq, held⟩ ∈ given.take delivered
        ↔ (seq, held) ∈ packetsOf (given.take delivered) source := by
      simp only [packetsOf, List.mem_map, List.mem_filter, decide_eq_true_eq, Prod.mk.injEq]
      constructor
      · exact fun member => ⟨_, ⟨member, rfl⟩, rfl, rfl⟩
      · rintro ⟨packet, ⟨member, rfl⟩, rfl, rfl⟩
        exact member
    rw [inPackets, perm.mem_iff, Deferral.mem_numbered, List.getElem?_take]
    by_cases below : seq < before
    · simp [below, found, isMarker, plain]
    · simp [below]
  have recorded_iff : encodeRecorded ⟨seq, held⟩ ∈ fromSource.channel
      ↔ before ≤ seq ∧ seq < cut := by
    have known : (seq, held) ∈ Deferral.numbered (fun _ => false) stream :=
      Deferral.mem_numbered.mpr ⟨found, rfl⟩
    rw [agreement.channel]
    simp only [List.mem_map, inFlight, List.mem_filter, decide_eq_true_eq]
    constructor
    · rintro ⟨⟨position, other⟩, ⟨-, first, last, -⟩, same⟩
      have here : position = seq := congrArg ChannelMessage.seq same
      subst here
      exact ⟨first, last⟩
    · exact fun inside => ⟨(seq, held), ⟨known, inside.1, inside.2, plain⟩, rfl⟩
  have noOrphan := agreement.noOrphan
  rw [given_iff, recorded_iff]
  omega

-----------------------------------------------------------------------------------------
-- Consistency
-----------------------------------------------------------------------------------------

/-- The images of two members and the channel between them form a consistent cut exactly when
the sending app emitted nothing for the channel after the last drain and before its image.
-/
theorem Mesh.Reachable.consistent_cut_iff (deployed : ∀ ip, (cfg ip).Deployed members ip)
    (reachable : Mesh.Reachable cfg mesh) (starts : mesh.DistinctStarts members)
    (plain : ∀ ip, PlainSends (mesh ip).trace.sent) (noAborts : mesh.NoAborts)
    (distinct : source ≠ target) (sourceMember : source ∈ members)
    (targetMember : target ∈ members) {sender receiver : Artifact}
    (sent : (mesh source).Posted id .complete sender)
    (received : (mesh target).Posted id .complete receiver) {fromSource : PeerArtifact}
    (shown : receiver.peer? source = some fromSource)
    {sourceTarget sourcePath targetTarget targetPath : String} {sourceOk targetOk : Bool}
    {reads emitted delivered targetReads targetEmitted targetDelivered : Nat}
    (sourceImage
      : .checkpointed id sourceTarget sourcePath sourceOk reads emitted delivered
        ∈ (mesh source).trace.control)
    (targetImage
      : .checkpointed id targetTarget targetPath targetOk targetReads targetEmitted
          targetDelivered ∈ (mesh target).trace.control)
    : (∀ k message,
        (mesh source).journal.Emits (cfg source) k target message
        → (k < emitted
          ↔ mesh.InCut source target k message targetDelivered fromSource))
      ↔ ∀ k message,
          (mesh source).journal.Emits (cfg source) k target message
          → ¬ (reads ≤ k ∧ k < emitted) := by
  obtain ⟨toTarget, again, passed, cut, -, found, once, agreement⟩ :=
    reachable.artifacts_agree deployed starts plain noAborts distinct sourceMember targetMember
      sent received
  obtain rfl := Option.some.inj (shown.symm.trans found)
  have captures := (reachable.run source).captures (deployed source)
  have sourceShot := captures.images sourceImage
  have targetShot := ((reachable.run target).captures (deployed target)).images targetImage
  obtain ⟨marker, ⟨held, standing, isMarker⟩, forwarded⟩ :=
    sourceShot.forwarded_iff (deployed source) targetMember (Ne.symm distinct)
  have sameCut : marker = cut :=
    (agreement.marker marker).mp ⟨held, Deferral.mem_numbered.mpr ⟨standing, rfl⟩, isMarker⟩
  obtain ⟨began, logged, -, -, given⟩ := targetShot.delivered
  have entry : (id, began) ∈ (beginsOf (mesh target).trace.control).filter
      (fun entry => entry.1 = id) := List.mem_filter.mpr ⟨logged, decide_eq_true rfl⟩
  rw [once] at entry
  obtain rfl := (Prod.mk.inj (List.mem_singleton.mp entry)).2
  have whole : heldFrom (mesh target).trace.consumed source
      <+: heldTo (mesh source).trace.sent target := by
    have consumed := (reachable.passes_prefix source target).map Prod.snd
    rwa [map_snd_packetsOf, numberedTo, Deferral.map_snd_numbered] at consumed
  have passed : heldFrom ((mesh target).trace.consumed.take began) source
      <+: heldTo (mesh source).trace.sent target :=
    (((List.take_prefix _ _).filter _).map _).trans whole
  have perm := given source
  rw [Sidecar.journal, List.prefix_iff_eq_take.mp passed] at perm
  have inCut {k : Nat} {message : Message}
      (emits : (mesh source).journal.Emits (cfg source) k target message)
      : mesh.InCut source target k message targetDelivered fromSource ↔ k < reads := by
    have inStream {seq : Nat}
        (call : ((mesh source).trace.sent.filter (fun call => call.dst = target))[seq]?
          = some ⟨target, message, .forwarded, k + 1⟩)
        : (heldTo (mesh source).trace.sent target)[seq]? = some message.held := by
      rw [heldTo, List.getElem?_map, call]
      rfl
    have plainMessage {seq : Nat}
        (call : ((mesh source).trace.sent.filter (fun call => call.dst = target))[seq]?
          = some ⟨target, message, .forwarded, k + 1⟩)
        : markerId? message.held.payload = none := by
      have listed := (List.mem_filter.mp (List.mem_of_getElem? call)).1
      exact plain source _ listed (by simp)
    constructor
    · rintro ⟨seq, call, place⟩
      have below := (agreement.received_iff perm (inStream call) (plainMessage call)).mp place
      exact (forwarded call rfl).mpr (sameCut ▸ below)
    · intro early
      have listed := captures.reads.routed (early.trans_le sourceShot.bound) emits
      have onChannel : (⟨target, message, .forwarded, k + 1⟩ : SendCall)
          ∈ (mesh source).trace.sent.filter (fun call => call.dst = target) :=
        List.mem_filter.mpr ⟨listed, decide_eq_true rfl⟩
      obtain ⟨seq, call⟩ := List.getElem?_of_mem onChannel
      have below : seq < cut := sameCut ▸ (forwarded call rfl).mp early
      exact ⟨seq, call,
        (agreement.received_iff perm (inStream call) (plainMessage call)).mpr below⟩
  constructor
  · intro consistent k message emits inside
    have early := (inCut emits).mp ((consistent k message emits).mp inside.2)
    omega
  · intro silent k message emits
    rw [inCut emits]
    have bound := sourceShot.emitted
    have outside := silent k message emits
    omega

/-- What A's app sends to B's app. -/
def creditMessage : Message := ⟨5000, 5000, [10, 24, 24, 11], [109]⟩

def creditDatagram : Datagram where
  data := creditMessage.payload
  ancdata := [⟨0, 20, [0, 2, 19, 136, 10, 24, 24, 11]⟩]
  addr := (nodeA, 5000)

theorem Journal.emits_credit {j : Journal} {k : Nat}
    (found : j.emitted[k]? = some creditDatagram) (isServer : j.isServer = true)
    : j.Emits (threeMembers nodeA) k nodeB creditMessage := by
  refine ⟨creditDatagram, found, by decide, ?_⟩
  rw [isServer]
  decide +kernel

/-- The image that one of the three members takes for snapshot 1. -/
def imageOf (node : Ip) (ok : Bool) (reads emitted delivered : Nat) : ControlEvent :=
  .checkpointed [49] ("counter-" ++ node) ("/tmp/snapshot-1-counter-" ++ node ++ ".tar.zst") ok
    reads emitted delivered

/-- The app of A sends a message to B before the snapshot, which B receives after it has heard
of the snapshot from C.
-/
def creditedCalls : List (Ip × Callback × Host) := [
  (nodeA, .emit [creditDatagram, startCommand [49]], {}),
  (nodeA, .intercept, {}),
  (nodeC, .received (markerFrame 0 [49]) nodeA, {}),
  (nodeB, .received (markerFrame 0 [49]) nodeC, {}),
  (nodeB, .received (dataFrame 0 [10, 24, 24, 11] [109]) nodeA, {}),
  (nodeB, .received (markerFrame 1 [49]) nodeA, {}),
  (nodeA, .received (markerFrame 0 [49]) nodeB, {}),
  (nodeA, .received (markerFrame 0 [49]) nodeC, {}),
  (nodeC, .received (markerFrame 0 [49]) nodeB, {})
]

theorem Mesh.Reachable.consistent_cut_creditedCalls
    : ∃ (mesh : Mesh) (fromSource : PeerArtifact),
        threeStarted.runAll threeMembers creditedCalls = some mesh
        ∧ (mesh nodeA).journal.Emits (threeMembers nodeA) 0 nodeB creditMessage
        ∧ mesh.InCut nodeA nodeB 0 creditMessage 0 fromSource := by
  have ran : (threeStarted.runAll threeMembers creditedCalls).any (fun mesh =>
      mesh.isRoutine nodeA [[49]]
      && (postsOf (mesh nodeA).trace.control).any (·.snapshotId == some "1")
      && (postsOf (mesh nodeB).trace.control).any (fun artifact =>
          artifact.snapshotId == some "1" && (artifact.peer? nodeA).isSome)
      && (mesh nodeA).trace.emitted == [creditDatagram, startCommand [49]]
      && (mesh nodeA).isServer
      && decide (imageOf nodeA true 2 2 0 ∈ (mesh nodeA).trace.control)
      && decide (imageOf nodeB true 0 0 0 ∈ (mesh nodeB).trace.control)) = true := by
    decide +kernel
  obtain ⟨mesh, ran, shown⟩ := (Option.any_eq_true _ _).mp ran
  simp only [Bool.and_eq_true, List.any_eq_true, beq_iff_eq, decide_eq_true_eq] at shown
  obtain ⟨⟨⟨⟨⟨⟨routine, sender, sent, sentId⟩, receiver, received, receivedId, recorded⟩,
    emitted⟩, isServer⟩, sourceImage⟩, targetImage⟩ := shown
  have callers : ∀ call ∈ creditedCalls, call.1 ∈ [nodeA, nodeB, nodeC] := by decide
  have reachable := (Mesh.Reachable.init threeStarted_starts).runAll ran
  obtain ⟨plain, starts, noAborts⟩ :=
    Mesh.routine_of_isRoutine ran callers routine List.mem_cons_self
  obtain ⟨fromSource, shown⟩ := Option.isSome_iff_exists.mp recorded
  have emits : (mesh nodeA).journal.Emits (threeMembers nodeA) 0 nodeB creditMessage :=
    Journal.emits_credit (congrArg (·[0]?) emitted) isServer
  have consistent := (reachable.consistent_cut_iff threeMembers_deployed
    (starts.distinct (by decide) List.mem_cons_self) plain noAborts (by decide) (by decide)
    (by decide) ⟨sent, .for_first sentId, noAborts _ _ sent⟩
    ⟨received, .for_first receivedId, noAborts _ _ received⟩ shown
    sourceImage targetImage).mpr (fun _ _ _ => by omega)
  exact ⟨mesh, fromSource, ran, emits, (consistent 0 creditMessage emits).mp (by decide)⟩

/-- The app of A sends the message while the sidecar, which has drained the intercept socket,
waits for the checkpoint.
-/
def lateCreditCalls : List (Ip × Callback × Host) := [
  (nodeA, .emit [startCommand [49]], {}),
  (nodeA, .intercept, { app := [[], [], [creditDatagram]] }),
  (nodeB, .received (markerFrame 0 [49]) nodeA, {}),
  (nodeC, .received (markerFrame 0 [49]) nodeA, {}),
  (nodeB, .received (markerFrame 0 [49]) nodeC, {}),
  (nodeA, .received (markerFrame 0 [49]) nodeB, {}),
  (nodeA, .received (markerFrame 0 [49]) nodeC, {}),
  (nodeC, .received (markerFrame 0 [49]) nodeB, {})
]

/-- B's app has not been given the message when its image is taken, and the channel from A is
recorded as empty; A's image shows the message as sent.
-/
theorem Mesh.Reachable.cut_inconsistent
    : ∃ (mesh : Mesh) (receiver : Artifact) (fromSource : PeerArtifact),
        Mesh.Reachable threeMembers mesh
        ∧ mesh.StartsAt nodeA [[49]]
        ∧ (∀ ip, PlainSends (mesh ip).trace.sent)
        ∧ mesh.NoAborts
        ∧ (∀ ip ∈ [nodeA, nodeB, nodeC], ∃ artifact, (mesh ip).Posted [49] .complete artifact)
        ∧ (mesh nodeB).Posted [49] .complete receiver
        ∧ receiver.peer? nodeA = some fromSource
        ∧ imageOf nodeA true 1 2 0 ∈ (mesh nodeA).trace.control
        ∧ imageOf nodeB true 0 0 0 ∈ (mesh nodeB).trace.control
        ∧ (mesh nodeA).journal.Emits (threeMembers nodeA) 1 nodeB creditMessage
        ∧ ¬ mesh.InCut nodeA nodeB 1 creditMessage 0 fromSource := by
  have ran : (threeStarted.runAll threeMembers lateCreditCalls).any (fun mesh =>
      mesh.isRoutine nodeA [[49]]
      && [nodeA, nodeB, nodeC].all (fun ip =>
          (postsOf (mesh ip).trace.control).any (·.snapshotId == some "1"))
      && (postsOf (mesh nodeB).trace.control).any (fun artifact =>
          artifact.snapshotId == some "1"
          && (artifact.peer? nodeA).any (fun fromSource => fromSource.channel == []))
      && (mesh nodeA).trace.emitted == [startCommand [49], creditDatagram]
      && (mesh nodeA).isServer
      && decide (imageOf nodeA true 1 2 0 ∈ (mesh nodeA).trace.control)
      && decide (imageOf nodeB true 0 0 0 ∈ (mesh nodeB).trace.control)) = true := by
    decide +kernel
  obtain ⟨mesh, ran, shown⟩ := (Option.any_eq_true _ _).mp ran
  simp only [Bool.and_eq_true, List.any_eq_true, List.all_eq_true, beq_iff_eq, decide_eq_true_eq,
    Option.any_eq_true] at shown
  obtain ⟨⟨⟨⟨⟨⟨routine, complete⟩, receiver, received, receivedId, fromSource, shown, nothing⟩,
    emitted⟩, isServer⟩, sourceImage⟩, targetImage⟩ := shown
  have callers : ∀ call ∈ lateCreditCalls, call.1 ∈ [nodeA, nodeB, nodeC] := by decide
  obtain ⟨plain, starts, noAborts⟩ :=
    Mesh.routine_of_isRoutine ran callers routine List.mem_cons_self
  have posted {ip : Ip} {artifact : Artifact} (logged : artifact ∈ postsOf (mesh ip).trace.control)
      (isFirst : artifact.snapshotId = some "1") : (mesh ip).Posted [49] .complete artifact :=
    ⟨logged, .for_first isFirst, noAborts _ _ logged⟩
  refine ⟨mesh, receiver, fromSource, (Mesh.Reachable.init threeStarted_starts).runAll ran, starts,
    plain, noAborts, ?_, posted received receivedId, shown, sourceImage, targetImage, ?_, ?_⟩
  · intro ip member
    obtain ⟨artifact, logged, isFirst⟩ := complete ip member
    exact ⟨artifact, posted logged isFirst⟩
  · exact Journal.emits_credit (congrArg (·[1]?) emitted) isServer
  · rintro ⟨seq, -, given | recorded⟩
    · cases given
    · rw [nothing] at recorded
      cases recorded

end MeshSnapshot
