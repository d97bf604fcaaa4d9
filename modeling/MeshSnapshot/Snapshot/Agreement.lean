import MeshSnapshot.Snapshot.Network

/-! Agreement on the cut. The two ends of a channel record the same coordinate for it, nothing
sent after the marker was received before the receiver began, and the recorded state is what
was in flight in between.
-/

namespace MeshSnapshot

open ChandyLamport

variable {members : List Ip} {cfg : Ip → Config} {mesh : Mesh}

-----------------------------------------------------------------------------------------
-- The in-flight part of a stream
-----------------------------------------------------------------------------------------

/-- The packets of a numbered stream from one number up to another that are no markers. -/
def inFlight (stream : List (Nat × Held)) (first last : Nat) : List (Nat × Held) :=
  stream.filter fun entry =>
    first ≤ entry.1 ∧ entry.1 < last ∧ markerId? entry.2.payload = none

theorem between_toMsg (stream : List Held) (first last : Nat)
    : between (stream.map toMsg) first last
      = inFlight (Deferral.numbered (fun _ => false) stream) first last := by
  induction stream using List.reverseRecOn with
  | nil => rfl
  | append_singleton init held ih =>
      simp only [inFlight, Deferral.numbered_append_data, List.filter_append] at ih ⊢
      rw [← ih]
      cases isMarker : markerId? held.payload with
      | some id => simp [between_append_marker, toMsg_marker isMarker, isMarker]
      | none =>
          by_cases inside : first ≤ init.length ∧ init.length < last <;>
            simp [between, List.zipIdx_append, toMsg_data isMarker, isMarker, inside]

/-- What is unique in a list by its key is all that a filter for the key leaves. -/
theorem filter_of_nodup_map {α κ : Type} [DecidableEq κ] {key : α → κ} {list : List α}
    (unique : (list.map key).Nodup) {a : α} (member : a ∈ list)
    : list.filter (fun b => key b = key a) = [a] := by
  induction list with
  | nil => cases member
  | cons head rest ih =>
      obtain ⟨absent, unique⟩ := List.nodup_cons.mp unique
      rcases List.mem_cons.mp member with rfl | member
      · have others : rest.filter (fun b => key b = key a) = [] := by
          refine List.filter_eq_nil_iff.mpr fun b listed => ?_
          have other : key b ≠ key a := fun same => absent (same ▸ List.mem_map_of_mem listed)
          simpa using other
        simp [others]
      · have other : key head ≠ key a := fun same => absent (same ▸ List.mem_map_of_mem member)
        simp [other, ih unique member]

-----------------------------------------------------------------------------------------
-- Agreement
-----------------------------------------------------------------------------------------

/-- The artifacts at the two ends of a channel agree on the cut of a snapshot, where `stream`
is what the sender has sent on it, and the receiver had passed `before` packets of it when it
began the snapshot.
-/
structure CutAgreement (id : Bytes) (stream : List (Nat × Held)) (before cut : Nat)
    (toTarget fromSource : PeerArtifact) : Prop where
  sendSeq : toTarget.sendSeq = some (cut + 1)
  recvSeq : fromSource.recvSeq = some (cut + 1)
  marker
    : ∀ seq, (∃ held, (seq, held) ∈ stream ∧ markerId? held.payload = some id) ↔ seq = cut
  noOrphan : before ≤ cut
  channel
    : fromSource.channel
      = (inFlight stream before cut).map fun entry => encodeRecorded (toRecorded entry)

theorem Mesh.Shows.agreement {net : Net Ip Bytes Held} (shows : mesh.Shows members cfg net)
    {id : Bytes} {source target : Ip} (distinct : source ≠ target)
    (sourceMember : source ∈ members) (targetMember : target ∈ members)
    {sender receiver : Artifact} (sent : (mesh source).Posted id .complete sender)
    (received : (mesh target).Posted id .complete receiver)
    : ∃ toTarget fromSource passed cut,
        sender.peer? target = some toTarget
        ∧ receiver.peer? source = some fromSource
        ∧ (beginsOf (mesh target).trace.control).filter (fun entry => entry.1 = id)
          = [(id, passed)]
        ∧ CutAgreement id (numberedTo (mesh source) target)
            (heldFrom ((mesh target).trace.consumed.take passed) source).length cut
            toTarget fromSource := by
  obtain ⟨episode, sentOver, rfl, exhibited⟩ := shows.posted sent
  obtain ⟨other, receivedOver, same, exhibits⟩ := shows.posted received
  have sentListed := Node.mem_episodes_of_past sentOver
  have receivedListed := Node.mem_episodes_of_past receivedOver
  have toTarget := (shows.inv.node source).covers episode sentListed target targetMember
    (Ne.symm distinct)
  have fromSource := (shows.inv.node target).covers other receivedListed source sourceMember
    distinct
  obtain ⟨cut, closed⟩ : ∃ cut, other.closed source = some cut := by
    cases isClosed : other.closed source with
    | none =>
        exact ((shows.inv.node target).done other receivedOver source ⟨fromSource, isClosed⟩).elim
    | some cut => exact ⟨cut, rfl⟩
  obtain ⟨-, marked, noOrphan, recorded⟩ :=
    shows.inv.agreement sentListed receivedListed same.symm closed
  obtain ⟨passed, logged, began⟩ := shows.began receivedListed
  have stream := (shows.shows source).sent target
  refine ⟨_, _, passed, cut, exhibited.peer target toTarget, exhibits.peer source fromSource,
    ?_, ?_⟩
  · rw [same] at logged
    exact filter_of_nodup_map (shows.begins_once target) logged
  · exact {
      sendSeq := by rw [marked]
      recvSeq := by rw [closed]; rfl
      marker := fun seq => by
        rw [← marked, eq_comm (a := seq), ← shows.inv.marker_at_iff sentListed toTarget, stream]
        constructor
        · rintro ⟨held, listed, isMarker⟩
          obtain ⟨found, -⟩ := Deferral.mem_numbered.mp listed
          have found : (heldTo (mesh source).trace.sent target)[seq]? = some held := found
          rw [List.getElem?_map, Sidecar.journal, found, Option.map_some, toMsg_marker isMarker]
        · intro found
          rw [List.getElem?_map] at found
          obtain ⟨held, found, isMarker⟩ := Option.map_eq_some_iff.mp found
          exact ⟨held, Deferral.mem_numbered.mpr ⟨found, rfl⟩, markerId?_of_toMsg isMarker⟩
      noOrphan := by
        rw [← began source]
        exact noOrphan
      channel := by
        rw [← began source]
        have whole : other.recorded source
            = inFlight (numberedTo (mesh source) target) (other.began source) cut :=
          recorded.trans (stream ▸ between_toMsg _ _ _)
        rw [whole]
    }

/-- In every run without timeouts, the artifacts of any two members agree on the cut. -/
theorem Mesh.Reachable.artifacts_agree (deployed : ∀ ip, (cfg ip).Deployed members ip)
    (reachable : Mesh.Reachable cfg mesh) (starts : mesh.DistinctStarts members)
    (plain : ∀ ip, PlainSends (mesh ip).trace.sent) (noAborts : mesh.NoAborts) {id : Bytes}
    {source target : Ip} (distinct : source ≠ target) (sourceMember : source ∈ members)
    (targetMember : target ∈ members) {sender receiver : Artifact}
    (sent : (mesh source).Posted id .complete sender)
    (received : (mesh target).Posted id .complete receiver)
    : ∃ toTarget fromSource passed cut,
        sender.peer? target = some toTarget
        ∧ receiver.peer? source = some fromSource
        ∧ (beginsOf (mesh target).trace.control).filter (fun entry => entry.1 = id)
          = [(id, passed)]
        ∧ CutAgreement id (numberedTo (mesh source) target)
            (heldFrom ((mesh target).trace.consumed.take passed) source).length cut
            toTarget fromSource := by
  obtain ⟨net, shows⟩ := reachable.shows deployed ⟨plain, noAborts.unrevived, starts⟩
  exact shows.agreement distinct sourceMember targetMember sent received

theorem Mesh.Reachable.cut_agreement (deployed : ∀ ip, (cfg ip).Deployed members ip)
    (reachable : Mesh.Reachable cfg mesh) (starts : mesh.DistinctStarts members)
    (plain : ∀ ip, PlainSends (mesh ip).trace.sent) (noAborts : mesh.NoAborts) {id : Bytes}
    {source target : Ip} (distinct : source ≠ target) (sourceMember : source ∈ members)
    (targetMember : target ∈ members) {sender receiver : Artifact}
    (sent : (mesh source).Posted id .complete sender)
    (received : (mesh target).Posted id .complete receiver)
    : ∃ toTarget fromSource passed cut,
        sender.peer? target = some toTarget
        ∧ receiver.peer? source = some fromSource
        ∧ (beginsOf (mesh target).trace.control).filter (fun entry => entry.1 = id)
          = [(id, passed)]
        ∧ CutAgreement id (numberedTo (mesh source) target)
            (heldFrom ((mesh target).trace.consumed.take passed) source).length cut
            toTarget fromSource :=
  reachable.artifacts_agree deployed starts plain noAborts distinct sourceMember targetMember sent
    received

/-- A starts a snapshot after it has sent a message to B, which B receives after it has heard
of the snapshot from C.
-/
def crossingCalls : List (Ip × Callback × Host) := [
  (nodeA, .send nodeB ⟨5000, 5000, [10, 24, 24, 11], [109]⟩, {}),
  (nodeA, .emit [startCommand [49]], {}),
  (nodeA, .intercept, {}),
  (nodeC, .received (markerFrame 0 [49]) nodeA, {}),
  (nodeB, .received (markerFrame 0 [49]) nodeC, {}),
  (nodeB, .received (dataFrame 0 [10, 24, 24, 11] [109]) nodeA, {}),
  (nodeB, .received (markerFrame 1 [49]) nodeA, {}),
  (nodeA, .received (markerFrame 0 [49]) nodeB, {}),
  (nodeA, .received (markerFrame 0 [49]) nodeC, {}),
  (nodeC, .received (markerFrame 0 [49]) nodeB, {})
]

/-- What B records is the message that is in flight. -/
theorem Mesh.Reachable.cut_agreement_crossingCalls
    : ∃ mesh : Mesh,
        threeStarted.runAll threeMembers crossingCalls = some mesh
        ∧ ∃ toTarget fromSource before cut,
            CutAgreement [49] (numberedTo (mesh nodeA) nodeB) before cut toTarget fromSource
            ∧ fromSource.channel.length = 1 := by
  have ran : (threeStarted.runAll threeMembers crossingCalls).any (fun mesh =>
      mesh.isRoutine nodeA [[49]]
      && (postsOf (mesh nodeA).trace.control).any (·.snapshotId == some "1")
      && (postsOf (mesh nodeB).trace.control).any fun artifact =>
          artifact.snapshotId == some "1"
          && (artifact.peer? nodeA).map (·.channel.length) == some 1) = true := by
    decide +kernel
  obtain ⟨mesh, ran, shown⟩ := (Option.any_eq_true _ _).mp ran
  simp only [Bool.and_eq_true, List.any_eq_true, beq_iff_eq] at shown
  obtain ⟨⟨routine, sender, sent, sentId⟩, receiver, received, receivedId, recorded⟩ := shown
  have callers : ∀ call ∈ crossingCalls, call.1 ∈ [nodeA, nodeB, nodeC] := by decide
  have reachable := (Mesh.Reachable.init threeStarted_starts).runAll ran
  obtain ⟨plain, starts, noAborts⟩ :=
    Mesh.routine_of_isRoutine ran callers routine List.mem_cons_self
  have sent : (mesh nodeA).Posted [49] .complete sender :=
    ⟨sent, .for_first sentId, noAborts _ _ sent⟩
  have received : (mesh nodeB).Posted [49] .complete receiver :=
    ⟨received, .for_first receivedId, noAborts _ _ received⟩
  obtain ⟨toTarget, fromSource, passed, cut, -, found, -, agreement⟩ :=
    reachable.cut_agreement threeMembers_deployed (starts.distinct (by decide) List.mem_cons_self) plain
      noAborts (by decide) (by decide) (by decide) sent received
  rw [found] at recorded
  exact ⟨mesh, ran, toTarget, fromSource, _, cut, agreement, Option.some.inj recorded⟩

end MeshSnapshot
