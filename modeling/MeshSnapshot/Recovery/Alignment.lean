import MeshSnapshot.Recovery.Stored
import MeshSnapshot.Snapshot.Agreement

/-! The coordinates of restored members. The two ends of a channel are aligned if and only if the
artifact of the receiving end shows where the marker of the sender stood, whether the snapshot
was complete or aborted.
-/

namespace MeshSnapshot

open ChandyLamport

variable {members : List Ip} {cfg : Ip → Config} {mesh fresh : Mesh} {nodes : Ip → List Artifact}
  {hosts : Ip → Host} {snapshotId : String}

/-- The fresh sidecars of all nodes run their restore. -/
def Mesh.restored (fresh : Mesh) (cfg : Ip → Config) (snapshotId : String)
    (nodes : Ip → List Artifact) (hosts : Ip → Host)
    : Mesh :=
  fun ip => (fresh ip).restored (cfg ip) (some snapshotId) (some (nodes ip)) (hosts ip)

/-- The number that one end sends next is the number that the other end expects. -/
def Mesh.Aligned (mesh : Mesh) (source target : Ip) : Prop :=
  ((mesh source).peer target).sendSeq = ((mesh target).peer source).recvSeq

instance (mesh : Mesh) (source target : Ip) : Decidable (mesh.Aligned source target) :=
  inferInstanceAs (Decidable (_ = _))

/-- Every entry of an artifact is what the controller has recorded of the peer. -/
theorem eq_peerArtifact {ctrl : SnapshotController} {config : Config} {status : Status}
    {artifact : Artifact} (built : ctrl.artifact? config status = some artifact) {ip : Ip}
    {entry : PeerArtifact} (found : artifact.peer? ip = some entry)
    : entry = ctrl.peerArtifact ip := by
  obtain ⟨name, -, rfl⟩ := Option.map_eq_some_iff.mp built
  obtain ⟨⟨peer, shown⟩, listed, rfl⟩ := Option.map_eq_some_iff.mp found
  obtain ⟨other, -, same⟩ := List.mem_map.mp (List.mem_of_find?_eq_some listed)
  obtain ⟨rfl, rfl⟩ := Prod.mk.inj same
  have here : other = ip := by simpa using List.find?_some listed
  exact congrArg ctrl.peerArtifact here

/-- Every stored artifact stems from an episode that is over. -/
theorem Mesh.Shows.exhibited {net : Net Ip Bytes Held} (shows : mesh.Shows members cfg net)
    {ip : Ip} {id : Bytes} {artifact : Artifact}
    (posted : artifact ∈ postsOf (mesh ip).trace.control) (isFor : artifact.For id)
    : ∃ episode complete,
        (episode, complete) ∈ (net ip).past ∧ episode.id = id
        ∧ artifact.status = (if complete then .complete else .aborted)
        ∧ Exhibits (cfg ip) episode artifact := by
  obtain ⟨⟨episode, complete⟩, finished, status, exhibits⟩ :=
    exists_of_forall₂ (shows.shows ip).past.flip posted
  exact ⟨episode, complete, finished, exhibits.isFor.unique isFor, status, exhibits⟩

/-- However a snapshot ended at the two ends of a channel, a marker that the receiving end has
recorded stands where the sending end has put it.
-/
theorem Mesh.Shows.coordinates {net : Net Ip Bytes Held} (shows : mesh.Shows members cfg net)
    {id : Bytes} {source target : Ip} (distinct : source ≠ target)
    (sourceMember : source ∈ members) (targetMember : target ∈ members)
    {sender receiver : Artifact} (sent : sender ∈ postsOf (mesh source).trace.control)
    (sentFor : sender.For id) (received : receiver ∈ postsOf (mesh target).trace.control)
    (receivedFor : receiver.For id)
    : ∃ toTarget fromSource cut,
        sender.peer? target = some toTarget
        ∧ receiver.peer? source = some fromSource
        ∧ toTarget.sendSeq = some (cut + 1)
        ∧ (fromSource.recvSeq = none ∨ fromSource.recvSeq = some (cut + 1))
        ∧ (receiver.status = .complete → fromSource.recvSeq ≠ none) := by
  obtain ⟨episode, _, sentOver, rfl, -, exhibited⟩ := shows.exhibited sent sentFor
  obtain ⟨other, complete, receivedOver, same, status, exhibits⟩ :=
    shows.exhibited received receivedFor
  have sentListed := Node.mem_episodes_of_past sentOver
  have receivedListed := Node.mem_episodes_of_past receivedOver
  have toTarget := (shows.inv.node source).covers episode sentListed target targetMember
    (Ne.symm distinct)
  have fromSource := (shows.inv.node target).covers other receivedListed source sourceMember
    distinct
  refine ⟨_, _, episode.marked target, exhibited.peer target toTarget,
    exhibits.peer source fromSource, rfl, ?_, fun isComplete unclosed => ?_⟩
  · cases closed : other.closed source with
    | none => exact .inl rfl
    | some position =>
        obtain ⟨-, marked, -⟩ := shows.inv.agreement sentListed receivedListed same.symm closed
        exact .inr (by rw [marked]; rfl)
  · have done : complete = true := by
      cases complete with
      | true => rfl
      | false => cases isComplete.symm.trans status
    subst done
    have opened : other.Open source := ⟨fromSource, Option.map_eq_none_iff.mp unclosed⟩
    exact (shows.inv.node target).done other receivedOver source opened

/-- What a receiver answers one of three members about its own artifacts. -/
def Mesh.stored (mesh : Mesh) (ip : Ip) : Artifact :=
  (ownEntry (threeMembers ip) (postsOf (mesh ip).trace.control)).getD ⟨none, "", .aborted, []⟩

/-- Every one of three members has an artifact of snapshot `1`. -/
def Mesh.isStored (mesh : Mesh) : Bool :=
  [nodeA, nodeB, nodeC].all fun ip =>
    ownEntry (threeMembers ip) (postsOf (mesh ip).trace.control) == some (mesh.stored ip)
    && (mesh.stored ip).snapshotId == some "1"

theorem Mesh.posted_of_isStored (isStored : mesh.isStored = true)
    : ∀ ip ∈ [nodeA, nodeB, nodeC],
        mesh.stored ip ∈ postsOf (mesh ip).trace.control ∧ (mesh.stored ip).For [49]
        ∧ ownEntry (threeMembers ip) (postsOf (mesh ip).trace.control)
          = some (mesh.stored ip) := by
  simp only [Mesh.isStored, List.all_eq_true, Bool.and_eq_true, beq_iff_eq] at isStored
  intro ip member
  obtain ⟨own, isFirst⟩ := isStored ip member
  exact ⟨List.mem_of_find?_eq_some own, .for_first isFirst, own⟩

end MeshSnapshot
