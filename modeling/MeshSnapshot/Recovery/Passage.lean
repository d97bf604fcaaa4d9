import MeshSnapshot.Library.ChandyLamport.Passage
import MeshSnapshot.Recovery.Resumption
import MeshSnapshot.Snapshot.Agreement
import MeshSnapshot.Snapshot.Network

/-! What a complete snapshot records is a state that the mesh could have been in: in some order of
what happened at different members, the mesh passes from its start through the recorded cut, with
the recorded messages under way, to its present state.
-/

namespace MeshSnapshot

open ChandyLamport Histories

variable {members : List Ip} {cfg : Ip → Config} {mesh next : Mesh} {id : Bytes}

abbrev Happening := Event Ip Bytes Held

/-- What a sidecar has sent to `ip` apart from markers. -/
def Sidecar.plainTo (s : Sidecar) (ip : Ip) : List Held :=
  (heldTo s.trace.sent ip).filter (fun held => !isMarker held)

/-- What the stream of `ip` has passed apart from markers. -/
def Sidecar.plainFrom (s : Sidecar) (ip : Ip) : List Held :=
  (heldFrom s.trace.consumed ip).filter (fun held => !isMarker held)

/-- The snapshots that a sidecar has begun. -/
def Sidecar.begun (s : Sidecar) : List Bytes := (beginsOf s.trace.control).map Prod.fst

/-- What a sidecar does in one callback. -/
structure Sidecar.Does (s : Sidecar) (events : List Happening) (next : Sidecar) : Prop where
  sent : ∀ ip, next.plainTo ip = s.plainTo ip ++ sentTo ip events
  received : ∀ ip, next.plainFrom ip = s.plainFrom ip ++ receivedFrom ip events
  begun : next.begun = s.begun ++ labels events

/-- A run of a mesh, with what has happened at each sidecar. -/
inductive Mesh.History (cfg : Ip → Config) : Mesh → (Ip → List Happening) → Prop where
  | start {mesh : Mesh} (starts : ∀ ip, (mesh ip).Starts (cfg ip)) : History cfg mesh fun _ => []
  | step {mesh next : Mesh} {histories : Ip → List Happening} {node : Ip} {callback : Callback}
    {host : Host} {events : List Happening} (before : History cfg mesh histories)
    (stepped : mesh.step cfg node callback host = some next)
    (does : (mesh node).Does events (next node))
    : History cfg next (Function.update histories node (histories node ++ events))

-----------------------------------------------------------------------------------------
-- Sidecars as processes
-----------------------------------------------------------------------------------------

theorem dataOf_toMsg (stream : List Held)
    : dataOf (stream.map toMsg) = stream.filter (fun held => !isMarker held) := by
  induction stream with
  | nil => rfl
  | cons held rest ih =>
      rw [List.map_cons, ← List.singleton_append, dataOf_append, ih]
      cases shown : markerId? held.payload with
      | none => simp [toMsg_data shown, isMarker, shown]
      | some id => simp [toMsg_marker shown, isMarker, shown]

theorem Mesh.Shows.plainTo {net : Net Ip Bytes Held} (shows : mesh.Shows members cfg net)
    (ip peer : Ip) : (mesh ip).plainTo peer = dataOf ((net ip).sent peer) := by
  rw [(shows.shows ip).sent, dataOf_toMsg]
  rfl

theorem Mesh.Shows.plainFrom {net : Net Ip Bytes Held} (shows : mesh.Shows members cfg net)
    (ip peer : Ip) : (mesh ip).plainFrom peer = dataOf ((net ip).consumed peer) := by
  rw [(shows.shows ip).consumed, dataOf_toMsg]
  rfl

/-- What a process does, its sidecar does. -/
theorem Mesh.Shows.does {net net' : Net Ip Bytes Held} (shows : mesh.Shows members cfg net)
    (shows' : next.Shows members cfg net') {ip : Ip} {events : List Happening}
    (acts : (net ip).Acts events (net' ip)) : (mesh ip).Does events (next ip) where
  sent peer := by
    rw [shows'.plainTo, shows.plainTo, acts.sent]
  received peer := by
    rw [shows'.plainFrom, shows.plainFrom, acts.received]
  begun := by
    have before := shows.ids ip
    have after := shows'.ids ip
    rw [Sidecar.begun, Sidecar.begun, ← before, ← after, acts.began]

/-- A mesh has a history, which is that of the network it shows. -/
theorem Mesh.Reachable.traced (deployed : ∀ ip, (cfg ip).Deployed members ip)
    (reachable : Mesh.Reachable cfg mesh) (lawful : mesh.Lawful members)
    : ∃ net histories,
        mesh.Shows members cfg net
        ∧ Mesh.History cfg mesh histories
        ∧ net.Traced (memberSet members) histories := by
  induction reachable with
  | init starts =>
      exact ⟨_, _, ⟨.start, fun ip => shows_started (deployed ip) (starts ip)⟩, .start starts, .start⟩
  | @step before after node callback host reachable stepped ih =>
      obtain ⟨net, histories, shows, history, traced⟩ :=
        ih (lawful.before (step_grows reachable stepped))
      obtain ⟨part, steps, shows'⟩ := shows.step deployed reachable stepped lawful
      obtain ⟨events, acts, traced'⟩ := traced.steps (shows.queued node) steps
      have does : (before node).Does events (after node) :=
        shows.does shows' (by rwa [Function.update_self])
      exact ⟨_, _, shows', .step history stepped does, traced'⟩

-----------------------------------------------------------------------------------------
-- The recorded state
-----------------------------------------------------------------------------------------

/-- The members pass through the cut of a snapshot with the artifacts `stored`. What a member has
sent by then is what it sent below its coordinate of the channel, and what it has not received of
that is the recorded channel.
-/
structure Mesh.PassesThrough (members : List Ip) (mesh : Mesh) (id : Bytes) (stored : Ip → Artifact)
    (histories cut : Ip → List Happening) : Prop where
  before : ∀ ip ∈ members, cut ip ++ [.internal id] <+: histories ip
  reached : Histories.Steps (memberSet members) (fun _ => []) cut
  left : Histories.Steps (memberSet members) cut histories
  sent
    : ∀ source ∈ members, ∀ target ∈ members,
        source ≠ target
        → sentTo target (cut source)
          = ((heldTo (mesh source).trace.sent target).take ((stored source).cutTo target)).filter
              (fun held => !isMarker held)
  channel
    : ∀ source ∈ members, ∀ target ∈ members,
        source ≠ target
        → sentTo target (cut source)
          = receivedFrom source (cut target) ++ (stored target).channelFrom source

/-- A channel that was recorded in order is what a restore replays. -/
theorem Artifact.channelFrom_of_increasing {artifact : Artifact} {ip : Ip} {entry : PeerArtifact}
    (found : artifact.peer? ip = some entry) {recorded : List (Nat × Held)}
    (shown : entry.channel = recorded.map fun message => encodeRecorded (toRecorded message))
    (increasing : Deferral.Increasing recorded)
    : artifact.channelFrom ip = recorded.map Prod.snd := by
  have sorted : (recorded.map toRecorded).Pairwise (fun a b => a.seq ≤ b.seq) :=
    List.pairwise_map.mpr (increasing.imp fun less => Nat.le_of_lt less)
  have kept : sortRecorded (recorded.map toRecorded) = recorded.map toRecorded :=
    sorted.insertionSort_eq
  have encoded : (recorded.map toRecorded).map encodeRecorded
      = recorded.map fun message => encodeRecorded (toRecorded message) :=
    List.map_map
  rw [Artifact.channelFrom, found, Option.map_some, Option.getD_some, shown, ← encoded,
    sortChannel_encode, kept, filterMap_held?_encode, List.map_map]
  rfl

/-- All members have recorded a snapshot that all of them have completed. -/
theorem Mesh.Shows.recorded {net : Net Ip Bytes Held} (shows : mesh.Shows members cfg net)
    {stored : Ip → Artifact} (completed : ∀ ip ∈ members, (mesh ip).Posted id .complete (stored ip))
    : net.Recorded (memberSet members) id := by
  intro own member
  obtain ⟨episode, past, same, -⟩ := shows.posted (completed own member)
  have listed := Node.mem_episodes_of_past past
  refine ⟨episode, listed, same, fun source sourceMember distinct => ?_⟩
  have covered := (shows.inv.node own).covers episode listed source sourceMember distinct
  cases closed : episode.closed source with
  | some position => exact ⟨position, rfl⟩
  | none => exact ((shows.inv.node own).done episode past source ⟨covered, closed⟩).elim

/-- What was recorded of a channel is numbered in its order. -/
theorem Mesh.Shows.recorded_increasing {net : Net Ip Bytes Held}
    (shows : mesh.Shows members cfg net) {stored : Ip → Artifact}
    (completed : ∀ ip ∈ members, (mesh ip).Posted id .complete (stored ip)) {source target : Ip}
    (sourceMember : source ∈ members) (targetMember : target ∈ members) (distinct : source ≠ target)
    {sender receiver : Episode Ip Bytes Held} (sent : sender ∈ (net source).episodes)
    (received : receiver ∈ (net target).episodes) (sentId : sender.id = id)
    (receivedId : receiver.id = id)
    : Deferral.Increasing (receiver.recorded source) := by
  obtain ⟨other, listed, otherId, closed⟩ := shows.recorded completed target targetMember
  obtain rfl := shows.inv.same received listed (receivedId.trans otherId.symm)
  obtain ⟨position, closed⟩ := closed source sourceMember distinct
  obtain ⟨-, -, -, recorded⟩ :=
    shows.inv.agreement sent received (sentId.trans receivedId.symm) closed
  rw [recorded, (shows.shows source).sent, between_toMsg]
  exact (Deferral.numbered_increasing _).filter _

/-- A complete snapshot records a state that the mesh could have passed through. -/
theorem Mesh.Reachable.snapshot_passed (deployed : ∀ ip, (cfg ip).Deployed members ip)
    (reachable : Mesh.Reachable cfg mesh) (lawful : mesh.Lawful members) {stored : Ip → Artifact}
    (completed : ∀ ip ∈ members, (mesh ip).Posted id .complete (stored ip))
    : ∃ histories cut,
        Mesh.History cfg mesh histories ∧ mesh.PassesThrough members id stored histories cut := by
  obtain ⟨net, histories, shows, history, traced⟩ := reachable.traced deployed lawful
  obtain ⟨cut, passes⟩ := traced.passes shows.inv (shows.recorded completed)
  refine ⟨histories, cut, history, passes.before, passes.reached, passes.left, ?_, ?_⟩
  all_goals
    intro source sourceMember target targetMember distinct
    obtain ⟨sender, sentOver, sentId, exhibited⟩ := shows.posted (completed source sourceMember)
    obtain ⟨receiver, receivedOver, receivedId, exhibits⟩ :=
      shows.posted (completed target targetMember)
    have sent := Node.mem_episodes_of_past sentOver
    have received := Node.mem_episodes_of_past receivedOver
    obtain ⟨below, inFlight⟩ := passes.channel source sourceMember target targetMember distinct
      sender sent receiver received sentId receivedId
  · have covered := (shows.inv.node source).covers sender sent target targetMember
      (Ne.symm distinct)
    have cutTo : (stored source).cutTo target = sender.marked target + 1 := by
      simp [Artifact.cutTo, exhibited.peer target covered]
    have marker := (shows.inv.marker_at_iff sent covered).mpr rfl
    have stream : (net source).sent target = (heldTo (mesh source).trace.sent target).map toMsg :=
      (shows.shows source).sent target
    rw [below, cutTo, ← dataOf_toMsg, List.map_take, ← stream, List.take_add_one, marker]
    simp
  · have covered := (shows.inv.node target).covers receiver received source sourceMember distinct
    rw [inFlight, Artifact.channelFrom_of_increasing (exhibits.peer source covered) rfl
      (shows.recorded_increasing completed sourceMember targetMember distinct sent received
        sentId receivedId)]

/-- In the recorded state, the message from A to B is under way. -/
theorem Mesh.Reachable.snapshot_passed_crossingCalls
    : ∃ (mesh : Mesh) (histories cut : Ip → List Happening),
        threeStarted.runAll threeMembers crossingCalls = some mesh
        ∧ mesh.PassesThrough [nodeA, nodeB, nodeC] [49] mesh.stored histories cut
        ∧ sentTo nodeB (cut nodeA)
          = receivedFrom nodeA (cut nodeB) ++ [⟨[109], 5000, 5000, nodeB⟩] := by
  have ran : (threeStarted.runAll threeMembers crossingCalls).any (fun mesh =>
      mesh.isRoutine nodeA [[49]] && mesh.isStored
      && [nodeA, nodeB, nodeC].all (fun ip => (mesh.stored ip).status == .complete)
      && (mesh.stored nodeB).channelFrom nodeA == [⟨[109], 5000, 5000, nodeB⟩])
      = true := by
    decide +kernel
  obtain ⟨mesh, ran, shown⟩ := (Option.any_eq_true _ _).mp ran
  simp only [Bool.and_eq_true, List.all_eq_true, beq_iff_eq] at shown
  obtain ⟨⟨⟨routine, isStored⟩, complete⟩, channel⟩ := shown
  have callers : ∀ call ∈ crossingCalls, call.1 ∈ [nodeA, nodeB, nodeC] := by decide
  have reachable := (Mesh.Reachable.init threeStarted_starts).runAll ran
  obtain ⟨-, lawful⟩ :=
    Mesh.lawful_of_isRoutine ran callers routine List.mem_cons_self (List.nodup_singleton _)
  have completed : ∀ ip ∈ [nodeA, nodeB, nodeC],
      (mesh ip).Posted [49] .complete (mesh.stored ip) := by
    intro ip member
    obtain ⟨posted, isFor, -⟩ := Mesh.posted_of_isStored isStored ip member
    exact ⟨posted, isFor, complete ip member⟩
  obtain ⟨histories, cut, -, passes⟩ :=
    reachable.snapshot_passed threeMembers_deployed lawful completed
  refine ⟨mesh, histories, cut, ran, passes, ?_⟩
  rw [passes.channel nodeA (by decide) nodeB (by decide) (by decide), channel]

end MeshSnapshot
