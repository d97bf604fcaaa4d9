import MeshSnapshot.Snapshot.Simulation
import MeshSnapshot.Transport.ExactlyOnce

/-! A mesh of sidecars as a network of Chandy-Lamport processes, in runs in which the app sends
no markers and no aborted snapshot is revived. What holds of the network is then read off the
histories of the sidecars.
-/

namespace MeshSnapshot

open ChandyLamport Transport

variable {members : List Ip} {cfg : Ip → Config} {mesh next : Mesh}

-----------------------------------------------------------------------------------------
-- Histories of a mesh
-----------------------------------------------------------------------------------------

/-- Every START command names another snapshot, and is given to a member. -/
structure Mesh.DistinctStarts (members : List Ip) (mesh : Mesh) : Prop where
  once : ∀ ip, (commandsOf (mesh ip).trace.control).Nodup
  distinct
    : ∀ {ip other id},
        id ∈ commandsOf (mesh ip).trace.control → id ∈ commandsOf (mesh other).trace.control
        → ip = other
  member : ∀ {ip id}, id ∈ commandsOf (mesh ip).trace.control → ip ∈ members

/-- The START commands of a run were all given to `starter`, in this order. -/
def Mesh.StartsAt (mesh : Mesh) (starter : Ip) (ids : List Bytes) : Prop :=
  ∀ ip, commandsOf (mesh ip).trace.control = if ip = starter then ids else []

theorem Mesh.StartsAt.distinct {starter : Ip} {ids : List Bytes}
    (starts : mesh.StartsAt starter ids) (unique : ids.Nodup) (member : starter ∈ members)
    : mesh.DistinctStarts members where
  once ip := by
    rw [starts ip]
    split
    · exact unique
    · exact List.nodup_nil
  distinct := fun {ip other _} first second => by
    rw [starts] at first second
    by_cases here : ip = starter
    · by_cases there : other = starter
      · exact here.trans there.symm
      · simp [there] at second
    · simp [here] at first
  member := fun {ip _} listed => by
    rw [starts] at listed
    by_cases here : ip = starter
    · exact here ▸ member
    · simp [here] at listed

/-- No snapshot has been aborted. -/
def Mesh.NoAborts (mesh : Mesh) : Prop :=
  ∀ ip, ∀ artifact ∈ postsOf (mesh ip).trace.control, artifact.status = .complete

theorem Mesh.NoAborts.unrevived (noAborts : mesh.NoAborts) (ip : Ip)
    : ¬ Revives (mesh ip).trace.control := by
  rintro ⟨earlier, later, peer, seq, id, artifact, stored, split, posted, aborted, -⟩
  have logged : artifact ∈ postsOf (mesh ip).trace.control := by
    rw [split]
    exact mem_postsOf.mpr ⟨stored, List.mem_append_left _ posted⟩
  cases aborted.symm.trans (noAborts ip artifact logged)

/-- What a run must not have done for its sidecars to be processes of a network. -/
structure Mesh.Lawful (members : List Ip) (mesh : Mesh) : Prop where
  plain : ∀ ip, PlainSends (mesh ip).trace.sent
  unrevived : ∀ ip, ¬ Revives (mesh ip).trace.control
  starts : mesh.DistinctStarts members

/-- Between callbacks, the history of every sidecar only grows. -/
theorem Mesh.step_grows (reachable : Mesh.Reachable cfg mesh) {node : Ip} {callback : Callback}
    {host : Host} (stepped : mesh.step cfg node callback host = some next) (ip : Ip)
    : (mesh ip).journal.Grows (next ip).journal := by
  obtain ⟨-, s', called, rfl⟩ := step_eq_some.mp stepped
  by_cases here : ip = node
  · subst here
    rw [Function.update_self]
    exact (call_ok (reachable.run ip).balanced.recordsPlain called).grows
  · rw [Function.update_of_ne here]
    exact .refl _

theorem commandsOf_grows {control more : List ControlEvent} (grows : control <+: more)
    : commandsOf control <+: commandsOf more := by
  obtain ⟨rest, rfl⟩ := grows
  rw [commandsOf_append]
  exact List.prefix_append _ _

theorem Mesh.Lawful.before (lawful : next.Lawful members)
    (grows : ∀ ip, (mesh ip).journal.Grows (next ip).journal) : mesh.Lawful members where
  plain ip := (lawful.plain ip).before (grows ip).sent
  unrevived ip revives := lawful.unrevived ip (revives.after (grows ip).control)
  starts := {
    once := fun ip =>
      (lawful.starts.once ip).sublist (commandsOf_grows (grows ip).control).sublist
    distinct := fun first second =>
      lawful.starts.distinct ((commandsOf_grows (grows _).control).mem first)
        ((commandsOf_grows (grows _).control).mem second)
    member := fun listed => lawful.starts.member ((commandsOf_grows (grows _).control).mem listed)
  }

-----------------------------------------------------------------------------------------
-- The network behind a mesh
-----------------------------------------------------------------------------------------

/-- A network shows the snapshots of a mesh. -/
structure Mesh.Shows (members : List Ip) (cfg : Ip → Config) (mesh : Mesh)
    (net : Net Ip Bytes Held) : Prop where
  inv : net.Inv (memberSet members)
  shows : ∀ ip, (mesh ip).journal.Shows (cfg ip) ip (net ip)

/-- While a sidecar runs one callback, it passes no more of a channel than the channel held
before. This includes the channel of the sidecar to itself.
-/
theorem Mesh.step_fifo (reachable : Mesh.Reachable cfg mesh) {node : Ip} {callback : Callback}
    {host : Host} {s' : Sidecar} (stepped : mesh.step cfg node callback host
      = some (Function.update mesh node s'))
    (called : (mesh node).call (cfg node) callback host = some s')
    : s'.journal.Fifo (fun source => (heldTo (mesh source).trace.sent node).map toMsg) := by
  intro source
  obtain ⟨admitted, -⟩ := step_eq_some.mp stepped
  have links := linksRest_of_reachable reachable
  have moves := call_moves called (fun dst => (links node dst).ok.framed)
  have link := moves.receiver (links source node) fun isReceived framed =>
    ⟨_, admitted _ _ isReceived, framed⟩
  exact List.IsPrefix.map toMsg link.ok.inv.passed_prefix

theorem shows_started {own : Ip} {s : Sidecar} (config : (cfg own).Deployed members own)
    (starts : s.Starts (cfg own)) : s.journal.Shows (cfg own) own Node.start := by
  obtain ⟨isServer, selfIpCache, rfl, cache⟩ := starts.started
  exact {
    sent := fun _ => rfl
    counted := fun _ => by simp [Sidecar.journal, Sidecar.started, Sidecar.peer, heldTo]
    missed := fun _ member => by cases member
    idle := fun _ => ⟨rfl, rfl, rfl⟩
    recording := fun _ current => by cases current
    past := .nil
    begun := .nil
    selfIpCache := by
      rw [config.address] at cache
      exact cache
    consumed := fun _ => rfl
    commands := rfl
  }

theorem ordered_of_shows {net : Net Ip Bytes Held}
    (shows : ∀ ip, (net ip).commands = commandsOf (mesh ip).trace.control)
    (starts : mesh.DistinctStarts members) : net.Ordered (memberSet members) where
  once ip := by
    rw [shows]
    exact starts.once ip
  distinct first second := by
    rw [shows] at first second
    exact starts.distinct first second
  member listed := by
    rw [shows] at listed
    exact starts.member listed

theorem threeMembers_deployed (ip : Ip)
    : (threeMembers ip).Deployed [nodeA, nodeB, nodeC] ip where
  meshMembers := rfl
  unique := by decide
  noLoopback := by decide
  address := rfl
  meshSelf := .inl rfl

/-- An artifact that names snapshot `1` is one for the id that START commands carry as bytes. -/
theorem Artifact.For.for_first {artifact : Artifact} (isFirst : artifact.snapshotId = some "1")
    : artifact.For [49] := by
  rw [Artifact.For, isFirst]
  decide +kernel

/-- A run of three members in which one of them gets all START commands. -/
def Mesh.isStarted (mesh : Mesh) (starter : Ip) (ids : List Bytes) : Bool :=
  [nodeA, nodeB, nodeC].all fun ip =>
    decide (PlainSends (mesh ip).trace.sent)
    && commandsOf (mesh ip).trace.control == (if ip = starter then ids else [])

theorem Mesh.started_of_isStarted {starter : Ip} {ids : List Bytes}
    {calls : List (Ip × Callback × Host)}
    (ran : threeStarted.runAll threeMembers calls = some mesh)
    (callers : ∀ call ∈ calls, call.1 ∈ [nodeA, nodeB, nodeC])
    (isStarted : mesh.isStarted starter ids = true) (member : starter ∈ [nodeA, nodeB, nodeC])
    : (∀ ip, PlainSends (mesh ip).trace.sent) ∧ mesh.StartsAt starter ids := by
  simp only [Mesh.isStarted, Bool.and_eq_true, List.all_eq_true, decide_eq_true_eq, beq_iff_eq]
    at isStarted
  refine ⟨fun ip => ?_, fun ip => ?_⟩
  · refine forall_of_runAll (fun _ s => PlainSends s.trace.sent) ran callers ?_ ?_ ip
    · intro ip isServer cache call listed
      cases listed
    · exact fun ip listed => (isStarted ip listed).1
  · by_cases listed : ip ∈ [nodeA, nodeB, nodeC]
    · exact (isStarted ip listed).2
    · have idle := forall_of_runAll
        (fun ip s => ip ∉ [nodeA, nodeB, nodeC] → commandsOf s.trace.control = [])
        ran callers (fun _ _ _ _ => rfl) (fun ip listed absent => (absent listed).elim) ip listed
      have other : ip ≠ starter := by
        rintro rfl
        exact listed member
      rw [idle, if_neg other]

/-- Such a run without timeouts. -/
def Mesh.isRoutine (mesh : Mesh) (starter : Ip) (ids : List Bytes) : Bool :=
  mesh.isStarted starter ids
  && [nodeA, nodeB, nodeC].all fun ip =>
      (postsOf (mesh ip).trace.control).all (·.status == .complete)

theorem Mesh.routine_of_isRoutine {starter : Ip} {ids : List Bytes}
    {calls : List (Ip × Callback × Host)}
    (ran : threeStarted.runAll threeMembers calls = some mesh)
    (callers : ∀ call ∈ calls, call.1 ∈ [nodeA, nodeB, nodeC])
    (isRoutine : mesh.isRoutine starter ids = true) (member : starter ∈ [nodeA, nodeB, nodeC])
    : (∀ ip, PlainSends (mesh ip).trace.sent) ∧ mesh.StartsAt starter ids
      ∧ mesh.NoAborts := by
  obtain ⟨isStarted, complete⟩ := Bool.and_eq_true_iff.mp isRoutine
  obtain ⟨plain, starts⟩ := Mesh.started_of_isStarted ran callers isStarted member
  simp only [List.all_eq_true, beq_iff_eq] at complete
  refine ⟨plain, starts, fun ip => ?_⟩
  refine forall_of_runAll (fun _ s => ∀ artifact ∈ postsOf s.trace.control,
    artifact.status = .complete) ran callers ?_ complete ip
  intro ip isServer cache artifact listed
  cases listed

theorem Mesh.lawful_of_isRoutine {starter : Ip} {ids : List Bytes}
    {calls : List (Ip × Callback × Host)}
    (ran : threeStarted.runAll threeMembers calls = some mesh)
    (callers : ∀ call ∈ calls, call.1 ∈ [nodeA, nodeB, nodeC])
    (isRoutine : mesh.isRoutine starter ids = true) (member : starter ∈ [nodeA, nodeB, nodeC])
    (unique : ids.Nodup) : mesh.StartsAt starter ids ∧ mesh.Lawful [nodeA, nodeB, nodeC] := by
  obtain ⟨plain, starts, noAborts⟩ := Mesh.routine_of_isRoutine ran callers isRoutine member
  exact ⟨starts, plain, noAborts.unrevived, starts.distinct unique member⟩

/-- What has been sent to a sidecar is what its process can receive. -/
theorem Mesh.Shows.queued {net : Net Ip Bytes Held} (shows : mesh.Shows members cfg net)
    (ip source : Ip)
    : (heldTo (mesh source).trace.sent ip).map toMsg <+: (net source).sent ip := by
  rw [(shows.shows source).sent]
  exact List.prefix_rfl

/-- One callback of a sidecar is a number of steps of its process. -/
theorem Mesh.Shows.step {net : Net Ip Bytes Held} (shows : mesh.Shows members cfg net)
    (deployed : ∀ ip, (cfg ip).Deployed members ip) (reachable : Mesh.Reachable cfg mesh)
    {node : Ip} {callback : Callback} {host : Host}
    (stepped : mesh.step cfg node callback host = some next) (lawful : next.Lawful members)
    : ∃ part,
        Node.Steps (memberSet members) node
            (fun source => (heldTo (mesh source).trace.sent node).map toMsg) (net node) part
        ∧ next.Shows members cfg (Function.update net node part) := by
  obtain ⟨-, s', called, rfl⟩ := step_eq_some.mp stepped
  have balanced := (reachable.run node).balanced
  have plain := lawful.plain node
  have unrevived := lawful.unrevived node
  rw [Function.update_self] at plain unrevived
  obtain ⟨part, steps, shown⟩ := (call_ok balanced.recordsPlain called).simulated
    (deployed node) (shows.shows node) balanced.counted (shows.inv.node node) plain unrevived
    (step_fifo reachable stepped called)
  have shownAll (ip : Ip) : (Function.update mesh node s' ip).journal.Shows (cfg ip) ip
      (Function.update net node part ip) := by
    by_cases here : ip = node
    · subst here
      rw [Function.update_self, Function.update_self]
      exact shown
    · rw [Function.update_of_ne here, Function.update_of_ne here]
      exact shows.shows ip
  have netSteps := Net.Steps.of_node (shows.queued node) steps
  exact ⟨part, steps, shows.inv.steps netSteps
    (ordered_of_shows (fun ip => (shownAll ip).commands) lawful.starts), shownAll⟩

/-- Every reachable state with a lawful history is that of a network of processes that has run. -/
theorem Mesh.Reachable.network (deployed : ∀ ip, (cfg ip).Deployed members ip)
    (reachable : Mesh.Reachable cfg mesh) (lawful : mesh.Lawful members)
    : ∃ net,
        Net.Steps (memberSet members) (fun _ => .start) net ∧ mesh.Shows members cfg net := by
  induction reachable with
  | init starts =>
      exact ⟨_, .refl, .start, fun ip => shows_started (deployed ip) (starts ip)⟩
  | step node callback host reachable stepped ih =>
      obtain ⟨net, steps, shows⟩ := ih (lawful.before (step_grows reachable stepped))
      obtain ⟨part, more, shows'⟩ := shows.step deployed reachable stepped lawful
      exact ⟨_, steps.trans (Net.Steps.of_node (shows.queued node) more), shows'⟩

theorem Mesh.Reachable.shows (deployed : ∀ ip, (cfg ip).Deployed members ip)
    (reachable : Mesh.Reachable cfg mesh) (lawful : mesh.Lawful members)
    : ∃ net, mesh.Shows members cfg net := by
  obtain ⟨net, -, shows⟩ := reachable.network deployed lawful
  exact ⟨net, shows⟩

-----------------------------------------------------------------------------------------
-- Reading the network off the histories
-----------------------------------------------------------------------------------------

/-- A sidecar has posted this artifact for the snapshot `id`. -/
structure Sidecar.Posted (s : Sidecar) (id : Bytes) (status : Status) (artifact : Artifact)
    : Prop where
  logged : artifact ∈ postsOf s.trace.control
  isFor : artifact.For id
  status : artifact.status = status

namespace Mesh.Shows

variable {net : Net Ip Bytes Held} {ip : Ip} {id : Bytes}

/-- A complete artifact stems from an episode that is over and complete. -/
theorem posted (shows : mesh.Shows members cfg net) {artifact : Artifact}
    (posted : (mesh ip).Posted id .complete artifact)
    : ∃ episode,
        (episode, true) ∈ (net ip).past ∧ episode.id = id ∧ Exhibits (cfg ip) episode artifact := by
  obtain ⟨⟨episode, complete⟩, finished, status, exhibits⟩ :=
    exists_of_forall₂ (shows.shows ip).past.flip posted.logged
  cases complete with
  | false => cases posted.status.symm.trans status
  | true => exact ⟨episode, finished, exhibits.isFor.unique posted.isFor, exhibits⟩

/-- Every episode that is over has left its artifact. -/
theorem posts (shows : mesh.Shows members cfg net) {episode : Episode Ip Bytes Held}
    {complete : Bool} (finished : (episode, complete) ∈ (net ip).past)
    : ∃ artifact,
        (mesh ip).Posted episode.id (if complete then .complete else .aborted) artifact := by
  obtain ⟨artifact, logged, status, exhibits⟩ := exists_of_forall₂ (shows.shows ip).past finished
  exact ⟨artifact, logged, exhibits.isFor, status⟩

/-- Every entry of the snapshot-start branch belongs to an episode of its own. -/
theorem ids (shows : mesh.Shows members cfg net) (ip : Ip)
    : (net ip).ids = (beginsOf (mesh ip).trace.control).map Prod.fst := by
  have begun := (shows.shows ip).begun
  rw [List.forall₂_map_left_iff] at begun
  refine List.forall₂_eq_eq_eq ▸ ?_
  rw [Node.ids, List.forall₂_map_left_iff, List.forall₂_map_right_iff]
  exact begun.imp fun _ _ holds => holds.1

/-- No snapshot has begun twice at one sidecar. -/
theorem begins_once (shows : mesh.Shows members cfg net) (ip : Ip)
    : ((beginsOf (mesh ip).trace.control).map Prod.fst).Nodup :=
  shows.ids ip ▸ shows.inv.unique ip

/-- An episode shows how many packets had been passed when it began. -/
theorem began (shows : mesh.Shows members cfg net) {episode : Episode Ip Bytes Held}
    (listed : episode ∈ (net ip).episodes)
    : ∃ passed,
        (episode.id, passed) ∈ beginsOf (mesh ip).trace.control
        ∧ ∀ source,
            episode.began source
              = (heldFrom ((mesh ip).trace.consumed.take passed) source).length := by
  obtain ⟨⟨_, passed⟩, logged, rfl, -, began⟩ := exists_of_forall₂
    (shows.shows ip).begun (List.mem_map_of_mem listed)
  exact ⟨passed, logged, began⟩

end Mesh.Shows

end MeshSnapshot
