import MeshSnapshot.Snapshot.Agreement

/-! Every wave of markers closes once nothing is in flight, unless a member has discarded a
marker because it was recording another snapshot.
-/

namespace MeshSnapshot

open ChandyLamport

variable {members : List Ip} {cfg : Ip → Config} {mesh : Mesh} {net : Net Ip Bytes Held}
  {id : Bytes}

/-- Members have acknowledged everything that was sent to them by members. -/
def Mesh.Quiescent (members : List Ip) (mesh : Mesh) : Prop :=
  ∀ source ∈ members, ∀ target ∈ members, ((mesh source).peer target).unacked = ∅

/-- The marker fan-out of a snapshot, as far as it concerns one channel. -/
def markersIn (id : Bytes) (stream : List (Nat × Held)) : List (Nat × Held) :=
  stream.filter fun entry => markerId? entry.2.payload = some id

namespace Mesh.Shows

theorem quiet (shows : mesh.Shows members cfg net) (reachable : Mesh.Reachable cfg mesh)
    (quiescent : mesh.Quiescent members) (unmissed : ∀ ip, (net ip).missed = [])
    : net.Quiet (memberSet members) where
  drained source sourceMember target targetMember := by
    have settled := quiescent source sourceMember target targetMember
    have same := (reachable.passes_all settled).1
    have streams : heldFrom (mesh target).trace.consumed source
        = heldTo (mesh source).trace.sent target := by
      rw [← map_snd_packetsOf, same]
      exact Deferral.map_snd_numbered _
    rw [(shows.shows target).consumed, (shows.shows source).sent]
    exact congrArg (List.map toMsg) streams
  unmissed := unmissed

/-- Without aborts, the episodes that are over are complete. -/
theorem complete (shows : mesh.Shows members cfg net) (noAborts : mesh.NoAborts) {ip : Ip}
    {episode : Episode Ip Bytes Held} {complete : Bool}
    (finished : (episode, complete) ∈ (net ip).past)
    : complete = true := by
  obtain ⟨artifact, logged, -, status⟩ := shows.posts finished
  cases complete with
  | true => rfl
  | false => cases status.symm.trans (noAborts ip artifact logged)

/-- A snapshot that was commanded somewhere is over at every member of a quiet network. -/
theorem finished (shows : mesh.Shows members cfg net) (noAborts : mesh.NoAborts)
    (quiet : net.Quiet (memberSet members)) {starter ip : Ip}
    (commanded : id ∈ commandsOf (mesh starter).trace.control) (member : ip ∈ members)
    : ∃ episode, (episode, true) ∈ (net ip).past ∧ episode.id = id := by
  obtain ⟨episode, listed, same⟩ :=
    shows.inv.spreads quiet ((shows.shows starter).commands ▸ commanded) member
  rw [Node.episodes_of_idle (shows.inv.closes quiet)] at listed
  obtain ⟨⟨_, complete⟩, past, rfl⟩ := List.mem_map.mp listed
  exact ⟨_, shows.complete noAborts past ▸ past, same⟩

/-- What is left of a snapshot at a member that has no current episode. -/
theorem idle (shows : mesh.Shows members cfg net) {ip : Ip} (idle : (net ip).current = none)
    : (mesh ip).ctrl.isSnapshotting = false ∧ (mesh ip).ctrl.channelStates = ∅ :=
  ⟨((shows.shows ip).idle idle).isSnapshotting, ((shows.shows ip).idle idle).channelStates⟩

/-- An episode that is over has sent one marker on every channel of its cut. -/
theorem markersIn_singleton (shows : mesh.Shows members cfg net) {source target : Ip}
    {episode : Episode Ip Bytes Held} (listed : episode ∈ (net source).episodes)
    (covered : target ∈ episode.cut)
    : ∃ entry, markersIn episode.id (numberedTo (mesh source) target) = [entry] := by
  have stream := (shows.shows source).sent target
  have sent := (shows.inv.marker_at_iff listed covered).mpr rfl
  rw [stream, List.getElem?_map] at sent
  obtain ⟨held, found, isMarker⟩ := Option.map_eq_some_iff.mp sent
  refine ⟨(episode.marked target, held), ?_⟩
  have unique : (numberedTo (mesh source) target).filter
      (fun entry => entry.1 = episode.marked target) = [(episode.marked target, held)] :=
    Deferral.filter_numbered found rfl
  rw [← unique]
  refine List.filter_congr fun entry member => decide_eq_decide.mpr ?_
  obtain ⟨position, other⟩ := entry
  have there : (heldTo (mesh source).trace.sent target)[position]? = some other :=
    (Deferral.mem_numbered.mp member).1
  rw [eq_comm (b := episode.marked target), ← shows.inv.marker_at_iff listed covered, stream,
    List.getElem?_map, Sidecar.journal, there, Option.map_some, Option.some.injEq]
  exact ⟨toMsg_marker, markerId?_of_toMsg⟩

end Mesh.Shows

-----------------------------------------------------------------------------------------
-- A single wave
-----------------------------------------------------------------------------------------

theorem eq_singleton_of_nodup {α : Type} {list : List α} {a : α} (unique : list.Nodup)
    (member : a ∈ list) (only : ∀ b ∈ list, b = a) : list = [a] := by
  have repeated := List.eq_replicate_of_mem only
  rw [repeated, List.nodup_replicate] at unique
  have here := List.length_pos_of_mem member
  rw [repeated, Nat.le_antisymm unique here]
  rfl

/-- There is no other snapshot for which the only one could be missed. -/
theorem Mesh.Shows.unmissed (shows : mesh.Shows members cfg net) {starter : Ip}
    (starts : mesh.StartsAt starter [id]) : ∀ ip, (net ip).missed = [] := by
  have only (ip : Ip) (other : Bytes) (listed : other ∈ (net ip).commands) : other = id := by
    rw [(shows.shows ip).commands, Sidecar.journal, starts] at listed
    split at listed
    · exact List.mem_singleton.mp listed
    · cases listed
  exact shows.inv.unmissed only

/-- The only snapshot of a quiet network has left one complete artifact at every member. -/
theorem Mesh.Shows.posts_singleton (shows : mesh.Shows members cfg net)
    (noAborts : mesh.NoAborts) (quiet : net.Quiet (memberSet members)) {starter ip : Ip}
    (starts : mesh.StartsAt starter [id]) (member : ip ∈ members)
    : ∃ artifact,
        postsOf (mesh ip).trace.control = [artifact] ∧ artifact.For id
        ∧ artifact.status = .complete := by
  have commanded : id ∈ commandsOf (mesh starter).trace.control := by
    rw [starts, if_pos rfl]
    exact List.mem_cons_self
  obtain ⟨episode, past, rfl⟩ := shows.finished noAborts quiet commanded member
  obtain ⟨artifact, posted⟩ := shows.posts past
  have ids : (net ip).ids = [episode.id] := by
    refine eq_singleton_of_nodup (shows.inv.unique ip)
      (List.mem_map_of_mem (Node.mem_episodes_of_past past)) fun other listed => ?_
    obtain ⟨commander, known⟩ := shows.inv.commanded ip other listed
    rw [(shows.shows commander).commands, Sidecar.journal, starts] at known
    split at known
    · exact List.mem_singleton.mp known
    · cases known
  have length : (postsOf (mesh ip).trace.control).length = 1 := by
    have past : (net ip).past.length = 1 := by
      have whole := congrArg List.length ids
      rw [Node.ids, Node.episodes_of_idle (shows.inv.closes quiet)] at whole
      simpa using whole
    exact (shows.shows ip).past.length_eq.symm.trans past
  obtain ⟨other, only⟩ := List.length_eq_one_iff.mp length
  have logged := posted.logged
  rw [only, List.mem_singleton] at logged
  exact ⟨artifact, logged ▸ only, posted.isFor, posted.status⟩

/-- Once a single START has been processed and everything is acknowledged, the snapshot is
complete everywhere, and every two members have exchanged one marker.
-/
theorem Mesh.Reachable.wave_closes (deployed : ∀ ip, (cfg ip).Deployed members ip)
    (reachable : Mesh.Reachable cfg mesh) {starter : Ip} (started : starter ∈ members)
    (starts : mesh.StartsAt starter [id]) (plain : ∀ ip, PlainSends (mesh ip).trace.sent)
    (noAborts : mesh.NoAborts) (quiescent : mesh.Quiescent members)
    : (∀ ip ∈ members,
        (∃ artifact,
          postsOf (mesh ip).trace.control = [artifact] ∧ artifact.For id
          ∧ artifact.status = .complete)
        ∧ (mesh ip).ctrl.isSnapshotting = false
        ∧ (mesh ip).ctrl.channelStates = ∅)
      ∧ ∀ source ∈ members, ∀ target ∈ members,
          source ≠ target
          → ∃ marker,
              markersIn id (numberedTo (mesh source) target) = [marker]
              ∧ markersIn id (packetsOf (mesh target).trace.consumed source) = [marker] := by
  obtain ⟨net, shows⟩ :=
    reachable.shows deployed ⟨plain, noAborts.unrevived, starts.distinct (List.nodup_singleton id) started⟩
  have quiet := shows.quiet reachable quiescent (shows.unmissed starts)
  have commanded : id ∈ commandsOf (mesh starter).trace.control := by
    rw [starts, if_pos rfl]
    exact List.mem_cons_self
  refine ⟨fun ip member => ?_, fun source sourceMember target targetMember distinct => ?_⟩
  · exact ⟨shows.posts_singleton noAborts quiet starts member, shows.idle (shows.inv.closes quiet)⟩
  · obtain ⟨episode, past, rfl⟩ := shows.finished noAborts quiet commanded sourceMember
    have listed := Node.mem_episodes_of_past past
    obtain ⟨marker, only⟩ := shows.markersIn_singleton listed
      ((shows.inv.node source).covers episode listed target targetMember (Ne.symm distinct))
    refine ⟨marker, only, ?_⟩
    rw [(reachable.passes_all (quiescent source sourceMember target targetMember)).1]
    exact only

/-- The acknowledgements that are due after `crossingCalls`. -/
def crossingAcks : List (Ip × Callback × Host) := [
  (nodeA, .received (packAck 0) nodeB, {}),
  (nodeA, .received (packAck 1) nodeB, {}),
  (nodeA, .received (packAck 0) nodeC, {}),
  (nodeB, .received (packAck 0) nodeA, {}),
  (nodeB, .received (packAck 0) nodeC, {}),
  (nodeC, .received (packAck 0) nodeA, {}),
  (nodeC, .received (packAck 0) nodeB, {})
]

/-- Nothing is unacknowledged between any two of three members. -/
def Mesh.isQuiescent (mesh : Mesh) : Bool :=
  [nodeA, nodeB, nodeC].all fun source =>
    [nodeA, nodeB, nodeC].all fun target => ((mesh source).peer target).unacked.size == 0

theorem Mesh.quiescent_of_isQuiescent (isQuiescent : mesh.isQuiescent = true)
    : mesh.Quiescent [nodeA, nodeB, nodeC] := by
  simp only [Mesh.isQuiescent, List.all_eq_true, beq_iff_eq] at isQuiescent
  exact fun source sourceMember target targetMember =>
    Dict.eq_empty_of_size (isQuiescent source sourceMember target targetMember)

theorem Mesh.Reachable.wave_closes_crossingCalls
    : ∃ mesh : Mesh,
        threeStarted.runAll threeMembers (crossingCalls ++ crossingAcks) = some mesh
        ∧ ∀ ip ∈ [nodeA, nodeB, nodeC], (mesh ip).ctrl.isSnapshotting = false := by
  have ran : (threeStarted.runAll threeMembers (crossingCalls ++ crossingAcks)).any
      (fun mesh => mesh.isRoutine nodeA [[49]] && mesh.isQuiescent) = true := by
    decide +kernel
  obtain ⟨mesh, ran, shown⟩ := (Option.any_eq_true _ _).mp ran
  obtain ⟨routine, isQuiescent⟩ := Bool.and_eq_true_iff.mp shown
  have callers : ∀ call ∈ crossingCalls ++ crossingAcks, call.1 ∈ [nodeA, nodeB, nodeC] := by
    decide
  have reachable := (Mesh.Reachable.init threeStarted_starts).runAll ran
  obtain ⟨plain, starts, noAborts⟩ :=
    Mesh.routine_of_isRoutine ran callers routine List.mem_cons_self
  have closes := reachable.wave_closes threeMembers_deployed List.mem_cons_self starts plain
    noAborts (Mesh.quiescent_of_isQuiescent isQuiescent)
  exact ⟨mesh, ran, fun ip member => (closes.1 ip member).2.1⟩

-----------------------------------------------------------------------------------------
-- Several waves
-----------------------------------------------------------------------------------------

/-- A snapshot is heard of while another one is being recorded. -/
def Discards (control : List ControlEvent) : Prop :=
  ∃ peer seq id recorded, .heard peer seq id (some recorded) ∈ control ∧ recorded ≠ id

instance (control : List ControlEvent) : Decidable (Discards control) :=
  decidable_of_iff
    (control.any fun
      | .heard _ _ id (some recorded) => recorded != id
      | _ => false)
    (by
      simp only [List.any_eq_true, Discards]
      constructor
      · rintro ⟨event, logged, other⟩
        split at other
        case h_1 peer seq id recorded => exact ⟨peer, seq, id, recorded, logged, by simpa using other⟩
        case h_2 => cases other
      · rintro ⟨peer, seq, id, recorded, logged, other⟩
        exact ⟨_, logged, by simpa using other⟩)

/-- If no member has discarded the marker of any snapshot, every snapshot is complete at every
member once everything is acknowledged.
-/
theorem Mesh.Reachable.waves_close (deployed : ∀ ip, (cfg ip).Deployed members ip)
    (reachable : Mesh.Reachable cfg mesh) (starts : mesh.DistinctStarts members)
    (plain : ∀ ip, PlainSends (mesh ip).trace.sent) (noAborts : mesh.NoAborts)
    (noDiscards : ∀ ip, ¬ Discards (mesh ip).trace.control)
    (quiescent : mesh.Quiescent members)
    : ∀ ip ∈ members,
        (mesh ip).ctrl.isSnapshotting = false
        ∧ ∀ starter, ∀ id ∈ commandsOf (mesh starter).trace.control,
            ∃ artifact, (mesh ip).Posted id .complete artifact := by
  obtain ⟨net, shows⟩ := reachable.shows deployed ⟨plain, noAborts.unrevived, starts⟩
  have unmissed (ip : Ip) : (net ip).missed = [] := by
    refine List.eq_nil_iff_forall_not_mem.mpr fun id missed => ?_
    obtain ⟨peer, seq, recorded, heard, other⟩ := (shows.shows ip).missed id missed
    exact noDiscards ip ⟨peer, seq, id, recorded, heard, other⟩
  have quiet := shows.quiet reachable quiescent unmissed
  refine fun ip member => ⟨(shows.idle (shows.inv.closes quiet)).1, fun starter id commanded => ?_⟩
  obtain ⟨episode, past, rfl⟩ := shows.finished noAborts quiet commanded member
  exact shows.posts past

/-- The acknowledgements of two packets on every channel. -/
def twoAcks : List (Ip × Callback × Host) :=
  [(nodeA, nodeB), (nodeA, nodeC), (nodeB, nodeA), (nodeB, nodeC), (nodeC, nodeA), (nodeC, nodeB)]
    |>.flatMap fun (source, target) =>
      [(source, .received (packAck 0) target, {}), (source, .received (packAck 1) target, {})]

/-- A's START of snapshot 2 follows the end of snapshot 1 at B and C. -/
def twoWavesCalls : List (Ip × Callback × Host) := [
  (nodeA, .emit [startCommand [49]], {}),
  (nodeA, .intercept, {}),
  (nodeB, .received (markerFrame 0 [49]) nodeA, {}),
  (nodeC, .received (markerFrame 0 [49]) nodeA, {}),
  (nodeA, .received (markerFrame 0 [49]) nodeB, {}),
  (nodeA, .received (markerFrame 0 [49]) nodeC, {}),
  (nodeB, .received (markerFrame 0 [49]) nodeC, {}),
  (nodeC, .received (markerFrame 0 [49]) nodeB, {}),
  (nodeA, .emit [startCommand [50]], {}),
  (nodeA, .intercept, {}),
  (nodeB, .received (markerFrame 1 [50]) nodeA, {}),
  (nodeC, .received (markerFrame 1 [50]) nodeA, {}),
  (nodeA, .received (markerFrame 1 [50]) nodeB, {}),
  (nodeA, .received (markerFrame 1 [50]) nodeC, {}),
  (nodeB, .received (markerFrame 1 [50]) nodeC, {}),
  (nodeC, .received (markerFrame 1 [50]) nodeB, {})
]

theorem Mesh.Reachable.waves_close_twoWavesCalls
    : ∃ mesh : Mesh,
        threeStarted.runAll threeMembers (twoWavesCalls ++ twoAcks) = some mesh
        ∧ ∀ ip ∈ [nodeA, nodeB, nodeC], ∃ artifact, (mesh ip).Posted [50] .complete artifact := by
  have ran : (threeStarted.runAll threeMembers (twoWavesCalls ++ twoAcks)).any (fun mesh =>
      mesh.isRoutine nodeA [[49], [50]] && mesh.isQuiescent
      && [nodeA, nodeB, nodeC].all fun ip => !decide (Discards (mesh ip).trace.control)) = true := by
    decide +kernel
  obtain ⟨mesh, ran, shown⟩ := (Option.any_eq_true _ _).mp ran
  simp only [Bool.and_eq_true, List.all_eq_true, Bool.not_eq_true', decide_eq_false_iff_not]
    at shown
  obtain ⟨⟨routine, isQuiescent⟩, kept⟩ := shown
  have callers : ∀ call ∈ twoWavesCalls ++ twoAcks, call.1 ∈ [nodeA, nodeB, nodeC] := by decide
  have reachable := (Mesh.Reachable.init threeStarted_starts).runAll ran
  obtain ⟨plain, starts, noAborts⟩ :=
    Mesh.routine_of_isRoutine ran callers routine List.mem_cons_self
  have noDiscards := forall_of_runAll (fun _ s => ¬ Discards s.trace.control) ran callers
    (fun _ _ _ ⟨_, _, _, _, heard, _⟩ => by cases heard) kept
  have commanded : [50] ∈ commandsOf (mesh nodeA).trace.control := by
    rw [starts, if_pos rfl]
    decide
  have closes := reachable.waves_close threeMembers_deployed
    (starts.distinct (by decide) List.mem_cons_self) plain noAborts noDiscards
    (Mesh.quiescent_of_isQuiescent isQuiescent)
  exact ⟨mesh, ran, fun ip member => (closes ip member).2 nodeA [50] commanded⟩

/-- C's marker for snapshot 1 reaches B only after A's marker for snapshot 2. -/
def wedgedCalls : List (Ip × Callback × Host) := [
  (nodeA, .emit [startCommand [49]], {}),
  (nodeA, .intercept, {}),
  (nodeB, .received (markerFrame 0 [49]) nodeA, {}),
  (nodeC, .received (markerFrame 0 [49]) nodeA, {}),
  (nodeA, .received (markerFrame 0 [49]) nodeB, {}),
  (nodeA, .received (markerFrame 0 [49]) nodeC, {}),
  (nodeA, .emit [startCommand [50]], {}),
  (nodeA, .intercept, {}),
  (nodeB, .received (markerFrame 1 [50]) nodeA, {}),
  (nodeB, .received (markerFrame 0 [49]) nodeC, {}),
  (nodeC, .received (markerFrame 0 [49]) nodeB, {}),
  (nodeC, .received (markerFrame 1 [50]) nodeA, {}),
  (nodeB, .received (markerFrame 1 [50]) nodeC, {}),
  (nodeA, .received (markerFrame 1 [50]) nodeB, {}),
  (nodeA, .received (markerFrame 1 [50]) nodeC, {}),
  (nodeC, .received (markerFrame 1 [50]) nodeB, {})
]

/-- B has discarded A's marker for snapshot 2, and waits for it. -/
theorem Mesh.Reachable.wave_wedged
    : ∃ mesh : Mesh,
        Mesh.Reachable threeMembers mesh
        ∧ mesh.StartsAt nodeA [[49], [50]]
        ∧ (∃ artifact ∈ postsOf
              ((mesh nodeA).trace.control.takeWhile (fun event => event != .start [50])),
            artifact.For [49] ∧ artifact.status = .complete)
        ∧ (∀ ip, PlainSends (mesh ip).trace.sent)
        ∧ mesh.NoAborts
        ∧ mesh.Quiescent [nodeA, nodeB, nodeC]
        ∧ (mesh nodeB).ctrl.isSnapshotting = true := by
  have ran : (threeStarted.runAll threeMembers (wedgedCalls ++ twoAcks)).any (fun mesh =>
      mesh.isRoutine nodeA [[49], [50]] && mesh.isQuiescent
      && (mesh nodeB).ctrl.isSnapshotting
      && (postsOf ((mesh nodeA).trace.control.takeWhile (fun event => event != .start [50]))).any
          (fun artifact => artifact.snapshotId == some "1" && artifact.status == .complete))
      = true := by
    decide +kernel
  obtain ⟨mesh, ran, shown⟩ := (Option.any_eq_true _ _).mp ran
  simp only [Bool.and_eq_true, List.any_eq_true, beq_iff_eq] at shown
  obtain ⟨⟨⟨routine, isQuiescent⟩, recording⟩, artifact, posted, first, complete⟩ := shown
  have callers : ∀ call ∈ wedgedCalls ++ twoAcks, call.1 ∈ [nodeA, nodeB, nodeC] := by decide
  obtain ⟨plain, starts, noAborts⟩ :=
    Mesh.routine_of_isRoutine ran callers routine List.mem_cons_self
  exact ⟨mesh, (Mesh.Reachable.init threeStarted_starts).runAll ran, starts,
    ⟨artifact, posted, .for_first first, complete⟩, plain, noAborts,
    Mesh.quiescent_of_isQuiescent isQuiescent, recording⟩

end MeshSnapshot
