import MeshSnapshot.Snapshot.Closure

/-! The order in which the members of a single snapshot finalize it. A member posts its complete
artifact when it has the markers it waits for, and the initiator does not see those that the
others exchange.
-/

namespace MeshSnapshot

open ChandyLamport

variable {members : List Ip} {cfg : Ip → Config} {mesh : Mesh} {net : Net Ip Bytes Held}
  {id : Bytes}

/-- `target` has passed the markers that all other members send it for the snapshot `id`, and
its own one if it sends that to itself.
-/
def Mesh.HasMarkers (members : List Ip) (mesh : Mesh) (id : Bytes) (target : Ip) : Prop :=
  ∀ source ∈ members,
    source ≠ target ∨ markersIn id (numberedTo (mesh source) target) ≠ []
    → markersIn id (packetsOf (mesh target).trace.consumed source) ≠ []

instance (members : List Ip) (mesh : Mesh) (id : Bytes) (target : Ip)
    : Decidable (mesh.HasMarkers members id target) :=
  inferInstanceAs (Decidable (∀ source ∈ members, _ → _))

theorem markersIn_ne_nil {entries : List (Nat × Held)}
    : markersIn id entries ≠ [] ↔ .marker id ∈ (entries.map Prod.snd).map toMsg := by
  rw [ne_eq, markersIn, List.filter_eq_nil_iff]
  simp only [decide_eq_true_eq, not_forall, not_not, exists_prop, List.map_map, List.mem_map,
    Function.comp_apply]
  exact exists_congr fun entry =>
    and_congr_right fun _ => ⟨toMsg_marker, markerId?_of_toMsg⟩

namespace Mesh.Shows

theorem sent_marker_iff (shows : mesh.Shows members cfg net) {source target : Ip}
    : markersIn id (numberedTo (mesh source) target) ≠ []
      ↔ .marker id ∈ (net source).sent target := by
  have stream : (numberedTo (mesh source) target).map Prod.snd
      = heldTo (mesh source).trace.sent target := Deferral.map_snd_numbered _
  rw [markersIn_ne_nil, stream, (shows.shows source).sent]
  rfl

theorem passed_marker_iff (shows : mesh.Shows members cfg net) {source target : Ip}
    : markersIn id (packetsOf (mesh target).trace.consumed source) ≠ []
      ↔ .marker id ∈ (net target).consumed source := by
  rw [markersIn_ne_nil, map_snd_packetsOf, (shows.shows target).consumed]
  rfl

/-- A process that takes part in a snapshot, and has consumed all its markers, is done with it. -/
theorem over_of_markers (shows : mesh.Shows members cfg net) (noAborts : mesh.NoAborts)
    (unmissed : ∀ ip, (net ip).missed = []) {ip : Ip} {episode : Episode Ip Bytes Held}
    (listed : episode ∈ (net ip).episodes)
    (consumed : ∀ source ∈ episode.cut, .marker episode.id ∈ (net ip).consumed source)
    : (episode, true) ∈ (net ip).past := by
  rcases List.mem_append.mp listed with past | current
  · obtain ⟨⟨_, complete⟩, finished, rfl⟩ := List.mem_map.mp past
    exact shows.complete noAborts finished ▸ finished
  · obtain ⟨source, opened⟩ :=
      (shows.inv.node ip).live episode (Option.mem_toList.mp current)
    rcases (shows.inv.node ip).heard source _ (consumed source opened.1) with missed | known
    · rw [unmissed] at missed
      cases missed
    · obtain ⟨other, again, same, closed⟩ := known
      obtain rfl := shows.inv.same again listed same
      exact (closed opened).elim

/-- A member has a complete artifact of the only snapshot exactly when it has its markers. -/
theorem posted_iff (shows : mesh.Shows members cfg net) (noAborts : mesh.NoAborts)
    {starter ip : Ip} (starts : mesh.StartsAt starter [id]) (started : starter ∈ members)
    (member : ip ∈ members)
    : (∃ artifact, (mesh ip).Posted id .complete artifact) ↔ mesh.HasMarkers members id ip := by
  have unmissed := shows.unmissed starts
  constructor
  · rintro ⟨artifact, posted⟩ source sourceMember because
    obtain ⟨episode, past, rfl, -⟩ := shows.posted posted
    have listed := Node.mem_episodes_of_past past
    have covered : source ∈ episode.cut := by
      by_cases here : source = ip
      · subst here
        have sent := shows.sent_marker_iff.mp (because.resolve_left fun other => other rfl)
        obtain ⟨position, found⟩ := List.getElem?_of_mem sent
        obtain ⟨other, again, same, covered, -⟩ :=
          ((shows.inv.node source).marked source position episode.id).mp found
        exact shows.inv.same again listed same ▸ covered
      · exact (shows.inv.node ip).covers episode listed source sourceMember here
    cases closed : episode.closed source with
    | none => exact ((shows.inv.node ip).done episode past source ⟨covered, closed⟩).elim
    | some position =>
        obtain ⟨found, -⟩ := (shows.inv.node ip).sound episode listed source position closed
        exact shows.passed_marker_iff.mpr (List.mem_of_getElem? found)
  · intro has
    have heard : ∃ episode ∈ (net ip).episodes, episode.id = id := by
      by_cases here : ip = starter
      · subst here
        have commanded : id ∈ (net ip).commands := by
          rw [(shows.shows ip).commands, Sidecar.journal, starts, if_pos rfl]
          exact List.mem_cons_self
        refine ((shows.inv.node ip).commanded id commanded).resolve_left fun missed => ?_
        rw [unmissed] at missed
        cases missed
      · have passed := shows.passed_marker_iff.mp (has starter started (.inl (Ne.symm here)))
        rcases (shows.inv.node ip).heard starter id passed with missed | ⟨episode, known, same, -⟩
        · rw [unmissed] at missed
          cases missed
        · exact ⟨episode, known, same⟩
    obtain ⟨episode, listed, rfl⟩ := heard
    have finished := shows.over_of_markers noAborts unmissed listed fun source covered =>
      shows.passed_marker_iff.mp (has source ((shows.inv.node ip).within episode listed covered) ?_)
    · exact shows.posts finished
    · by_cases here : source = ip
      · subst here
        exact .inr (shows.sent_marker_iff.mpr
          (List.mem_of_getElem? ((shows.inv.marker_at_iff listed covered).mpr rfl)))
      · exact .inl here

end Mesh.Shows

-----------------------------------------------------------------------------------------
-- The initiator
-----------------------------------------------------------------------------------------

/-- The initiator of the only snapshot is the last to finalize it if, and only if, no member
still waits for a marker when the initiator has got all of its own.
-/
theorem Mesh.Reachable.initiator_last_iff (deployed : ∀ ip, (cfg ip).Deployed members ip)
    (reachable : Mesh.Reachable cfg mesh) {starter : Ip} (started : starter ∈ members)
    (starts : mesh.StartsAt starter [id]) (plain : ∀ ip, PlainSends (mesh ip).trace.sent)
    (noAborts : mesh.NoAborts)
    : ((∃ artifact, (mesh starter).Posted id .complete artifact)
        → ∀ ip ∈ members, ∃ artifact, (mesh ip).Posted id .complete artifact)
      ↔ (mesh.HasMarkers members id starter
        → ∀ ip ∈ members, mesh.HasMarkers members id ip) := by
  obtain ⟨net, shows⟩ := reachable.shows deployed
    ⟨plain, noAborts.unrevived, starts.distinct (List.nodup_singleton id) started⟩
  rw [shows.posted_iff noAborts starts started started]
  refine imp_congr_right fun _ => forall_congr' fun ip => forall_congr' fun member => ?_
  exact shows.posted_iff noAborts starts started member

/-- A has the markers of B and C, which have not yet exchanged theirs. -/
def earlyInitiatorCalls : List (Ip × Callback × Host) := [
  (nodeA, .emit [startCommand [49]], {}),
  (nodeA, .intercept, {}),
  (nodeB, .received (markerFrame 0 [49]) nodeA, {}),
  (nodeC, .received (markerFrame 0 [49]) nodeA, {}),
  (nodeA, .received (markerFrame 0 [49]) nodeB, {}),
  (nodeA, .received (markerFrame 0 [49]) nodeC, {})
]

/-- In the run above, B and C exchange their markers in time. -/
theorem Mesh.Reachable.initiator_last_crossingCalls
    : ∃ mesh : Mesh,
        threeStarted.runAll threeMembers crossingCalls = some mesh
        ∧ ∀ ip ∈ [nodeA, nodeB, nodeC], ∃ artifact, (mesh ip).Posted [49] .complete artifact := by
  have ran : (threeStarted.runAll threeMembers crossingCalls).any (fun mesh =>
      mesh.isRoutine nodeA [[49]]
      && (postsOf (mesh nodeA).trace.control).any (·.snapshotId == some "1")
      && [nodeA, nodeB, nodeC].all fun ip =>
          decide (mesh.HasMarkers [nodeA, nodeB, nodeC] [49] ip)) = true := by
    decide +kernel
  obtain ⟨mesh, ran, shown⟩ := (Option.any_eq_true _ _).mp ran
  simp only [Bool.and_eq_true, List.any_eq_true, List.all_eq_true, beq_iff_eq,
    decide_eq_true_eq] at shown
  obtain ⟨⟨routine, artifact, posted, first⟩, markers⟩ := shown
  have callers : ∀ call ∈ crossingCalls, call.1 ∈ [nodeA, nodeB, nodeC] := by decide
  obtain ⟨plain, starts, noAborts⟩ :=
    Mesh.routine_of_isRoutine ran callers routine List.mem_cons_self
  have last := ((Mesh.Reachable.init threeStarted_starts).runAll ran).initiator_last_iff
    threeMembers_deployed List.mem_cons_self starts plain noAborts
  exact ⟨mesh, ran, last.mpr (fun _ => markers)
    ⟨artifact, posted, .for_first first, noAborts _ _ posted⟩⟩

/-- B has not posted its artifact when A has. -/
theorem Mesh.Reachable.initiator_not_last
    : ∃ mesh : Mesh,
        Mesh.Reachable threeMembers mesh
        ∧ mesh.StartsAt nodeA [[49]]
        ∧ (∀ ip, PlainSends (mesh ip).trace.sent)
        ∧ mesh.NoAborts
        ∧ (∃ artifact, (mesh nodeA).Posted [49] .complete artifact)
        ∧ ¬ ∃ artifact, (mesh nodeB).Posted [49] .complete artifact := by
  have ran : (threeStarted.runAll threeMembers earlyInitiatorCalls).any (fun mesh =>
      mesh.isRoutine nodeA [[49]]
      && (postsOf (mesh nodeA).trace.control).any
          (fun artifact => artifact.snapshotId == some "1" && artifact.status == .complete)
      && (postsOf (mesh nodeB).trace.control).isEmpty) = true := by
    decide +kernel
  obtain ⟨mesh, ran, shown⟩ := (Option.any_eq_true _ _).mp ran
  simp only [Bool.and_eq_true, List.any_eq_true, beq_iff_eq, List.isEmpty_iff] at shown
  obtain ⟨⟨routine, artifact, posted, first, complete⟩, nothing⟩ := shown
  have callers : ∀ call ∈ earlyInitiatorCalls, call.1 ∈ [nodeA, nodeB, nodeC] := by decide
  obtain ⟨plain, starts, noAborts⟩ :=
    Mesh.routine_of_isRoutine ran callers routine List.mem_cons_self
  refine ⟨mesh, (Mesh.Reachable.init threeStarted_starts).runAll ran, starts, plain, noAborts,
    ⟨artifact, posted, .for_first first, complete⟩, ?_⟩
  rintro ⟨other, logged, -, -⟩
  rw [nothing] at logged
  cases logged

end MeshSnapshot
