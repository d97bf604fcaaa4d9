import MeshSnapshot.Failures.FairDelivery
import MeshSnapshot.Library.ChandyLamport.Rounds
import MeshSnapshot.Snapshot.Closure
import MeshSnapshot.Snapshot.Network

/-! How soon a snapshot ends. If in two runs, one after the other, a copy of every packet arrives
that was pending when the run began, every snapshot that was commanded before is complete.
-/

namespace MeshSnapshot

open ChandyLamport Transport

variable {members : List Ip} {cfg : Ip → Config} {mesh middle final : Mesh} {id : Bytes}
  {calls : List (Ip × Callback × Host)} {net : Net Ip Bytes Held}

/-- In a run, a copy of every packet arrives that is pending between two members. -/
def Mesh.Fair (members : List Ip) (mesh : Mesh) (calls : List (Ip × Callback × Host)) : Prop :=
  ∀ source ∈ members, ∀ target ∈ members, ∀ seq sentAt packet,
    ((mesh source).peer target).unacked.get? seq = some (sentAt, packet)
    → Receives calls target source packet

theorem Mesh.Fair.arrives (fair : mesh.Fair members calls) (reachable : Mesh.Reachable cfg mesh)
    (ran : mesh.runAll cfg calls = some final) {source target : Ip}
    (sourceMember : source ∈ members) (targetMember : target ∈ members)
    : sentTo (mesh source) target <+: consumedFrom (final target) source := by
  have accounts := (Fleet.Reachable.of_mesh reachable).accounts
  have proceeds := accounts.proceeds (Fleet.runAll_of_mesh ran) source target
  have acked (seq : Nat) (sent : seq < (sentTo (mesh source) target).length) :=
    accounts.answers proceeds (fair source sourceMember target targetMember seq) sent
  rcases proceeds.accounts.arrives proceeds.grows.log acked with all | ⟨-, raised, member, -⟩
  · exact all
  · cases member

theorem Mesh.runAll_grows (reachable : Mesh.Reachable cfg mesh)
    (ran : mesh.runAll cfg calls = some final) (ip : Ip)
    : (mesh ip).journal.Grows (final ip).journal := by
  induction calls generalizing mesh with
  | nil =>
      obtain rfl := Option.some.inj ran
      exact .refl _
  | cons call rest ih =>
      obtain ⟨node, callback, host⟩ := call
      obtain ⟨next, stepped, ran⟩ := Option.bind_eq_some_iff.mp ran
      exact (step_grows reachable stepped ip).trans
        (ih (reachable.step node callback host stepped) ran)

/-- A run of the mesh is one of the network. -/
theorem Mesh.Shows.runAll (shows : mesh.Shows members cfg net)
    (deployed : ∀ ip, (cfg ip).Deployed members ip) (reachable : Mesh.Reachable cfg mesh)
    (ran : mesh.runAll cfg calls = some final) (lawful : final.Lawful members)
    : ∃ net', Net.Steps (memberSet members) net net' ∧ final.Shows members cfg net' := by
  induction calls generalizing mesh net with
  | nil =>
      obtain rfl := Option.some.inj ran
      exact ⟨net, .refl, shows⟩
  | cons call rest ih =>
      obtain ⟨node, callback, host⟩ := call
      obtain ⟨next, stepped, ran⟩ := Option.bind_eq_some_iff.mp ran
      have reachable' := reachable.step node callback host stepped
      have lawful' := lawful.before (runAll_grows reachable' ran)
      obtain ⟨part, steps, shows'⟩ := shows.step deployed reachable stepped lawful'
      obtain ⟨net', more, shows''⟩ := ih shows' reachable' ran
      exact ⟨net', (Net.Steps.of_node (shows.queued node) steps).trans more, shows''⟩

/-- A fair run is a round of the network. -/
theorem Mesh.Shows.round (shows : mesh.Shows members cfg net)
    (deployed : ∀ ip, (cfg ip).Deployed members ip) (reachable : Mesh.Reachable cfg mesh)
    (ran : mesh.runAll cfg calls = some final) (lawful : final.Lawful members)
    (fair : mesh.Fair members calls)
    : ∃ net', net.Round (memberSet members) net' ∧ final.Shows members cfg net' := by
  obtain ⟨net', steps, shows'⟩ := shows.runAll deployed reachable ran lawful
  refine ⟨net', ⟨steps, fun source sourceMember target targetMember => ?_⟩, shows'⟩
  rw [(shows.shows source).sent, (shows'.shows target).consumed]
  exact List.IsPrefix.map toMsg (fair.arrives reachable ran sourceMember targetMember)

/-- If no member discards a marker and no snapshot is aborted, two fair runs complete every snapshot
that was commanded before them.
-/
theorem Mesh.Reachable.rounds_complete (deployed : ∀ ip, (cfg ip).Deployed members ip)
    (reachable : Mesh.Reachable cfg mesh) {first second : List (Ip × Callback × Host)}
    (ran : mesh.runAll cfg first = some middle) (fair : mesh.Fair members first)
    (ranOn : middle.runAll cfg second = some final) (fairOn : middle.Fair members second)
    (starts : final.DistinctStarts members) (plain : ∀ ip, PlainSends (final ip).trace.sent)
    (noAborts : final.NoAborts) (noDiscards : ∀ ip, ¬ Discards (final ip).trace.control)
    {starter : Ip} (commanded : id ∈ commandsOf (mesh starter).trace.control)
    : ∀ ip ∈ members, ∃ artifact, (final ip).Posted id .complete artifact := by
  intro ip member
  have reachable' := reachable.runAll ran
  have lawful : final.Lawful members := ⟨plain, noAborts.unrevived, starts⟩
  have lawful' := lawful.before (Mesh.runAll_grows reachable' ranOn)
  obtain ⟨net, shows⟩ :=
    reachable.shows deployed (lawful'.before (Mesh.runAll_grows reachable ran))
  obtain ⟨net₁, round, shows₁⟩ := shows.round deployed reachable ran lawful' fair
  obtain ⟨net₂, roundOn, shows₂⟩ := shows₁.round deployed reachable' ranOn lawful fairOn
  have unmissed (own : Ip) : (net₂ own).missed = [] := by
    refine List.eq_nil_iff_forall_not_mem.mpr fun other missed => ?_
    obtain ⟨peer, seq, recorded, heard, distinct⟩ := (shows₂.shows own).missed other missed
    exact noDiscards own ⟨peer, seq, other, recorded, heard, distinct⟩
  have unmissed₁ (own : Ip) : (net₁ own).missed = [] := by
    have before := Net.Steps.grows Node.missed Node.Step.missed_prefix roundOn.steps own
    rw [unmissed] at before
    exact List.prefix_nil.mp before
  have known (own : Ip) (listed : own ∈ memberSet members)
      : ∃ episode ∈ (net₁ own).episodes, episode.id = id :=
    round.spreads shows.inv shows₁.inv unmissed₁ ((shows.shows starter).commands ▸ commanded) listed
  obtain ⟨episode, complete, past, rfl⟩ :=
    roundOn.closes shows₁.inv shows₂.inv unmissed known member
  exact shows₂.posts (shows₂.complete noAborts past ▸ past)

/-- The acknowledgements of the first round. -/
def firstAcks : List (Ip × Callback × Host) := [
  (nodeA, .received (packAck 0) nodeB, {}),
  (nodeA, .received (packAck 1) nodeB, {}),
  (nodeA, .received (packAck 0) nodeC, {}),
  (nodeC, .received (packAck 0) nodeB, {})
]

/-- A's message and its markers arrive, and C's marker at B. All are acknowledged. -/
def firstRound : List (Ip × Callback × Host) := (crossingCalls.drop 3).take 4 ++ firstAcks

/-- A copy of every packet that is pending between three members arrives. -/
def Mesh.isFair (mesh : Mesh) (calls : List (Ip × Callback × Host)) : Bool :=
  [nodeA, nodeB, nodeC].all fun source =>
    [nodeA, nodeB, nodeC].all fun target =>
      ((mesh source).peer target).unacked.entries.all fun entry =>
        calls.any (isReceipt target source entry.2.2)

theorem Mesh.fair_of_isFair (isFair : mesh.isFair calls = true)
    : mesh.Fair [nodeA, nodeB, nodeC] calls := by
  simp only [Mesh.isFair, List.all_eq_true] at isFair
  intro source sourceMember target targetMember seq sentAt packet found
  exact receives_of_any
    (isFair source sourceMember target targetMember _ (Dict.mem_entries_iff.mpr found))

theorem Mesh.runAll_append {first second : List (Ip × Callback × Host)}
    (ran : mesh.runAll cfg first = some middle) (ranOn : middle.runAll cfg second = some final)
    : mesh.runAll cfg (first ++ second) = some final := by
  induction first generalizing mesh with
  | nil =>
      obtain rfl := Option.some.inj ran
      exact ranOn
  | cons call rest ih =>
      obtain ⟨next, stepped, ran⟩ := Option.bind_eq_some_iff.mp ran
      exact Option.bind_eq_some_iff.mpr ⟨next, stepped, ih ran⟩

theorem Mesh.Reachable.rounds_complete_firstRound
    : ∃ started middle final : Mesh,
        threeStarted.runAll threeMembers (crossingCalls.take 3) = some started
        ∧ started.runAll threeMembers firstRound = some middle
        ∧ middle.runAll threeMembers (crossingCalls.drop 7) = some final
        ∧ ∀ ip ∈ [nodeA, nodeB, nodeC], ∃ artifact, (final ip).Posted [49] .complete artifact := by
  have ran : (threeStarted.runAll threeMembers (crossingCalls.take 3)).any (fun started =>
      started.isFair firstRound
      && (commandsOf (started nodeA).trace.control).contains [49]
      && (started.runAll threeMembers firstRound).any fun middle =>
          middle.isFair (crossingCalls.drop 7)
          && (middle.runAll threeMembers (crossingCalls.drop 7)).any fun final =>
              final.isRoutine nodeA [[49]]
              && [nodeA, nodeB, nodeC].all fun ip =>
                  !decide (Discards (final ip).trace.control)) = true := by
    decide +kernel
  obtain ⟨started, ranStart, shown⟩ := (Option.any_eq_true _ _).mp ran
  obtain ⟨shown, rest⟩ := Bool.and_eq_true_iff.mp shown
  obtain ⟨fair, commanded⟩ := Bool.and_eq_true_iff.mp shown
  obtain ⟨middle, ranFirst, shown⟩ := (Option.any_eq_true _ _).mp rest
  obtain ⟨fairOn, rest⟩ := Bool.and_eq_true_iff.mp shown
  obtain ⟨final, ranSecond, shown⟩ := (Option.any_eq_true _ _).mp rest
  simp only [Bool.and_eq_true, List.all_eq_true, Bool.not_eq_true', decide_eq_false_iff_not]
    at shown
  obtain ⟨routine, kept⟩ := shown
  have whole := Mesh.runAll_append ranStart (Mesh.runAll_append ranFirst ranSecond)
  have callers : ∀ call ∈ crossingCalls.take 3 ++ (firstRound ++ crossingCalls.drop 7),
      call.1 ∈ [nodeA, nodeB, nodeC] := by decide
  obtain ⟨plain, starts, noAborts⟩ :=
    Mesh.routine_of_isRoutine whole callers routine List.mem_cons_self
  have noDiscards := forall_of_runAll (fun _ s => ¬ Discards s.trace.control) whole callers
    (fun _ _ _ ⟨_, _, _, _, heard, _⟩ => by cases heard) kept
  have complete := ((Mesh.Reachable.init threeStarted_starts).runAll ranStart).rounds_complete
    threeMembers_deployed ranFirst (Mesh.fair_of_isFair fair) ranSecond (Mesh.fair_of_isFair fairOn)
    (starts.distinct (List.nodup_singleton _) List.mem_cons_self) plain noAborts noDiscards
    (List.contains_iff_mem.mp commanded)
  exact ⟨started, middle, final, ranStart, ranFirst, ranSecond, complete⟩

end MeshSnapshot
