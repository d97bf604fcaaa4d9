import MeshSnapshot.Snapshot.Network

/-! The mesh refines the network of processes: every callback of a sidecar is a number of steps of its
process, and of no other.
-/

namespace MeshSnapshot

open ChandyLamport

variable {members : List Ip} {cfg : Ip → Config} {mesh next : Mesh}

/-- A lawful mesh shows a state of the network, and it goes on from every state that it shows as the
network does.
-/
theorem Mesh.Reachable.refines (deployed : ∀ ip, (cfg ip).Deployed members ip)
    (reachable : Mesh.Reachable cfg mesh) (lawful : mesh.Lawful members)
    : (∃ net, Net.Steps (memberSet members) (fun _ => .start) net ∧ mesh.Shows members cfg net)
      ∧ ∀ {net next node callback host},
          mesh.Shows members cfg net
          → mesh.step cfg node callback host = some next
          → next.Lawful members
          → ∃ part,
              Net.Steps (memberSet members) net (Function.update net node part)
              ∧ next.Shows members cfg (Function.update net node part) := by
  refine ⟨reachable.network deployed lawful, fun shows stepped lawful => ?_⟩
  obtain ⟨part, steps, shows'⟩ := shows.step deployed reachable stepped lawful
  exact ⟨part, .of_node (shows.queued _) steps, shows'⟩

/-- The app of A starts a snapshot while the sidecar reads the intercept socket. -/
theorem Mesh.Reachable.refines_startCommand
    : ∃ (next : Mesh) (net : Net Ip Bytes Held) (part : Part),
        threeStarted.step threeMembers nodeA .intercept { app := [[startCommand [49]]] } = some next
        ∧ Net.Steps (memberSet [nodeA, nodeB, nodeC]) net (Function.update net nodeA part)
        ∧ next.Shows [nodeA, nodeB, nodeC] threeMembers (Function.update net nodeA part)
        ∧ part.commands = [[49]] := by
  have ran : (threeStarted.runAll threeMembers
      [(nodeA, .intercept, { app := [[startCommand [49]]] })]).any
      (fun next => next.isRoutine nodeA [[49]]) = true := by
    decide +kernel
  obtain ⟨next, ran, routine⟩ := (Option.any_eq_true _ _).mp ran
  obtain ⟨next', stepped, same⟩ := Option.bind_eq_some_iff.mp ran
  obtain rfl := Option.some.inj same
  obtain ⟨starts, lawfulNext⟩ := Mesh.lawful_of_isRoutine ran (by decide) routine
    List.mem_cons_self (List.nodup_singleton _)
  have idle : threeStarted.runAll threeMembers [] = some threeStarted := rfl
  obtain ⟨-, lawfulStart⟩ := Mesh.lawful_of_isRoutine idle (by decide)
    (by decide +kernel : threeStarted.isRoutine nodeA [] = true) List.mem_cons_self List.nodup_nil
  obtain ⟨⟨net, -, shown⟩, goesOn⟩ :=
    (Mesh.Reachable.init threeStarted_starts).refines threeMembers_deployed lawfulStart
  obtain ⟨part, steps, shows⟩ := goesOn shown stepped lawfulNext
  have commands := (shows.shows nodeA).commands
  rw [Function.update_self] at commands
  exact ⟨next', net, part, stepped, steps, shows, commands.trans (starts nodeA)⟩

end MeshSnapshot
