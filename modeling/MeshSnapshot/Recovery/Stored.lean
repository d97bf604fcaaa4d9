import MeshSnapshot.Recovery.RoundTrip
import MeshSnapshot.Snapshot.Network

/-! Restoring from what was posted. Every artifact was built by the controller that posted it, so
a restore from it takes over exactly the coordinates it shows, and sends nothing.
-/

namespace MeshSnapshot

open Procedure

-----------------------------------------------------------------------------------------
-- What is posted
-----------------------------------------------------------------------------------------

namespace Journal

variable {cfg : Config} {j j' : Journal}

/-- Every posted artifact was built by a controller whose recorded messages were no markers. -/
def PostsBuilt (cfg : Config) (j : Journal) : Prop :=
  ∀ artifact ∈ postsOf j.control,
    ∃ ctrl : SnapshotController,
      ctrl.RecordsPlain ∧ ctrl.artifact? cfg artifact.status = some artifact

/-- Events of other kinds post nothing. -/
theorem PostsBuilt.log (built : j.PostsBuilt cfg) {events : List ControlEvent}
    (silent : postsOf events = []) (control : j'.control = j.control ++ events)
    : j'.PostsBuilt cfg := by
  intro artifact posted
  rw [control, postsOf_append, silent, List.append_nil] at posted
  exact built artifact posted

theorem Ends.postsBuilt {status : Status} (ends : j.Ends cfg status j')
    (plain : j.ctrl.RecordsPlain) (built : j.PostsBuilt cfg)
    : j'.PostsBuilt cfg := by
  obtain ⟨artifact, stored, shown, rfl⟩ := ends
  have ofStatus : artifact.status = status := by
    obtain ⟨name, -, rfl⟩ := Option.map_eq_some_iff.mp shown
    rfl
  intro other posted
  have posted : other ∈ postsOf (j.control ++ [.posted artifact stored]) := posted
  rw [postsOf_append] at posted
  rcases List.mem_append.mp posted with earlier | last
  · exact built other earlier
  · obtain rfl : other = artifact := List.mem_singleton.mp last
    exact ⟨j.ctrl, plain, ofStatus.symm ▸ shown⟩

theorem Settles.postsBuilt (settles : j.Settles cfg j') (plain : j.ctrl.RecordsPlain)
    (built : j.PostsBuilt cfg)
    : j'.PostsBuilt cfg := by
  by_cases closed : j.ctrl.recordingChannels = []
  · exact ((settles_closed closed).mp settles).postsBuilt plain built
  · rwa [(settles_open closed).mp settles]

theorem Hears.postsBuilt {peer : Ip} {seq : Nat} {payload id : Bytes}
    (hears : j.Hears cfg peer seq payload id j') (plain : j.ctrl.RecordsPlain)
    (built : j.PostsBuilt cfg)
    : j'.PostsBuilt cfg := by
  have heard : (j.log (.heard peer seq id j.ctrl.currentSnapshotId)).PostsBuilt cfg :=
    built.log rfl rfl
  cases hears with
  | begins _ begun =>
      obtain ⟨selfIp, cache, drained, opened, -, -, -, opens, settles⟩ := begun.opened
      obtain ⟨late, later, target, exportPath, ok, -, -, control⟩ := opens.emissions
      exact settles.postsBuilt opens.recordsPlain (heard.log rfl control)
  | discards _ _ unchanged => rwa [unchanged]
  | ignores _ _ _ unchanged => rwa [unchanged]
  | closes _ _ _ settles => exact settles.postsBuilt plain heard

theorem Move.postsBuilt (move : Move cfg j j') (plain : j.ctrl.RecordsPlain)
    (built : j.PostsBuilt cfg)
    : j'.PostsBuilt cfg := by
  cases move with
  | emit => exact built
  | @forward datagram rest =>
      have same := (sameReceipt_forward cfg (j.take rest) datagram).control
      exact built.log rfl (same.trans (List.append_nil _).symm)
  | @command _ datagram rest _ _ id hears =>
      have started : ((j.take rest).log (.start id)).PostsBuilt cfg := built.log rfl rfl
      exact hears.postsBuilt plain started
  | send => exact built
  | @pass middle packet _ processes =>
      have noted : (j.note packet).PostsBuilt cfg := built
      have passed : middle.PostsBuilt cfg := by
        cases processes with
        | marker id _ hears => exact hears.postsBuilt plain noted
        | records _ _ _ _ _ appended => exact appended ▸ noted
        | delivers _ _ delivered => exact delivered ▸ noted
      exact passed
  | abort _ ends => exact ends.postsBuilt plain built

end Journal

/-- Between the callbacks of a sidecar, every artifact that it has posted was built by it. -/
theorem Sidecar.Run.postsBuilt {cfg : Config} {s : Sidecar} (run : s.Run cfg)
    : s.journal.PostsBuilt cfg := by
  induction run with
  | start starts =>
      obtain ⟨isServer, selfIpCache, rfl, -⟩ := starts.started
      intro artifact posted
      cases posted
  | call callback host before returned built =>
      have plain := before.balanced.recordsPlain
      have both : ∀ {a b : Journal}, Journal.Move cfg a b
          → a.ctrl.RecordsPlain ∧ a.PostsBuilt cfg → b.ctrl.RecordsPlain ∧ b.PostsBuilt cfg :=
        fun move kept => ⟨move.recordsPlain kept.1, move.postsBuilt kept.1 kept.2⟩
      exact ((call_ok plain returned).keeps both ⟨plain, built⟩).2

end MeshSnapshot
