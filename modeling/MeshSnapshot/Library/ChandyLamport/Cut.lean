import MeshSnapshot.Library.ChandyLamport.Net

/-! What the invariant of a network says about its snapshots: the two ends of a channel agree
on the cut, and once nothing is in flight and nothing was missed, no process still records.
-/

namespace MeshSnapshot.ChandyLamport.Net

variable {ι σ α : Type} {members : Set ι} {net : Net ι σ α} {own source target : ι} {id : σ}
  {episode : Episode ι σ α}

/-- An episode has sent one marker to every channel of its cut, where it says. -/
theorem Inv.marker_at_iff (inv : net.Inv members) (listed : episode ∈ (net own).episodes)
    (covered : target ∈ episode.cut) {position : Nat}
    : ((net own).sent target)[position]? = some (.marker episode.id)
      ↔ episode.marked target = position := by
  rw [(inv.node own).marked target position episode.id]
  constructor
  · rintro ⟨other, member, same, -, marked⟩
    rwa [← inv.same member listed same]
  · exact fun marked => ⟨episode, listed, rfl, covered, marked⟩

-----------------------------------------------------------------------------------------
-- Agreement
-----------------------------------------------------------------------------------------

/-- The two ends of a closed channel agree on the position of the marker, nothing from behind
it is in the state of the receiver, and what was in flight is what was recorded.
-/
theorem Inv.agreement (inv : net.Inv members) {other : Episode ι σ α}
    (sender : episode ∈ (net source).episodes) (receiver : other ∈ (net target).episodes)
    (same : episode.id = other.id) {position : Nat}
    (closed : other.closed source = some position)
    : target ∈ episode.cut
      ∧ episode.marked target = position
      ∧ other.began source ≤ position
      ∧ other.recorded source
        = between ((net source).sent target) (other.began source) position := by
  obtain ⟨found, began, recorded⟩ := (inv.node target).sound other receiver source position closed
  obtain ⟨bound, -⟩ := List.getElem?_eq_some_iff.mp found
  have fifo := inv.fifo source target
  obtain ⟨third, member, sameThird, covered, marked⟩ :=
    ((inv.node source).marked target position other.id).mp (getElem?_of_grows fifo found)
  obtain rfl := inv.same member sender (sameThird.trans same.symm)
  exact ⟨covered, marked, began,
    recorded.trans (between_of_grows fifo (Nat.le_of_lt bound)).symm⟩

-----------------------------------------------------------------------------------------
-- Closure
-----------------------------------------------------------------------------------------

/-- Nothing is in flight between members, and no snapshot was missed. -/
structure Quiet (members : Set ι) (net : Net ι σ α) : Prop where
  drained
    : ∀ source ∈ members, ∀ target ∈ members,
        (net target).consumed source = (net source).sent target
  unmissed : ∀ own, (net own).missed = []

/-- A single snapshot is not missed by anyone. -/
theorem Inv.unmissed (inv : net.Inv members)
    (single : ∀ own, ∀ other ∈ (net own).commands, other = id) (own : ι)
    : (net own).missed = [] := by
  refine List.eq_nil_iff_forall_not_mem.mpr fun missed listed => ?_
  obtain ⟨⟨another, commanded⟩, known, began, distinct⟩ := inv.missed own missed listed
  obtain ⟨source, commandedToo⟩ := inv.commanded own known began
  exact distinct ((single source known commandedToo).trans (single another missed commanded).symm)

/-- The marker of a member has reached every channel of its cut. -/
theorem Inv.reached (inv : net.Inv members) (quiet : net.Quiet members)
    (listed : episode ∈ (net source).episodes) (covered : target ∈ episode.cut)
    : ∃ other ∈ (net target).episodes, other.id = episode.id ∧ ¬ other.Open source := by
  have sourceMember := inv.member source _ (List.mem_map_of_mem listed)
  have targetMember := (inv.node source).within episode listed covered
  have sent := (inv.marker_at_iff listed covered).mpr rfl
  rw [← quiet.drained source sourceMember target targetMember] at sent
  rcases (inv.node target).heard source episode.id (List.mem_of_getElem? sent) with missed | known
  · rw [quiet.unmissed target] at missed
    cases missed
  · exact known

/-- A snapshot that was commanded anywhere has reached every member. -/
theorem Inv.spreads (inv : net.Inv members) (quiet : net.Quiet members)
    (commanded : id ∈ (net source).commands) (member : target ∈ members)
    : ∃ episode ∈ (net target).episodes, episode.id = id := by
  obtain ⟨first, listed, rfl⟩ : ∃ episode ∈ (net source).episodes, episode.id = id := by
    rcases (inv.node source).commanded id commanded with missed | known
    · rw [quiet.unmissed source] at missed
      cases missed
    · exact known
  by_cases here : target = source
  · exact ⟨first, here ▸ listed, rfl⟩
  · have covered := (inv.node source).covers first listed target member here
    obtain ⟨episode, reached, same, -⟩ := inv.reached quiet listed covered
    exact ⟨episode, reached, same⟩

/-- No member waits for a marker that was never sent, or that has been consumed already. -/
theorem Inv.closes (inv : net.Inv members) (quiet : net.Quiet members)
    : (net own).current = none := by
  cases recording : (net own).current with
  | none => rfl
  | some episode =>
      obtain ⟨source, opened⟩ := (inv.node own).live episode recording
      have listed := Node.mem_episodes_of_current recording
      have ownMember := inv.member own _ (List.mem_map_of_mem listed)
      have sourceMember := (inv.node own).within episode listed opened.1
      obtain ⟨commander, commanded⟩ := inv.commanded own _ (List.mem_map_of_mem listed)
      obtain ⟨sender, sent, same⟩ := inv.spreads quiet commanded sourceMember
      have covered : own ∈ sender.cut := by
        by_cases here : own = source
        · subst here
          rw [inv.same sent listed same]
          exact opened.1
        · exact (inv.node source).covers sender sent own ownMember here
      obtain ⟨other, reached, sameOther, notOpen⟩ := inv.reached quiet sent covered
      obtain rfl := inv.same reached listed (sameOther.trans same)
      exact (notOpen opened).elim

end MeshSnapshot.ChandyLamport.Net
