import MeshSnapshot.Library.ChandyLamport.Cut

/-! How soon a snapshot ends. In a round, everything arrives that was in flight when it began. The
first round after the command brings the snapshot to every member, and the second one brings every
marker: if none is missed, two rounds end the snapshot everywhere.
-/

namespace MeshSnapshot.ChandyLamport

variable {ι σ α : Type} {members : Set ι} {own source target : ι} {id : σ}
  {episode : Episode ι σ α}

/-- What an episode never changes. -/
def Episode.scope (episode : Episode ι σ α) : σ × Set ι := (episode.id, episode.cut)

namespace Node

variable {node next : Node ι σ α} {origin : Option ι} {incoming : ι → List (Msg σ α)}

theorem Hears.scopes (hears : node.Hears members own origin id next)
    : node.episodes.map Episode.scope <+: next.episodes.map Episode.scope := by
  cases hears with
  | begins idle =>
      rw [episodes_of_idle idle, settle_episodes, episodes_of_current rfl]
      simp [Node.begin]
  | misses => simp [Node.episodes]
  | ignores => simp [Node.episodes]
  | closes recording =>
      rw [episodes_of_current recording, settle_episodes, episodes_of_current rfl]
      simp [Node.close, Episode.close, Episode.scope]

/-- Episodes stay, with their cuts. -/
theorem Step.scopes (step : node.Step members own incoming next)
    : node.episodes.map Episode.scope <+: next.episodes.map Episode.scope := by
  cases step with
  | send => exact List.prefix_rfl
  | command hears => exact hears.scopes
  | marker queued hears => exact hears.scopes
  | @data channel content queued =>
      cases current : node.current with
      | none => simp [Node.receive, Node.episodes, current]
      | some episode =>
          obtain ⟨recorded, changed, -⟩ :=
            record_eq episode channel (node.consumed channel).length content
          simp [Node.receive, Node.episodes, current, changed, Episode.scope]
  | abort recording => simp [Node.abort, Node.episodes, recording]

theorem Step.missed_prefix (step : node.Step members own incoming next)
    : node.missed <+: next.missed := by
  rcases step.missed with same | ⟨id, -, longer, -⟩
  · exact same ▸ List.prefix_rfl
  · exact longer ▸ List.prefix_append _ _

end Node

namespace Net

variable [DecidableEq ι] {net middle net' : Net ι σ α}

/-- What is a prefix after every step of a process is one after every step of the network. -/
theorem Step.grows {β : Type} (view : Node ι σ α → List β)
    (grows
      : ∀ {own incoming} {node next : Node ι σ α},
          node.Step members own incoming next → view node <+: view next)
    (step : Net.Step members net net') (other : ι)
    : view (net other) <+: view (net' other) := by
  obtain ⟨own, next, step⟩ := step
  by_cases here : other = own
  · subst here
    rw [Function.update_self]
    exact grows step
  · exact (Function.update_of_ne here _ _) ▸ List.prefix_rfl

theorem Steps.grows {β : Type} (view : Node ι σ α → List β)
    (grows
      : ∀ {own incoming} {node next : Node ι σ α},
          node.Step members own incoming next → view node <+: view next)
    (steps : Net.Steps members net net') (other : ι)
    : view (net other) <+: view (net' other) := by
  induction steps with
  | refl => exact List.prefix_rfl
  | tail _ step ih => exact ih.trans (step.grows view grows other)

/-- An episode goes on, with its cut. -/
theorem Steps.keeps (steps : Net.Steps members net net') (listed : episode ∈ (net own).episodes)
    : ∃ later ∈ (net' own).episodes, later.id = episode.id ∧ later.cut = episode.cut := by
  have grows := Steps.grows (fun node => node.episodes.map Episode.scope) Node.Step.scopes steps own
  obtain ⟨later, listed', same⟩ := List.mem_map.mp (grows.mem (List.mem_map_of_mem listed))
  exact ⟨later, listed', Prod.mk.inj same⟩

/-- In a run of the network, everything arrives that members have sent to members before. -/
structure Round (members : Set ι) (net net' : Net ι σ α) : Prop where
  steps : Net.Steps members net net'
  arrived
    : ∀ source ∈ members, ∀ target ∈ members,
        (net source).sent target <+: (net' target).consumed source

variable (round : net.Round members net')

include round

/-- The marker of an episode arrives in the next round. -/
theorem Round.reached (inv : net.Inv members) (inv' : net'.Inv members)
    (unmissed : (net' target).missed = []) (listed : episode ∈ (net source).episodes)
    (covered : target ∈ episode.cut)
    : ∃ other ∈ (net' target).episodes, other.id = episode.id ∧ ¬ other.Open source := by
  have sourceMember := inv.member source _ (List.mem_map_of_mem listed)
  have targetMember := (inv.node source).within episode listed covered
  have sent := (inv.marker_at_iff listed covered).mpr rfl
  have consumed := (round.arrived source sourceMember target targetMember).mem
    (List.mem_of_getElem? sent)
  rcases (inv'.node target).heard source episode.id consumed with missed | known
  · rw [unmissed] at missed
    cases missed
  · exact known

/-- A snapshot is known to every member one round after it was commanded. -/
theorem Round.spreads (inv : net.Inv members) (inv' : net'.Inv members)
    (unmissed : ∀ own, (net' own).missed = []) (commanded : id ∈ (net source).commands)
    (member : target ∈ members)
    : ∃ episode ∈ (net' target).episodes, episode.id = id := by
  have before := Steps.grows Node.missed Node.Step.missed_prefix round.steps source
  obtain ⟨first, listed, rfl⟩ : ∃ episode ∈ (net source).episodes, episode.id = id := by
    rcases (inv.node source).commanded id commanded with missed | known
    · have missed' := before.mem missed
      rw [unmissed source] at missed'
      cases missed'
    · exact known
  by_cases here : target = source
  · subst here
    obtain ⟨later, listed', same, -⟩ := Steps.keeps round.steps listed
    exact ⟨later, listed', same⟩
  · have covered := (inv.node source).covers first listed target member here
    obtain ⟨episode, reached, same, -⟩ :=
      round.reached inv inv' (unmissed target) listed covered
    exact ⟨episode, reached, same⟩

/-- A snapshot that every member takes part in is over after one more round. -/
theorem Round.closes (inv : net.Inv members) (inv' : net'.Inv members)
    (unmissed : ∀ own, (net' own).missed = [])
    (known : ∀ own ∈ members, ∃ episode ∈ (net own).episodes, episode.id = id)
    (member : target ∈ members)
    : ∃ episode complete, (episode, complete) ∈ (net' target).past ∧ episode.id = id := by
  obtain ⟨former, listed, rfl⟩ := known target member
  obtain ⟨episode, listed', same, sameCut⟩ := Steps.keeps round.steps listed
  have closed (source : ι) : ¬ episode.Open source := by
    intro opened
    have sourceMember := (inv'.node target).within episode listed' opened.1
    obtain ⟨sender, sent, sameId⟩ := known source sourceMember
    have covered : target ∈ sender.cut := by
      by_cases here : target = source
      · subst here
        rw [inv.same sent listed sameId, ← sameCut]
        exact opened.1
      · exact (inv.node source).covers sender sent target member here
    obtain ⟨other, reached, sameOther, notOpen⟩ :=
      round.reached inv inv' (unmissed target) sent covered
    obtain rfl := inv'.same reached listed' (sameOther.trans (sameId.trans same.symm))
    exact notOpen opened
  rcases List.mem_append.mp listed' with past | current
  · obtain ⟨⟨_, complete⟩, finished, rfl⟩ := List.mem_map.mp past
    exact ⟨_, complete, finished, same⟩
  · obtain ⟨source, opened⟩ := (inv'.node target).live episode (Option.mem_toList.mp current)
    exact absurd opened (closed source)

end Net

end MeshSnapshot.ChandyLamport
