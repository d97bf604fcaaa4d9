import MeshSnapshot.Sidecar.Moves

/-! The history of a sidecar only grows. Conditions on the history that forbid something are
therefore met all along a run if they are met at its end.
-/

namespace MeshSnapshot.Journal

variable {cfg : Config} {j j' : Journal}

/-- Everything that `j` has done is the beginning of what `j'` has done. -/
structure Grows (j j' : Journal) : Prop where
  sent : j.sent <+: j'.sent
  emitted : j.emitted <+: j'.emitted
  consumed : j.consumed <+: j'.consumed
  delivered : j.delivered <+: j'.delivered
  control : j.control <+: j'.control

theorem Grows.refl (j : Journal) : j.Grows j :=
  ⟨List.prefix_rfl, List.prefix_rfl, List.prefix_rfl, List.prefix_rfl, List.prefix_rfl⟩

theorem Grows.trans {middle : Journal} (first : j.Grows middle) (second : middle.Grows j')
    : j.Grows j' where
  sent := first.sent.trans second.sent
  emitted := first.emitted.trans second.emitted
  consumed := first.consumed.trans second.consumed
  delivered := first.delivered.trans second.delivered
  control := first.control.trans second.control

theorem grows_emit (j : Journal) (datagrams : List Datagram) : j.Grows (j.emit datagrams) :=
  { Grows.refl j with emitted := List.prefix_append _ _ }

theorem grows_take (j : Journal) (rest : List Datagram) : j.Grows (j.take rest) :=
  { Grows.refl j with }

theorem grows_log (j : Journal) (event : ControlEvent) : j.Grows (j.log event) :=
  { Grows.refl j with control := List.prefix_append _ _ }

theorem grows_send (j : Journal) (dst : Ip) (message : Message) (origin : SendOrigin)
    : j.Grows (j.send dst message origin) :=
  { Grows.refl j with sent := List.prefix_append _ _ }

theorem grows_forward (cfg : Config) (j : Journal) (datagram : Datagram)
    : j.Grows (j.forward cfg datagram) := by
  unfold Journal.forward
  split
  · exact grows_send j _ _ _
  · exact Grows.refl j

theorem Drains.grows (drains : Drains cfg j j') : j.Grows j' := by
  induction drains with
  | refl => exact Grows.refl j
  | tail _ step ih =>
      cases step with
      | emit datagrams => exact ih.trans (grows_emit _ datagrams)
      | forward => exact ih.trans ((grows_take _ _).trans (grows_forward cfg _ _))

theorem Ends.grows {status : Status} (ends : j.Ends cfg status j') : j.Grows j' := by
  obtain ⟨artifact, stored, -, rfl⟩ := ends
  exact { Grows.refl j with
    delivered := List.prefix_append _ _
    control := List.prefix_append _ _ }

theorem Settles.grows (settles : j.Settles cfg j') : j.Grows j' := by
  by_cases closed : j.ctrl.recordingChannels = []
  · exact ((settles_closed closed).mp settles).grows
  · rw [(settles_open closed).mp settles]
    exact Grows.refl j

/-- From the end of the drain on, the start branch only adds. -/
theorem Opened.grows_drained {members : List Ip} {cache selfIp : Option Ip} {origin : Ip} {seq : Nat}
    {payload id : Bytes} {channels : List Ip} {drained opened : Journal}
    (opens : Opened members cache origin seq payload id j drained opened)
    (drains : Drains cfg ((j.reset id).watch selfIp channels) drained)
    : drained.Grows opened := by
  have same := drains.sameReceipt
  obtain ⟨late, later, target, exportPath, ok, emitted, -, control⟩ := opens.emissions
  refine ⟨opens.sent ▸ List.prefix_append _ _, ?_, ?_, ?_, ?_⟩
  · rw [emitted, List.append_assoc]
    exact List.prefix_append _ _
  · rw [opens.consumed, same.consumed]
    exact List.prefix_rfl
  · rw [opens.delivered, same.delivered]
    exact List.prefix_rfl
  · rw [control, same.control, List.append_cons]
    exact List.prefix_append _ _

theorem Opened.grows {members : List Ip} {cache selfIp : Option Ip} {origin : Ip} {seq : Nat}
    {payload id : Bytes} {channels : List Ip} {drained opened : Journal}
    (drains : Drains cfg ((j.reset id).watch selfIp channels) drained)
    (opens : Opened members cache origin seq payload id j drained opened)
    : j.Grows opened := by
  have drainedGrows := drains.grows
  obtain ⟨late, later, target, exportPath, ok, emitted, -, control⟩ := opens.emissions
  refine ⟨?_, ?_, ?_, ?_, ?_⟩
  · rw [opens.sent]
    exact drainedGrows.sent.trans (List.prefix_append _ _)
  · rw [emitted, List.append_assoc]
    exact drainedGrows.emitted.trans (List.prefix_append _ _)
  · exact opens.consumed ▸ List.prefix_rfl
  · exact opens.delivered ▸ List.prefix_rfl
  · rw [control]
    exact List.prefix_append _ _

theorem Begins.grows {origin : Ip} {seq : Nat} {payload id : Bytes}
    (begins : j.Begins cfg origin seq payload id j') : j.Grows j' := by
  obtain ⟨selfIp, cache, drained, opened, -, drains, -, opens, settles⟩ := begins.opened
  exact (opens.grows drains).trans settles.grows

/-- Hearing of a snapshot is logged first. -/
theorem Hears.grows {peer : Ip} {seq : Nat} {payload id : Bytes}
    (hears : j.Hears cfg peer seq payload id j')
    : (j.log (.heard peer seq id j.ctrl.currentSnapshotId)).Grows j' := by
  cases hears with
  | begins _ begun => exact begun.grows
  | discards _ _ unchanged => rw [unchanged]; exact Grows.refl _
  | ignores _ _ _ unchanged => rw [unchanged]; exact Grows.refl _
  | closes _ _ _ settles =>
      have grows := settles.grows
      exact ⟨grows.sent, grows.emitted, grows.consumed, grows.delivered, grows.control⟩

theorem Processes.grows {packet : PeerPacket} (processes : j.Processes cfg packet j')
    : j.Grows j' := by
  cases processes with
  | marker id _ hears => exact (grows_log j _).trans hears.grows
  | records _ _ _ _ _ appended =>
      rw [appended]
      exact ⟨List.prefix_rfl, List.prefix_rfl, List.prefix_rfl, List.prefix_rfl,
        List.prefix_rfl⟩
  | delivers _ _ delivered =>
      rw [delivered]
      exact { Grows.refl j with delivered := List.prefix_append _ _ }

theorem Move.grows (move : Move cfg j j') : j.Grows j' := by
  cases move with
  | emit datagrams => exact grows_emit j datagrams
  | forward => exact (grows_take j _).trans (grows_forward cfg _ _)
  | command _ _ id hears =>
      exact (grows_take j _).trans
        ((grows_log _ (.start id)).trans ((grows_log _ _).trans hears.grows))
  | send dst message => exact grows_send j dst message _
  | pass _ processes =>
      have grows := processes.grows
      exact ⟨grows.sent, grows.emitted, grows.consumed.trans (List.prefix_append _ _),
        grows.delivered, grows.control⟩
  | abort _ ends => exact ends.grows

theorem Moves.grows (moves : Moves cfg j j') : j.Grows j' := by
  induction moves with
  | refl => exact Grows.refl j
  | tail _ move ih => exact ih.trans move.grows

end MeshSnapshot.Journal
