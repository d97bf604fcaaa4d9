import MeshSnapshot.Sidecar.History

/-! Where the messages that a sidecar passes to `send_data` come from: app datagrams, markers for
the snapshots that it starts or takes part in, and calls from outside. What holds of all that is
given to it holds of the payloads of all that it sends.
-/

namespace MeshSnapshot.Journal

variable {cfg : Config} {good : Bytes → Prop} {j j' : Journal}

/-- All payloads that may come to be sent are `good`. -/
structure Supplies (cfg : Config) (good : Bytes → Prop) (j : Journal) : Prop where
  forwarded
    : ∀ datagram ∈ j.emitted,
        ∀ routed, rudpRoute cfg j.isServer datagram = some routed → good datagram.data
  starts : ∀ id, .start id ∈ j.control → good (markerPrefix ++ id)
  relayed
    : ∀ packet ∈ j.consumed,
        ∀ id, markerId? packet.held.payload = some id → good packet.held.payload
  direct : ∀ call ∈ j.sent, call.origin = .direct → good call.message.payload

/-- All payloads sent so far are `good`, and what is queued was emitted. -/
structure SendsOnly (good : Bytes → Prop) (j : Journal) : Prop where
  queued : ∀ datagram ∈ j.queue, datagram ∈ j.emitted
  sent : ∀ call ∈ j.sent, good call.message.payload

theorem Supplies.before (supplies : j'.Supplies cfg good) (grows : j.Grows j')
    (isServer : j'.isServer = j.isServer)
    : j.Supplies cfg good where
  forwarded datagram member :=
    isServer ▸ supplies.forwarded datagram (grows.emitted.mem member)
  starts id member := supplies.starts id (grows.control.mem member)
  relayed packet member := supplies.relayed packet (grows.consumed.mem member)
  direct call member := supplies.direct call (grows.sent.mem member)

theorem SendsOnly.emit (only : j.SendsOnly good) (datagrams : List Datagram)
    : (j.emit datagrams).SendsOnly good where
  queued datagram member := by
    rcases List.mem_append.mp member with waiting | new
    · exact List.mem_append_left _ (only.queued datagram waiting)
    · exact List.mem_append_right _ new
  sent := only.sent

theorem SendsOnly.send (only : j.SendsOnly good) {dst : Ip} {message : Message}
    {origin : SendOrigin} (isGood : good message.payload)
    : (j.send dst message origin).SendsOnly good where
  queued := only.queued
  sent call member := by
    rcases List.mem_append.mp member with earlier | last
    · exact only.sent call earlier
    · exact List.mem_singleton.mp last ▸ isGood

theorem SendsOnly.take (only : j.SendsOnly good) {datagram : Datagram} {rest : List Datagram}
    (queued : j.queue = datagram :: rest)
    : (j.take rest).SendsOnly good where
  queued other member := only.queued other (queued ▸ List.mem_cons_of_mem _ member)
  sent := only.sent

theorem SendsOnly.forward (only : j.SendsOnly good) {datagram : Datagram} {rest : List Datagram}
    (queued : j.queue = datagram :: rest)
    (isGood : ∀ routed, rudpRoute cfg j.isServer datagram = some routed → good datagram.data)
    : ((j.take rest).forward cfg datagram).SendsOnly good := by
  have taken : (j.take rest).SendsOnly good := only.take queued
  unfold Journal.forward
  split
  case h_1 dst message routed =>
    exact taken.send ((rudpRoute_message routed).1 ▸ isGood _ routed)
  case h_2 => exact taken

/-- The app and `drain_intercept`. -/
theorem SendsOnly.drains (drains : Drains cfg j j') (supplies : j'.Supplies cfg good)
    (only : j.SendsOnly good)
    : j'.SendsOnly good := by
  induction drains with
  | refl => exact only
  | @tail middle last before step ih =>
      have single : Drains cfg middle last := .single step
      have supplied := supplies.before single.grows single.sameReceipt.isServer
      have only := ih supplied
      cases step with
      | emit datagrams => exact only.emit datagrams
      | @forward datagram rest queued =>
          exact only.forward queued
            (supplied.forwarded datagram (only.queued datagram (queued ▸ List.mem_cons_self)))

/-- Ending a snapshot sends nothing. -/
theorem SendsOnly.settles (settles : j.Settles cfg j') (only : j.SendsOnly good)
    : j'.SendsOnly good := by
  by_cases closed : j.ctrl.recordingChannels = []
  · obtain ⟨artifact, stored, -, rfl⟩ := (settles_closed closed).mp settles
    exact ⟨only.queued, only.sent⟩
  · rwa [(settles_open closed).mp settles]

/-- A snapshot that begins sends what was queued, and its markers. -/
theorem SendsOnly.begins {origin : Ip} {seq : Nat} {payload id : Bytes}
    (begins : j.Begins cfg origin seq payload id j') (supplies : j'.Supplies cfg good)
    (isGood : good payload) (only : j.SendsOnly good)
    : j'.SendsOnly good := by
  obtain ⟨selfIp, cache, drained, opened, -, drains, -, opens, settles⟩ := begins.opened
  have supplied := supplies.before settles.grows settles.sameStreams.isServer
  have same := drains.sameReceipt
  obtain ⟨late, later, target, exportPath, ok, emitted, queue, control⟩ := opens.emissions
  have before := SendsOnly.drains drains
    (supplied.before (opens.grows_drained drains) (opens.isServer.trans same.isServer.symm))
    ⟨only.queued, only.sent⟩
  refine SendsOnly.settles settles ⟨fun datagram member => ?_, fun call member => ?_⟩
  · rw [queue] at member
    rw [emitted, List.append_assoc]
    exact List.mem_append_right _ member
  · rw [opens.sent] at member
    rcases List.mem_append.mp member with earlier | marker
    · exact before.sent call earlier
    · obtain ⟨ip, -, rfl⟩ := List.mem_map.mp marker
      exact isGood

theorem SendsOnly.hears {peer : Ip} {seq : Nat} {payload id : Bytes}
    (hears : j.Hears cfg peer seq payload id j') (supplies : j'.Supplies cfg good)
    (isGood : good payload) (only : j.SendsOnly good)
    : j'.SendsOnly good := by
  cases hears with
  | begins _ begun => exact SendsOnly.begins begun supplies isGood ⟨only.queued, only.sent⟩
  | discards _ _ unchanged => exact unchanged ▸ ⟨only.queued, only.sent⟩
  | ignores _ _ _ unchanged => exact unchanged ▸ ⟨only.queued, only.sent⟩
  | closes _ _ _ settles => exact SendsOnly.settles settles ⟨only.queued, only.sent⟩

theorem Move.isServer (move : Move cfg j j') : j'.isServer = j.isServer := by
  cases move with
  | emit | send => rfl
  | @forward datagram rest => exact (sameReceipt_forward cfg (j.take rest) datagram).isServer
  | command _ _ _ hears => exact hears.sameStreams.isServer
  | pass _ processes => exact processes.sameStreams.isServer
  | abort _ ends =>
      obtain ⟨artifact, stored, -, rfl⟩ := ends
      rfl

theorem SendsOnly.move (move : Move cfg j j') (supplies : j'.Supplies cfg good)
    (only : j.SendsOnly good)
    : j'.SendsOnly good := by
  have grows := move.grows
  have supplied := supplies.before grows move.isServer
  cases move with
  | emit datagrams => exact only.emit datagrams
  | @forward datagram rest queued =>
      exact only.forward queued
        (supplied.forwarded datagram (only.queued datagram (queued ▸ List.mem_cons_self)))
  | @command _ datagram rest queued _ id hears =>
      have logged : .start id ∈ j'.control :=
        ((grows_log _ _).trans hears.grows).control.mem (List.mem_append_right _ List.mem_cons_self)
      have taken := only.take queued
      exact SendsOnly.hears hears supplies (supplies.starts id logged) ⟨taken.queued, taken.sent⟩
  | send dst message =>
      exact only.send (supplies.direct _ (List.mem_append_right _ List.mem_cons_self) rfl)
  | @pass middle packet _ processes =>
      have passed : middle.SendsOnly good := by
        cases processes with
        | marker id isMarker hears =>
            refine SendsOnly.hears hears ?_ ?_ ⟨only.queued, only.sent⟩
            · exact supplies.before { Grows.refl middle with consumed := List.prefix_append _ _ } rfl
            · exact supplies.relayed packet (List.mem_append_right _ List.mem_cons_self) id isMarker
        | records _ _ _ _ _ appended => exact appended ▸ ⟨only.queued, only.sent⟩
        | delivers _ _ delivered => exact delivered ▸ ⟨only.queued, only.sent⟩
      exact ⟨passed.queued, passed.sent⟩
  | abort _ ends =>
      obtain ⟨artifact, stored, -, rfl⟩ := ends
      exact ⟨only.queued, only.sent⟩

theorem Moves.isServer (moves : Moves cfg j j') : j'.isServer = j.isServer := by
  induction moves with
  | refl => rfl
  | tail _ move ih => exact move.isServer.trans ih

/-- What holds of the payloads given to a sidecar holds of those that it sends. -/
theorem SendsOnly.moves (moves : Moves cfg j j') (supplies : j'.Supplies cfg good)
    (only : j.SendsOnly good)
    : j'.SendsOnly good := by
  induction moves with
  | refl => exact only
  | tail _ move ih =>
      exact SendsOnly.move move supplies (ih (supplies.before move.grows move.isServer))

end MeshSnapshot.Journal
