import MeshSnapshot.Host.Validation
import MeshSnapshot.Recovery.ArtifactStore
import MeshSnapshot.Snapshot.Network

/-! The id of a snapshot on its way from the trigger to the artifacts. Nodes only take over ids that
START commands and markers name, and neither changes an id.
-/

namespace MeshSnapshot

open Transport

-----------------------------------------------------------------------------------------
-- One sidecar
-----------------------------------------------------------------------------------------

namespace Journal

variable {cfg : Config} {named : Bytes → Prop} {j j' : Journal}

/-- All that is given to a sidecar from outside names only `named` ids: the START commands and the
payloads of its app, other calls of `send_data`, and the packets of its peers.
-/
structure Sources (named : Bytes → Prop) (j : Journal) : Prop where
  starts
    : ∀ datagram ∈ j.emitted,
        startPrefix.isPrefixOf datagram.data = true
        → ∃ id, named id ∧ datagram.data = startPrefix ++ 58 :: id
  markers : ∀ datagram ∈ j.emitted, ∀ id, markerId? datagram.data = some id → named id
  direct
    : ∀ call ∈ j.sent,
        call.origin = .direct → ∀ id, markerId? call.message.payload = some id → named id
  heard : ∀ packet ∈ j.consumed, ∀ id, markerId? packet.held.payload = some id → named id

/-- Whatever the sidecar shows or passes on names only `named` ids. -/
structure Names (named : Bytes → Prop) (j : Journal) : Prop where
  queued : ∀ datagram ∈ j.queue, datagram ∈ j.emitted
  recording : j.ctrl.isSnapshotting = true → ∃ id, j.ctrl.currentSnapshotId = some id
  current : ∀ id, j.ctrl.currentSnapshotId = some id → named id
  sent : ∀ call ∈ j.sent, ∀ id, markerId? call.message.payload = some id → named id
  posted : ∀ artifact ∈ postsOf j.control, ∃ id, named id ∧ artifact.For id

theorem Sources.before (sources : j'.Sources named) (grows : j.Grows j') : j.Sources named where
  starts datagram member := sources.starts datagram (grows.emitted.mem member)
  markers datagram member := sources.markers datagram (grows.emitted.mem member)
  direct call member := sources.direct call (grows.sent.mem member)
  heard packet member := sources.heard packet (grows.consumed.mem member)

/-- What is emitted waits on the queue. -/
theorem Names.emit (names : j.Names named) (datagrams : List Datagram)
    : (j.emit datagrams).Names named where
  queued datagram member := by
    rcases List.mem_append.mp member with waiting | new
    · exact List.mem_append_left _ (names.queued datagram waiting)
    · exact List.mem_append_right _ new
  recording := names.recording
  current := names.current
  sent := names.sent
  posted := names.posted

theorem Names.take (names : j.Names named) {datagram : Datagram} {rest : List Datagram}
    (queued : j.queue = datagram :: rest)
    : (j.take rest).Names named :=
  { names with
    queued := fun other member => names.queued other (queued ▸ List.mem_cons_of_mem _ member) }

/-- Events of other kinds post nothing. -/
theorem Names.log (names : j.Names named) {event : ControlEvent} (silent : postsOf [event] = [])
    : (j.log event).Names named := by
  have posts : postsOf (j.log event).control = postsOf j.control := by
    rw [Journal.log, postsOf_append, silent, List.append_nil]
  exact { names with posted := posts.symm ▸ names.posted }

/-- A forwarded datagram is sent as it is. -/
theorem Names.forward (names : j.Names named) {datagram : Datagram} {rest : List Datagram}
    (queued : j.queue = datagram :: rest)
    (plain : ∀ id, markerId? datagram.data = some id → named id)
    : ((j.take rest).forward cfg datagram).Names named := by
  have taken : (j.take rest).Names named := names.take queued
  unfold Journal.forward
  split
  case h_2 => exact taken
  case h_1 dst message routed =>
    refine { taken with sent := fun call member => ?_ }
    rcases List.mem_append.mp member with earlier | last
    · exact names.sent call earlier
    · rw [List.mem_singleton.mp last]
      exact (rudpRoute_message routed).1 ▸ plain

/-- The app and `drain_intercept` keep to the named ids. -/
theorem Names.drains (drains : Drains cfg j j') (sources : j'.Sources named) (names : j.Names named)
    : j'.Names named := by
  induction drains with
  | refl => exact names
  | @tail middle last before step ih =>
      have grows : middle.Grows last := Drains.grows (Relation.ReflTransGen.single step)
      have names := ih (sources.before grows)
      cases step with
      | emit datagrams => exact names.emit datagrams
      | @forward datagram rest queued =>
          refine names.forward queued (sources.markers datagram (grows.emitted.mem ?_))
          exact names.queued datagram (queued ▸ List.mem_cons_self)

theorem Names.ends {status : Status} (ends : j.Ends cfg status j')
    (recording : j.ctrl.isSnapshotting = true) (names : j.Names named)
    : j'.Names named := by
  obtain ⟨artifact, stored, shown, rfl⟩ := ends
  obtain ⟨id, current⟩ := names.recording recording
  have shows : artifact.For id := by
    obtain ⟨name, found, rfl⟩ := Option.map_eq_some_iff.mp shown
    exact (congrArg snapshotName current).symm.trans found
  constructor
  case queued => exact names.queued
  case recording => exact fun idle => by cases idle
  case current => exact fun id found => by cases found
  case sent => exact names.sent
  case posted =>
    intro other posted
    have posted : other ∈ postsOf (j.control ++ [.posted artifact stored]) := posted
    rw [postsOf_append] at posted
    rcases List.mem_append.mp posted with earlier | last
    · exact names.posted other earlier
    · obtain rfl : other = artifact := List.mem_singleton.mp last
      exact ⟨id, names.current id current, shows⟩

theorem Names.settles (settles : j.Settles cfg j') (recording : j.ctrl.isSnapshotting = true)
    (names : j.Names named)
    : j'.Names named := by
  by_cases closed : j.ctrl.recordingChannels = []
  · exact names.ends ((settles_closed closed).mp settles) recording
  · rwa [(settles_open closed).mp settles]

/-- A sidecar that begins a snapshot takes over the id, and its markers name it. -/
theorem Names.begins {origin : Ip} {seq : Nat} {id : Bytes}
    (begins : j.Begins cfg origin seq (markerPrefix ++ id) id j') (sources : j'.Sources named)
    (isNamed : named id) (names : j.Names named)
    : j'.Names named := by
  obtain ⟨selfIp, cache, drained, opened, -, drains, -, opens, settles⟩ := begins.opened
  have sources := sources.before settles.grows
  obtain ⟨late, later, target, exportPath, ok, emitted, queue, control⟩ := opens.emissions
  have reset : ((j.reset id).watch cache
      ((cutMembers cfg selfIp).dedup.filter (fun ip => ip ≠ origin))).Names named := by
    constructor
    case queued => exact names.queued
    case recording => exact fun _ => ⟨id, rfl⟩
    case current => exact fun other current => Option.some.inj current ▸ isNamed
    case sent => exact names.sent
    case posted =>
      have began : (j.log (.began id j.consumed.length)).Names named := names.log rfl
      exact began.posted
  have before := reset.drains drains (sources.before (opens.grows_drained drains))
  refine Names.settles settles opens.isSnapshotting ?_
  constructor
  case queued =>
    intro datagram member
    rw [queue] at member
    rw [emitted, List.append_assoc]
    exact List.mem_append_right _ member
  case recording => exact fun _ => ⟨id, opens.currentSnapshotId⟩
  case current =>
    intro other current
    rw [opens.currentSnapshotId] at current
    exact Option.some.inj current ▸ isNamed
  case sent =>
    intro call member
    rw [opens.sent] at member
    rcases List.mem_append.mp member with earlier | marker
    · exact before.sent call earlier
    · obtain ⟨ip, -, rfl⟩ := List.mem_map.mp marker
      intro other isMarker
      rw [markerCall, markerId?_marker] at isMarker
      exact Option.some.inj isMarker ▸ isNamed
  case posted =>
    rw [control, postsOf_append]
    simpa [postsOf] using names.posted

/-- Hearing of a named snapshot, as a member or from the local host. -/
theorem Names.hears {peer : Ip} {seq : Nat} {id : Bytes}
    (hears : j.Hears cfg peer seq (markerPrefix ++ id) id j') (sources : j'.Sources named)
    (isNamed : named id) (names : j.Names named)
    : j'.Names named := by
  have heard : (j.log (.heard peer seq id j.ctrl.currentSnapshotId)).Names named := names.log rfl
  cases hears with
  | begins _ begun => exact heard.begins begun sources isNamed
  | discards _ _ unchanged => exact unchanged ▸ heard
  | ignores _ _ _ unchanged => exact unchanged ▸ heard
  | closes recording _ _ settles =>
      exact Names.settles settles recording { heard with recording := heard.recording }

theorem Names.move (move : Move cfg j j') (sources : j'.Sources named) (names : j.Names named)
    : j'.Names named := by
  have grows := move.grows
  cases move with
  | emit datagrams => exact names.emit datagrams
  | @forward datagram rest queued =>
      refine names.forward queued (sources.markers datagram (grows.emitted.mem ?_))
      exact names.queued datagram (queued ▸ List.mem_cons_self)
  | @command _ datagram rest queued isStart id hears given =>
      have emitted := names.queued datagram (queued ▸ List.mem_cons_self)
      obtain ⟨other, isNamed, shown⟩ :=
        sources.starts datagram (grows.emitted.mem emitted) isStart
      have taken : ((j.take rest).log (.start id)).Names named := (names.take queued).log rfl
      exact taken.hears hears sources (given other shown ▸ isNamed)
  | send dst message =>
      refine { names with sent := fun call member => ?_ }
      rcases List.mem_append.mp member with earlier | last
      · exact names.sent call earlier
      · refine sources.direct call member ?_
        rw [List.mem_singleton.mp last]
  | @pass middle packet next processes =>
      have noted : (j.note packet).Names named := { names with }
      have passed : middle.Names named := by
        cases processes with
        | marker id isMarker hears =>
            have payload := markerId?_eq_some.mp isMarker
            have isNamed : named id :=
              sources.heard packet (List.mem_append_right _ (List.mem_singleton_self _)) id isMarker
            rw [payload] at hears
            refine noted.hears hears (sources.before ?_) isNamed
            exact { Grows.refl middle with consumed := List.prefix_append _ _ }
        | records _ recording _ _ _ appended => exact appended ▸ { noted with }
        | delivers _ _ delivered => exact delivered ▸ { noted with }
      exact { passed with }
  | abort recording ends => exact names.ends ends recording

theorem Names.moves (moves : Moves cfg j j') (sources : j'.Sources named) (names : j.Names named)
    : j'.Names named := by
  induction moves with
  | refl => exact names
  | tail _ move ih => exact (ih (sources.before move.grows)).move move sources

end Journal

-----------------------------------------------------------------------------------------
-- The mesh
-----------------------------------------------------------------------------------------

variable {cfg : Ip → Config} {mesh next : Mesh} {named : Bytes → Prop}

/-- What the apps and other calls of `send_data` give to the sidecars of a mesh names only `named`
ids.
-/
structure Mesh.Sources (named : Bytes → Prop) (mesh : Mesh) : Prop where
  starts
    : ∀ ip, ∀ datagram ∈ (mesh ip).trace.emitted,
        startPrefix.isPrefixOf datagram.data = true
        → ∃ id, named id ∧ datagram.data = startPrefix ++ 58 :: id
  markers
    : ∀ ip, ∀ datagram ∈ (mesh ip).trace.emitted,
        ∀ id, markerId? datagram.data = some id → named id
  direct
    : ∀ ip, ∀ call ∈ (mesh ip).trace.sent,
        call.origin = .direct → ∀ id, markerId? call.message.payload = some id → named id

theorem Mesh.Sources.before (sources : next.Sources named)
    (grows : ∀ ip, (mesh ip).journal.Grows (next ip).journal)
    : mesh.Sources named where
  starts ip datagram member := sources.starts ip datagram ((grows ip).emitted.mem member)
  markers ip datagram member := sources.markers ip datagram ((grows ip).emitted.mem member)
  direct ip call member := sources.direct ip call ((grows ip).sent.mem member)

/-- Every id that a mesh shows was named to one of its nodes from outside. -/
theorem Mesh.Reachable.names (reachable : Mesh.Reachable cfg mesh) (sources : mesh.Sources named)
    (ip : Ip)
    : (mesh ip).journal.Names named := by
  induction reachable generalizing ip with
  | init starts =>
      obtain ⟨isServer, selfIpCache, started, -⟩ := (starts ip).started
      rw [started]
      constructor
      case queued | sent | posted => exact fun _ member => by cases member
      case recording => exact fun idle => by cases idle
      case current => exact fun _ found => by cases found
  | @step mesh next node callback host before stepped ih =>
      have grows := Mesh.step_grows before stepped
      have names := ih (sources.before grows)
      obtain ⟨-, s', called, rfl⟩ := step_eq_some.mp stepped
      by_cases here : ip = node
      · subst here
        have sources' : s'.journal.Sources named := by
          have own := Function.update_self ip s' mesh
          refine ⟨own ▸ sources.starts ip, own ▸ sources.markers ip, own ▸ sources.direct ip,
            fun packet member id isMarker => ?_⟩
          obtain ⟨call, sent, same⟩ := step_consumed before stepped called member
          have payload : call.message.payload = packet.held.payload := congrArg Held.payload same
          exact (names packet.peer).sent call sent id (payload ▸ isMarker)
        rw [Function.update_self]
        exact (names ip).moves (call_ok (before.run ip).balanced.recordsPlain called) sources'
      · rw [Function.update_of_ne here]
        exact names ip

-----------------------------------------------------------------------------------------
-- From the trigger to the artifact
-----------------------------------------------------------------------------------------

/-- A body whose values are all strings. -/
instance : JsonObject (List (String × PyStr)) where
  keys body := body.map Prod.fst
  text? body key := body.lookup key

end MeshSnapshot
