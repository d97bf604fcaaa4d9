import MeshSnapshot.Snapshot.Image

/-! What a sidecar has forwarded on behalf of its app are exactly the datagrams of the app that it has
read, in their order, apart from START commands. What the marker fan-out has sent are markers.
-/

namespace MeshSnapshot

/-- The call that forwarding the app's datagram number `entry.2` makes. -/
def forwardCall? (cfg : Config) (isServer : Bool) (entry : Datagram × Nat) : Option SendCall :=
  if startPrefix.isPrefixOf entry.1.data then none
  else (rudpRoute cfg isServer entry.1).map fun routed =>
    ⟨routed.1, routed.2, .forwarded, entry.2 + 1⟩

/-- A call on behalf of the app that carries no START command. -/
def SendCall.isApp (call : SendCall) : Bool :=
  call.origin == .forwarded && !startPrefix.isPrefixOf call.message.payload

namespace Journal

variable {cfg : Config} {members : List Ip} {own : Ip} {j j' : Journal}

/-- The calls that forwarding the first `n` datagrams of the app makes. -/
def appCalls (cfg : Config) (j : Journal) (n : Nat) : List SendCall :=
  (j.emitted.take n).zipIdx.filterMap (forwardCall? cfg j.isServer)

theorem appCalls_succ {n : Nat} {datagram : Datagram} (found : j.emitted[n]? = some datagram)
    : j.appCalls cfg (n + 1)
      = j.appCalls cfg n ++ (forwardCall? cfg j.isServer (datagram, n)).toList := by
  have inside : n < j.emitted.length := (List.getElem?_eq_some_iff.mp found).1
  have length : (j.emitted.take n).length = n := by
    rw [List.length_take]
    omega
  rw [appCalls, List.take_add_one, found, Option.toList_some, List.zipIdx_append,
    List.filterMap_append, Nat.zero_add, length]
  cases called : forwardCall? cfg j.isServer (datagram, n) <;> simp [appCalls, called]

/-- Every call knows how many datagrams had been read. -/
theorem reads_of_mem_appCalls {n : Nat} {call : SendCall} (member : call ∈ j.appCalls cfg n)
    : call.reads ≤ n := by
  obtain ⟨⟨datagram, k⟩, listed, called⟩ := List.mem_filterMap.mp member
  have bound : k < (j.emitted.take n).length := by
    simpa using List.snd_lt_add_of_mem_zipIdx listed
  have within : k < n := bound.trans_le (List.length_take_le _ _)
  unfold forwardCall? at called
  split at called
  · cases called
  · obtain ⟨routed, -, rfl⟩ := Option.map_eq_some_iff.mp called
    exact within

/-- The calls of the first datagrams are those made when no more had been read. -/
theorem filter_appCalls {n m : Nat} (shorter : n ≤ m) (bound : m ≤ j.emitted.length)
    : (j.appCalls cfg m).filter (fun call => call.reads ≤ n) = j.appCalls cfg n := by
  induction m with
  | zero =>
      obtain rfl := Nat.le_zero.mp shorter
      rfl
  | succ m ih =>
      have inside : m < j.emitted.length := bound
      rw [appCalls_succ (List.getElem?_eq_getElem inside), List.filter_append]
      rcases Nat.lt_or_eq_of_le shorter with early | rfl
      · rw [ih (Nat.le_of_lt_succ early) (Nat.le_of_lt inside)]
        cases called : forwardCall? cfg j.isServer (j.emitted[m], m) with
        | none => simp
        | some call =>
            unfold forwardCall? at called
            split at called
            · cases called
            · obtain ⟨routed, -, rfl⟩ := Option.map_eq_some_iff.mp called
              have later : ¬ m + 1 ≤ n := by omega
              simp [later]
      · rw [← List.filter_append, ← appCalls_succ (List.getElem?_eq_getElem inside)]
        exact List.filter_eq_self.mpr fun call member =>
          decide_eq_true (reads_of_mem_appCalls member)

/-- What has been forwarded for the app is what has been read of it. -/
structure Forwards (cfg : Config) (j : Journal) : Prop extends Reads cfg j where
  calls : j.sent.filter SendCall.isApp = j.appCalls cfg j.reads
  markers : ∀ call ∈ j.sent, call.origin = .marker → (markerId? call.message.payload).isSome

/-- A journal with the same datagrams and the same calls. -/
theorem Forwards.same (inv : j.Forwards cfg) (queue : j'.queue = j.queue)
    (emitted : j'.emitted = j.emitted) (reads : j'.reads = j.reads) (sent : j'.sent = j.sent)
    (isServer : j'.isServer = j.isServer) : j'.Forwards cfg where
  toReads := inv.toReads.same queue emitted reads sent isServer
  calls := by
    rw [sent, inv.calls, appCalls, appCalls, emitted, reads, isServer]
  markers := by
    rw [sent]
    exact inv.markers

/-- What the app emits is forwarded later. -/
theorem Forwards.emitted (inv : j.Forwards cfg) {datagrams : List Datagram}
    (queue : j'.queue = j.queue ++ datagrams)
    (emitted : j'.emitted = j.emitted ++ datagrams) (reads : j'.reads = j.reads)
    (sent : j'.sent = j.sent) (isServer : j'.isServer = j.isServer) : j'.Forwards cfg where
  toReads := inv.toReads.emitted queue emitted reads sent isServer
  calls := by
    rw [sent, inv.calls, appCalls, appCalls, emitted, reads, isServer,
      List.take_append_of_le_length inv.bound]
  markers := by
    rw [sent]
    exact inv.markers

/-- Calls that forward nothing. -/
theorem Forwards.sends (inv : j.Forwards cfg) {more : List SendCall} (queue : j'.queue = j.queue)
    (emitted : j'.emitted = j.emitted) (reads : j'.reads = j.reads)
    (sent : j'.sent = j.sent ++ more) (isServer : j'.isServer = j.isServer)
    (others : ∀ call ∈ more, call.origin ≠ .forwarded)
    (marked : ∀ call ∈ more, call.origin = .marker → (markerId? call.message.payload).isSome)
    : j'.Forwards cfg where
  toReads := inv.toReads.sends queue emitted reads sent isServer others
  calls := by
    have none : more.filter SendCall.isApp = [] :=
      List.filter_eq_nil_iff.mpr fun call member => by simp [SendCall.isApp, others call member]
    rw [sent, List.filter_append, none, List.append_nil, inv.calls, appCalls, appCalls, emitted,
      reads, isServer]
  markers := by
    rw [sent]
    exact List.forall_mem_append.mpr ⟨inv.markers, marked⟩

/-- A START command that is read is not forwarded. -/
theorem Forwards.take (inv : j.Forwards cfg) {datagram : Datagram} {rest : List Datagram}
    (queued : j.queue = datagram :: rest)
    (isStart : startPrefix.isPrefixOf datagram.data = true) : (j.take rest).Forwards cfg where
  toReads := inv.toReads.take queued isStart
  calls := by
    have next : j.appCalls cfg (j.reads + 1)
        = j.appCalls cfg j.reads ++ (forwardCall? cfg j.isServer (datagram, j.reads)).toList :=
      appCalls_succ (inv.next queued).1
    have silent : forwardCall? cfg j.isServer (datagram, j.reads) = none := if_pos isStart
    rw [silent, Option.toList_none, List.append_nil] at next
    exact inv.calls.trans next.symm
  markers := inv.markers

theorem Forwards.forward (inv : j.Forwards cfg) {datagram : Datagram} {rest : List Datagram}
    (queued : j.queue = datagram :: rest)
    : ((j.take rest).forward cfg datagram).Forwards cfg := by
  refine ⟨(inv.toReads.forward queued).1, ?_, ?_⟩
  case refine_2 =>
    unfold Journal.forward
    split
    · refine List.forall_mem_append.mpr ⟨inv.markers, fun call member isMarker => ?_⟩
      rw [List.mem_singleton.mp member] at isMarker
      cases isMarker
    · exact inv.markers
  have next : j.appCalls cfg (j.reads + 1)
      = j.appCalls cfg j.reads ++ (forwardCall? cfg j.isServer (datagram, j.reads)).toList :=
    appCalls_succ (inv.next queued).1
  unfold Journal.forward
  split
  case h_1 dst message routed =>
    have routed : rudpRoute cfg j.isServer datagram = some (dst, message) := routed
    have payload := (rudpRoute_message routed).1
    refine Eq.trans ?_ next.symm
    rw [← inv.calls]
    simp only [Journal.send, Journal.take, List.filter_append, List.append_cancel_left_eq]
    by_cases isStart : startPrefix.isPrefixOf datagram.data = true
    · simp [forwardCall?, isStart, SendCall.isApp, payload]
    · simp [forwardCall?, isStart, SendCall.isApp, payload, routed]
  case h_2 unrouted =>
    have unrouted : rudpRoute cfg j.isServer datagram = none := unrouted
    have silent : forwardCall? cfg j.isServer (datagram, j.reads) = none := by
      simp [forwardCall?, unrouted]
    rw [silent, Option.toList_none, List.append_nil] at next
    exact inv.calls.trans next.symm

theorem Forwards.drains (inv : j.Forwards cfg) (drains : Drains cfg j j') : j'.Forwards cfg := by
  induction drains with
  | refl => exact inv
  | tail _ step ih =>
      cases step with
      | emit => exact ih.emitted rfl rfl rfl rfl rfl
      | forward queued => exact ih.forward queued

theorem Forwards.settles (inv : j.Forwards cfg) (settles : j.Settles cfg j')
    : j'.Forwards cfg := by
  by_cases closed : j.ctrl.recordingChannels = []
  · obtain ⟨artifact, stored, -, rfl⟩ := (settles_closed closed).mp settles
    exact inv.same rfl rfl rfl rfl rfl
  · rw [(settles_open closed).mp settles]
    exact inv

theorem Forwards.begins (inv : j.Forwards cfg) {peer : Ip} {seq : Nat} {payload id : Bytes}
    (isMarker : markerId? payload = some id) (begins : j.Begins cfg peer seq payload id j')
    : j'.Forwards cfg := by
  obtain ⟨selfIp, cache, drained, opened, -, drains, empty, opens, settles⟩ := begins.opened
  have reset : ((j.reset id).watch cache
      ((cutMembers cfg selfIp).dedup.filter (fun ip => ip ≠ peer))).Forwards cfg :=
    inv.same rfl rfl rfl rfl rfl
  have read := reset.drains drains
  obtain ⟨late, later, target, exportPath, ok, emitted, queue, -⟩ := opens.emissions
  have sameServer : opened.isServer = drained.isServer :=
    opens.isServer.trans drains.sameReceipt.isServer.symm
  have extended : ({ drained with
      queue := late ++ later
      emitted := drained.emitted ++ (late ++ later) } : Journal).Forwards cfg :=
    read.emitted (by simp [empty]) rfl rfl rfl rfl
  have marked : opened.Forwards cfg := by
    refine extended.sends queue (by simp [emitted]) opens.reads opens.sent sameServer ?_ ?_
    · intro call member
      obtain ⟨ip, -, rfl⟩ := List.mem_map.mp member
      simp [markerCall]
    · intro call member _
      obtain ⟨ip, -, rfl⟩ := List.mem_map.mp member
      simp [markerCall, isMarker]
  exact marked.settles settles

theorem Forwards.hears (inv : j.Forwards cfg) {peer : Ip} {seq : Nat} {payload id : Bytes}
    (isMarker : markerId? payload = some id)
    (hears : j.Hears cfg peer seq payload id j') : j'.Forwards cfg := by
  have logged : (j.log (.heard peer seq id j.ctrl.currentSnapshotId)).Forwards cfg :=
    inv.same rfl rfl rfl rfl rfl
  cases hears with
  | begins _ begun => exact logged.begins isMarker begun
  | discards _ _ unchanged => rwa [unchanged]
  | ignores _ _ _ unchanged => rwa [unchanged]
  | closes _ _ _ settles =>
      have closed : ((j.log (.heard peer seq id j.ctrl.currentSnapshotId)).close peer seq).Forwards
          cfg :=
        logged.same rfl rfl rfl rfl rfl
      exact closed.settles settles

theorem Move.forwards (inv : j.Forwards cfg) (move : Move cfg j j') : j'.Forwards cfg := by
  cases move with
  | emit => exact inv.emitted rfl rfl rfl rfl rfl
  | forward queued => exact inv.forward queued
  | @command _ datagram rest queued isStart id hears =>
      have told : ((j.take rest).log (.start id)).Forwards cfg :=
        (inv.take queued isStart).same rfl rfl rfl rfl rfl
      exact told.hears (markerId?_marker id) hears
  | send dst message =>
      exact inv.sends rfl rfl rfl rfl rfl (by simp) (by simp)
  | @pass last packet next processes =>
      have noted : (j.note packet).Forwards cfg := inv.same rfl rfl rfl rfl rfl
      have processed : last.Forwards cfg := by
        cases processes with
        | marker id isMarker hears => exact noted.hears isMarker hears
        | records _ _ _ _ _ appended =>
            subst appended
            exact noted.same rfl rfl rfl rfl rfl
        | delivers _ _ delivered =>
            subst delivered
            exact noted.same rfl rfl rfl rfl rfl
      exact processed.same rfl rfl rfl rfl rfl
  | abort _ ends =>
      obtain ⟨artifact, stored, -, rfl⟩ := ends
      exact inv.same rfl rfl rfl rfl rfl

end Journal

/-- Between the callbacks of a fresh sidecar, the app's datagrams have been forwarded as far as they
were read.
-/
theorem Sidecar.Run.forwards {cfg : Config} {s : Sidecar} (run : s.Run cfg)
    : s.journal.Forwards cfg := by
  induction run with
  | start starts =>
      obtain ⟨isServer, selfIpCache, rfl, -⟩ := starts.started
      refine ⟨⟨rfl, Nat.le_refl _, ?_, ?_⟩, rfl, fun _ member => by cases member⟩
      · intro call member
        cases member
      · intro k dst message before
        cases before
  | call callback host before returned inv =>
      have moves := call_ok before.balanced.recordsPlain returned
      exact moves.keeps (fun move inv => move.forwards inv) inv

end MeshSnapshot
