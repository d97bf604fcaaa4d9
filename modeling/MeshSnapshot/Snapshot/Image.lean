import MeshSnapshot.Snapshot.Simulation

/-! What the host captures when it checkpoints the app during a snapshot. The image divides the
datagrams that the app has emitted, and the packets that it was given; the markers divide those
that the sidecar has sent.
-/

namespace MeshSnapshot

/-- The app's datagram number `k` is one that forwarding sends to `dst` as `message`. -/
def Journal.Emits (cfg : Config) (j : Journal) (k : Nat) (dst : Ip) (message : Message) : Prop :=
  ∃ datagram,
    j.emitted[k]? = some datagram
    ∧ startPrefix.isPrefixOf datagram.data = false
    ∧ rudpRoute cfg j.isServer datagram = some (dst, message)

namespace Journal

variable {cfg : Config} {members : List Ip} {own : Ip} {j j' : Journal}

-----------------------------------------------------------------------------------------
-- Reading and forwarding
-----------------------------------------------------------------------------------------

/-- Datagrams are read in the order in which the app emits them, and are forwarded then. -/
structure Reads (cfg : Config) (j : Journal) : Prop where
  queue : j.queue = j.emitted.drop j.reads
  bound : j.reads ≤ j.emitted.length
  forwarded : ∀ call ∈ j.sent, call.origin = .forwarded → call.reads ≤ j.reads
  routed
    : ∀ {k dst message},
        k < j.reads → j.Emits cfg k dst message → ⟨dst, message, .forwarded, k + 1⟩ ∈ j.sent

/-- What is forwarded later has been read later. -/
structure Continues (j j' : Journal) : Prop where
  reads : j.reads ≤ j'.reads
  sent
    : ∃ more,
        j'.sent = j.sent ++ more
        ∧ ∀ call ∈ more, call.origin = .forwarded → j.reads < call.reads

theorem Continues.refl (j : Journal) : j.Continues j :=
  ⟨Nat.le_refl _, [], by simp, fun _ member => by cases member⟩

theorem Continues.of_eq (reads : j'.reads = j.reads) (sent : j'.sent = j.sent)
    : j.Continues j' :=
  ⟨Nat.le_of_eq reads.symm, [], by simp [sent], fun _ member => by cases member⟩

theorem Continues.trans {middle : Journal} (first : j.Continues middle)
    (second : middle.Continues j') : j.Continues j' := by
  obtain ⟨reads, more, sent, later⟩ := first
  obtain ⟨reads', more', sent', later'⟩ := second
  refine ⟨reads.trans reads', more ++ more', by rw [sent', sent, List.append_assoc], ?_⟩
  intro call member forwarded
  rcases List.mem_append.mp member with member | member
  · exact later call member forwarded
  · exact reads.trans_lt (later' call member forwarded)

/-- A journal with the same datagrams and the same calls reads as well. -/
theorem Reads.same (inv : j.Reads cfg) (queue : j'.queue = j.queue)
    (emitted : j'.emitted = j.emitted) (reads : j'.reads = j.reads) (sent : j'.sent = j.sent)
    (isServer : j'.isServer = j.isServer) : j'.Reads cfg where
  queue := by rw [queue, emitted, reads]; exact inv.queue
  bound := by rw [emitted, reads]; exact inv.bound
  forwarded := by rw [sent, reads]; exact inv.forwarded
  routed before emits := by
    rw [sent]
    refine inv.routed (reads ▸ before) ?_
    unfold Emits at emits ⊢
    rwa [emitted, isServer] at emits

/-- Of what is emitted later, nothing has been read. -/
theorem Reads.emitted (inv : j.Reads cfg) {datagrams : List Datagram}
    (queue : j'.queue = j.queue ++ datagrams)
    (emitted : j'.emitted = j.emitted ++ datagrams) (reads : j'.reads = j.reads)
    (sent : j'.sent = j.sent) (isServer : j'.isServer = j.isServer) : j'.Reads cfg where
  queue := by
    rw [queue, emitted, reads, List.drop_append_of_le_length inv.bound, inv.queue]
  bound := by
    rw [emitted, reads, List.length_append]
    exact inv.bound.trans (Nat.le_add_right _ _)
  forwarded := by rw [sent, reads]; exact inv.forwarded
  routed := fun {k dst message} before emits => by
    rw [reads] at before
    obtain ⟨datagram, found, plain, routed⟩ := emits
    rw [emitted, List.getElem?_append_left (before.trans_le inv.bound)] at found
    rw [sent]
    exact inv.routed before ⟨datagram, found, plain, isServer ▸ routed⟩

/-- Calls that forward nothing do not matter. -/
theorem Reads.sends (inv : j.Reads cfg) {more : List SendCall} (queue : j'.queue = j.queue)
    (emitted : j'.emitted = j.emitted) (reads : j'.reads = j.reads)
    (sent : j'.sent = j.sent ++ more) (isServer : j'.isServer = j.isServer)
    (others : ∀ call ∈ more, call.origin ≠ .forwarded) : j'.Reads cfg where
  queue := by rw [queue, emitted, reads]; exact inv.queue
  bound := by rw [emitted, reads]; exact inv.bound
  forwarded call member forwarded := by
    rw [sent] at member
    rw [reads]
    rcases List.mem_append.mp member with member | member
    · exact inv.forwarded call member forwarded
    · exact (others call member forwarded).elim
  routed before emits := by
    rw [sent]
    refine List.mem_append_left _ (inv.routed (reads ▸ before) ?_)
    unfold Emits at emits ⊢
    rwa [emitted, isServer] at emits

/-- The datagram that is read next is the first one that has not been read. -/
theorem Reads.next (inv : j.Reads cfg) {datagram : Datagram} {rest : List Datagram}
    (queued : j.queue = datagram :: rest)
    : j.emitted[j.reads]? = some datagram ∧ j.reads < j.emitted.length
      ∧ rest = j.emitted.drop (j.reads + 1) := by
  have next := inv.queue.symm.trans queued
  have here : j.emitted[j.reads]? = some datagram := by
    rw [← List.head?_drop, next, List.head?_cons]
  refine ⟨here, (List.getElem?_eq_some_iff.mp here).1, ?_⟩
  rw [← List.drop_drop, next]
  rfl

/-- A START command is read and not forwarded. -/
theorem Reads.take (inv : j.Reads cfg) {datagram : Datagram} {rest : List Datagram}
    (queued : j.queue = datagram :: rest)
    (isStart : startPrefix.isPrefixOf datagram.data = true) : (j.take rest).Reads cfg := by
  obtain ⟨here, inside, remaining⟩ := inv.next queued
  refine ⟨remaining, inside, ?_, ?_⟩
  · exact fun call member forwarded => (inv.forwarded call member forwarded).trans (Nat.le_succ _)
  · intro k dst message before emits
    rcases Nat.lt_succ_iff_lt_or_eq.mp before with before | rfl
    · exact inv.routed before emits
    · obtain ⟨other, found, plain, -⟩ := emits
      obtain rfl := Option.some.inj (here.symm.trans found)
      cases plain.symm.trans isStart

theorem Reads.forward (inv : j.Reads cfg) {datagram : Datagram} {rest : List Datagram}
    (queued : j.queue = datagram :: rest)
    : ((j.take rest).forward cfg datagram).Reads cfg
      ∧ j.Continues ((j.take rest).forward cfg datagram) := by
  obtain ⟨here, inside, remaining⟩ := inv.next queued
  have older (call : SendCall) (member : call ∈ j.sent) (forwarded : call.origin = .forwarded) :=
    (inv.forwarded call member forwarded).trans (Nat.le_succ _)
  unfold Journal.forward
  split
  case h_1 dst message routed =>
    refine ⟨⟨remaining, inside, ?_, ?_⟩, Nat.le_succ _, _, rfl, ?_⟩
    · intro call member forwarded
      rcases List.mem_append.mp member with member | member
      · exact older call member forwarded
      · rw [List.mem_singleton.mp member]
        exact Nat.le_refl _
    · intro k other message' before emits
      rcases Nat.lt_succ_iff_lt_or_eq.mp before with before | rfl
      · exact List.mem_append_left _ (inv.routed before emits)
      · obtain ⟨found, at_, -, again⟩ := emits
        obtain rfl := Option.some.inj (here.symm.trans at_)
        obtain ⟨rfl, rfl⟩ := Prod.mk.inj (Option.some.inj (routed.symm.trans again))
        exact List.mem_append_right _ (List.mem_singleton_self _)
    · intro call member _
      rw [List.mem_singleton.mp member]
      exact Nat.lt_succ_self _
  case h_2 unrouted =>
    refine ⟨⟨remaining, inside, older, ?_⟩, Nat.le_succ _, [], by simp [Journal.take], ?_⟩
    · intro k other message before emits
      rcases Nat.lt_succ_iff_lt_or_eq.mp before with before | rfl
      · exact inv.routed before emits
      · obtain ⟨found, at_, -, again⟩ := emits
        obtain rfl := Option.some.inj (here.symm.trans at_)
        cases unrouted.symm.trans again
    · exact fun call member => by cases member

theorem Reads.drains (inv : j.Reads cfg) (drains : Drains cfg j j')
    : j'.Reads cfg ∧ j.Continues j' := by
  induction drains with
  | refl => exact ⟨inv, .refl j⟩
  | @tail middle _ _ step ih =>
      obtain ⟨before, continues⟩ := ih
      cases step with
      | emit datagrams =>
          exact ⟨before.emitted rfl rfl rfl rfl rfl, continues.trans (.of_eq rfl rfl)⟩
      | forward queued =>
          obtain ⟨after, next⟩ := before.forward queued
          exact ⟨after, continues.trans next⟩

/-- The snapshot-start branch reads the intercept queue empty, and sends markers afterwards. -/
theorem Reads.opened (inv : j.Reads cfg) {cut : List Ip} {cache : Option Ip} {peer : Ip}
    {seq : Nat} {payload id : Bytes} {channels : List Ip} {drained opened : Journal}
    (drains : Drains cfg ((j.reset id).watch cache channels) drained) (empty : drained.queue = [])
    (opens : Opened cut cache peer seq payload id j drained opened)
    : opened.Reads cfg ∧ drained.Reads cfg ∧ j.Continues drained
      ∧ j.Continues opened := by
  have reset : ((j.reset id).watch cache channels).Reads cfg := inv.same rfl rfl rfl rfl rfl
  obtain ⟨read, continues⟩ := reset.drains drains
  have same : j.Continues ((j.reset id).watch cache channels) := .of_eq rfl rfl
  have continues := same.trans continues
  obtain ⟨late, later, target, exportPath, ok, emitted, queue, -⟩ := opens.emissions
  have markers (call : SendCall) (member : call ∈ cut.map (markerCall payload drained.reads))
      : call.origin ≠ .forwarded := by
    obtain ⟨ip, -, rfl⟩ := List.mem_map.mp member
    simp [markerCall]
  have sameServer : opened.isServer = drained.isServer :=
    opens.isServer.trans drains.sameReceipt.isServer.symm
  have extended : ({ drained with
      queue := late ++ later, emitted := drained.emitted ++ (late ++ later) } : Journal).Reads cfg :=
    read.emitted (by simp [empty]) rfl rfl rfl rfl
  refine ⟨extended.sends queue (by simp [emitted]) opens.reads opens.sent sameServer markers, read,
    continues, continues.trans ⟨Nat.le_of_eq opens.reads.symm, _, opens.sent, ?_⟩⟩
  exact fun call member forwarded => (markers call member forwarded).elim

-----------------------------------------------------------------------------------------
-- Images
-----------------------------------------------------------------------------------------

/-- What the app image of a snapshot divides. Before the markers of the snapshot, the sidecar
has forwarded the first `reads` datagrams; and the app was given the packets that the sidecar
had passed when the snapshot began.
-/
structure Image (cfg : Config) (own : Ip) (j : Journal) (id : Bytes)
    (reads emitted delivered : Nat) : Prop where
  bound : reads ≤ j.reads
  emitted : reads ≤ emitted
  sent
    : ∃ before after selfIp,
        j.sent
            = before ++ (cutMembers cfg selfIp).map (markerCall (markerPrefix ++ id) reads)
              ++ after
        ∧ (selfIp = none ∨ selfIp = some own)
        ∧ (∀ call ∈ before, call.origin = .forwarded → call.reads ≤ reads)
        ∧ ∀ call ∈ after, call.origin = .forwarded → reads < call.reads
  delivered
    : ∃ passed,
        (id, passed) ∈ beginsOf j.control
        ∧ passed ≤ j.consumed.length
        ∧ delivered ≤ j.delivered.length
        ∧ ∀ peer,
            (packetsOf (j.delivered.take delivered) peer).Perm
              (Deferral.numbered isMarker (heldFrom (j.consumed.take passed) peer))

/-- Nothing that happens later changes an image. -/
theorem Image.later {id : Bytes} {reads emitted delivered : Nat}
    (image : j.Image cfg own id reads emitted delivered) (grows : j.Grows j')
    (continues : j.Continues j') : j'.Image cfg own id reads emitted delivered where
  bound := image.bound.trans continues.reads
  emitted := image.emitted
  sent := by
    obtain ⟨before, after, selfIp, sent, known, earlier, later⟩ := image.sent
    obtain ⟨-, more, sent', more_later⟩ := continues
    refine ⟨before, after ++ more, selfIp, by rw [sent', sent, List.append_assoc], known, earlier,
      fun call member forwarded => ?_⟩
    rcases List.mem_append.mp member with member | member
    · exact later call member forwarded
    · exact image.bound.trans_lt (more_later call member forwarded)
  delivered := by
    obtain ⟨passed, began, inside, bound, perm⟩ := image.delivered
    obtain ⟨control, control'⟩ := grows.control
    obtain ⟨consumed, consumed'⟩ := grows.consumed
    obtain ⟨delivered, delivered'⟩ := grows.delivered
    rw [← control', ← consumed', ← delivered', beginsOf_append]
    refine ⟨passed, List.mem_append_left _ began, ?_, ?_, fun peer => ?_⟩
    · exact inside.trans (by simp)
    · exact bound.trans (by simp)
    · rw [List.take_append_of_le_length inside, List.take_append_of_le_length bound]
      exact perm peer

/-- Every image that was taken, and what later ones rest on. -/
structure Captures (cfg : Config) (own : Ip) (j : Journal) : Prop where
  reads : j.Reads cfg
  selfIpCache : j.ctrl.selfIpCache = none ∨ j.ctrl.selfIpCache = some own
  images
    : ∀ {id target exportPath ok reads emitted delivered},
        .checkpointed id target exportPath ok reads emitted delivered ∈ j.control
        → j.Image cfg own id reads emitted delivered

/-- A change that takes no image. -/
theorem Captures.next (captures : j.Captures cfg own) (reads : j'.Reads cfg)
    (grows : j.Grows j') (continues : j.Continues j')
    (cache : j'.ctrl.selfIpCache = j.ctrl.selfIpCache)
    (control
      : ∀ {id target exportPath ok reads emitted delivered},
          .checkpointed id target exportPath ok reads emitted delivered ∈ j'.control
          → .checkpointed id target exportPath ok reads emitted delivered ∈ j.control)
    : j'.Captures cfg own where
  reads := reads
  selfIpCache := cache ▸ captures.selfIpCache
  images logged := (captures.images (control logged)).later grows continues

/-- A change that neither reads nor sends anything, nor takes an image. -/
theorem Captures.same (captures : j.Captures cfg own) (grows : j.Grows j')
    (queue : j'.queue = j.queue) (emitted : j'.emitted = j.emitted) (reads : j'.reads = j.reads)
    (sent : j'.sent = j.sent) (isServer : j'.isServer = j.isServer)
    (cache : j'.ctrl.selfIpCache = j.ctrl.selfIpCache)
    (control
      : ∀ {id target exportPath ok reads emitted delivered},
          .checkpointed id target exportPath ok reads emitted delivered ∈ j'.control
          → .checkpointed id target exportPath ok reads emitted delivered ∈ j.control)
    : j'.Captures cfg own :=
  captures.next (captures.reads.same queue emitted reads sent isServer) grows
    (.of_eq reads sent) cache control

theorem Captures.log (captures : j.Captures cfg own) {event : ControlEvent}
    (noImage
      : ∀ id target exportPath ok reads emitted delivered,
          event ≠ .checkpointed id target exportPath ok reads emitted delivered)
    : (j.log event).Captures cfg own := by
  refine captures.same (grows_log j event) rfl rfl rfl rfl rfl rfl fun logged => ?_
  rcases List.mem_append.mp logged with logged | last
  · exact logged
  · exact (noImage _ _ _ _ _ _ _ (List.mem_singleton.mp last).symm).elim

theorem Captures.ends (captures : j.Captures cfg own) {status : Status}
    (ends : j.Ends cfg status j') : j'.Captures cfg own := by
  have grows := ends.grows
  obtain ⟨artifact, stored, -, rfl⟩ := ends
  refine captures.same grows rfl rfl rfl rfl rfl rfl fun logged => ?_
  simpa [flush, Journal.log] using logged

theorem Captures.settles (captures : j.Captures cfg own) (settles : j.Settles cfg j')
    : j'.Captures cfg own := by
  by_cases closed : j.ctrl.recordingChannels = []
  · exact captures.ends ((settles_closed closed).mp settles)
  · rw [(settles_open closed).mp settles]
    exact captures

/-- Between snapshots, the app has been given every packet that has been passed. -/
def Given (j : Journal) : Prop :=
  j.ctrl.isSnapshotting = false
  → ∀ peer,
      (packetsOf j.delivered peer).Perm
        (Deferral.numbered isMarker (heldFrom j.consumed peer))

theorem Balanced.given (balanced : j.Balanced) : j.Given := by
  intro idle peer
  have ledger := balanced.ledger peer
  have conserved := ledger.conserved
  rw [ledger.idle idle, List.append_nil] at conserved
  rw [← map_snd_packetsOf]
  exact conserved

theorem Captures.begins (config : cfg.Deployed members own) (captures : j.Captures cfg own)
    (given : j.Given) (idle : j.ctrl.isSnapshotting = false) {peer : Ip} {seq : Nat}
    {id : Bytes} (begins : j.Begins cfg peer seq (markerPrefix ++ id) id j')
    : j'.Captures cfg own := by
  obtain ⟨selfIp, cache, drained, opened, detects, drains, empty, opens, settles⟩ := begins.opened
  obtain ⟨known, cached⟩ := detects_own config detects captures.selfIpCache
  obtain ⟨read, drainedReads, drainedContinues, continues⟩ :=
    captures.reads.opened drains empty opens
  have grows := opens.grows drains
  obtain ⟨late, later, target, exportPath, ok, -, -, control⟩ := opens.emissions
  refine Captures.settles ⟨read, opens.selfIpCache ▸ cached, fun logged => ?_⟩ settles
  rw [control] at logged
  rcases List.mem_append.mp logged with logged | now
  · exact (captures.images logged).later grows continues
  · rcases List.mem_cons.mp now with now | now
    · cases now
    cases List.mem_singleton.mp now
    exact {
      bound := Nat.le_of_eq opens.reads.symm
      emitted := drainedReads.bound.trans (by simp)
      sent := ⟨drained.sent, [], selfIp, by rw [opens.sent, List.append_nil], known,
        drainedReads.forwarded, fun _ member => by cases member⟩
      delivered := by
        refine ⟨j.consumed.length, ?_, Nat.le_of_eq (by rw [opens.consumed]),
          Nat.le_of_eq (by rw [opens.delivered]), fun peer => ?_⟩
        · rw [control, beginsOf_append]
          exact List.mem_append_right _ List.mem_cons_self
        · rw [opens.consumed, opens.delivered, List.take_length, List.take_length]
          exact given idle peer
    }

theorem Captures.hears (config : cfg.Deployed members own) (captures : j.Captures cfg own)
    (given : j.Given) {peer : Ip} {seq : Nat} {id : Bytes}
    (hears : j.Hears cfg peer seq (markerPrefix ++ id) id j') : j'.Captures cfg own := by
  have logged : (j.log (.heard peer seq id j.ctrl.currentSnapshotId)).Captures cfg own :=
    captures.log (by simp)
  cases hears with
  | begins idle begun =>
      exact logged.begins config given idle begun
  | discards _ _ unchanged => rwa [unchanged]
  | ignores _ _ _ unchanged => rwa [unchanged]
  | closes _ _ _ settles =>
      have closed : ((j.log (.heard peer seq id j.ctrl.currentSnapshotId)).close peer seq).Captures
          cfg own :=
        logged.same ⟨List.prefix_rfl, List.prefix_rfl, List.prefix_rfl, List.prefix_rfl,
          List.prefix_rfl⟩ rfl rfl rfl rfl rfl rfl fun logged => logged
      exact closed.settles settles

theorem Captures.processes (config : cfg.Deployed members own) (captures : j.Captures cfg own)
    (given : j.Given) {packet : PeerPacket} (processes : j.Processes cfg packet j')
    : j'.Captures cfg own := by
  have grows := processes.grows
  cases processes with
  | marker id isMarker hears =>
      rw [markerId?_eq_some.mp isMarker] at hears
      exact captures.hears config given hears
  | records _ _ _ _ _ appended =>
      subst appended
      exact captures.same grows rfl rfl rfl rfl rfl rfl fun logged => logged
  | delivers _ _ delivered =>
      subst delivered
      exact captures.same grows rfl rfl rfl rfl rfl rfl fun logged => logged

theorem Move.captures (config : cfg.Deployed members own) (captures : j.Captures cfg own)
    (balanced : j.Balanced) (move : Move cfg j j') : j'.Captures cfg own := by
  have grows := move.grows
  cases move with
  | emit datagrams =>
      exact captures.next (captures.reads.emitted rfl rfl rfl rfl rfl) grows (.of_eq rfl rfl) rfl
        fun logged => logged
  | @forward datagram rest queued =>
      obtain ⟨read, continues⟩ := captures.reads.forward queued
      have same := sameReceipt_forward cfg (j.take rest) datagram
      exact captures.next read grows continues (by rw [same.ctrl]; rfl)
        fun logged => by rwa [same.control] at logged
  | @command _ datagram rest queued isStart id hears =>
      have taken : (j.take rest).Captures cfg own :=
        captures.next (captures.reads.take queued isStart) (grows_take j rest)
          ⟨Nat.le_succ _, [], by simp [Journal.take], fun _ member => by cases member⟩ rfl
          fun logged => logged
      have told : ((j.take rest).log (.start id)).Captures cfg own := taken.log (by simp)
      exact told.hears config balanced.given hears
  | send dst message =>
      refine captures.next (captures.reads.sends rfl rfl rfl rfl rfl ?_) grows
        ⟨Nat.le_refl _, _, rfl, ?_⟩ rfl fun logged => logged
      · simp
      · simp
  | @pass last packet next processes =>
      have noted : (j.note packet).Captures cfg own :=
        captures.same ⟨List.prefix_rfl, List.prefix_rfl, List.prefix_rfl, List.prefix_rfl,
          List.prefix_rfl⟩ rfl rfl rfl rfl rfl rfl fun logged => logged
      have processed := noted.processes config balanced.given processes
      refine processed.same ?_ rfl rfl rfl rfl rfl rfl fun logged => logged
      exact ⟨List.prefix_rfl, List.prefix_rfl, List.prefix_append _ _, List.prefix_rfl,
        List.prefix_rfl⟩
  | abort _ ends => exact captures.ends ends

end Journal

/-- Between the callbacks of a fresh sidecar, every image is as described. -/
theorem Sidecar.Run.captures {cfg : Config} {members : List Ip} {own : Ip} {s : Sidecar}
    (config : cfg.Deployed members own) (run : s.Run cfg) : s.journal.Captures cfg own := by
  induction run with
  | start starts =>
      obtain ⟨isServer, selfIpCache, rfl, cache⟩ := starts.started
      refine ⟨⟨rfl, Nat.le_refl _, ?_, ?_⟩, ?_, fun logged => ?_⟩
      · intro call member
        cases member
      · intro k dst message before
        cases before
      · rwa [config.address] at cache
      · cases logged
  | call callback host before returned captures =>
      have moves := call_ok before.balanced.recordsPlain returned
      have step {a b : Journal} (move : Journal.Move cfg a b)
          (both : a.Balanced ∧ a.Captures cfg own) : b.Balanced ∧ b.Captures cfg own :=
        ⟨move.balanced both.1, move.captures config both.2 both.1⟩
      exact (moves.keeps step ⟨before.balanced, captures⟩).2

end MeshSnapshot
