import MeshSnapshot.Sidecar.Begins
import MeshSnapshot.Sidecar.Frames

/-! What each function does to the journal when it returns. A caller cites these and never
looks into the function again.
-/

namespace MeshSnapshot

open Procedure

variable {cfg : Config} {s s' : Sidecar} {u : Unit}

theorem modifyCtrl_ok {change : SnapshotController → SnapshotController}
    (returned : modifyCtrl change s = .ok u s')
    : s'.journal = s.journal.setCtrl (change s.ctrl) := by
  obtain rfl := update_ok.mp returned
  rfl

theorem logControl_ok {event : ControlEvent} (returned : logControl event s = .ok u s')
    : s'.journal = s.journal.log event := by
  obtain rfl := update_ok.mp returned
  rfl

-----------------------------------------------------------------------------------------
-- Delivering and sending
-----------------------------------------------------------------------------------------

theorem deliver_ok {ip : Ip} {seq : Nat} {held : Held}
    (returned : deliver ip seq held s = .ok u s')
    : s'.journal = s.journal.deliver ⟨ip, seq, held⟩ := by
  obtain ⟨sock, s₁, found, returned⟩ := bind_ok.mp returned
  obtain ⟨_, s₂, sent, returned⟩ := bind_ok.mp returned
  obtain rfl := update_ok.mp returned
  have same : s₂.journal = s.journal :=
    (((framed_spoofSendto _ _ _).ok sent).journal).trans ((framed_getSpoofSock _).ok found).journal
  exact congrArg (Journal.deliver · ⟨ip, seq, held⟩) same

theorem sendData_ok {dst : Ip} {message : Message} {origin : SendOrigin}
    (returned : sendData dst message origin s = .ok u s')
    : s'.journal = s.journal.send dst message origin ∧ s'.host.app = s.host.app := by
  have outcome := sendData_outcome dst message origin s
  rw [returned] at outcome
  obtain ⟨packet, now, -, core⟩ := outcome
  exact ⟨congrArg Core.journal core, congrArg Core.app core⟩

theorem sendPlain_ok {dst : Ip} {message : Message}
    (returned : sendPlain dst message s = .ok u s')
    : s'.journal = s.journal ∧ s'.host.app = s.host.app := by
  obtain ⟨packet, s₁, built, returned⟩ := bind_ok.mp returned
  have same := (framed_orStructError _).ok built
  obtain rfl := tunnelSendto_ok returned
  exact ⟨same.journal, same.app⟩

theorem sendMarker_ok {payload : Bytes} {ip : Ip}
    (returned : sendMarker payload ip s = .ok u s')
    : s'.journal = s.journal.sendMarker payload ip := by
  obtain ⟨_, s₁, known, returned⟩ := bind_ok.mp returned
  obtain ⟨_, s₂, sent, returned⟩ := bind_ok.mp returned
  obtain rfl := update_ok.mp returned
  have marked := (sendData_ok sent).1
  rw [((framed_getPeer ip).ok known).journal] at marked
  have counted : (s₂.peer ip).sendSeq = s.journal.sendSeq ip + 1 := by
    change s₂.journal.sendSeq ip = _
    simp [marked, Journal.send]
  have ctrl : s₂.ctrl = s.ctrl := congrArg Journal.ctrl marked
  change s₂.journal.setCtrl { s₂.ctrl with
    recordedSendSeq := s₂.ctrl.recordedSendSeq.set ip (s₂.peer ip).sendSeq } = _
  rw [marked, counted, ctrl]
  rfl

theorem sendMarkers_ok {payload : Bytes} {members : List Ip}
    (returned : forEach (sendMarker payload) members s = .ok u s')
    : s'.journal = s.journal.sendMarkers payload members := by
  induction members generalizing s with
  | nil =>
      obtain ⟨-, rfl⟩ := pure_ok.mp returned
      rfl
  | cons ip rest ih =>
      obtain ⟨_, s₁, sent, returned⟩ := bind_ok.mp returned
      rw [ih returned, sendMarker_ok sent]
      rfl

-----------------------------------------------------------------------------------------
-- The intercept socket
-----------------------------------------------------------------------------------------

theorem appPoint_ok (returned : appPoint s = .ok u s')
    : ∃ datagrams, s'.journal = s.journal.emit datagrams ∧ s'.pending = s.pending := by
  obtain ⟨_, _, read, returned⟩ := bind_ok.mp returned
  obtain ⟨rfl, rfl⟩ := read_ok.mp read
  cases queued : s.host.app with
  | nil =>
      simp only [queued] at returned
      obtain ⟨-, rfl⟩ := pure_ok.mp returned
      refine ⟨[], ?_, rfl⟩
      simp [Journal.emit, Sidecar.journal]
  | cons datagrams rest =>
      simp only [queued] at returned
      obtain rfl := update_ok.mp returned
      refine ⟨datagrams, rfl, ?_⟩
      simp [Sidecar.pending, Sidecar.emit, queued]
      omega

/-- A read that would block leaves an empty queue; any other takes the head of the queue. -/
theorem recvmsg_ok {received : Option Datagram} (returned : recvmsg s = .ok received s')
    : ∃ datagrams,
        match received with
        | none => s'.journal = s.journal.emit datagrams ∧ s'.journal.queue = []
        | some datagram =>
            ∃ rest,
              (s.journal.emit datagrams).queue = datagram :: rest
              ∧ s'.journal = (s.journal.emit datagrams).take rest
              ∧ s'.pending + 1 = s.pending := by
  obtain ⟨_, s₁, ran, returned⟩ := bind_ok.mp returned
  obtain ⟨datagrams, emitted, pending⟩ := appPoint_ok ran
  obtain ⟨_, s₂, called, returned⟩ := bind_ok.mp returned
  have same := framed_outsideCall.ok called
  obtain ⟨_, _, read, returned⟩ := bind_ok.mp returned
  obtain ⟨rfl, rfl⟩ := read_ok.mp read
  have journal : s₂.journal = s.journal.emit datagrams := same.journal.trans emitted
  refine ⟨datagrams, ?_⟩
  cases queue : s₂.localSock with
  | nil =>
      simp only [queue] at returned
      obtain ⟨rfl, rfl⟩ := pure_ok.mp returned
      exact ⟨journal, queue⟩
  | cons datagram rest =>
      simp only [queue] at returned
      obtain ⟨_, s₃, taken, returned⟩ := bind_ok.mp returned
      obtain rfl := update_ok.mp taken
      obtain ⟨rfl, rfl⟩ := pure_ok.mp returned
      refine ⟨rest, ?_, congrArg (Journal.take · rest) journal, ?_⟩
      · rw [← journal]
        exact queue
      · rw [← pending]
        have app := same.app
        have local_ := same.localSock
        simp [Sidecar.pending, Sidecar.take, ← app, ← local_, queue]
        omega

/-- The destination that `originalDst` returns, read off the control messages. -/
theorem originalDst_ok {ancdata : List Cmsg} {target : Option (Bytes × Nat)}
    (returned : originalDst ancdata s = .ok target s')
    : s = s'
      ∧ match ancdata.find? (fun cmsg => cmsg.level == 0 && cmsg.type == 20) with
        | none => target = none
        | some cmsg =>
            ((cmsg.data.drop 2).take 2).length = 2 ∧ ((cmsg.data.drop 4).take 4).length = 4
            ∧ target = some ((cmsg.data.drop 4).take 4, ofBigEndian ((cmsg.data.drop 2).take 2)) := by
  unfold originalDst at returned
  cases found : ancdata.find? (fun cmsg => cmsg.level == 0 && cmsg.type == 20) with
  | none =>
      simp only [found] at returned
      obtain ⟨rfl, rfl⟩ := pure_ok.mp returned
      exact ⟨rfl, rfl⟩
  | some cmsg =>
      simp only [found] at returned
      split at returned
      · exact (raise_ok.mp returned).elim
      · next port =>
          split at returned
          · exact (raise_ok.mp returned).elim
          · next ip =>
              obtain ⟨rfl, rfl⟩ := pure_ok.mp returned
              exact ⟨rfl, Decidable.not_not.mp port, Decidable.not_not.mp ip, rfl⟩

theorem rudpRoute_of_cmsg (cfg : Config) (isServer : Bool) {datagram : Datagram} {cmsg : Cmsg}
    (found
      : datagram.ancdata.find? (fun cmsg => cmsg.level == 0 && cmsg.type == 20) = some cmsg)
    (port : ((cmsg.data.drop 2).take 2).length = 2)
    (ip : ((cmsg.data.drop 4).take 4).length = 4)
    : rudpRoute cfg isServer datagram
      = if ofBigEndian ((cmsg.data.drop 2).take 2) ≠ 0 ∧ inMeshNetwork ((cmsg.data.drop 4).take 4)
            ∧ isServer ∧ inetNtoa ((cmsg.data.drop 4).take 4) ∈ cfg.meshMembers then
          some (inetNtoa ((cmsg.data.drop 4).take 4),
            ⟨datagram.addr.2, ofBigEndian ((cmsg.data.drop 2).take 2),
              (cmsg.data.drop 4).take 4, datagram.data⟩)
        else
          none := by
  simp only [rudpRoute, found, port, ip, true_and]

/-- Forwarding a datagram shows in the journal exactly when it goes out over RUDP. -/
theorem forwardIntercepted_ok {datagram : Datagram}
    (returned : forwardIntercepted cfg datagram s = .ok u s')
    : s'.journal = s.journal.forward cfg datagram ∧ s'.host.app = s.host.app := by
  obtain ⟨target, s, parsed, returned⟩ := bind_ok.mp returned
  obtain ⟨rfl, found⟩ := originalDst_ok parsed
  cases cmsg? : datagram.ancdata.find? (fun cmsg => cmsg.level == 0 && cmsg.type == 20) with
  | none =>
      simp only [cmsg?] at found
      subst found
      obtain ⟨-, rfl⟩ := pure_ok.mp returned
      simp [Journal.forward, rudpRoute, cmsg?]
  | some cmsg =>
      simp only [cmsg?] at found
      obtain ⟨portLength, ipLength, rfl⟩ := found
      have route := rudpRoute_of_cmsg cfg s.isServer cmsg? portLength ipLength
      dsimp only at returned
      generalize (cmsg.data.drop 2).take 2 = port at *
      generalize (cmsg.data.drop 4).take 4 = ip at *
      have unrouted (absent : rudpRoute cfg s.isServer datagram = none)
          : s.journal.forward cfg datagram = s.journal := by
        have absent : rudpRoute cfg s.journal.isServer datagram = none := absent
        simp only [Journal.forward, absent]
      split at returned
      case isTrue zero =>
        obtain ⟨-, rfl⟩ := pure_ok.mp returned
        rw [unrouted (by simp [route, zero])]
        exact ⟨rfl, rfl⟩
      case isFalse nonzero =>
        split at returned
        case isFalse outside =>
          obtain ⟨sock, s₂, got, returned⟩ := bind_ok.mp returned
          have same := ((framed_getSpoofSock _).ok got).trans
            ((framed_spoofSendto _ _ _).ok returned)
          rw [unrouted (by simp [route, outside])]
          exact ⟨same.journal, same.app⟩
        case isTrue inMesh =>
          obtain ⟨_, _, read, returned⟩ := bind_ok.mp returned
          obtain ⟨rfl, rfl⟩ := read_ok.mp read
          split at returned
          case isFalse plain =>
            have noRudp : s.isServer = true → inetNtoa ip ∉ cfg.meshMembers := by
              simpa [useRudp] using plain
            rw [unrouted (by rw [route, if_neg fun all => noRudp all.2.2.1 all.2.2.2])]
            exact sendPlain_ok returned
          case isTrue rudp =>
            have rudp : s.isServer = true ∧ inetNtoa ip ∈ cfg.meshMembers := by
              simpa [useRudp] using rudp
            obtain ⟨_, s₂, known, returned⟩ := bind_ok.mp returned
            have same := (framed_getPeer _).ok known
            obtain ⟨journal, app⟩ := sendData_ok returned
            rw [if_pos ⟨nonzero, inMesh, rudp.1, rudp.2⟩] at route
            have route : rudpRoute cfg s.journal.isServer datagram = _ := route
            simp only [Journal.forward, route]
            exact ⟨same.journal ▸ journal, app.trans same.app⟩

theorem Journal.forward_queue (cfg : Config) (j : Journal) (datagram : Datagram)
    : (j.forward cfg datagram).queue = j.queue := by
  unfold Journal.forward
  split <;> rfl

/-- Draining forwards what is pending and ends with an empty queue. -/
theorem drainLoop_ok {fuel : Nat} (returned : drainLoop cfg fuel s = .ok u s')
    (enough : s.pending < fuel)
    : Journal.Drains cfg s.journal s'.journal ∧ s'.journal.queue = [] := by
  induction fuel generalizing s with
  | zero => omega
  | succ fuel ih =>
      obtain ⟨received, s₁, ran, returned⟩ := bind_ok.mp returned
      obtain ⟨datagrams, outcome⟩ := recvmsg_ok ran
      cases received with
      | none =>
          obtain ⟨-, rfl⟩ := pure_ok.mp returned
          exact ⟨.single (outcome.1 ▸ .emit _ _), outcome.2⟩
      | some datagram =>
          obtain ⟨rest, queued, taken, pending⟩ := outcome
          obtain ⟨_, s₂, forwarded, returned⟩ := bind_ok.mp returned
          obtain ⟨journal, app⟩ := forwardIntercepted_ok forwarded
          have queue : s₂.localSock = s₁.localSock := by
            have := congrArg Journal.queue journal
            rwa [Journal.forward_queue] at this
          have left : s₂.pending = s₁.pending := by simp only [Sidecar.pending, queue, app]
          obtain ⟨drains, empty⟩ := ih returned (by omega)
          refine ⟨.head (.emit _ datagrams) (.head (.forward queued) ?_), empty⟩
          rwa [← taken, ← journal]

theorem drainIntercept_ok (returned : drainIntercept cfg s = .ok u s')
    : Journal.Drains cfg s.journal s'.journal ∧ s'.journal.queue = [] := by
  obtain ⟨_, _, read, returned⟩ := bind_ok.mp returned
  obtain ⟨rfl, rfl⟩ := read_ok.mp read
  exact drainLoop_ok returned (Nat.lt_succ_self _)

-----------------------------------------------------------------------------------------
-- Parts of the snapshot-start branch
-----------------------------------------------------------------------------------------

/-- A route detection either raises before it has changed anything, or fills the cache. -/
theorem detectSelfIp_outcome (cfg : Config) (s : Sidecar)
    : match detectSelfIp cfg s with
      | .ok selfIp s' =>
          selfIp = some cfg.address
          ∧ s'.journal = s.journal.setCtrl { s.ctrl with selfIpCache := some cfg.address }
      | .error _ s' => SameCore s s' := by
  have called := framed_outsideCall s
  simp only [detectSelfIp, bind_run]
  revert called
  cases outsideCall s with
  | error error s₁ => exact id
  | ok _ s₁ =>
      intro (same : SameCore s s₁)
      cases members : cfg.meshMembers with
      | nil => simpa [firstMember, members] using same
      | cons ip rest =>
          have ctrl := same.ctrl
          simp only [firstMember, members, pure_run, modifyCtrl, update_run, true_and]
          change s₁.journal.setCtrl { s₁.ctrl with selfIpCache := some cfg.address } = _
          rw [same.journal, same.ctrl]

/-- The answer of `_self_mesh_ip` changes at most the cached address. -/
theorem selfMeshIp_ok {selfIp : Option Ip} (returned : selfMeshIp cfg s = .ok selfIp s')
    : ∃ cache,
        Detects cfg s.ctrl.selfIpCache selfIp cache
        ∧ s'.journal = s.journal.setCtrl { s.ctrl with selfIpCache := cache } := by
  unfold selfMeshIp at returned
  cases override : cfg.meshSelf.filter (· ≠ "") with
  | some ip =>
      simp only [override] at returned
      obtain ⟨rfl, rfl⟩ := pure_ok.mp returned
      exact ⟨_, .override override, rfl⟩
  | none =>
      simp only [override] at returned
      obtain ⟨_, _, read, returned⟩ := bind_ok.mp returned
      obtain ⟨rfl, rfl⟩ := read_ok.mp read
      cases known : s.ctrl.selfIpCache with
      | some ip =>
          simp only [known] at returned
          obtain ⟨rfl, rfl⟩ := pure_ok.mp returned
          exact ⟨some ip, .cached rfl, known ▸ rfl⟩
      | none =>
          simp only [known] at returned
          have outcome := detectSelfIp_outcome cfg s
          rcases attempt_ok.mp returned with detected | ⟨error, s₁, raised, handled⟩
          · rw [detected] at outcome
            obtain ⟨rfl, journal⟩ := outcome
            exact ⟨some cfg.address, .route, journal⟩
          · rw [raised] at outcome
            obtain ⟨rfl, rfl⟩ := pure_ok.mp handled
            refine ⟨none, .failed, outcome.journal.trans ?_⟩
            rw [← known]
            rfl

/-- The answer of `_self_mesh_ip` in a state. -/
def Sidecar.selfIp (cfg : Config) (s : Sidecar) : Option Ip :=
  match selfMeshIp cfg s with
  | .ok selfIp _ => selfIp
  | .error _ _ => none

/-- The answer depends on the cached address and on whether the next call fails. -/
theorem Sidecar.selfIp_congr {t : Sidecar} (cache : t.ctrl.selfIpCache = s.ctrl.selfIpCache)
    (faults : t.host.faults = s.host.faults) : t.selfIp cfg = s.selfIp cfg := by
  unfold Sidecar.selfIp selfMeshIp
  cases cfg.meshSelf.filter (· ≠ "") with
  | some ip => rfl
  | none =>
      simp only [bind_run, read_run, cache]
      cases s.ctrl.selfIpCache with
      | some ip => rfl
      | none =>
          simp only [attempt_run, detectSelfIp, outsideCall, bind_run, read_run, faults]
          cases s.host.faults with
          | nil => cases members : cfg.meshMembers <;> simp [firstMember, members, modifyCtrl]
          | cons fails rest =>
              cases fails
              · cases members : cfg.meshMembers <;>
                  simp [firstMember, members, bind_run, modifyCtrl]
              · rfl

theorem selfMeshIp_answer {selfIp : Option Ip} (returned : selfMeshIp cfg s = .ok selfIp s')
    : s.selfIp cfg = selfIp := by
  unfold Sidecar.selfIp
  rw [returned]

theorem decode_ok {bytes : Bytes} {text : String} (returned : decode bytes s = .ok text s')
    : s = s' ∧ decode? bytes = some text := by
  unfold decode at returned
  cases decoded : decode? bytes with
  | none =>
      rw [decoded] at returned
      exact (raise_ok.mp returned).elim
  | some found =>
      rw [decoded] at returned
      obtain ⟨rfl, rfl⟩ := pure_ok.mp returned
      exact ⟨rfl, rfl⟩

/-- Where the app image of a snapshot is exported to. -/
def imagePath (snapshotId node : String) : String :=
  "/tmp/snapshot-" ++ snapshotId ++ "-" ++ node ++ ".tar.zst"

theorem triggerAppSnapshot_ok {id : Bytes} {snapshotId : String}
    (returned : triggerAppSnapshot cfg id snapshotId s = .ok u s')
    : ∃ late later ok,
        s'.journal
          = (((s.journal.emit late).log (.checkpointed id (nodeName cfg)
              (imagePath snapshotId (nodeName cfg)) ok
              (s.journal.emit late).reads (s.journal.emit late).emitted.length
              (s.journal.emit late).delivered.length)).emit later) := by
  obtain ⟨_, s₁, before, returned⟩ := bind_ok.mp returned
  obtain ⟨late, emitted, -⟩ := appPoint_ok before
  obtain ⟨ok, s₂, answered, returned⟩ := bind_ok.mp returned
  have same := (framed_outsideAnswer.ok answered).journal.trans emitted
  obtain ⟨_, _, read, returned⟩ := bind_ok.mp returned
  obtain ⟨rfl, rfl⟩ := read_ok.mp read
  obtain ⟨_, s₃, logged, returned⟩ := bind_ok.mp returned
  have frozen := logControl_ok logged
  obtain ⟨later, thawed, -⟩ := appPoint_ok returned
  have readSoFar : s₂.trace.reads = (s.journal.emit late).reads := congrArg Journal.reads same
  have emittedSoFar : s₂.trace.emitted = (s.journal.emit late).emitted :=
    congrArg Journal.emitted same
  have deliveredSoFar : s₂.trace.delivered = (s.journal.emit late).delivered :=
    congrArg Journal.delivered same
  refine ⟨late, later, ok, ?_⟩
  rw [thawed, frozen, same, readSoFar, emittedSoFar, deliveredSoFar]
  rfl

-----------------------------------------------------------------------------------------
-- Ending a snapshot
-----------------------------------------------------------------------------------------

/-- What a flush needs of the function it calls back: outside of a snapshot, a message that
is no marker is delivered.
-/
def Replays (reenter : Ip → Nat → Held → Py Unit) : Prop :=
  ∀ {ip seq held} {s s' : Sidecar} {u : Unit},
    s.ctrl.isSnapshotting = false → markerId? held.payload = none
    → reenter ip seq held s = .ok u s' → s'.journal = s.journal.deliver ⟨ip, seq, held⟩

theorem artifactId_ok {id : Option Bytes} {name : Option String}
    (returned : artifactId id s = .ok name s') : s = s' ∧ snapshotName id = some name := by
  unfold artifactId at returned
  unfold snapshotName
  split at returned
  · obtain ⟨rfl, rfl⟩ := pure_ok.mp returned
    exact ⟨rfl, rfl⟩
  · obtain ⟨rfl, rfl⟩ := pure_ok.mp returned
    exact ⟨rfl, rfl⟩
  · next id nonempty =>
      obtain ⟨text, s₁, decoded, returned⟩ := bind_ok.mp returned
      obtain ⟨rfl, rfl⟩ := pure_ok.mp returned
      obtain ⟨rfl, read⟩ := decode_ok decoded
      simp [read]

theorem buildArtifact_ok {status : Status} {artifact : Artifact}
    (returned : buildArtifact cfg status s = .ok artifact s')
    : s = s' ∧ s.ctrl.artifact? cfg status = some artifact := by
  obtain ⟨_, _, read, returned⟩ := bind_ok.mp returned
  obtain ⟨rfl, rfl⟩ := read_ok.mp read
  obtain ⟨snapshotId, s₁, named, returned⟩ := bind_ok.mp returned
  obtain ⟨rfl, name⟩ := artifactId_ok named
  obtain ⟨rfl, rfl⟩ := pure_ok.mp returned
  exact ⟨rfl, by simp [SnapshotController.artifact?, name]⟩

theorem postArtifact_ok {artifact : Artifact} {stored : Bool}
    (returned : postArtifact artifact s = .ok stored s')
    : s'.journal = s.journal.log (.posted artifact stored) := by
  obtain ⟨answer, s₁, answered, returned⟩ := bind_ok.mp returned
  obtain ⟨_, s₂, logged, returned⟩ := bind_ok.mp returned
  obtain ⟨rfl, rfl⟩ := pure_ok.mp returned
  rw [logControl_ok logged, (framed_outsideAnswer.ok answered).journal]

/-- Replaying one channel delivers its messages in the given order. -/
theorem replayChannel_ok {reenter : Ip → Nat → Held → Py Unit} (replays : Replays reenter)
    {ip : Ip} {messages : List Recorded} (idle : s.ctrl.isSnapshotting = false)
    (plain : ∀ message ∈ messages, markerId? message.held.payload = none)
    (returned
      : forEach (fun (msg : Recorded) => reenter ip msg.seq msg.held) messages s = .ok u s')
    : s'.journal
      = { s.journal with
          delivered := s.journal.delivered
            ++ messages.map (fun message => ⟨ip, message.seq, message.held⟩) } := by
  induction messages generalizing s with
  | nil =>
      obtain ⟨-, rfl⟩ := pure_ok.mp returned
      simp
  | cons message rest ih =>
      obtain ⟨_, s₁, replayed, returned⟩ := bind_ok.mp returned
      have first := replays idle (plain message (by simp)) replayed
      have ctrl : s₁.ctrl = s.ctrl := congrArg Journal.ctrl first
      rw [ih (ctrl ▸ idle) (fun next member => plain next (List.mem_cons_of_mem _ member))
        returned, first]
      simp [Journal.deliver]

/-- Replaying all channels delivers them one after another. -/
theorem replayChannels_ok {reenter : Ip → Nat → Held → Py Unit} (replays : Replays reenter)
    {channels : List (Ip × List Recorded)} (idle : s.ctrl.isSnapshotting = false)
    (plain
      : ∀ channel ∈ channels, ∀ message ∈ channel.2, markerId? message.held.payload = none)
    (returned
      : forEach
          (fun (channel : Ip × List Recorded) => do
            modifyCtrl fun c => { c with
              channelStates := c.channelStates.set channel.1 (sortRecorded channel.2) }
            forEach (fun (msg : Recorded) => reenter channel.1 msg.seq msg.held)
              (sortRecorded channel.2))
          channels s = .ok u s')
    : ∃ states,
        s'.journal
          = { s.journal with
              ctrl := { s.ctrl with channelStates := states }
              delivered := s.journal.delivered
                ++ channels.flatMap fun channel =>
                    (sortRecorded channel.2).map fun recorded =>
                      ⟨channel.1, recorded.seq, recorded.held⟩ } := by
  induction channels generalizing s with
  | nil =>
      obtain ⟨-, rfl⟩ := pure_ok.mp returned
      exact ⟨s.ctrl.channelStates, by simp [Sidecar.journal]⟩
  | cons channel rest ih =>
      obtain ⟨_, s₂, looped, returned⟩ := bind_ok.mp returned
      obtain ⟨_, s₁, sorted, looped⟩ := bind_ok.mp looped
      have sorted := modifyCtrl_ok sorted
      have plainHere (message : Recorded) (member : message ∈ sortRecorded channel.2)
          : markerId? message.held.payload = none :=
        plain channel (by simp) message ((List.mem_insertionSort _).mp member)
      have ctrl₁ : s₁.ctrl = _ := congrArg Journal.ctrl sorted
      have replayed := replayChannel_ok replays (by rw [ctrl₁]; exact idle) plainHere looped
      have ctrl₂ : s₂.ctrl = _ := (congrArg Journal.ctrl replayed).trans ctrl₁
      obtain ⟨states, rested⟩ := ih (by rw [ctrl₂]; exact idle)
        (fun next member => plain next (List.mem_cons_of_mem _ member)) returned
      refine ⟨states, rested.trans ?_⟩
      rw [replayed, ctrl₂, sorted]
      simp [Journal.setCtrl]

theorem flushAndReset_ok {reenter : Ip → Nat → Held → Py Unit} (replays : Replays reenter)
    (plain : s.ctrl.RecordsPlain) (returned : flushAndReset reenter s = .ok u s')
    : s'.journal = s.journal.flush := by
  obtain ⟨_, s₁, reset, returned⟩ := bind_ok.mp returned
  have reset := modifyCtrl_ok reset
  have ctrl : s₁.ctrl = _ := congrArg Journal.ctrl reset
  obtain ⟨_, _, read, returned⟩ := bind_ok.mp returned
  obtain ⟨rfl, rfl⟩ := read_ok.mp read
  obtain ⟨_, s₂, looped, returned⟩ := bind_ok.mp returned
  obtain ⟨states, replayed⟩ := replayChannels_ok replays (by rw [ctrl]; rfl)
    (fun channel member message recorded =>
      plain (by rw [ctrl] at member; exact Dict.mem_entries_iff.mp member) recorded) looped
  have ctrl₂ : s₂.ctrl = _ := congrArg Journal.ctrl replayed
  rw [modifyCtrl_ok returned, replayed, ctrl₂, ctrl, reset]
  rfl

theorem finishGlobalSnapshot_ok {reenter : Ip → Nat → Held → Py Unit}
    (replays : Replays reenter) (plain : s.ctrl.RecordsPlain)
    (returned : finishGlobalSnapshot cfg reenter s = .ok u s')
    : s.journal.Ends cfg .complete s'.journal := by
  obtain ⟨artifact, s₁, built, returned⟩ := bind_ok.mp returned
  obtain ⟨rfl, artifact?⟩ := buildArtifact_ok built
  obtain ⟨stored, s₂, posted, returned⟩ := bind_ok.mp returned
  have posted := postArtifact_ok posted
  have ctrl : s₂.ctrl = s.ctrl := congrArg Journal.ctrl posted
  refine ⟨artifact, stored, artifact?, ?_⟩
  rw [flushAndReset_ok replays (ctrl ▸ plain) returned, posted]

theorem abortSnapshot_ok {reenter : Ip → Nat → Held → Py Unit}
    (replays : Replays reenter) (plain : s.ctrl.RecordsPlain)
    (returned : abortSnapshot cfg reenter s = .ok u s')
    : s.journal.Ends cfg .aborted s'.journal := by
  obtain ⟨artifact, s₁, built, returned⟩ := bind_ok.mp returned
  obtain ⟨rfl, artifact?⟩ := buildArtifact_ok built
  obtain ⟨stored, s₂, posted, returned⟩ := bind_ok.mp returned
  have posted := postArtifact_ok posted
  have ctrl : s₂.ctrl = s.ctrl := congrArg Journal.ctrl posted
  refine ⟨artifact, stored, artifact?, ?_⟩
  rw [flushAndReset_ok replays (ctrl ▸ plain) returned, posted]

theorem finishIfClosed_ok {reenter : Ip → Nat → Held → Py Unit}
    (replays : Replays reenter) (plain : s.ctrl.RecordsPlain)
    (returned : finishIfClosed cfg reenter s = .ok u s')
    : s.journal.Settles cfg s'.journal := by
  obtain ⟨_, _, read, returned⟩ := bind_ok.mp returned
  obtain ⟨rfl, rfl⟩ := read_ok.mp read
  split at returned
  case isTrue closed =>
    exact (Journal.settles_closed closed).mpr (finishGlobalSnapshot_ok replays plain returned)
  case isFalse opened =>
    obtain ⟨-, rfl⟩ := pure_ok.mp returned
    exact (Journal.settles_open opened).mpr rfl

-----------------------------------------------------------------------------------------
-- `process_message`
-----------------------------------------------------------------------------------------

theorem closeOrigin_ok {members : List Ip} {remoteIp : Ip} {seq : Nat}
    (returned : closeOrigin members remoteIp seq s = .ok u s')
    : s'.journal = s.journal.setCtrl { s.ctrl with
        channelStates :=
          if remoteIp ∈ members then s.ctrl.channelStates.set remoteIp []
          else s.ctrl.channelStates
        recordedRecvSeq :=
          if remoteIp ∈ members then s.ctrl.recordedRecvSeq.set remoteIp (seq + 1)
          else s.ctrl.recordedRecvSeq } := by
  unfold closeOrigin at returned
  split at returned
  case isTrue member =>
    simp only [if_pos member]
    exact modifyCtrl_ok returned
  case isFalse outside =>
    obtain ⟨-, rfl⟩ := pure_ok.mp returned
    simp only [if_neg outside]
    rfl

/-- The snapshot-start branch, with the address that is found at its head and the request that is
made in it.
-/
theorem startSnapshot_parts {reenter : Ip → Nat → Held → Py Unit} (replays : Replays reenter)
    {remoteIp : Ip} {seq : Nat} {payload id : Bytes}
    (returned : startSnapshot cfg reenter remoteIp seq payload id s = .ok u s')
    : ∃ cache drained frozen rest late later snapshotId ok deadline,
        Detects cfg s.ctrl.selfIpCache (s.selfIp cfg) cache
        ∧ Journal.Drains cfg
            ((s.journal.reset id).watch cache
              ((cutMembers cfg (s.selfIp cfg)).dedup.filter (fun ip => ip ≠ remoteIp))) drained
        ∧ drained.queue = []
        ∧ decode? id = some snapshotId
        ∧ frozen = drained.emit late
        ∧ rest = (frozen.log (.checkpointed id (nodeName cfg) (imagePath snapshotId (nodeName cfg))
            ok frozen.reads frozen.emitted.length frozen.delivered.length)).emit later
        ∧ ((rest.sendMarkers payload (cutMembers cfg (s.selfIp cfg))).openAll
            (cutMembers cfg (s.selfIp cfg)) remoteIp seq deadline).Settles cfg s'.journal := by
  obtain ⟨_, s₁, resets, returned⟩ := bind_ok.mp returned
  have reset := modifyCtrl_ok resets
  obtain ⟨_, _, read, returned⟩ := bind_ok.mp returned
  obtain ⟨rfl, rfl⟩ := read_ok.mp read
  obtain ⟨_, s₂, logs, returned⟩ := bind_ok.mp returned
  have logged := logControl_ok logs
  have hosts : s₂.host.faults = s.host.faults := by
    rw [← update_ok.mp logs, ← update_ok.mp resets]
  have began : s₂.journal = s.journal.reset id := by
    have consumed : s₁.trace.consumed = s.trace.consumed := congrArg Journal.consumed reset
    rw [logged, reset, consumed]
    rfl
  obtain ⟨selfIp, s₃, detected, returned⟩ := bind_ok.mp returned
  obtain ⟨cache, detects, cached⟩ := selfMeshIp_ok detected
  have answer : s.selfIp cfg = selfIp := by
    rw [← selfMeshIp_answer detected]
    have ctrl : s₂.ctrl.selfIpCache = s.ctrl.selfIpCache :=
      congrArg (fun j : Journal => j.ctrl.selfIpCache) began
    exact Sidecar.selfIp_congr ctrl.symm hosts.symm
  subst answer
  obtain ⟨_, s₄, watched, returned⟩ := bind_ok.mp returned
  have watched := modifyCtrl_ok watched
  obtain ⟨_, s₅, drained, returned⟩ := bind_ok.mp returned
  obtain ⟨drains, empty⟩ := drainIntercept_ok drained
  obtain ⟨snapshotId, s₇, decoded, returned⟩ := bind_ok.mp returned
  obtain ⟨rfl, name⟩ := decode_ok decoded
  obtain ⟨_, s₈, triggered, returned⟩ := bind_ok.mp returned
  obtain ⟨late, later, ok, triggered⟩ := triggerAppSnapshot_ok triggered
  obtain ⟨_, s₉, marked, returned⟩ := bind_ok.mp returned
  have marked := sendMarkers_ok marked
  obtain ⟨_, s₁₀, opened, returned⟩ := bind_ok.mp returned
  have opened := modifyCtrl_ok opened
  obtain ⟨_, s₁₁, closed, returned⟩ := bind_ok.mp returned
  have closed := closeOrigin_ok closed
  obtain ⟨now, s₁₂, ticked, returned⟩ := bind_ok.mp returned
  have ticked := (framed_time.ok ticked).journal
  obtain ⟨_, s₁₃, timed, returned⟩ := bind_ok.mp returned
  have timed := modifyCtrl_ok timed
  have ctrl₂ : s₂.ctrl = s₂.journal.ctrl := rfl
  have ctrl₃ : s₃.ctrl = s₃.journal.ctrl := rfl
  have ctrl₉ : s₉.ctrl = s₉.journal.ctrl := rfl
  have ctrl₁₀ : s₁₀.ctrl = s₁₀.journal.ctrl := rfl
  have ctrl₁₂ : s₁₂.ctrl = s₁₂.journal.ctrl := rfl
  have watching : s₄.journal = (s.journal.reset id).watch cache
      ((cutMembers cfg (s.selfIp cfg)).dedup.filter (fun ip => ip ≠ remoteIp)) := by
    rw [watched, ctrl₃, cached, ctrl₂, began]
    rfl
  have opening : s₁₃.journal = (s₉.journal.openAll (cutMembers cfg (s.selfIp cfg)) remoteIp seq
      (now + snapshotTimeout)) := by
    rw [timed, ctrl₁₂, ticked, closed, ctrl₁₀, opened, ctrl₉]
    rfl
  rw [watching] at drains
  rw [ctrl₂, began] at detects
  rw [marked, triggered] at opening
  have opens : Journal.Opened (cutMembers cfg (s.selfIp cfg)) cache remoteIp seq payload id s.journal
      s₅.journal s₁₃.journal :=
    opening ▸ Journal.opened_openAll _ drains empty rfl rfl
  have plain : s₁₃.ctrl.RecordsPlain := opens.recordsPlain
  have settles := finishIfClosed_ok replays plain returned
  rw [opening] at settles
  exact ⟨cache, _, _, _, late, later, snapshotId, ok, _, detects, drains, empty, name, rfl, rfl,
    settles⟩

theorem startSnapshot_ok {reenter : Ip → Nat → Held → Py Unit} (replays : Replays reenter)
    {remoteIp : Ip} {seq : Nat} {payload id : Bytes}
    (returned : startSnapshot cfg reenter remoteIp seq payload id s = .ok u s')
    : s.journal.Begins cfg remoteIp seq payload id s'.journal := by
  obtain ⟨cache, drained, frozen, rest, late, later, snapshotId, ok, deadline, detects, drains,
    empty, -, freezes, thaws, settles⟩ := startSnapshot_parts replays returned
  exact .mk _ cache drained frozen rest late later _ _ ok deadline detects drains empty freezes
    thaws settles

theorem receiveMarker_ok {reenter : Ip → Nat → Held → Py Unit} (replays : Replays reenter)
    {remoteIp : Ip} {seq : Nat} {id : Bytes} (plain : s.ctrl.RecordsPlain)
    (returned : receiveMarker cfg reenter remoteIp seq id s = .ok u s')
    : (some id ≠ s.ctrl.currentSnapshotId ∧ s'.journal = s.journal)
      ∨ (some id = s.ctrl.currentSnapshotId ∧ remoteIp ∉ s.ctrl.recordingChannels
          ∧ s'.journal = s.journal)
      ∨ (some id = s.ctrl.currentSnapshotId ∧ remoteIp ∈ s.ctrl.recordingChannels
          ∧ (s.journal.close remoteIp seq).Settles cfg s'.journal) := by
  obtain ⟨_, _, read, returned⟩ := bind_ok.mp returned
  obtain ⟨rfl, rfl⟩ := read_ok.mp read
  split at returned
  case isTrue other =>
    obtain ⟨_, s₁, decoded, returned⟩ := bind_ok.mp returned
    obtain ⟨-, rfl⟩ := pure_ok.mp returned
    exact .inl ⟨other, ((framed_decode id).ok decoded).journal⟩
  case isFalse same =>
    have same := Decidable.not_not.mp same
    split at returned
    case isFalse closed =>
      obtain ⟨-, rfl⟩ := pure_ok.mp returned
      exact .inr (.inl ⟨same, closed, rfl⟩)
    case isTrue found =>
      obtain ⟨_, s₁, closed, returned⟩ := bind_ok.mp returned
      have closed := modifyCtrl_ok closed
      have ctrl : s₁.ctrl = _ := congrArg Journal.ctrl closed
      have plain₁ : s₁.ctrl.RecordsPlain := by
        rw [ctrl]
        exact plain
      have settles := finishIfClosed_ok replays plain₁ returned
      rw [closed] at settles
      exact .inr (.inr ⟨same, found, settles⟩)

theorem handleMarker_ok {reenter : Ip → Nat → Held → Py Unit} (replays : Replays reenter)
    {remoteIp : Ip} {seq : Nat} {payload id : Bytes} (plain : s.ctrl.RecordsPlain)
    (returned : handleMarker cfg reenter remoteIp seq payload id s = .ok u s')
    : s.journal.Hears cfg remoteIp seq payload id s'.journal := by
  obtain ⟨_, _, read, returned⟩ := bind_ok.mp returned
  obtain ⟨rfl, rfl⟩ := read_ok.mp read
  obtain ⟨_, s₁, heard, returned⟩ := bind_ok.mp returned
  have heard := logControl_ok heard
  have ctrl : s₁.ctrl = s.ctrl := congrArg Journal.ctrl heard
  split at returned
  case isFalse idle =>
    have begun := startSnapshot_ok replays returned
    rw [heard] at begun
    exact .begins (Bool.eq_false_iff.mpr idle) begun
  case isTrue recording =>
    rcases receiveMarker_ok replays (ctrl ▸ plain) returned with
      ⟨other, same⟩ | ⟨same, closed, unchanged⟩ | ⟨same, found, settles⟩
    · rw [ctrl] at other
      exact .discards recording other (same.trans heard)
    · rw [ctrl] at same closed
      exact .ignores recording same closed (unchanged.trans heard)
    · rw [ctrl] at same found
      rw [heard] at settles
      exact .closes recording same found settles

theorem recordMessage_ok {remoteIp : Ip} {seq : Nat} {held : Held}
    (returned : recordMessage remoteIp seq held s = .ok u s')
    : ∃ recorded,
        s.ctrl.channelStates.get? remoteIp = some recorded
        ∧ s'.journal = s.journal.record ⟨remoteIp, seq, held⟩ recorded := by
  obtain ⟨_, _, read, returned⟩ := bind_ok.mp returned
  obtain ⟨rfl, rfl⟩ := read_ok.mp read
  cases found : s.ctrl.channelStates.get? remoteIp with
  | none =>
      simp only [found] at returned
      exact (raise_ok.mp returned).elim
  | some recorded =>
      simp only [found] at returned
      exact ⟨recorded, rfl, modifyCtrl_ok returned⟩

/-- A message that is no marker, outside of a snapshot, is delivered. -/
theorem replays_processAndDeliver (cfg : Config) (depth : Nat)
    : Replays (fun ip seq held => processAndDeliver cfg depth ip seq held) := by
  intro ip seq held s s' u idle plain returned
  obtain ⟨consumed, s₁, processed, returned⟩ := bind_ok.mp returned
  cases depth with
  | zero => exact (raise_ok.mp processed).elim
  | succ depth =>
      unfold processMessage at processed
      simp only [plain] at processed
      obtain ⟨_, _, read, processed⟩ := bind_ok.mp processed
      obtain ⟨rfl, rfl⟩ := read_ok.mp read
      simp only [idle, Bool.false_eq_true, false_and, if_false] at processed
      obtain ⟨rfl, rfl⟩ := pure_ok.mp processed
      exact deliver_ok returned

/-- A marker is always consumed. -/
theorem processMessage_marker_ok {depth : Nat} {ip : Ip} {seq : Nat} {held : Held} {id : Bytes}
    {consumed : Bool} (plain : s.ctrl.RecordsPlain)
    (isMarker : markerId? held.payload = some id)
    (returned : processMessage cfg depth ip seq held s = .ok consumed s')
    : consumed = true ∧ s.journal.Hears cfg ip seq held.payload id s'.journal := by
  cases depth with
  | zero => exact (raise_ok.mp returned).elim
  | succ depth =>
      unfold processMessage at returned
      simp only [isMarker] at returned
      obtain ⟨_, s₁, handled, returned⟩ := bind_ok.mp returned
      obtain ⟨rfl, rfl⟩ := pure_ok.mp returned
      exact ⟨rfl, handleMarker_ok (replays_processAndDeliver cfg depth) plain handled⟩

/-- A marker that arrives outside of a snapshot is heard of, and then starts one. -/
theorem processMessage_begins {depth : Nat} {ip : Ip} {seq : Nat} {held : Held} {id : Bytes}
    {consumed : Bool} (idle : s.ctrl.isSnapshotting = false)
    (isMarker : markerId? held.payload = some id)
    (returned : processMessage cfg depth ip seq held s = .ok consumed s')
    : ∃ nested t,
        t.journal = s.journal.log (.heard ip seq id s.ctrl.currentSnapshotId)
        ∧ t.host = s.host
        ∧ startSnapshot cfg (fun ip seq held => processAndDeliver cfg nested ip seq held) ip seq
            held.payload id t = .ok () s' := by
  cases depth with
  | zero => exact (raise_ok.mp returned).elim
  | succ depth =>
      unfold processMessage at returned
      simp only [isMarker] at returned
      obtain ⟨_, s₁, handled, returned⟩ := bind_ok.mp returned
      obtain ⟨rfl, rfl⟩ := pure_ok.mp returned
      obtain ⟨_, _, read, handled⟩ := bind_ok.mp handled
      obtain ⟨rfl, rfl⟩ := read_ok.mp read
      obtain ⟨_, t, heard, handled⟩ := bind_ok.mp handled
      rw [if_neg (Bool.eq_false_iff.mp idle)] at handled
      exact ⟨depth, t, logControl_ok heard, by rw [← update_ok.mp heard], handled⟩

/-- `process_and_deliver`, by the branch that `process_message` takes. -/
theorem processAndDeliver_ok {depth : Nat} {ip : Ip} {seq : Nat} {held : Held}
    (plain : s.ctrl.RecordsPlain)
    (returned : processAndDeliver cfg depth ip seq held s = .ok u s')
    : s.journal.Processes cfg ⟨ip, seq, held⟩ s'.journal := by
  obtain ⟨consumed, s₁, processed, returned⟩ := bind_ok.mp returned
  cases isMarker : markerId? held.payload with
  | some id =>
      obtain ⟨rfl, hears⟩ := processMessage_marker_ok plain isMarker processed
      obtain ⟨-, rfl⟩ := pure_ok.mp returned
      exact .marker id isMarker hears
  | none =>
      cases depth with
      | zero => exact (raise_ok.mp processed).elim
      | succ depth =>
          unfold processMessage at processed
          simp only [isMarker] at processed
          obtain ⟨_, _, read, processed⟩ := bind_ok.mp processed
          obtain ⟨rfl, rfl⟩ := read_ok.mp read
          split at processed
          case isTrue recording =>
            obtain ⟨_, s₂, recorded, processed⟩ := bind_ok.mp processed
            obtain ⟨rfl, rfl⟩ := pure_ok.mp processed
            obtain ⟨-, rfl⟩ := pure_ok.mp returned
            obtain ⟨state, found, appended⟩ := recordMessage_ok recorded
            exact .records isMarker recording.1 recording.2 state found appended
          case isFalse passes =>
            obtain ⟨rfl, rfl⟩ := pure_ok.mp processed
            exact .delivers isMarker passes (deliver_ok returned)

end MeshSnapshot
