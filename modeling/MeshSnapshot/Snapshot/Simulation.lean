import MeshSnapshot.Snapshot.Shows

/-! Every journal move is a sequence of steps of the process that the journal shows. The
conditions are on the history: the app sends no markers, and no aborted snapshot is revived.
-/

namespace MeshSnapshot

open ChandyLamport

/-- The set of the members. -/
abbrev memberSet (members : List Ip) : Set Ip := { ip | ip ∈ members }

/-- The configuration of the sidecar at `own` in a mesh of members. A START command names
`loopback` as its origin, which is no mesh address.
-/
structure Config.Deployed (cfg : Config) (members : List Ip) (own : Ip) : Prop where
  meshMembers : cfg.meshMembers = members
  unique : members.Nodup
  noLoopback : loopback ∉ members
  address : cfg.address = own
  meshSelf : cfg.meshSelf.filter (· ≠ "") = none ∨ cfg.meshSelf.filter (· ≠ "") = some own

/-- Only markers carry the marker prefix. -/
def PlainSends (sent : List SendCall) : Prop :=
  ∀ call ∈ sent, call.origin ≠ .marker → markerId? call.message.payload = none

instance (sent : List SendCall) : Decidable (PlainSends sent) :=
  inferInstanceAs (Decidable (∀ call ∈ sent, _))

/-- A snapshot that was aborted here is heard of while none is being recorded. -/
def Revives (control : List ControlEvent) : Prop :=
  ∃ earlier later peer seq id artifact stored,
    control = earlier ++ .heard peer seq id none :: later
    ∧ .posted artifact stored ∈ earlier
    ∧ artifact.status = .aborted
    ∧ artifact.For id

theorem PlainSends.before {sent more : List SendCall} (plain : PlainSends more)
    (grows : sent <+: more) : PlainSends sent :=
  fun call member => plain call (grows.mem member)

theorem Revives.after {control more : List ControlEvent} (revives : Revives control)
    (grows : control <+: more) : Revives more := by
  obtain ⟨earlier, later, peer, seq, id, artifact, stored, rfl, posted, aborted⟩ := revives
  obtain ⟨rest, rfl⟩ := grows
  exact ⟨earlier, later ++ rest, peer, seq, id, artifact, stored, by simp, posted, aborted⟩

namespace Journal

variable {cfg : Config} {members : List Ip} {own : Ip} {j j' : Journal} {part : Part}

-----------------------------------------------------------------------------------------
-- What the relation does not see
-----------------------------------------------------------------------------------------

theorem Tracks.log (tracks : j.Tracks cfg own part) {event : ControlEvent}
    (noPost : postsOf [event] = []) (noBegin : beginsOf [event] = [])
    : (j.log event).Tracks cfg own part where
  sent := tracks.sent
  counted := tracks.counted
  missed id member := by
    obtain ⟨peer, seq, recorded, heard, other⟩ := tracks.missed id member
    exact ⟨peer, seq, recorded, List.mem_append_left _ heard, other⟩
  idle := tracks.idle
  recording := tracks.recording
  past := by simpa [Journal.log, noPost] using tracks.past
  begun := by simpa [Journal.log, noBegin] using tracks.begun
  selfIpCache := tracks.selfIpCache

/-- Packets that are passed later do not change what an episode had consumed at its beginning. -/
theorem Tracks.pass (tracks : j.Tracks cfg own part) (packet : PeerPacket)
    : (j.pass packet).Tracks cfg own part :=
  { tracks with
    begun := tracks.begun.imp fun shown entry holds => by
      obtain ⟨same, bound, began⟩ := holds
      refine ⟨same, bound.trans (by simp [Journal.pass]), ?_⟩
      simpa [Journal.pass, List.take_append_of_le_length bound] using began }

theorem Tracks.note (tracks : j.Tracks cfg own part) (packet : PeerPacket)
    : (j.note packet).Tracks cfg own part :=
  { tracks with }

-----------------------------------------------------------------------------------------
-- Sending
-----------------------------------------------------------------------------------------

theorem ShowsSent.same (shows : j.ShowsSent part) (sent : j'.sent = j.sent)
    (sendSeq : j'.sendSeq = j.sendSeq) : j'.ShowsSent part where
  sent := by rw [sent]; exact shows.sent
  counted := by rw [sent, sendSeq]; exact shows.counted

theorem ShowsSent.send (shows : j.ShowsSent part) (dst : Ip) {message : Message}
    (origin : SendOrigin) (plain : markerId? message.payload = none)
    : (j.send dst message origin).ShowsSent (part.send dst message.held) where
  sent ip := by
    by_cases here : ip = dst
    · subst here
      simp [Node.send, Journal.send, heldTo_singleton, shows.sent, Message.held, toMsg, plain]
    · simp [Node.send, Journal.send, heldTo_singleton, shows.sent, here, Ne.symm here]
  counted ip := by
    by_cases here : ip = dst
    · subst here
      simp [Journal.send, heldTo_singleton, shows.counted]
    · simp [Journal.send, heldTo_singleton, shows.counted, here, Ne.symm here]

theorem ShowsSent.forward (shows : j.ShowsSent part) {datagram : Datagram}
    (incoming : Ip → List (Msg Bytes Held)) (plain : PlainSends (j.forward cfg datagram).sent)
    : ∃ sent,
        Node.Steps (memberSet members) own incoming part { part with sent }
        ∧ (j.forward cfg datagram).ShowsSent { part with sent } := by
  unfold Journal.forward at plain ⊢
  split
  case h_1 dst message routed =>
    simp only [routed] at plain
    have isPlain := plain ⟨dst, message, .forwarded, j.reads⟩ (by simp [Journal.send]) (by simp)
    exact ⟨_, .single (.send dst message.held), shows.send dst .forwarded isPlain⟩
  case h_2 => exact ⟨part.sent, .refl, shows⟩

/-- Draining sends data, and nothing else. -/
theorem ShowsSent.drains (shows : j.ShowsSent part) (incoming : Ip → List (Msg Bytes Held))
    (drains : Drains cfg j j') (plain : PlainSends j'.sent)
    : ∃ sent,
        Node.Steps (memberSet members) own incoming part { part with sent }
        ∧ j'.ShowsSent { part with sent } := by
  induction drains with
  | refl => exact ⟨part.sent, .refl, shows⟩
  | @tail last _ _ step ih =>
      cases step with
      | emit datagrams =>
          obtain ⟨sent, before, shown⟩ := ih plain
          exact ⟨sent, before, shown.same rfl rfl⟩
      | @forward datagram rest queued =>
          have grows := grows_forward cfg (last.take rest) datagram
          obtain ⟨middle, before, shown⟩ := ih (plain.before grows.sent)
          have taken : (last.take rest).ShowsSent { part with sent := middle } :=
            shown.same rfl rfl
          obtain ⟨sent, after, shown⟩ := taken.forward incoming plain
          exact ⟨sent, before.trans after, shown⟩

/-- What concerns receiving is as before. -/
theorem Tracks.sends (tracks : j.Tracks cfg own part) {sent : Ip → List (Msg Bytes Held)}
    (shows : j'.ShowsSent { part with sent }) (same : j.SameReceipt j')
    : j'.Tracks cfg own { part with sent } :=
  { shows with
    missed := by rw [same.control]; exact tracks.missed
    idle := by rw [same.ctrl]; exact tracks.idle
    recording := by rw [same.ctrl]; exact tracks.recording
    past := by rw [same.control]; exact tracks.past
    begun := by rw [same.control, same.consumed]; exact tracks.begun
    selfIpCache := by rw [same.ctrl]; exact tracks.selfIpCache }

-----------------------------------------------------------------------------------------
-- Ending an episode
-----------------------------------------------------------------------------------------

/-- What `_build_artifact` returns shows the episode that is being recorded. -/
theorem exhibits_artifact? {ctrl : SnapshotController} {status : Status} {artifact : Artifact}
    {episode : Episode Ip Bytes Held} (records : ctrl.Records episode)
    (built : ctrl.artifact? cfg status = some artifact)
    : artifact.status = status ∧ Exhibits cfg episode artifact := by
  have peer (ip : Ip) (covered : ip ∈ episode.cut)
      : artifact.peer? ip = some (ctrl.peerArtifact ip) :=
    peer?_artifact? built (Dict.mem_keys_iff.mpr ⟨_, records.recordedSendSeq ip covered⟩)
  obtain ⟨name, named, rfl⟩ := Option.map_eq_some_iff.mp built
  refine ⟨rfl, ?_, rfl, fun ip covered => ?_⟩
  · rw [records.currentSnapshotId] at named
    exact named
  · rw [peer ip covered]
    simp [SnapshotController.peerArtifact, records.recordedSendSeq ip covered,
      records.recordedRecvSeq ip covered, records.channelStates ip covered, Function.comp_def]

theorem Tracks.ends (tracks : j.Tracks cfg own part) {episode : Episode Ip Bytes Held}
    (current : part.current = some episode) {status : Status} {complete : Bool}
    (matching : status = if complete then .complete else .aborted)
    (ends : j.Ends cfg status j')
    : j'.Tracks cfg own
        { part with current := none, past := part.past ++ [(episode, complete)] } := by
  obtain ⟨artifact, stored, built, rfl⟩ := ends
  obtain ⟨shown, exhibits⟩ := exhibits_artifact? (tracks.recording episode current) built
  have posts : postsOf (j.log (.posted artifact stored)).flush.control
      = postsOf j.control ++ [artifact] := by
    simp [Journal.log, flush, postsOf]
  have begins : beginsOf (j.log (.posted artifact stored)).flush.control
      = beginsOf j.control := by
    simp [Journal.log, flush, beginsOf]
  have listed : ({ part with
      current := none, past := part.past ++ [(episode, complete)] } : Part).episodes
      = part.episodes := by
    simp [Node.episodes, current]
  exact {
    sent := tracks.sent
    counted := tracks.counted
    missed := fun id member => by
      obtain ⟨peer, seq, recorded, heard, other⟩ := tracks.missed id member
      exact ⟨peer, seq, recorded, List.mem_append_left _ heard, other⟩
    idle := fun _ => ⟨rfl, rfl, rfl⟩
    recording := fun _ again => by cases again
    past := by
      rw [posts]
      exact List.rel_append tracks.past
        (.cons ⟨shown.trans matching, exhibits⟩ .nil)
    begun := by
      rw [begins, listed]
      exact tracks.begun
    selfIpCache := tracks.selfIpCache
  }

/-- A snapshot ends when its last channel is closed, as the episode does. -/
theorem Tracks.settles (tracks : j.Tracks cfg own part) {episode : Episode Ip Bytes Held}
    (current : part.current = some episode) (settles : j.Settles cfg j')
    : j'.Tracks cfg own part.settle := by
  have channels := (tracks.recording episode current).recordingChannels
  by_cases closed : j.ctrl.recordingChannels = []
  · have finished : ¬ ∃ ip, episode.Open ip := by
      rintro ⟨ip, opened⟩
      have listed := (channels ip).mpr opened
      rw [closed] at listed
      cases listed
    have settled : part.settle
        = { part with current := none, past := part.past ++ [(episode, true)] } := by
      simp [Node.settle, current, finished]
    rw [settled]
    exact tracks.ends current rfl ((settles_closed closed).mp settles)
  · obtain ⟨ip, listed⟩ := List.exists_mem_of_ne_nil _ closed
    have live : ∃ ip, episode.Open ip := ⟨ip, (channels ip).mp listed⟩
    have settled : part.settle = part := by
      simp [Node.settle, current, live]
    rw [settled, (settles_open closed).mp settles]
    exact tracks

-----------------------------------------------------------------------------------------
-- Beginning an episode
-----------------------------------------------------------------------------------------

/-- The answer of `_self_mesh_ip` is the own address or none at all. -/
theorem detects_own {selfIp cache : Option Ip} {known : Option Ip}
    (config : cfg.Deployed members own) (detects : Detects cfg known selfIp cache)
    (knows : known = none ∨ known = some own)
    : (selfIp = none ∨ selfIp = some own) ∧ (cache = none ∨ cache = some own) := by
  cases detects with
  | override set =>
      rcases config.meshSelf with unset | own
      · cases unset.symm.trans set
      · exact ⟨.inr (set.symm.trans own), knows⟩
  | cached is =>
      subst is
      exact ⟨knows, knows⟩
  | route => exact ⟨.inr (congrArg some config.address), .inr (congrArg some config.address)⟩
  | failed => exact ⟨.inl rfl, knows⟩

/-- A snapshot is heard of from a channel, or by a command that names no member. -/
inductive HeardFrom (members : List Ip) (part : Part) (peer : Ip) (seq : Nat) : Option Ip → Prop where
  | channel (next : seq = (part.consumed peer).length) : HeardFrom members part peer seq (some peer)
  | command (outside : peer ∉ members) : HeardFrom members part peer seq none

/-- The channels that are open at first are those of the cut, but for the one heard from. -/
theorem opening_open {origin : Option Ip} {peer : Ip} {seq : Nat} {id : Bytes} {cut : List Ip}
    (heard : HeardFrom members part peer seq origin) (within : ∀ ip ∈ cut, ip ∈ members) (ip : Ip)
    : (part.opening origin id (memberSet cut)).Open ip ↔ ip ∈ cut ∧ ip ≠ peer := by
  cases heard with
  | channel next =>
      refine and_congr_right fun _ => ?_
      by_cases here : ip = peer
      · simp [Node.opening, here]
      · simp [Node.opening, here, Ne.symm here]
  | command outside =>
      constructor
      · rintro ⟨covered, -⟩
        refine ⟨covered, ?_⟩
        rintro rfl
        exact outside (within ip covered)
      · rintro ⟨covered, -⟩
        exact ⟨covered, by simp [Node.opening]⟩

theorem Opened.shows {cut : List Ip} {cache : Option Ip} {peer : Ip} {seq : Nat} {id : Bytes}
    {drained opened : Journal} (unique : cut.Nodup) (origin : Option Ip)
    (opens : Opened cut cache peer seq (markerPrefix ++ id) id j drained opened)
    (shown : drained.ShowsSent part)
    : opened.ShowsSent (part.begin origin id (memberSet cut)) where
  sent ip := by
    rw [opens.sent, heldTo_append, heldTo_markers unique]
    by_cases covered : ip ∈ cut
    · simp [Node.begin, covered, shown.sent, Message.held, toMsg]
    · simp [Node.begin, covered, shown.sent]
  counted ip := by
    rw [opens.sendSeq, opens.sent, heldTo_append, heldTo_markers unique, shown.counted]
    by_cases covered : ip ∈ cut
    · simp [covered, List.count_eq_one_of_mem unique covered]
    · simp [covered, List.count_eq_zero_of_not_mem covered]

/-- The snapshot-start branch leaves the state of an episode that has just begun. -/
theorem Opened.records {cut : List Ip} {cache : Option Ip} {origin : Option Ip} {peer : Ip}
    {seq : Nat} {id : Bytes} {drained opened : Journal} (unique : cut.Nodup)
    (within : ∀ ip ∈ cut, ip ∈ members) (heard : HeardFrom members part peer seq origin)
    (opens : Opened cut cache peer seq (markerPrefix ++ id) id j drained opened)
    (shown : drained.ShowsSent part)
    : opened.ctrl.Records (part.opening origin id (memberSet cut)) where
  isSnapshotting := opens.isSnapshotting
  currentSnapshotId := opens.currentSnapshotId
  recordingChannels ip := by
    rw [opening_open heard within, opens.recordingChannels]
    simp
  channelStates ip covered := by
    have covered : ip ∈ cut := covered
    rw [opens.channelStates, if_pos covered]
    rfl
  recordedSendSeq ip covered := by
    have covered : ip ∈ cut := covered
    rw [opens.recordedSendSeq, if_pos covered, opens.sendSeq,
      List.count_eq_one_of_mem unique covered, shown.counted]
    simp [Node.opening, shown.sent]
  recordedRecvSeq ip covered := by
    have inCut : ip ∈ cut := covered
    rw [opens.recordedRecvSeq]
    cases heard with
    | channel next =>
        by_cases here : ip = peer
        · subst here
          simp [Node.opening, inCut, next]
        · simp [Node.opening, here, Ne.symm here]
    | command outside =>
        have elsewhere : ip ≠ peer := by
          rintro rfl
          exact outside (within ip inCut)
        simp [Node.opening, elsewhere]

/-- A snapshot begins as the episode of the process does. -/
theorem Opened.tracks {cut : List Ip} {cache : Option Ip} {origin : Option Ip} {peer : Ip}
    {seq : Nat} {id : Bytes} {drained opened : Journal} {sent : Ip → List (Msg Bytes Held)}
    (unique : cut.Nodup) (within : ∀ ip ∈ cut, ip ∈ members)
    (tracks : j.Tracks cfg own part) (current : part.current = none)
    (consumed : ∀ ip, part.consumed ip = (heldFrom j.consumed ip).map toMsg)
    (heard : HeardFrom members part peer seq origin)
    (opens : Opened cut cache peer seq (markerPrefix ++ id) id j drained opened)
    (shown : drained.ShowsSent { part with sent }) (knows : cache = none ∨ cache = some own)
    : opened.Tracks cfg own
        (({ part with sent } : Part).begin origin id (memberSet cut)) := by
  have heard : HeardFrom members { part with sent } peer seq origin := by
    cases heard with
    | channel next => exact .channel next
    | command outside => exact .command outside
  obtain ⟨late, later, target, exportPath, ok, -, -, control⟩ := opens.emissions
  have posts : postsOf opened.control = postsOf j.control := by
    rw [control]
    simp [postsOf]
  have begins : beginsOf opened.control
      = beginsOf j.control ++ [(id, j.consumed.length)] := by
    rw [control]
    simp [beginsOf]
  have episodes : (({ part with sent } : Part).begin origin id (memberSet cut)).episodes
      = part.episodes ++ [({ part with sent } : Part).opening origin id (memberSet cut)] := by
    simp [Node.episodes, Node.begin, current]
  exact { opens.shows unique origin shown with
    missed := fun id member => by
      obtain ⟨peer, seq, recorded, heard, other⟩ :=
        tracks.missed id (by simpa [Node.begin] using member)
      exact ⟨peer, seq, recorded, control ▸ List.mem_append_left _ heard, other⟩
    idle := fun idle => by simp [Node.begin] at idle
    recording := fun episode again => by
      obtain rfl := Option.some.inj again
      exact opens.records unique within heard shown
    past := by
      rw [posts]
      simpa [Node.begin] using tracks.past
    begun := by
      rw [begins, episodes, List.map_append, opens.consumed]
      refine List.rel_append tracks.begun (.cons ⟨rfl, Nat.le_refl _, fun ip => ?_⟩ .nil)
      simp [Node.opening, consumed]
    selfIpCache := by rwa [opens.selfIpCache]
  }

-----------------------------------------------------------------------------------------
-- Changing an episode
-----------------------------------------------------------------------------------------

/-- A change of the snapshot state follows a change of the current episode. -/
theorem Tracks.change (tracks : j.Tracks cfg own part) {next : Part} {ctrl : SnapshotController}
    (change : Episode Ip Bytes Held → Episode Ip Bytes Held)
    (sent : next.sent = part.sent) (missed : next.missed = part.missed)
    (past : next.past = part.past) (current : next.current = part.current.map change)
    (same
      : ∀ episode, (change episode).id = episode.id ∧ (change episode).began = episode.began)
    (idle : part.current = none → ctrl.Idle)
    (records : ∀ episode, part.current = some episode → ctrl.Records (change episode))
    (cache : ctrl.selfIpCache = j.ctrl.selfIpCache)
    : (j.setCtrl ctrl).Tracks cfg own next where
  sent := by rw [sent]; exact tracks.sent
  counted := tracks.counted
  missed := by rw [missed]; exact tracks.missed
  idle := fun none => idle (Option.map_eq_none_iff.mp (current.symm.trans none))
  recording := fun episode some => by
    obtain ⟨former, was, rfl⟩ := Option.map_eq_some_iff.mp (current.symm.trans some)
    exact records former was
  past := by rw [past]; exact tracks.past
  begun := by
    have shown : next.episodes.map (fun episode => (episode.id, episode.began))
        = part.episodes.map (fun episode => (episode.id, episode.began)) := by
      rw [Node.episodes, Node.episodes, past, current]
      cases part.current with
      | none => rfl
      | some episode => simp [(same episode).1, (same episode).2]
    rw [shown]
    exact tracks.begun
  selfIpCache := by
    rw [setCtrl, cache]
    exact tracks.selfIpCache

theorem Tracks.close (tracks : j.Tracks cfg own part) {episode : Episode Ip Bytes Held}
    (current : part.current = some episode) {peer : Ip}
    : (j.close peer (part.consumed peer).length).Tracks cfg own (part.close episode peer) := by
  have records := tracks.recording episode current
  refine tracks.change (fun episode => episode.close peer (part.consumed peer).length)
    (by simp [Node.close]) (by simp [Node.close]) (by simp [Node.close])
    (by simp [Node.close, current]) (fun _ => ⟨rfl, rfl⟩)
    (fun none => by cases none.symm.trans current) ?_ rfl
  intro other again
  obtain rfl := Option.some.inj (current.symm.trans again)
  exact {
    isSnapshotting := records.isSnapshotting
    currentSnapshotId := records.currentSnapshotId
    recordingChannels := fun ip => by
      rw [Node.close_open, ← records.recordingChannels ip]
      simp
    channelStates := records.channelStates
    recordedSendSeq := records.recordedSendSeq
    recordedRecvSeq := fun ip covered => by
      have before := records.recordedRecvSeq ip covered
      by_cases here : ip = peer
      · subst here
        simp [Episode.close]
      · simp [Episode.close, here, before]
  }

/-- A packet that is no marker is recorded if its channel is open. -/
theorem Tracks.record (tracks : j.Tracks cfg own part) {episode : Episode Ip Bytes Held}
    (current : part.current = some episode) {packet : PeerPacket} {recorded : List Recorded}
    (opened : episode.Open packet.peer)
    (state : j.ctrl.channelStates.get? packet.peer = some recorded)
    (next : packet.seq = (part.consumed packet.peer).length)
    : (j.record packet recorded).Tracks cfg own (part.receive packet.peer packet.held) := by
  have records := tracks.recording episode current
  refine tracks.change
    (fun episode => episode.record packet.peer (part.consumed packet.peer).length packet.held)
    rfl rfl rfl rfl (fun episode => ?_) (fun none => by cases none.symm.trans current) ?_ rfl
  · obtain ⟨recorded, changed, -⟩ := Node.record_eq episode packet.peer
      (part.consumed packet.peer).length packet.held
    rw [changed]
    exact ⟨rfl, rfl⟩
  intro other again
  obtain rfl := Option.some.inj (current.symm.trans again)
  have before := records.channelStates packet.peer opened.1
  obtain rfl := Option.some.inj (state.symm.trans before)
  obtain ⟨entries, changed, kept, extended⟩ := Node.record_eq episode packet.peer
    (part.consumed packet.peer).length packet.held
  exact {
    isSnapshotting := records.isSnapshotting
    currentSnapshotId := by
      rw [changed]
      exact records.currentSnapshotId
    recordingChannels := fun ip => by
      rw [Node.record_open]
      exact records.recordingChannels ip
    channelStates := fun ip covered => by
      rw [changed] at covered ⊢
      by_cases here : ip = packet.peer
      · subst here
        simp [extended opened, toRecorded, next]
      · simp [here, kept ip (.inl here), records.channelStates ip covered]
    recordedSendSeq := fun ip covered => by
      rw [changed] at covered ⊢
      exact records.recordedSendSeq ip covered
    recordedRecvSeq := fun ip covered => by
      rw [changed] at covered ⊢
      exact records.recordedRecvSeq ip covered
  }

/-- A packet that is no marker leaves the episode alone if its channel is not open. -/
theorem Tracks.deliver (tracks : j.Tracks cfg own part) {packet : PeerPacket}
    (passes : ¬ (j.ctrl.isSnapshotting = true ∧ packet.peer ∈ j.ctrl.recordingChannels))
    : (j.deliver packet).Tracks cfg own (part.receive packet.peer packet.held) := by
  suffices kept : (j.setCtrl j.ctrl).Tracks cfg own (part.receive packet.peer packet.held) from
    { kept with }
  refine tracks.change
    (fun episode => episode.record packet.peer (part.consumed packet.peer).length packet.held)
    rfl rfl rfl rfl (fun episode => ?_) tracks.idle (fun episode current => ?_) rfl
  · obtain ⟨recorded, changed, -⟩ := Node.record_eq episode packet.peer
      (part.consumed packet.peer).length packet.held
    rw [changed]
    exact ⟨rfl, rfl⟩
  · have records := tracks.recording episode current
    have closed : ¬ episode.Open packet.peer := fun opened =>
      passes ⟨records.isSnapshotting, (records.recordingChannels packet.peer).mpr opened⟩
    simp only [Episode.record, if_neg closed]
    exact records

-----------------------------------------------------------------------------------------
-- Hearing of a snapshot
-----------------------------------------------------------------------------------------

/-- The members of the cut are all but the own one. -/
theorem mem_cutMembers {selfIp : Option Ip} (config : cfg.Deployed members own) {ip : Ip}
    : ip ∈ cutMembers cfg selfIp ↔ ip ∈ members ∧ some ip ≠ selfIp := by
  simp [cutMembers, config.meshMembers]

/-- A snapshot that is heard of while none is recorded has not been aborted before. -/
theorem Tracks.fresh (tracks : j.Tracks cfg own part) {peer : Ip} {seq : Nat} {id : Bytes}
    {control : List ControlEvent}
    (grows : j.control ++ [.heard peer seq id none] <+: control) (noRevival : ¬ Revives control)
    (episode : Episode Ip Bytes Held) (aborted : (episode, false) ∈ part.past)
    : episode.id ≠ id := by
  rintro rfl
  obtain ⟨later, rfl⟩ := grows
  obtain ⟨artifact, posted, status, exhibits⟩ := exists_of_forall₂ tracks.past aborted
  obtain ⟨stored, logged⟩ := mem_postsOf.mp posted
  exact noRevival ⟨j.control, later, peer, seq, episode.id, artifact, stored, by simp, logged,
    by simpa using status, exhibits.isFor⟩

theorem Tracks.current_of_recording (tracks : j.Tracks cfg own part)
    (recording : j.ctrl.isSnapshotting = true) : ∃ episode, part.current = some episode := by
  cases current : part.current with
  | none => cases recording.symm.trans (tracks.idle current).isSnapshotting
  | some episode => exact ⟨episode, rfl⟩

/-- What a process has consumed or was told is not tracked. -/
theorem Tracks.hear (tracks : j.Tracks cfg own part) (origin : Option Ip) (id : Bytes)
    : j.Tracks cfg own (part.hear origin id) := by
  cases origin with
  | none => exact { tracks with }
  | some channel => exact { tracks with }

theorem Hears.simulated {peer : Ip} {seq : Nat} {id : Bytes} {origin : Option Ip}
    (config : cfg.Deployed members own) (tracks : j.Tracks cfg own part)
    (consumed : ∀ ip, part.consumed ip = (heldFrom j.consumed ip).map toMsg)
    (within : ∀ episode, part.current = some episode → episode.cut ⊆ memberSet members)
    (heard : HeardFrom members part peer seq origin)
    (hears : j.Hears cfg peer seq (markerPrefix ++ id) id j')
    (incoming : Ip → List (Msg Bytes Held))
    (plain : PlainSends j'.sent) (noRevival : ¬ Revives j'.control)
    : ∃ sent next,
        Node.Steps (memberSet members) own incoming part { part with sent }
        ∧ Node.Hears (memberSet members) own { part with sent } origin id next
        ∧ j'.Tracks cfg own next := by
  have grows := hears.grows
  have logged : (j.log (.heard peer seq id j.ctrl.currentSnapshotId)).Tracks cfg own part :=
    tracks.log rfl rfl
  cases hears with
  | begins idle begun =>
      have current : part.current = none := by
        cases recording : part.current with
        | none => rfl
        | some episode =>
            cases idle.symm.trans (tracks.recording episode recording).isSnapshotting
      obtain ⟨selfIp, cache, drained, opened, detects, drains, -, opens, settles⟩ := begun.opened
      obtain ⟨selfIs, knows⟩ := detects_own config detects tracks.selfIpCache
      have openedPlain := plain.before settles.grows.sent
      have drainedPlain := openedPlain.before (opens.sent ▸ List.prefix_append _ _)
      have before : (((j.log (.heard peer seq id j.ctrl.currentSnapshotId)).reset id).watch cache
          ((cutMembers cfg selfIp).dedup.filter (fun ip => ip ≠ peer))).ShowsSent part :=
        tracks.toShowsSent.same rfl rfl
      obtain ⟨sent, steps, shown⟩ := before.drains incoming drains drainedPlain
      have unique : (cutMembers cfg selfIp).Nodup := by
        rw [cutMembers, config.meshMembers]
        exact config.unique.filter _
      have inMembers (ip : Ip) (covered : ip ∈ cutMembers cfg selfIp) : ip ∈ members :=
        ((mem_cutMembers config).mp covered).1
      have begunTracks := opens.tracks unique inMembers logged current consumed heard shown knows
      refine ⟨sent, _, steps, .begins current inMembers ?_ ?_, begunTracks.settles rfl settles⟩
      · intro member listed other
        refine (mem_cutMembers config).mpr ⟨listed, ?_⟩
        rcases selfIs with rfl | rfl
        · simp
        · simpa using other
      · exact tracks.fresh ((tracks.idle current).currentSnapshotId ▸ grows.control) noRevival
  | discards recording other unchanged =>
      obtain ⟨episode, current⟩ := tracks.current_of_recording recording
      have shown := (tracks.recording episode current).currentSnapshotId
      have others : episode.id ≠ id := by
        rintro rfl
        exact other shown.symm
      refine ⟨part.sent, _, .refl, .misses current others, ?_⟩
      rw [unchanged]
      exact { logged.hear origin id with
        missed := fun missed member => by
          rcases List.mem_append.mp member with member | member
          · exact logged.missed missed member
          · obtain rfl := List.mem_singleton.mp member
            exact ⟨peer, seq, episode.id, by simp [Journal.log, shown], others⟩ }
  | ignores recording same closed unchanged =>
      obtain ⟨episode, current⟩ := tracks.current_of_recording recording
      have records := tracks.recording episode current
      have same : episode.id = id := Option.some.inj (records.currentSnapshotId.symm.trans same.symm)
      refine ⟨part.sent, _, .refl, .ignores current same ?_, ?_⟩
      · intro channel source opened
        cases heard with
        | channel next =>
            obtain rfl := Option.some.inj source
            exact closed ((records.recordingChannels _).mpr opened)
        | command outside => cases source
      · rw [unchanged]
        exact logged.hear origin id
  | closes recording same found settles =>
      obtain ⟨episode, current⟩ := tracks.current_of_recording recording
      have records := tracks.recording episode current
      have same : episode.id = id := Option.some.inj (records.currentSnapshotId.symm.trans same.symm)
      have opened := (records.recordingChannels peer).mp found
      cases heard with
      | command outside => exact absurd (within episode current opened.1) outside
      | channel next =>
          subst next
          exact ⟨part.sent, _, .refl, .closes current same rfl opened,
            (logged.close current).settles rfl settles⟩

/-- Hearing of a snapshot logs no command. -/
theorem Hears.commandsOf {peer : Ip} {seq : Nat} {payload id : Bytes}
    (hears : j.Hears cfg peer seq payload id j')
    : commandsOf j'.control = MeshSnapshot.commandsOf j.control := by
  have settled {before after : Journal} (settles : before.Settles cfg after)
      : MeshSnapshot.commandsOf after.control = MeshSnapshot.commandsOf before.control := by
    by_cases closed : before.ctrl.recordingChannels = []
    · obtain ⟨artifact, stored, -, rfl⟩ := (settles_closed closed).mp settles
      simp [flush, Journal.log, MeshSnapshot.commandsOf]
    · rw [(settles_open closed).mp settles]
  cases hears with
  | begins _ begun =>
      obtain ⟨selfIp, cache, drained, opened, -, -, -, opens, settles⟩ := begun.opened
      obtain ⟨late, later, target, exportPath, ok, -, -, control⟩ := opens.emissions
      rw [settled settles, control]
      simp [Journal.log, MeshSnapshot.commandsOf]
  | discards _ _ unchanged => rw [unchanged]; simp [Journal.log, MeshSnapshot.commandsOf]
  | ignores _ _ _ unchanged => rw [unchanged]; simp [Journal.log, MeshSnapshot.commandsOf]
  | closes _ _ _ settles =>
      rw [settled settles]
      simp [Journal.close, setCtrl, Journal.log, MeshSnapshot.commandsOf]

-----------------------------------------------------------------------------------------
-- Moves
-----------------------------------------------------------------------------------------

/-- What a sidecar has passed of a channel is the beginning of what the channel holds. -/
def Fifo (j : Journal) (incoming : Ip → List (Msg Bytes Held)) : Prop :=
  ∀ ip, (heldFrom j.consumed ip).map toMsg <+: incoming ip

theorem Fifo.before {incoming : Ip → List (Msg Bytes Held)} (fifo : j'.Fifo incoming)
    (grows : j.consumed <+: j'.consumed) : j.Fifo incoming := by
  intro ip
  obtain ⟨more, longer⟩ := grows
  refine .trans ?_ (fifo ip)
  rw [← longer]
  simp [heldFrom]

theorem Processes.simulated {packet : PeerPacket} {incoming : Ip → List (Msg Bytes Held)}
    (config : cfg.Deployed members own) (shows : j.Shows cfg own part)
    (within : ∀ episode, part.current = some episode → episode.cut ⊆ memberSet members)
    (next : packet.seq = (part.consumed packet.peer).length)
    (processes : j.Processes cfg packet j') (plain : PlainSends j'.sent)
    (noRevival : ¬ Revives j'.control) (fifo : (j'.pass packet).Fifo incoming)
    : ∃ next,
        Node.Steps (memberSet members) own incoming part next
        ∧ (j'.pass packet).Shows cfg own next := by
  have same := processes.sameStreams
  have queued : part.consumed packet.peer ++ [toMsg packet.held] <+: incoming packet.peer := by
    have whole := fifo packet.peer
    rw [pass, same.consumed, heldFrom_append_singleton, if_pos rfl, List.map_append,
      ← shows.consumed] at whole
    exact whole
  have passed (ip : Ip)
      : (heldFrom (j'.pass packet).consumed ip).map toMsg
        = part.consumed ip ++ if packet.peer = ip then [toMsg packet.held] else [] := by
    rw [pass, same.consumed, heldFrom_append_singleton, List.map_append, ← shows.consumed]
    split <;> rfl
  cases processes with
  | marker id isMarker hears =>
      rw [markerId?_eq_some.mp isMarker] at hears
      rw [toMsg_marker isMarker] at queued passed
      obtain ⟨sent, heard, steps, hears', tracks⟩ := hears.simulated config shows.toTracks
        shows.consumed within (.channel next) incoming plain noRevival
      refine ⟨heard, steps.tail (.marker queued hears'), tracks.pass packet, fun ip => ?_, ?_⟩
      · rw [passed, hears'.consumed]
        by_cases here : ip = packet.peer
        · subst here
          simp [Node.hear]
        · simp [Node.hear, here, Ne.symm here]
      · rw [hears'.commands]
        exact shows.commands.trans hears.commandsOf.symm
  | records isPlain recording found recorded state appended =>
      obtain ⟨episode, current⟩ := shows.current_of_recording recording
      have opened := ((shows.recording episode current).recordingChannels packet.peer).mp found
      rw [toMsg_data isPlain] at queued passed
      refine ⟨_, .single (.data queued), ?_, fun ip => ?_, ?_⟩
      · rw [appended]
        exact (shows.record current opened state next).pass packet
      · rw [passed]
        by_cases here : ip = packet.peer
        · subst here
          simp [Node.receive]
        · simp [Node.receive, here, Ne.symm here]
      · rw [appended]
        exact shows.commands
  | delivers isPlain passes delivered =>
      rw [toMsg_data isPlain] at queued passed
      refine ⟨_, .single (.data queued), ?_, fun ip => ?_, ?_⟩
      · rw [delivered]
        exact (shows.deliver passes).pass packet
      · rw [passed]
        by_cases here : ip = packet.peer
        · subst here
          simp [Node.receive]
        · simp [Node.receive, here, Ne.symm here]
      · rw [delivered]
        exact shows.commands

theorem Move.simulated {incoming : Ip → List (Msg Bytes Held)}
    (config : cfg.Deployed members own) (shows : j.Shows cfg own part) (counted : j.Counted)
    (within : ∀ episode, part.current = some episode → episode.cut ⊆ memberSet members)
    (move : Move cfg j j') (plain : PlainSends j'.sent) (noRevival : ¬ Revives j'.control)
    (fifo : j'.Fifo incoming)
    : ∃ next, Node.Steps (memberSet members) own incoming part next ∧ j'.Shows cfg own next := by
  cases move with
  | emit datagrams => exact ⟨part, .refl, { shows with }⟩
  | @forward datagram rest queued =>
      have taken : (j.take rest).Shows cfg own part := { shows with }
      have same := sameReceipt_forward cfg (j.take rest) datagram
      obtain ⟨sent, steps, shown⟩ := taken.toShowsSent.forward incoming plain
      refine ⟨_, steps, taken.toTracks.sends shown same, ?_, ?_⟩
      · rw [same.consumed]
        exact taken.consumed
      · rw [same.control]
        exact taken.commands
  | @command _ _ rest queued isStart id hears =>
      have taken : (j.take rest).Tracks cfg own part := { shows.toTracks with }
      have told : ((j.take rest).log (.start id)).Tracks cfg own part := taken.log rfl rfl
      obtain ⟨sent, heard, steps, hears', tracks⟩ := hears.simulated config told shows.consumed
        within (.command config.noLoopback) incoming plain noRevival
      refine ⟨heard, steps.tail (.command hears'), tracks, fun ip => ?_, ?_⟩
      · rw [hears'.consumed, hears.sameStreams.consumed]
        exact shows.consumed ip
      · rw [hears'.commands, hears.commandsOf]
        simp [Node.hear, shows.commands, Journal.log, take, MeshSnapshot.commandsOf]
  | send dst message =>
      have isPlain := plain ⟨dst, message, .direct, j.reads⟩ (by simp [Journal.send]) (by simp)
      exact ⟨_, .single (.send dst message.held),
        shows.toTracks.sends (shows.toShowsSent.send dst .direct isPlain)
          ⟨rfl, rfl, rfl, rfl, rfl, rfl, rfl⟩,
        shows.consumed, shows.commands⟩
  | @pass last packet next processes =>
      have noted : (j.note packet).Shows cfg own part := { shows with }
      refine Processes.simulated config noted within ?_ processes plain noRevival fifo
      rw [next, shows.consumed, List.length_map, ← counted.length packet.peer]
      simp [Journal.ledger, packetsOf, heldFrom]
  | abort recording ends =>
      obtain ⟨episode, current⟩ := shows.current_of_recording recording
      have shown : j'.Tracks cfg own (part.abort episode) := shows.toTracks.ends current rfl ends
      obtain ⟨artifact, stored, -, rfl⟩ := ends
      refine ⟨_, .single (.abort current), shown, shows.consumed, ?_⟩
      simpa [flush, Journal.log, MeshSnapshot.commandsOf, Node.abort] using shows.commands

/-- A run of moves is simulated if its whole history meets the conditions. -/
theorem Moves.simulated {incoming : Ip → List (Msg Bytes Held)}
    (config : cfg.Deployed members own) (shows : j.Shows cfg own part) (counted : j.Counted)
    (inv : part.Inv (memberSet members) own) (moves : Moves cfg j j')
    (plain : PlainSends j'.sent) (noRevival : ¬ Revives j'.control) (fifo : j'.Fifo incoming)
    : ∃ next, Node.Steps (memberSet members) own incoming part next ∧ j'.Shows cfg own next := by
  induction moves with
  | refl => exact ⟨part, .refl, shows⟩
  | @tail middle last before move ih =>
      have grows := move.grows
      obtain ⟨between, steps, shown⟩ := ih (plain.before grows.sent)
        (fun revives => noRevival (revives.after grows.control)) (fifo.before grows.consumed)
      have kept : between.Inv (memberSet members) own := by
        clear shown
        induction steps with
        | refl => exact inv
        | tail _ step ih => exact ih.step step
      obtain ⟨next, more, shownNext⟩ := move.simulated config shown
        (Moves.keeps before (fun move counted => move.counted counted) counted)
        (fun episode current => kept.within episode (Node.mem_episodes_of_current current))
        plain noRevival fifo
      exact ⟨next, steps.trans more, shownNext⟩

end Journal

end MeshSnapshot
