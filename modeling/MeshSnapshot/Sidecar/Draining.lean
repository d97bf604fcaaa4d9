import MeshSnapshot.Sidecar.Outgoing

/-! The handler of the intercept socket, `drain_intercept` and the marker fan-out share one queue
and one counter for each peer. However a snapshot start falls into the queue, every app datagram
is forwarded once and in its order, and what was queued precedes the marker on its channel.
-/

namespace MeshSnapshot

open Procedure Outbox

variable {cfg : Config} {s s' t : Sidecar}

-----------------------------------------------------------------------------------------
-- The intercept socket
-----------------------------------------------------------------------------------------

theorem unmarked_appPoint : Within (Unmarked cfg) appPoint := by
  intro s
  simp only [appPoint, bind_run, read_run]
  cases next : s.host.app with
  | nil => exact .refl s
  | cons datagrams rest => exact ⟨[.arrives datagrams], .single (.arrives next), by simp⟩

/-- A read that would block leaves an empty queue; any other takes the head of the queue. -/
theorem recvmsg_outcome (cfg : Config) (s : Sidecar)
    : Triple (fun t => t = s) recvmsg
        (fun received s' =>
          (received = none ∧ Unmarked cfg s s' ∧ s'.localSock = [])
          ∨ ∃ t datagram rest,
              received = some datagram ∧ Unmarked cfg s t ∧ t.localSock = datagram :: rest
              ∧ s' = t.take rest)
        (Unmarked cfg s) := by
  have keeps {body : Py Unit} (within : Within (Unmarked cfg) body)
      : Keeps (Unmarked cfg s) body (Unmarked cfg s) :=
    .of_within within fun before unmarked => before.trans unmarked
  refine ((keeps unmarked_appPoint).bind fun _ =>
    (keeps (unmarked_of_unheard unheard_outsideCall)).bind fun _ => ?_).weaken
      (fun t same => same ▸ .refl t) (fun _ _ after => after) fun _ after => after
  refine .readBind fun t reached => ?_
  split
  next queue =>
    rintro _ rfl
    exact .inl ⟨rfl, reached, queue⟩
  next datagram rest queue =>
    rintro _ rfl
    exact .inr ⟨_, datagram, rest, rfl, reached, queue, rfl⟩

/-- A datagram is read and forwarded, unless the send raises. -/
theorem forward_outcome {datagram : Datagram} {rest : List Datagram} (reached : Unmarked cfg s t)
    (queued : t.localSock = datagram :: rest)
    : match forwardIntercepted cfg datagram (t.take rest) with
      | .ok _ s' => Unmarked cfg s s'
      | .error _ s' => SendRaised cfg s s' := by
  cases ended : forwardIntercepted cfg datagram (t.take rest) with
  | ok u s' =>
      have puts := forwardIntercepted_puts ended
      exact reached.trans ⟨[.forwards datagram], .single (.forwards queued puts), by simp⟩
  | error e s' =>
      obtain ⟨events, dispatches⟩ := reached.handles
      exact ⟨t, events, datagram, rest, e, dispatches, queued, ended⟩

theorem drainLoop_outcome (fuel : Nat) (s : Sidecar)
    : Triple (Unmarked cfg s) (drainLoop cfg fuel) (fun _ => Unmarked cfg s) (Stops cfg s) := by
  induction fuel with
  | zero => exact .pure fun _ unmarked => unmarked
  | succ fuel ih =>
      intro s₁ before
      unfold drainLoop
      rw [bind_run]
      have outcome := recvmsg_outcome cfg s₁ s₁ rfl
      cases received : recvmsg s₁ with
      | error e s₂ =>
          rw [received] at outcome
          exact .inl (before.trans outcome).handles
      | ok answer s₂ =>
          rw [received] at outcome
          rcases outcome with ⟨rfl, unmarked, -⟩ | ⟨t, datagram, rest, rfl, reached, queued, rfl⟩
          · exact before.trans unmarked
          · have forwarded := forward_outcome (before.trans reached) queued
            dsimp only
            rw [bind_run]
            cases ended : forwardIntercepted cfg datagram (t.take rest) with
            | ok u s₃ =>
                rw [ended] at forwarded
                exact ih s₃ forwarded
            | error e s₃ =>
                rw [ended] at forwarded
                exact .inr forwarded

/-- When `drain_intercept` returns, all that was queued has been forwarded. -/
theorem drainIntercept_outcome (s : Sidecar)
    : Triple (Unmarked cfg s) (drainIntercept cfg) (fun _ => Clears cfg s) (Stops cfg s) := by
  intro t before
  have loops : Triple (Unmarked cfg s) (drainLoop cfg (t.pending + 1)) (fun _ => Unmarked cfg s)
      (Stops cfg s) :=
    drainLoop_outcome _ s
  have outcome := loops t before
  have drains : drainIntercept cfg t = drainLoop cfg (t.pending + 1) t := rfl
  rw [← drains] at outcome
  cases ended : drainIntercept cfg t with
  | ok u s' =>
      rw [ended] at outcome
      exact Unmarked.clears outcome (drainIntercept_ok ended).2
  | error e s' =>
      rw [ended] at outcome
      exact outcome

-----------------------------------------------------------------------------------------
-- The snapshot controller
-----------------------------------------------------------------------------------------

theorem Orderly.update {change : Sidecar → Sidecar}
    (same : ∀ s, (change s).outbox = s.outbox)
    : Orderly cfg (Procedure.update change : Py Unit) :=
  .of_unheard (.update same)

theorem Orderly.readBind {β : Type} {f : Sidecar → Py β} (second : ∀ s, Orderly cfg (f s))
    : Orderly cfg (Procedure.read >>= f) :=
  .bind .read second

theorem keeps_unmarked {α : Type} {body : Py α} (within : Within (Unmarked cfg) body) (s : Sidecar)
    : Keeps (Unmarked cfg s) body (Stops cfg s) :=
  (Triple.of_within within fun before unmarked => Unmarked.trans before unmarked).weaken
    (fun _ unmarked => unmarked) (fun _ _ unmarked => unmarked)
    (fun _ unmarked => .inl (Unmarked.handles unmarked))

theorem unmarked_forgets {change : SnapshotController → SnapshotController}
    (drops : ∀ ctrl, (change ctrl).recordedSendSeq = ∅)
    : Within (Unmarked cfg) (modifyCtrl change) := by
  intro s
  have step : Step cfg s.outbox .forgets _ := .forgets s.outbox
  have reached : ({ s with ctrl := change s.ctrl } : Sidecar).outbox = { s.outbox with recorded := ∅ } :=
    congrArg (fun recorded => { s.outbox with recorded }) (drops s.ctrl)
  exact ⟨[.forgets], .single (reached ▸ step), by simp⟩

theorem unmarked_triggerAppSnapshot (markerId : Bytes) (snapshotId : String)
    : Within (Unmarked cfg) (triggerAppSnapshot cfg markerId snapshotId) := by
  refine Within.bind .trans unmarked_appPoint fun _ => ?_
  refine Within.bind .trans (unmarked_of_unheard unheard_outsideAnswer) fun _ => ?_
  refine Within.bind .trans (unmarked_of_unheard fun _ => rfl) fun s => ?_
  exact Within.bind .trans (unmarked_of_unheard (.update fun _ => rfl)) fun _ => unmarked_appPoint

section Snapshot

variable {reenter : Ip → Nat → Held → Py Unit}
  (again : ∀ ip seq held, Orderly cfg (reenter ip seq held))

include again

theorem orderly_finish (status : Status)
    : Orderly cfg (do
        let artifact ← buildArtifact cfg status
        let _ ← postArtifact artifact
        flushAndReset reenter : Py Unit) := by
  refine .bind (.of_unheard (unheard_buildArtifact cfg status)) fun artifact => ?_
  refine .bind (.of_unheard (unheard_postArtifact artifact)) fun _ => ?_
  refine .bind (.of_unmarked (unmarked_forgets fun _ => rfl)) fun _ => .readBind fun s => ?_
  refine .bind (.forEach _ fun entry => ?_) fun _ => .update fun _ => rfl
  exact .bind (.update fun _ => rfl) fun _ => .forEach _ fun msg => again _ _ _

theorem orderly_finishIfClosed : Orderly cfg (finishIfClosed cfg reenter) := by
  refine .readBind fun s => ?_
  split
  · exact orderly_finish again .complete
  · exact .pure ()

/-- The markers of a snapshot come after the forwarding of all that was queued when it started. -/
theorem orderly_startSnapshot (remoteIp : Ip) (seq : Nat) (payload markerId : Bytes)
    : Orderly cfg (startSnapshot cfg reenter remoteIp seq payload markerId) := by
  intro s
  have calm {α : Type} {body : Py α} (within : Within (Unmarked cfg) body) :=
    keeps_unmarked within s
  have free {α : Type} {body : Py α} (within : Within (Acts cfg) body) := keeps_clears within s
  have silent {α : Type} {body : Py α} (unheard : Unheard body) :=
    free (acts_of_unmarked (unmarked_of_unheard unheard))
  have started : Triple (Unmarked cfg s) (startSnapshot cfg reenter remoteIp seq payload markerId)
      (fun _ => Clears cfg s) (Stops cfg s) := by
    refine .bind (calm (unmarked_forgets fun _ => rfl)) fun _ => .readThen fun _ _ => ?_
    refine .bind (calm (unmarked_of_unheard (.update fun _ => rfl))) fun _ => ?_
    refine .bind (calm (unmarked_of_unheard (unheard_selfMeshIp cfg))) fun selfIp => ?_
    refine .bind (calm (unmarked_of_unheard (.update fun _ => rfl))) fun _ => ?_
    refine .bind (drainIntercept_outcome s) fun _ => ?_
    -- Nothing that was queued is left: from here on, markers may go out.
    refine .bind (silent (unheard_decode markerId)) fun snapshotId => ?_
    refine .bind (free (acts_of_unmarked (unmarked_triggerAppSnapshot _ _))) fun _ => ?_
    refine .bind (.forEach fun ip _ => free (acts_sendMarker payload ip)) fun _ => ?_
    refine .bind (silent (.update fun _ => rfl)) fun _ => ?_
    refine .bind (silent (unheard_closeOrigin _ _ _)) fun _ => ?_
    refine .bind (silent unheard_time) fun _ => .bind (silent (.update fun _ => rfl)) fun _ => ?_
    exact (orderly_finishIfClosed again).keeps (Clears cfg)
      (fun clears handles => Clears.acts clears (Handles.acts handles)) Clears.stops s
  exact started.weaken (fun t same => same ▸ .refl t) (fun _ _ clears => clears.handles)
    (fun _ stops => stops)

theorem orderly_handleMarker (remoteIp : Ip) (seq : Nat) (payload markerId : Bytes)
    : Orderly cfg (handleMarker cfg reenter remoteIp seq payload markerId) := by
  refine .readBind fun s => .bind (.update fun _ => rfl) fun _ => ?_
  split
  · refine .readBind fun s => ?_
    split
    · exact .bind (.of_unheard (unheard_decode _)) fun _ => .pure ()
    · split
      · exact .bind (.update fun _ => rfl) fun _ => orderly_finishIfClosed again
      · exact .pure ()
  · exact orderly_startSnapshot again remoteIp seq payload markerId

end Snapshot

/-- By induction on the calls that may still nest. -/
theorem orderly_processMessage (depth : Nat) (ip : Ip) (seq : Nat) (held : Held)
    : Orderly cfg (processMessage cfg depth ip seq held) := by
  induction depth generalizing ip seq held with
  | zero => exact .of_unheard (.raise _)
  | succ depth ih =>
      have again (ip : Ip) (seq : Nat) (held : Held) : Orderly cfg (do
          let consumed ← processMessage cfg depth ip seq held
          if consumed then pure () else deliver ip seq held : Py Unit) := by
        refine .bind (ih ip seq held) fun consumed => ?_
        split
        · exact .pure ()
        · exact .of_unmarked (unmarked_deliver ip seq held)
      unfold processMessage
      split
      · exact .bind (orderly_handleMarker again ip seq _ _) fun _ => .pure _
      · refine .readBind fun s => ?_
        split
        · exact .bind (.of_unheard (unheard_recordMessage ip seq held)) fun _ => .pure _
        · exact .pure _

theorem orderly_processAndDeliver (depth : Nat) (ip : Ip) (seq : Nat) (held : Held)
    : Orderly cfg (processAndDeliver cfg depth ip seq held) := by
  refine .bind (orderly_processMessage depth ip seq held) fun consumed => ?_
  split
  · exact .pure ()
  · exact .of_unmarked (unmarked_deliver ip seq held)

theorem orderly_checkTimeout : Orderly cfg (checkTimeout cfg) := by
  refine .readBind fun s => ?_
  split
  · refine .bind (.of_unheard unheard_time) fun now => ?_
    split
    · exact orderly_finish (orderly_processAndDeliver callDepth) .aborted
    · exact .pure ()
  · exact .pure ()

theorem orderly_handleStart (data : Bytes) : Orderly cfg (handleStart cfg data) :=
  .bind (.of_unheard (unheard_startId data)) fun _ => .bind (.update fun _ => rfl) fun _ =>
    .bind (orderly_processMessage _ _ _ _) fun _ => .pure ()

-----------------------------------------------------------------------------------------
-- Callbacks
-----------------------------------------------------------------------------------------

theorem orderly_passPacket (ip : Ip) (held : Held) : Orderly cfg (passPacket cfg ip held) := by
  refine .readBind fun s => .bind (.update fun s => ?_) fun _ => ?_
  · unfold Sidecar.logOvertaking
    split <;> rfl
  · exact .bind (orderly_processAndDeliver _ _ _ _) fun _ => .bind (.update fun _ => rfl) fun _ =>
      .of_unheard (unheard_modifyPeer fun _ => rfl)

theorem orderly_flushBuffer (ip : Ip) (fuel : Nat) : Orderly cfg (flushBuffer cfg ip fuel) := by
  induction fuel with
  | zero => exact .pure ()
  | succ fuel ih =>
      refine .readBind fun s => ?_
      split
      · exact .pure ()
      · exact .bind (.of_unheard (unheard_modifyPeer fun _ => rfl)) fun _ =>
          .bind (orderly_passPacket ip _) fun _ => ih

theorem orderly_datagramReceived (packet : Bytes) (ip : Ip)
    : Orderly cfg (datagramReceived cfg packet ip) := by
  refine .bind (.of_unheard (unheard_getPeer ip)) fun _ => ?_
  cases parsed : parseFrame packet with
  | data seq held =>
      have fits : seq < 2 ^ 64 := parseFrame_data_lt parsed
      have acks : Emits (.ack ip seq) (tunnelSendto (packAck seq) ip) :=
        emits_tunnelSendto fun s => .ack ip fits
      refine .bind (.of_unmarked (acks.unmarked .acknowledges (by simp))) fun _ =>
        .readBind fun s => ?_
      split
      · exact .bind (orderly_passPacket ip held) fun _ => .readBind fun s =>
          orderly_flushBuffer ip _
      · split
        · exact .of_unheard (unheard_modifyPeer fun _ => rfl)
        · exact .pure ()
  | plain held => exact .of_unmarked ((emits_spoof _ _ _).unmarked .delivers (by simp))
  | ack seq => exact .of_unheard (unheard_modifyPeer fun _ => rfl)
  | ignored => exact .pure ()

/-- A START command is read and acted on, any other datagram read and forwarded. -/
theorem handleDatagram_outcome {datagram : Datagram} {rest : List Datagram}
    (reached : Unmarked cfg s t) (queued : t.localSock = datagram :: rest)
    : Triple (fun t' => t' = t.take rest) (handleDatagram cfg datagram) (fun _ => Handles cfg s)
        (Stops cfg s) := by
  rintro _ rfl
  unfold handleDatagram
  by_cases isStart : startPrefix.isPrefixOf datagram.data = true
  case pos =>
    rw [if_pos isStart]
    have read : Unmarked cfg s (t.take rest) :=
      reached.trans ⟨[.command datagram], .single (.command queued isStart), by simp⟩
    exact (orderly_handleStart datagram.data).keeps (Handles cfg) Handles.trans Handles.stops s
      (t.take rest) read.handles
  case neg =>
    rw [if_neg isStart]
    have forwarded := forward_outcome reached queued
    cases ended : forwardIntercepted cfg datagram (t.take rest) with
    | ok u s' =>
        rw [ended] at forwarded
        exact forwarded.handles
    | error e s' =>
        rw [ended] at forwarded
        exact .inr forwarded

theorem orderly_handleLoop (fuel : Nat) : Orderly cfg (handleLoop cfg fuel) := by
  induction fuel with
  | zero => exact .pure ()
  | succ fuel ih =>
      intro first s same
      subst same
      unfold handleLoop
      rw [bind_run]
      have outcome := recvmsg_outcome cfg s s rfl
      cases received : recvmsg s with
      | error e s₁ =>
          rw [received] at outcome
          exact .inl (Unmarked.handles outcome)
      | ok answer s₁ =>
          rw [received] at outcome
          rcases outcome with ⟨rfl, unmarked, -⟩ | ⟨t, datagram, rest, rfl, reached, queued, rfl⟩
          · exact unmarked.handles
          · have handled := handleDatagram_outcome reached queued _ rfl
            dsimp only
            rw [bind_run]
            cases ended : handleDatagram cfg datagram (t.take rest) with
            | ok u s₂ =>
                rw [ended] at handled
                exact ih.keeps (Handles cfg) Handles.trans Handles.stops s s₂ handled
            | error e s₂ =>
                rw [ended] at handled
                exact handled

theorem orderly_handleLocalIntercept : Orderly cfg (handleLocalIntercept cfg) :=
  .readBind fun _ => orderly_handleLoop _

-----------------------------------------------------------------------------------------
-- The end of the handler
-----------------------------------------------------------------------------------------

/-- Nothing but reading changes how much is left to read. -/
theorem Acts.pending (acts : Acts cfg s s') : s'.pending ≤ s.pending := by
  obtain ⟨events, performs⟩ := acts
  obtain ⟨upcoming, queue⟩ := performs.queue
  have upcoming : s.host.app = batchesOf events ++ s'.host.app := upcoming
  have lengths := congrArg List.length queue
  have queued : s.outbox.queue.length = s.localSock.length := rfl
  have left : s'.outbox.queue.length = s'.localSock.length := rfl
  simp only [List.length_append, List.length_flatten, queued, left] at lengths
  simp only [Sidecar.pending, upcoming, List.map_append, List.sum_append]
  omega

theorem handleDatagram_pending {datagram : Datagram} {u : Unit}
    (returned : handleDatagram cfg datagram s = .ok u s') : s'.pending ≤ s.pending := by
  unfold handleDatagram at returned
  by_cases isStart : startPrefix.isPrefixOf datagram.data = true
  case pos =>
    rw [if_pos isStart] at returned
    exact (((orderly_handleStart datagram.data s).ok rfl returned).acts).pending
  case neg =>
    rw [if_neg isStart] at returned
    obtain ⟨-, queue, upcoming⟩ := (forwardIntercepted_puts returned).same
    have queue : s'.localSock = s.localSock := queue
    have upcoming : s'.host.app = s.host.app := upcoming
    simp only [Sidecar.pending, queue, upcoming, le_refl]

/-- The loop does not stop before the socket would block. -/
theorem handleLoop_empties {fuel : Nat} {u : Unit} (returned : handleLoop cfg fuel s = .ok u s')
    (enough : s.pending < fuel) : s'.localSock = [] := by
  induction fuel generalizing s with
  | zero => omega
  | succ fuel ih =>
      obtain ⟨received, s₁, ran, returned⟩ := bind_ok.mp returned
      obtain ⟨datagrams, outcome⟩ := recvmsg_ok ran
      cases received with
      | none =>
          obtain ⟨-, rfl⟩ := pure_ok.mp returned
          exact outcome.2
      | some datagram =>
          obtain ⟨-, -, -, fewer⟩ := outcome
          obtain ⟨_, s₂, handled, returned⟩ := bind_ok.mp returned
          have atMost := handleDatagram_pending handled
          exact ih returned (by omega)

theorem handleLocalIntercept_empties {u : Unit}
    (returned : handleLocalIntercept cfg s = .ok u s') : s'.localSock = [] := by
  obtain ⟨_, _, read, returned⟩ := bind_ok.mp returned
  obtain ⟨rfl, rfl⟩ := read_ok.mp read
  exact handleLoop_empties returned (Nat.lt_succ_self _)

-----------------------------------------------------------------------------------------
-- What the events say
-----------------------------------------------------------------------------------------

/-- The message that an app datagram, which is no START command, sends to `ip` over RUDP. -/
def appMessage? (cfg : Config) (isServer : Bool) (ip : Ip) (datagram : Datagram)
    : Option Message :=
  if startPrefix.isPrefixOf datagram.data then none
  else (forwarding cfg isServer datagram).rudpTo? ip

theorem filterMap_sublist {α β : Type} {f g : α → Option β} {items : List α}
    (fewer : ∀ item ∈ items, f item = none ∨ f item = g item)
    : (items.filterMap f).Sublist (items.filterMap g) := by
  induction items with
  | nil => exact .slnil
  | cons item rest ih =>
      have sublist := ih fun next member => fewer next (List.mem_cons_of_mem _ member)
      rcases fewer item (by simp) with nothing | same
      · rw [List.filterMap_cons_none nothing]
        exact sublist.trans ((List.sublist_cons_self item rest).filterMap g)
      · rw [List.filterMap_cons, List.filterMap_cons, same]
        cases g item with
        | none => exact sublist
        | some message => exact sublist.cons_cons message

/-- What is read and is no START command has been forwarded. -/
theorem appMessages_sublist {o o' : Outbox} {events : List Dispatch} (isServer : Bool) (ip : Ip)
    (performs : Performs cfg o events o')
    : ((readsOf events).filterMap (appMessage? cfg isServer ip)).Sublist
        (streamTo cfg isServer ip events) := by
  unfold readsOf streamTo
  rw [List.filterMap_filterMap]
  refine filterMap_sublist fun event member => ?_
  cases event with
  | command datagram =>
      have isStart := performs.commands member
      exact .inl (by simp [Dispatch.read?, appMessage?, isStart])
  | forwards datagram =>
      cases isStart : startPrefix.isPrefixOf datagram.data with
      | true => exact .inl (by simp [Dispatch.read?, appMessage?, isStart])
      | false => exact .inr (by simp [Dispatch.read?, appMessage?, isStart, Dispatch.output])
  | _ => exact .inl rfl

/-- The events account for all that was read and sent between two states, and every marker comes
after what was queued before.
-/
structure Sidecar.InOrder (cfg : Config) (s : Sidecar) (events : List Dispatch) (s' : Sidecar)
    : Prop where
  arrived : s.host.app = batchesOf events ++ s'.host.app
  /-- What was queued or arrived is read in this order, each datagram once, or still queued. -/
  read : s.localSock ++ (batchesOf events).flatten = readsOf events ++ s'.localSock
  /-- What is read is forwarded, unless it is a START command. -/
  commands
    : ∀ datagram, .command datagram ∈ events → startPrefix.isPrefixOf datagram.data = true
  counter
    : ∀ ip, (s'.peer ip).sendSeq = (s.peer ip).sendSeq
        + (streamTo cfg s.isServer ip events).length
  /-- The messages to a peer are numbered consecutively in the order of their events; best-effort
  messages go out in that order too.
  -/
  wire
    : ∃ new,
        s'.trace.wire = s.trace.wire ++ new
        ∧ ∀ ip,
            dataFrames ip new
              = numbered (s.peer ip).sendSeq (streamTo cfg s.isServer ip events)
            ∧ plainFrames ip new = (plainsTo cfg s.isServer ip events).map Message.held
  /-- So do the direct sends out of the subnet, and the deliveries to the app. -/
  spoofed
    : s'.trace.spoofed.map Prod.snd
      = s.trace.spoofed.map Prod.snd ++ spoofsOf cfg s.isServer events
  /-- The app datagrams for a peer that were queued in `s` have their place before any marker to
  it, whose number is the recorded coordinate less one.
  -/
  marked
    : ∀ before ip payload after,
        events = before ++ .marker ip payload :: after
        → (s.localSock.filterMap (appMessage? cfg s.isServer ip)).Sublist
              (streamTo cfg s.isServer ip before)
          ∧ ∃ o,
              Performs cfg s.outbox (before ++ [.marker ip payload]) o
              ∧ Performs cfg o after s'.outbox
              ∧ o.recorded.get? ip
                = some ((s.peer ip).sendSeq + (streamTo cfg s.isServer ip before).length + 1)

theorem Sidecar.Dispatches.inOrder {events : List Dispatch}
    (dispatches : s.Dispatches cfg events s') : s.InOrder cfg events s' where
  arrived := dispatches.performs.queue.1
  read := dispatches.queue
  commands _ read := dispatches.performs.commands read
  counter := dispatches.performs.sent.counter
  wire := dispatches.performs.sent.wire
  spoofed := dispatches.performs.sent.spoofed
  marked before ip payload after split := by
    subst split
    obtain ⟨mid, first, second⟩ := dispatches.performs.split
    refine ⟨?_, ?_⟩
    · obtain ⟨rest, queued⟩ := dispatches.marked rfl
      have reads := appMessages_sublist s.isServer ip first
      rw [← queued, List.filterMap_append] at reads
      exact (List.sublist_append_left _ _).trans reads
    · cases second with
      | @cons _ o _ _ _ step later =>
          refine ⟨o, first.append (.single step), later, ?_⟩
          have counted : mid.sendSeq ip = _ := first.sent.counter ip
          cases step with
          | marker puts =>
              cases puts with
              | rudp built =>
                  simp only [Dict.get?_set, if_true, Function.update_self, counted]
                  rfl

/-- Where `process_message` may be entered: from the event loop, and by itself. -/
inductive Entry where
  /-- `_handle_local_intercept` -/
  | intercept
  /-- `datagram_received` -/
  | received (packet : Bytes) (src : Ip)
  /-- The calls of the snapshot controller that these make. -/
  | controller (event : ControllerEvent)

def Entry.run (cfg : Config) : Entry → Py Unit
  | .intercept => handleLocalIntercept cfg
  | .received packet src => datagramReceived cfg packet src
  | .controller event => event.run cfg

theorem Entry.orderly (entry : Entry) : Orderly cfg (entry.run cfg) := by
  cases entry with
  | intercept => exact orderly_handleLocalIntercept
  | received packet src => exact orderly_datagramReceived packet src
  | controller event =>
      cases event with
      | start data => exact orderly_handleStart data
      | arrival packet => exact orderly_processAndDeliver _ _ _ _
      | tick => exact orderly_checkTimeout

/-- Whatever is queued, in whatever state, and wherever a snapshot start falls into the queue:
unless the callback ends with the exception of a send, app datagrams are forwarded once and in
order, with consecutive numbers, and those queued when `process_message` or a callback is entered
before any marker that it sends. When the handler returns, nothing is left in the queue.
-/
theorem Sidecar.drains_in_order (cfg : Config) (s : Sidecar) (entry : Entry)
    : ((∃ events, s.InOrder cfg events (final (entry.run cfg s)))
        ∨ ∃ error s',
            entry.run cfg s = .error error s'
            ∧ ∃ events t datagram rest raised,
                s.InOrder cfg events t ∧ t.localSock = datagram :: rest
                ∧ forwardIntercepted cfg datagram (t.take rest) = .error raised s')
      ∧ ∀ s', handleLocalIntercept cfg s = .ok () s' → s'.localSock = [] := by
  refine ⟨?_, fun s' returned => handleLocalIntercept_empties returned⟩
  have outcome := (entry.orderly : Orderly cfg (entry.run cfg)) s s rfl
  cases ended : entry.run cfg s with
  | ok u s' =>
      rw [ended] at outcome
      obtain ⟨events, dispatches⟩ := outcome
      exact .inl ⟨events, dispatches.inOrder⟩
  | error e s' =>
      rw [ended] at outcome
      rcases outcome with ⟨events, dispatches⟩ | ⟨t, events, datagram, rest, error, dispatches, queued, raised⟩
      · exact .inl ⟨events, dispatches.inOrder⟩
      · exact .inr ⟨e, s', rfl, events, t, datagram, rest, error, dispatches.inOrder, queued, raised⟩

end MeshSnapshot
