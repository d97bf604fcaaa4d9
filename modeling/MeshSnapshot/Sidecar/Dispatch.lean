import MeshSnapshot.Sidecar.Effects

/-! What a sidecar sends, and on whose account. One event stands for one thing that the code
does with an app datagram, a marker, an acknowledgement or a delivery; a run of events fixes the
packets that leave and the numbers they bear.
-/

namespace MeshSnapshot

-----------------------------------------------------------------------------------------
-- Events
-----------------------------------------------------------------------------------------

inductive Output where
  /-- A Type-0 packet, numbered on the channel to `ip`. -/
  | rudp (ip : Ip) (message : Message)
  /-- A Type-2 packet. -/
  | plain (ip : Ip) (message : Message)
  | ack (ip : Ip) (seq : Nat)
  /-- A send on a spoof socket. -/
  | spoofed (payload : Bytes) (dst : Ip × Nat)
  | nothing

/-- What `_forward_intercepted` sends for a datagram. -/
def forwarding (cfg : Config) (isServer : Bool) (datagram : Datagram) : Output :=
  match datagram.ancdata.find? (fun cmsg => cmsg.level == 0 && cmsg.type == 20) with
  | none => .nothing
  | some cmsg =>
      let port := (cmsg.data.drop 2).take 2
      let ip := (cmsg.data.drop 4).take 4
      if ofBigEndian port = 0 then .nothing
      else if inMeshNetwork ip then
        if isServer && cfg.meshMembers.contains (inetNtoa ip) then
          .rudp (inetNtoa ip) ⟨datagram.addr.2, ofBigEndian port, ip, datagram.data⟩
        else
          .plain (inetNtoa ip) ⟨datagram.addr.2, ofBigEndian port, ip, datagram.data⟩
      else
        .spoofed datagram.data (inetNtoa ip, ofBigEndian port)

inductive Dispatch where
  /-- The app queues datagrams while a callback runs. -/
  | arrives (datagrams : List Datagram)
  /-- A START command is read by the handler. -/
  | command (datagram : Datagram)
  /-- A datagram is read and forwarded, by the handler or by `drain_intercept`. -/
  | forwards (datagram : Datagram)
  | marker (ip : Ip) (payload : Bytes)
  | acknowledges (ip : Ip) (seq : Nat)
  | delivers (payload : Bytes) (dst : Ip × Nat)
  /-- The recorded send coordinates are dropped. -/
  | forgets

namespace Dispatch

def output (cfg : Config) (isServer : Bool) : Dispatch → Output
  | forwards datagram => forwarding cfg isServer datagram
  | marker ip payload => .rudp ip ⟨0, 0, zeroIp, payload⟩
  | acknowledges ip seq => .ack ip seq
  | delivers payload dst => .spoofed payload dst
  | arrives _ | command _ | forgets => .nothing

def read? : Dispatch → Option Datagram
  | command datagram | forwards datagram => some datagram
  | _ => none

def batch? : Dispatch → Option (List Datagram)
  | arrives datagrams => some datagrams
  | _ => none

end Dispatch

/-- The datagrams read, in order. -/
def readsOf (events : List Dispatch) : List Datagram := events.filterMap Dispatch.read?

/-- What the app queued, in order. -/
def batchesOf (events : List Dispatch) : List (List Datagram) := events.filterMap Dispatch.batch?

def Output.rudpTo? (ip : Ip) : Output → Option Message
  | .rudp dst message => if dst = ip then some message else none
  | _ => none

def Output.plainTo? (ip : Ip) : Output → Option Message
  | .plain dst message => if dst = ip then some message else none
  | _ => none

def Output.spoofed? : Output → Option (Bytes × Ip × Nat)
  | .spoofed payload dst => some (payload, dst)
  | _ => none

/-- The messages sent on the channel to `ip`: app datagrams and markers, in order. -/
def streamTo (cfg : Config) (isServer : Bool) (ip : Ip) (events : List Dispatch) : List Message :=
  events.filterMap fun event => (event.output cfg isServer).rudpTo? ip

def plainsTo (cfg : Config) (isServer : Bool) (ip : Ip) (events : List Dispatch) : List Message :=
  events.filterMap fun event => (event.output cfg isServer).plainTo? ip

def spoofsOf (cfg : Config) (isServer : Bool) (events : List Dispatch)
    : List (Bytes × Ip × Nat) :=
  events.filterMap fun event => (event.output cfg isServer).spoofed?

/-- Messages with consecutive numbers from `first` on, as their destination will see them. -/
def numbered (first : Nat) (messages : List Message) : List (Nat × Held) :=
  (messages.zipIdx first).map fun (message, seq) => (seq, message.held)

/-- The data frames on the way to `ip`, in the order in which they were sent. -/
def dataFrames (ip : Ip) (wire : List (Bytes × Ip)) : List (Nat × Held) :=
  wire.filterMap fun (packet, dst) =>
    match parseFrame packet with
    | .data seq held => if dst = ip then some (seq, held) else none
    | _ => none

def plainFrames (ip : Ip) (wire : List (Bytes × Ip)) : List Held :=
  wire.filterMap fun (packet, dst) =>
    match parseFrame packet with
    | .plain held => if dst = ip then some held else none
    | _ => none

-----------------------------------------------------------------------------------------
-- Outboxes
-----------------------------------------------------------------------------------------

/-- The intercept socket and all that leaves a sidecar. -/
@[ext]
structure Outbox where
  isServer : Bool
  queue : List Datagram
  /-- What the app queues at its next opportunities. -/
  upcoming : List (List Datagram)
  sendSeq : Ip → Nat
  /-- `recorded_send_seq` -/
  recorded : Dict Ip Nat
  wire : List (Bytes × Ip)
  spoofed : List (Bytes × Ip × Nat)

def Sidecar.outbox (s : Sidecar) : Outbox where
  isServer := s.isServer
  queue := s.localSock
  upcoming := s.host.app
  sendSeq ip := (s.peer ip).sendSeq
  recorded := s.ctrl.recordedSendSeq
  wire := s.trace.wire
  spoofed := s.trace.spoofed.map Prod.snd

namespace Outbox

/-- A packet goes out. -/
inductive Puts (o : Outbox) : Output → Outbox → Prop where
  | rudp {ip : Ip} {message : Message} {packet : Bytes}
    (built : dataPacket (o.sendSeq ip) message = some packet)
    : Puts o (.rudp ip message) { o with
        sendSeq := Function.update o.sendSeq ip (o.sendSeq ip + 1)
        wire := o.wire ++ [(packet, ip)] }
  | plain {ip : Ip} {message : Message} {packet : Bytes}
    (built : plainPacket message = some packet)
    : Puts o (.plain ip message) { o with wire := o.wire ++ [(packet, ip)] }
  | ack (ip : Ip) {seq : Nat} (fits : seq < 2 ^ 64)
    : Puts o (.ack ip seq) { o with wire := o.wire ++ [(packAck seq, ip)] }
  | spoofed (payload : Bytes) (dst : Ip × Nat)
    : Puts o (.spoofed payload dst) { o with spoofed := o.spoofed ++ [(payload, dst)] }
  | nothing : Puts o .nothing o

/-- One event: what it takes off the intercept socket, and what it sends. -/
inductive Step (cfg : Config) : Outbox → Dispatch → Outbox → Prop where
  | arrives {o : Outbox} {datagrams : List Datagram} {rest : List (List Datagram)}
    (next : o.upcoming = datagrams :: rest)
    : Step cfg o (.arrives datagrams)
        { o with queue := o.queue ++ datagrams, upcoming := rest }
  | command {o : Outbox} {datagram : Datagram} {rest : List Datagram}
    (queued : o.queue = datagram :: rest) (isStart : startPrefix.isPrefixOf datagram.data = true)
    : Step cfg o (.command datagram) { o with queue := rest }
  | forwards {o o' : Outbox} {datagram : Datagram} {rest : List Datagram}
    (queued : o.queue = datagram :: rest)
    (puts : Puts { o with queue := rest } (forwarding cfg o.isServer datagram) o')
    : Step cfg o (.forwards datagram) o'
  | marker {o o' : Outbox} {ip : Ip} {payload : Bytes}
    (puts : o.Puts (.rudp ip ⟨0, 0, zeroIp, payload⟩) o')
    : Step cfg o (.marker ip payload)
        { o' with recorded := o'.recorded.set ip (o'.sendSeq ip) }
  | acknowledges {o o' : Outbox} {ip : Ip} {seq : Nat} (puts : o.Puts (.ack ip seq) o')
    : Step cfg o (.acknowledges ip seq) o'
  | delivers {o o' : Outbox} {payload : Bytes} {dst : Ip × Nat}
    (puts : o.Puts (.spoofed payload dst) o')
    : Step cfg o (.delivers payload dst) o'
  | forgets (o : Outbox) : Step cfg o .forgets { o with recorded := ∅ }

/-- A run of events. -/
inductive Performs (cfg : Config) : Outbox → List Dispatch → Outbox → Prop where
  | nil (o : Outbox) : Performs cfg o [] o
  | cons {o mid o' : Outbox} {event : Dispatch} {events : List Dispatch}
    (step : o.Step cfg event mid) (later : Performs cfg mid events o')
    : Performs cfg o (event :: events) o'

variable {cfg : Config} {o mid o' : Outbox} {output : Output} {event : Dispatch}
  {events before after : List Dispatch}

theorem Performs.single (step : o.Step cfg event o') : Performs cfg o [event] o' :=
  .cons step (.nil o')

theorem Performs.append (first : Performs cfg o before mid) (second : Performs cfg mid after o')
    : Performs cfg o (before ++ after) o' := by
  induction first with
  | nil => exact second
  | cons step _ ih => exact .cons step (ih second)

theorem Performs.split (performs : Performs cfg o (before ++ after) o')
    : ∃ mid, Performs cfg o before mid ∧ Performs cfg mid after o' := by
  induction before generalizing o with
  | nil => exact ⟨o, .nil o, performs⟩
  | cons event rest ih =>
      cases performs with
      | cons step later =>
          obtain ⟨mid, first, second⟩ := ih later
          exact ⟨mid, .cons step first, second⟩

-----------------------------------------------------------------------------------------
-- What a run of events does to the outbox
-----------------------------------------------------------------------------------------

theorem Puts.same (puts : o.Puts output o')
    : o'.isServer = o.isServer ∧ o'.queue = o.queue ∧ o'.upcoming = o.upcoming := by
  cases puts <;> exact ⟨rfl, rfl, rfl⟩

theorem Step.isServer (step : o.Step cfg event o') : o'.isServer = o.isServer := by
  cases step with
  | forwards queued puts => exact puts.same.1
  | marker puts => exact puts.same.1
  | acknowledges puts => exact puts.same.1
  | delivers puts => exact puts.same.1
  | arrives | command | forgets => rfl

theorem Performs.isServer (performs : Performs cfg o events o') : o'.isServer = o.isServer := by
  induction performs with
  | nil => rfl
  | cons step _ ih => exact ih.trans step.isServer

/-- Datagrams leave the intercept socket in the order in which they came. -/
theorem Step.queue (step : o.Step cfg event o')
    : o.upcoming = batchesOf [event] ++ o'.upcoming
      ∧ o.queue ++ (batchesOf [event]).flatten = readsOf [event] ++ o'.queue := by
  cases step with
  | arrives next => simp [batchesOf, readsOf, Dispatch.batch?, Dispatch.read?, next]
  | command queued => simp [batchesOf, readsOf, Dispatch.batch?, Dispatch.read?, queued]
  | forwards queued puts =>
      obtain ⟨-, queue, upcoming⟩ := puts.same
      simp [batchesOf, readsOf, Dispatch.batch?, Dispatch.read?, queued, queue, upcoming]
  | marker puts | acknowledges puts | delivers puts =>
      obtain ⟨-, queue, upcoming⟩ := puts.same
      exact ⟨upcoming.symm, (List.append_nil _).trans queue.symm⟩
  | forgets => exact ⟨rfl, List.append_nil _⟩

theorem Performs.queue (performs : Performs cfg o events o')
    : o.upcoming = batchesOf events ++ o'.upcoming
      ∧ o.queue ++ (batchesOf events).flatten = readsOf events ++ o'.queue := by
  induction performs with
  | nil => simp [batchesOf, readsOf]
  | @cons o mid o' event events step later ih =>
      obtain ⟨upcoming, queue⟩ := step.queue
      have batches : batchesOf (event :: events) = batchesOf [event] ++ batchesOf events :=
        List.filterMap_append (l := [event])
      have reads : readsOf (event :: events) = readsOf [event] ++ readsOf events :=
        List.filterMap_append (l := [event])
      refine ⟨by rw [upcoming, ih.1, batches, List.append_assoc], ?_⟩
      calc o.queue ++ (batchesOf (event :: events)).flatten
          = (o.queue ++ (batchesOf [event]).flatten) ++ (batchesOf events).flatten := by
            rw [batches, List.flatten_append, List.append_assoc]
        _ = readsOf [event] ++ (mid.queue ++ (batchesOf events).flatten) := by
            rw [queue, List.append_assoc]
        _ = readsOf (event :: events) ++ o'.queue := by
            rw [ih.2, reads, List.append_assoc]

/-- The handler consumes nothing but START commands. -/
theorem Performs.commands (performs : Performs cfg o events o') {datagram : Datagram}
    (read : .command datagram ∈ events) : startPrefix.isPrefixOf datagram.data = true := by
  induction performs with
  | nil => cases read
  | cons step _ ih =>
      rcases List.mem_cons.mp read with rfl | later
      · cases step with
        | command queued isStart => exact isStart
      · exact ih later

theorem numbered_append (first : Nat) (messages more : List Message)
    : numbered first (messages ++ more)
      = numbered first messages ++ numbered (first + messages.length) more := by
  simp [numbered, List.zipIdx_append]

/-- What an output adds to the outbox. -/
structure Adds (o : Outbox) (output : Output) (o' : Outbox) : Prop where
  counter : ∀ ip, o'.sendSeq ip = o.sendSeq ip + (output.rudpTo? ip).toList.length
  spoofed : o'.spoofed = o.spoofed ++ output.spoofed?.toList
  wire
    : ∃ new,
        o'.wire = o.wire ++ new
        ∧ ∀ ip,
            dataFrames ip new = numbered (o.sendSeq ip) (output.rudpTo? ip).toList
            ∧ plainFrames ip new = (output.plainTo? ip).toList.map Message.held

theorem Puts.adds (puts : o.Puts output o') : o.Adds output o' := by
  cases puts with
  | @rudp ip message packet built =>
      have parsed := parseFrame_dataPacket built
      refine ⟨fun other => ?_, by simp [Output.spoofed?], [(packet, ip)], rfl, fun other => ?_⟩
      · by_cases here : ip = other
        · simp [Output.rudpTo?, here]
        · simp [Output.rudpTo?, here, Function.update_of_ne (Ne.symm here)]
      · by_cases here : ip = other <;>
          simp [dataFrames, plainFrames, Output.rudpTo?, Output.plainTo?, parsed, here, numbered]
  | @plain ip message packet built =>
      have parsed := parseFrame_plainPacket built
      refine ⟨fun other => by simp [Output.rudpTo?], by simp [Output.spoofed?], [(packet, ip)], rfl,
        fun other => ?_⟩
      by_cases here : ip = other <;>
        simp [dataFrames, plainFrames, Output.rudpTo?, Output.plainTo?, parsed, here, numbered]
  | @ack ip seq fits =>
      have parsed := parseFrame_packAck fits
      exact ⟨fun other => by simp [Output.rudpTo?], by simp [Output.spoofed?], [(packAck seq, ip)],
        rfl, fun other => by
          simp [dataFrames, plainFrames, Output.rudpTo?, Output.plainTo?, parsed, numbered]⟩
  | spoofed payload dst =>
      exact ⟨fun other => by simp [Output.rudpTo?], by simp [Output.spoofed?], [], by simp,
        fun other => by simp [dataFrames, plainFrames, Output.rudpTo?, Output.plainTo?, numbered]⟩
  | nothing =>
      exact ⟨fun other => by simp [Output.rudpTo?], by simp [Output.spoofed?], [], by simp,
        fun other => by simp [dataFrames, plainFrames, Output.rudpTo?, Output.plainTo?, numbered]⟩

theorem Step.adds (step : o.Step cfg event o') : o.Adds (event.output cfg o.isServer) o' := by
  cases step with
  | arrives | command | forgets =>
      obtain ⟨counter, spoofed, wire⟩ := (Puts.nothing (o := o)).adds
      exact ⟨counter, spoofed, wire⟩
  | forwards queued puts =>
      obtain ⟨counter, spoofed, wire⟩ := puts.adds
      exact ⟨counter, spoofed, wire⟩
  | marker puts =>
      obtain ⟨counter, spoofed, wire⟩ := puts.adds
      exact ⟨counter, spoofed, wire⟩
  | acknowledges puts => exact puts.adds
  | delivers puts => exact puts.adds

/-- Along a run the numbers of every channel are consecutive, and what leaves does so in the
order of the events.
-/
structure Sent (cfg : Config) (o : Outbox) (events : List Dispatch) (o' : Outbox) : Prop where
  counter : ∀ ip, o'.sendSeq ip = o.sendSeq ip + (streamTo cfg o.isServer ip events).length
  spoofed : o'.spoofed = o.spoofed ++ spoofsOf cfg o.isServer events
  wire
    : ∃ new,
        o'.wire = o.wire ++ new
        ∧ ∀ ip,
            dataFrames ip new = numbered (o.sendSeq ip) (streamTo cfg o.isServer ip events)
            ∧ plainFrames ip new = (plainsTo cfg o.isServer ip events).map Message.held

theorem Performs.sent (performs : Performs cfg o events o') : Sent cfg o events o' := by
  induction performs with
  | nil o =>
      exact ⟨fun ip => rfl, by simp [spoofsOf], [], by simp, fun ip =>
        ⟨rfl, rfl⟩⟩
  | @cons o mid o' event events step later ih =>
      obtain ⟨counter, spoofed, new, wire, frames⟩ := step.adds
      obtain ⟨laterCounter, laterSpoofed, laterNew, laterWire, laterFrames⟩ := ih
      rw [step.isServer] at laterCounter laterSpoofed laterFrames
      have stream (ip : Ip) : streamTo cfg o.isServer ip (event :: events)
          = ((event.output cfg o.isServer).rudpTo? ip).toList
            ++ streamTo cfg o.isServer ip events := by
        unfold streamTo
        cases routed : (event.output cfg o.isServer).rudpTo? ip <;> simp [routed]
      have plains (ip : Ip) : plainsTo cfg o.isServer ip (event :: events)
          = ((event.output cfg o.isServer).plainTo? ip).toList
            ++ plainsTo cfg o.isServer ip events := by
        unfold plainsTo
        cases routed : (event.output cfg o.isServer).plainTo? ip <;> simp [routed]
      have spoofs : spoofsOf cfg o.isServer (event :: events)
          = (event.output cfg o.isServer).spoofed?.toList
            ++ spoofsOf cfg o.isServer events := by
        unfold spoofsOf
        cases routed : (event.output cfg o.isServer).spoofed? <;> simp [routed]
      refine ⟨fun ip => ?_, ?_, new ++ laterNew, ?_, fun ip => ⟨?_, ?_⟩⟩
      · rw [laterCounter, counter, stream, List.length_append, Nat.add_assoc]
      · rw [laterSpoofed, spoofed, spoofs, List.append_assoc]
      · rw [laterWire, wire, List.append_assoc]
      · rw [stream, numbered_append, ← counter, ← (frames ip).1, ← (laterFrames ip).1]
        exact List.filterMap_append ..
      · rw [plains, List.map_append, ← (frames ip).2, ← (laterFrames ip).2]
        exact List.filterMap_append ..

end Outbox

end MeshSnapshot
