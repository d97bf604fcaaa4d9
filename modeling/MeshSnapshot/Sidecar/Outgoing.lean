import MeshSnapshot.Sidecar.Dispatch

/-! How a procedure ends, as far as the outbox shows it: which events it performs, whether its
markers come after what was queued, and what every send puts out.
-/

namespace MeshSnapshot

open Procedure Outbox

variable {cfg : Config} {s s' t : Sidecar}

-----------------------------------------------------------------------------------------
-- Ways in which one state is reached from another
-----------------------------------------------------------------------------------------

/-- The events lead from `s` to `s'`, and a marker among them comes after the forwarding of
whatever was queued in `s`.
-/
structure Sidecar.Dispatches (cfg : Config) (s : Sidecar) (events : List Dispatch) (s' : Sidecar)
    : Prop where
  performs : Performs cfg s.outbox events s'.outbox
  marked
    : ∀ {before ip payload after},
        events = before ++ .marker ip payload :: after → s.localSock <+: readsOf before

/-- By events of any kind. -/
def Acts (cfg : Config) (s s' : Sidecar) : Prop :=
  ∃ events, Performs cfg s.outbox events s'.outbox

/-- Without a marker. -/
def Unmarked (cfg : Config) (s s' : Sidecar) : Prop :=
  ∃ events, Performs cfg s.outbox events s'.outbox ∧ ∀ ip payload, .marker ip payload ∉ events

/-- With all markers where they belong. -/
def Handles (cfg : Config) (s s' : Sidecar) : Prop := ∃ events, s.Dispatches cfg events s'

/-- All that was queued has been read. -/
def Clears (cfg : Config) (s s' : Sidecar) : Prop :=
  ∃ events, s.Dispatches cfg events s' ∧ s.localSock <+: readsOf events

/-- Forwarding the datagram that was read last raised. -/
def SendRaised (cfg : Config) (s s' : Sidecar) : Prop :=
  ∃ t events datagram rest error,
    s.Dispatches cfg events t ∧ t.localSock = datagram :: rest
    ∧ forwardIntercepted cfg datagram (t.take rest) = .error error s'

def Stops (cfg : Config) (s s' : Sidecar) : Prop := Handles cfg s s' ∨ SendRaised cfg s s'

theorem readsOf_append (events more : List Dispatch)
    : readsOf (events ++ more) = readsOf events ++ readsOf more :=
  List.filterMap_append

/-- Where a marker stands among the events of two runs. -/
theorem marker_split {events more before after : List Dispatch} {marker : Dispatch}
    (split : events ++ more = before ++ marker :: after)
    : (∃ rest, events = before ++ marker :: rest)
      ∨ ∃ rest, before = events ++ rest ∧ more = rest ++ marker :: after := by
  rcases List.append_eq_append_iff.mp split with ⟨rest, before, more⟩ | ⟨rest, left, right⟩
  · exact .inr ⟨rest, before, more⟩
  · cases rest with
    | nil => exact .inr ⟨[], by simpa using left.symm, by simpa using right.symm⟩
    | cons first rest =>
        obtain ⟨rfl, -⟩ := List.cons.inj right
        exact .inl ⟨rest, left⟩

namespace Sidecar.Dispatches

variable {events more : List Dispatch}

theorem nil (same : s'.outbox = s.outbox) : s.Dispatches cfg [] s' where
  performs := same ▸ .nil _
  marked split := by simp at split

/-- What is queued is read, or still queued behind what was read. -/
theorem queue (dispatches : s.Dispatches cfg events s')
    : s.localSock ++ (batchesOf events).flatten = readsOf events ++ s'.localSock :=
  dispatches.performs.queue.2

theorem append (first : s.Dispatches cfg events t) (second : t.Dispatches cfg more s')
    : s.Dispatches cfg (events ++ more) s' where
  performs := first.performs.append second.performs
  marked split := by
    rcases marker_split split with ⟨rest, early⟩ | ⟨rest, rfl, late⟩
    · exact first.marked early
    · have queued : s.localSock <+: readsOf events ++ t.localSock :=
        first.queue ▸ List.prefix_append _ _
      rw [readsOf_append]
      exact queued.trans ((List.prefix_append_right_inj _).mpr (second.marked late))

/-- Once the queue has been read, markers may follow. -/
theorem act (first : s.Dispatches cfg events t) (read : s.localSock <+: readsOf events)
    (performs : Performs cfg t.outbox more s'.outbox) : s.Dispatches cfg (events ++ more) s' where
  performs := first.performs.append performs
  marked split := by
    rcases marker_split split with ⟨rest, early⟩ | ⟨rest, rfl, late⟩
    · exact first.marked early
    · rw [readsOf_append]
      exact read.trans (List.prefix_append _ _)

end Sidecar.Dispatches

theorem Unmarked.of_same (same : s'.outbox = s.outbox) : Unmarked cfg s s' :=
  ⟨[], same ▸ .nil _, fun _ _ => by simp⟩

theorem Unmarked.refl (s : Sidecar) : Unmarked cfg s s := .of_same rfl

theorem Unmarked.trans {a b c : Sidecar} (first : Unmarked cfg a b) (second : Unmarked cfg b c)
    : Unmarked cfg a c := by
  obtain ⟨events, performs, unmarked⟩ := first
  obtain ⟨more, later, still⟩ := second
  refine ⟨events ++ more, performs.append later, fun ip payload member => ?_⟩
  rcases List.mem_append.mp member with early | late
  · exact unmarked ip payload early
  · exact still ip payload late

theorem Unmarked.acts (unmarked : Unmarked cfg s s') : Acts cfg s s' :=
  ⟨_, unmarked.choose_spec.1⟩

theorem Unmarked.handles (unmarked : Unmarked cfg s s') : Handles cfg s s' := by
  obtain ⟨events, performs, none⟩ := unmarked
  refine ⟨events, performs, ?_⟩
  intro before ip payload after split
  exact (none ip payload (by rw [split]; simp)).elim

/-- A run that leaves an empty queue behind has read all that was queued before. -/
theorem Unmarked.clears (unmarked : Unmarked cfg s s') (empty : s'.localSock = [])
    : Clears cfg s s' := by
  obtain ⟨events, dispatches⟩ := unmarked.handles
  have queue := dispatches.queue
  rw [empty, List.append_nil] at queue
  exact ⟨events, dispatches, queue ▸ List.prefix_append _ _⟩

theorem Acts.refl (s : Sidecar) : Acts cfg s s := ⟨[], .nil _⟩

theorem Acts.trans {a b c : Sidecar} (first : Acts cfg a b) (second : Acts cfg b c)
    : Acts cfg a c :=
  ⟨_, first.choose_spec.append second.choose_spec⟩

theorem Handles.refl (s : Sidecar) : Handles cfg s s := (Unmarked.refl s).handles

theorem Handles.trans {a b c : Sidecar} (first : Handles cfg a b) (second : Handles cfg b c)
    : Handles cfg a c :=
  ⟨_, first.choose_spec.append second.choose_spec⟩

theorem Handles.acts (handles : Handles cfg s s') : Acts cfg s s' :=
  ⟨_, handles.choose_spec.performs⟩

theorem Clears.handles (clears : Clears cfg s s') : Handles cfg s s' := ⟨_, clears.choose_spec.1⟩

theorem Clears.acts {a b c : Sidecar} (clears : Clears cfg a b) (acts : Acts cfg b c)
    : Clears cfg a c := by
  obtain ⟨events, dispatches, read⟩ := clears
  obtain ⟨more, performs⟩ := acts
  refine ⟨events ++ more, dispatches.act read performs, ?_⟩
  rw [readsOf_append]
  exact read.trans (List.prefix_append _ _)

theorem Handles.stops {a b c : Sidecar} (first : Handles cfg a b) (second : Stops cfg b c)
    : Stops cfg a c := by
  obtain ⟨events, dispatches⟩ := first
  rcases second with handles | ⟨t, more, datagram, rest, error, later, queued, raised⟩
  · exact .inl (Handles.trans ⟨events, dispatches⟩ handles)
  · exact .inr ⟨t, _, datagram, rest, error, dispatches.append later, queued, raised⟩

theorem Clears.stops {a b c : Sidecar} (first : Clears cfg a b) (second : Stops cfg b c)
    : Stops cfg a c :=
  first.handles.stops second

-----------------------------------------------------------------------------------------
-- Procedures
-----------------------------------------------------------------------------------------

/-- However it ends, the outbox is as before. -/
abbrev Unheard {α : Type} (body : Py α) : Prop :=
  Within (fun s s' : Sidecar => s'.outbox = s.outbox) body

/-- It returns with all markers where they belong, and so it raises unless a send raised. -/
def Orderly {α : Type} (cfg : Config) (body : Py α) : Prop :=
  ∀ s, Triple (fun t => t = s) body (fun _ => Handles cfg s) (Stops cfg s)

namespace Orderly

variable {α β : Type}

theorem of_unmarked {body : Py α} (within : Within (Unmarked cfg) body) : Orderly cfg body :=
  fun _ => (Triple.of_within within (fun same unmarked => same ▸ unmarked)).weaken
    (fun _ same => same) (fun _ _ unmarked => Unmarked.handles unmarked)
    (fun _ unmarked => .inl unmarked.handles)

theorem of_unheard {body : Py α} (unheard : Unheard body) : Orderly cfg body :=
  of_unmarked fun s => .of_same (unheard s)

theorem pure (a : α) : Orderly cfg (Pure.pure a : Py α) :=
  of_unheard fun _ => rfl

theorem read : Orderly cfg Procedure.read := of_unheard fun _ => rfl

/-- From wherever such a procedure starts, what held before goes on to hold. -/
theorem keeps (relation : Sidecar → Sidecar → Prop) {body : Py α} (orderly : Orderly cfg body)
    (goes : ∀ {a b c : Sidecar}, relation a b → Handles cfg b c → relation a c)
    (stops : ∀ {a b c : Sidecar}, relation a b → Stops cfg b c → Stops cfg a c) (s : Sidecar)
    : Keeps (relation s) body (Stops cfg s) := by
  intro t before
  have outcome := orderly t t rfl
  cases ended : body t with
  | ok a s' =>
      rw [ended] at outcome
      exact goes before outcome
  | error e s' =>
      rw [ended] at outcome
      exact stops before outcome

theorem bind {x : Py α} {f : α → Py β} (first : Orderly cfg x) (second : ∀ a, Orderly cfg (f a))
    : Orderly cfg (x >>= f) :=
  fun s => Triple.bind (first s) fun a => (second a).keeps (Handles cfg) Handles.trans Handles.stops s

theorem forEach {body : α → Py Unit} (items : List α) (each : ∀ item, Orderly cfg (body item))
    : Orderly cfg (Procedure.forEach body items) := by
  induction items with
  | nil => exact pure ()
  | cons item rest ih => exact bind (each item) fun _ => ih

end Orderly

/-- After the queue has been read, a procedure may send markers. -/
theorem keeps_clears {α : Type} {body : Py α} (within : Within (Acts cfg) body) (s : Sidecar)
    : Keeps (Clears cfg s) body (Stops cfg s) :=
  (Triple.of_within within fun clears acts => Clears.acts clears acts).weaken (fun _ clears => clears)
    (fun _ _ clears => clears) (fun _ clears => .inl (Clears.handles clears))

theorem acts_of_unmarked {α : Type} {body : Py α} (within : Within (Unmarked cfg) body)
    : Within (Acts cfg) body :=
  fun s => (within s).acts

theorem unmarked_of_unheard {α : Type} {body : Py α} (unheard : Unheard body)
    : Within (Unmarked cfg) body :=
  fun s => .of_same (unheard s)

-----------------------------------------------------------------------------------------
-- What the outbox does not show
-----------------------------------------------------------------------------------------

namespace Unheard

variable {α β : Type}

theorem pure (a : α) : Unheard (Pure.pure a : Py α) := fun _ => rfl

theorem raise (error : PyErr) : Unheard (Procedure.raise error : Py α) := fun _ => rfl

theorem bind {x : Py α} {f : α → Py β} (first : Unheard x) (second : ∀ a, Unheard (f a))
    : Unheard (x >>= f) :=
  Within.bind (fun before after => after.trans before) first second

theorem readBind {f : Sidecar → Py β} (second : ∀ s, Unheard (f s)) : Unheard (read >>= f) :=
  bind (fun _ => rfl) second

theorem attempt {body : Py α} {handler : PyErr → Py α} (tried : Unheard body)
    (handled : ∀ e, Unheard (handler e)) : Unheard (Procedure.attempt body handler) :=
  Within.attempt (fun before after => after.trans before) tried handled

theorem update {change : Sidecar → Sidecar}
    (same : ∀ s, (change s).outbox = s.outbox)
    : Unheard (Procedure.update change) :=
  fun s => same s

end Unheard

theorem unheard_outsideCall : Unheard outsideCall := by
  refine .readBind fun s => ?_
  split
  · exact .pure ()
  · refine .bind (.update fun _ => rfl) fun _ => ?_
    split
    · exact .raise _
    · exact .pure ()

theorem unheard_outsideAnswer : Unheard outsideAnswer :=
  .attempt (.bind unheard_outsideCall fun _ => .pure true) fun _ => .pure false

theorem unheard_time : Unheard time := by
  refine .readBind fun s => ?_
  split
  · exact .pure 0
  · exact .bind (.update fun _ => rfl) fun _ => .pure _

theorem unheard_getSpoofSock (key : Ip × Nat) : Unheard (getSpoofSock key) := by
  have creates : Unheard newSock :=
    .bind unheard_outsideCall fun _ => .readBind fun _ => .bind (.update fun _ => rfl) fun _ => .pure _
  have evicts : Unheard (evictSpoofSock) := by
    refine .readBind fun s => ?_
    split
    · split
      · exact .pure ()
      · exact .update fun _ => rfl
    · exact .pure ()
  have binds (id : Nat) : Unheard (bindOrFallback key id) := by
    refine .bind unheard_outsideAnswer fun bound => ?_
    split
    · exact .pure _
    · exact .bind creates fun _ => .bind unheard_outsideCall fun _ => .pure _
  refine .readBind fun s => ?_
  split
  · exact .bind (.update fun _ => rfl) fun _ => .pure _
  · exact .bind evicts fun _ => .bind creates fun _ => .bind unheard_outsideCall fun _ =>
      .bind (binds _) fun _ => .bind (.update fun _ => rfl) fun _ => .pure _

theorem unheard_getPeer (ip : Ip) : Unheard (getPeer ip) := by
  intro s
  have same := framed_getPeer ip s
  have spoofed : (final (getPeer ip s)).trace.spoofed = s.trace.spoofed := by
    simp only [getPeer, bind_run, read_run]
    cases s.peers.get? ip <;> rfl
  refine Outbox.ext same.isServer same.localSock same.app ?_ ?_ same.wire
    (congrArg (List.map Prod.snd) spoofed)
  · exact congrArg Journal.sendSeq same.journal
  · exact congrArg SnapshotController.recordedSendSeq same.ctrl

/-- Changing a peer shows in its send counter only. -/
theorem outbox_setPeer (s : Sidecar) (ip : Ip) (peer : PeerState)
    : (s.setPeer ip peer).outbox
      = { s.outbox with sendSeq := Function.update s.outbox.sendSeq ip peer.sendSeq } := by
  refine Outbox.ext rfl rfl rfl ?_ rfl rfl rfl
  funext other
  simp only [Sidecar.outbox, Sidecar.peer_setPeer, Function.update_apply]
  split <;> rfl

theorem unheard_modifyPeer {ip : Ip} {change : PeerState → PeerState}
    (same : ∀ peer, (change peer).sendSeq = peer.sendSeq)
    : Unheard (modifyPeer ip change) := by
  refine .update fun s => ?_
  rw [outbox_setPeer, same]
  exact congrArg (fun sendSeq => { s.outbox with sendSeq }) (Function.update_eq_self _ _)

theorem unheard_decode (bytes : Bytes) : Unheard (decode bytes) := by
  unfold decode
  split
  · exact .pure _
  · exact .raise _

theorem unheard_startId (data : Bytes) : Unheard (startId data) := by
  unfold startId
  split
  · exact .pure _
  · refine .readBind fun s => ?_
    split
    · exact .pure []
    · exact .bind (.update fun _ => rfl) fun _ => .pure _

theorem unheard_selfMeshIp (cfg : Config) : Unheard (selfMeshIp cfg) := by
  have first : Unheard (firstMember cfg) := by
    unfold firstMember
    split
    · exact .raise _
    · exact .pure _
  unfold selfMeshIp
  split
  · exact .pure _
  · refine .readBind fun s => ?_
    split
    · exact .pure _
    · exact .attempt (.bind unheard_outsideCall fun _ => .bind first fun _ =>
        .bind (.update fun _ => rfl) fun _ => .pure _) fun _ => .pure _

theorem unheard_buildArtifact (cfg : Config) (status : Status)
    : Unheard (buildArtifact cfg status) := by
  have named (id : Option Bytes) : Unheard (artifactId id) := by
    unfold artifactId
    split
    · exact .pure _
    · exact .pure _
    · exact .bind (unheard_decode _) fun _ => .pure _
  exact .readBind fun s => .bind (named _) fun _ => .pure _

theorem unheard_postArtifact (artifact : Artifact) : Unheard (postArtifact artifact) :=
  .bind unheard_outsideAnswer fun _ => .bind (.update fun _ => rfl) fun _ => .pure _

theorem unheard_recordMessage (ip : Ip) (seq : Nat) (held : Held)
    : Unheard (recordMessage ip seq held) := by
  refine .readBind fun s => ?_
  split
  · exact .raise _
  · exact .update fun _ => rfl

theorem unheard_closeOrigin (members : List Ip) (ip : Ip) (seq : Nat)
    : Unheard (closeOrigin members ip seq) := by
  unfold closeOrigin
  split
  · exact .update fun _ => rfl
  · exact .pure ()

-----------------------------------------------------------------------------------------
-- Sends
-----------------------------------------------------------------------------------------

/-- It puts out `output` when it returns, and nothing when it raises. -/
def Emits {α : Type} (output : Output) (body : Py α) : Prop :=
  ∀ s, match body s with
    | .ok _ s' => s.outbox.Puts output s'.outbox
    | .error _ s' => s'.outbox = s.outbox

namespace Emits

variable {α β : Type} {output : Output}

theorem ok {body : Py α} (emits : Emits output body) {a : α} (returned : body s = .ok a s')
    : s.outbox.Puts output s'.outbox := by
  simpa [returned] using emits s

theorem after {x : Py α} {f : α → Py β} (first : Unheard x) (second : ∀ a, Emits output (f a))
    : Emits output (x >>= f) := by
  intro s
  have same := first s
  rw [bind_run]
  cases ended : x s with
  | ok a t =>
      rw [ended] at same
      have outcome := second a t
      rw [show t.outbox = s.outbox from same] at outcome
      exact outcome
  | error e t =>
      rw [ended] at same
      exact same

theorem before {x : Py α} {f : α → Py β} (first : Emits output x) (second : ∀ a, Unheard (f a))
    (returns : ∀ a s, ∃ b s', f a s = .ok b s') : Emits output (x >>= f) := by
  intro s
  have puts := first s
  rw [bind_run]
  cases ended : x s with
  | ok a t =>
      rw [ended] at puts
      obtain ⟨b, s', returned⟩ := returns a t
      have same : s'.outbox = t.outbox := (second a).ok returned
      simp only [returned, same]
      exact puts
  | error e t =>
      rw [ended] at puts
      exact puts

/-- An output other than a marker is one event. -/
theorem unmarked {body : Py α} {event : Dispatch} (emits : Emits output body)
    (isEvent : ∀ {o o' : Outbox}, o.Puts output o' → o.Step cfg event o')
    (plain : ∀ ip payload, event ≠ .marker ip payload) : Within (Unmarked cfg) body := by
  intro s
  have outcome := emits s
  cases ended : body s with
  | ok a t =>
      rw [ended] at outcome
      refine ⟨[event], .single (isEvent outcome), fun ip payload member => ?_⟩
      exact plain ip payload (List.mem_singleton.mp member).symm
  | error e t =>
      rw [ended] at outcome
      exact .of_same outcome

end Emits

theorem emits_tunnelSendto {output : Output} {packet : Bytes} {dst : Ip}
    (puts : ∀ s : Sidecar, s.outbox.Puts output (s.putWire packet dst).outbox)
    : Emits output (tunnelSendto packet dst) := by
  intro s
  simp only [tunnelSendto, bind_run, read_run]
  cases s.tunnelTransport with
  | false => exact rfl
  | true => exact puts s

theorem emits_sendPlain (ip : Ip) (message : Message)
    : Emits (.plain ip message) (sendPlain ip message) := by
  intro s
  simp only [sendPlain, bind_run]
  cases built : plainPacket message with
  | none => exact rfl
  | some packet => exact emits_tunnelSendto (fun _ => .plain built) s

theorem emits_sendData (ip : Ip) (message : Message) (origin : SendOrigin)
    : Emits (.rudp ip message) (sendData ip message origin) := by
  intro s
  simp only [sendData, bind_run, read_run]
  cases built : dataPacket (s.peer ip).sendSeq message with
  | none => exact rfl
  | some packet =>
      simp only [orStructError, pure_run, tunnelSendto, bind_run, read_run]
      cases s.tunnelTransport with
      | false => exact rfl
      | true =>
          simp only [if_true, update_run]
          have ticked := time_outcome (s.putWire packet ip)
          have same := unheard_time (s.putWire packet ip)
          revert ticked same
          cases time (s.putWire packet ip) with
          | error error t => exact fun impossible => impossible.elim
          | ok now t =>
              intro _ (same : t.outbox = (s.putWire packet ip).outbox)
              simp only [modifyPeer, update_run]
              change s.outbox.Puts _ (t.setPeer ip _).outbox
              have counter : (t.peer ip).sendSeq = (s.peer ip).sendSeq :=
                congrFun (congrArg Outbox.sendSeq same) ip
              rw [outbox_setPeer, same, counter]
              exact .rudp built

theorem emits_spoofSendto (sock : SpoofSock) (payload : Bytes) (dst : Ip × Nat)
    : Emits (.spoofed payload dst) (spoofSendto sock payload dst) := by
  refine .after unheard_outsideCall fun _ s => ?_
  have puts := Puts.spoofed payload dst (o := s.outbox)
  have appended : s.outbox.spoofed ++ [(payload, dst)]
      = (s.trace.spoofed ++ [(sock, payload, dst)]).map Prod.snd := by
    simp [Sidecar.outbox]
  rw [appended] at puts
  exact puts

theorem emits_spoof (key : Ip × Nat) (payload : Bytes) (dst : Ip × Nat)
    : Emits (.spoofed payload dst)
        (getSpoofSock key >>= fun sock => spoofSendto sock payload dst : Py Unit) :=
  .after (unheard_getSpoofSock key) fun sock => emits_spoofSendto sock payload dst

theorem unmarked_deliver (ip : Ip) (seq : Nat) (held : Held)
    : Within (Unmarked cfg) (deliver ip seq held) := by
  have emits : Emits (.spoofed held.payload (held.localIp, held.dstPort)) (deliver ip seq held) :=
    .after (unheard_getSpoofSock _) fun sock =>
      .before (emits_spoofSendto sock _ _) (fun _ => .update fun _ => rfl) fun _ s => ⟨(), _, rfl⟩
  exact emits.unmarked .delivers (by simp)

/-- Forwarding a datagram sends what `forwarding` says. -/
theorem forwardIntercepted_puts {datagram : Datagram} {u : Unit}
    (returned : forwardIntercepted cfg datagram s = .ok u s')
    : s.outbox.Puts (forwarding cfg s.isServer datagram) s'.outbox := by
  obtain ⟨target, s, parsed, returned⟩ := bind_ok.mp returned
  obtain ⟨rfl, found⟩ := originalDst_ok parsed
  unfold forwarding
  cases cmsg? : datagram.ancdata.find? (fun cmsg => cmsg.level == 0 && cmsg.type == 20) with
  | none =>
      simp only [cmsg?] at found
      subst found
      obtain ⟨-, rfl⟩ := pure_ok.mp returned
      exact .nothing
  | some cmsg =>
      simp only [cmsg?] at found
      obtain ⟨-, -, rfl⟩ := found
      dsimp only at returned ⊢
      generalize (cmsg.data.drop 2).take 2 = port at returned ⊢
      generalize (cmsg.data.drop 4).take 4 = ip at returned ⊢
      split at returned
      case isTrue zero =>
        obtain ⟨-, rfl⟩ := pure_ok.mp returned
        rw [if_pos zero]
        exact .nothing
      case isFalse nonzero =>
        rw [if_neg nonzero]
        split at returned
        case isFalse outside =>
          rw [if_neg outside]
          exact (emits_spoof _ _ _).ok returned
        case isTrue inMesh =>
          rw [if_pos inMesh]
          obtain ⟨_, _, read, returned⟩ := bind_ok.mp returned
          obtain ⟨rfl, rfl⟩ := read_ok.mp read
          split at returned
          case isFalse plain =>
            unfold useRudp at plain
            rw [if_neg plain]
            exact (emits_sendPlain _ _).ok returned
          case isTrue rudp =>
            unfold useRudp at rudp
            rw [if_pos rudp]
            exact (Emits.after (unheard_getPeer _) fun _ => emits_sendData _ _ _).ok returned

theorem Emits.raises {α : Type} {output : Output} {body : Py α} (emits : Emits output body)
    (o : Outbox)
    : Triple (fun t => t.outbox = o) body (fun _ _ => True) (fun t => t.outbox = o) := by
  intro t before
  have outcome := emits t
  cases ended : body t with
  | ok a s' => trivial
  | error e s' =>
      rw [ended] at outcome
      exact Eq.trans outcome before

/-- A forward that raises has sent nothing. -/
theorem forwardIntercepted_raises {datagram : Datagram} {e : PyErr}
    (stopped : forwardIntercepted cfg datagram s = .error e s') : s'.outbox = s.outbox := by
  have parses : Unheard (originalDst datagram.ancdata) := by
    unfold originalDst
    split
    · exact .pure none
    · dsimp only
      split
      · exact .raise _
      · split
        · exact .raise _
        · exact .pure _
  have branches : Triple (fun t => t.outbox = s.outbox) (forwardIntercepted cfg datagram)
      (fun _ _ => True) (fun t => t.outbox = s.outbox) := by
    refine .bind (.of_within parses fun before same => Eq.trans same before) fun target => ?_
    split
    · exact .pure fun _ _ => trivial
    · split
      · exact .pure fun _ _ => trivial
      · split
        · refine .readThen fun t _ => ?_
          split
          · exact (Emits.after (unheard_getPeer _) fun _ => emits_sendData _ _ _).raises _
          · exact (emits_sendPlain _ _).raises _
        · exact (emits_spoof _ _ _).raises _
  exact branches.error rfl stopped

/-- The fan-out records the number behind that of the marker. -/
theorem acts_sendMarker (payload : Bytes) (ip : Ip)
    : Within (Acts cfg) (sendMarker payload ip) := by
  intro s
  have emits : Emits (.rudp ip ⟨0, 0, zeroIp, payload⟩)
      (getPeer ip >>= fun _ => sendData ip ⟨0, 0, zeroIp, payload⟩ .marker) :=
    .after (unheard_getPeer ip) fun _ => emits_sendData _ _ _
  have outcome := emits s
  have marks : sendMarker payload ip = ((getPeer ip >>= fun _ =>
      sendData ip ⟨0, 0, zeroIp, payload⟩ .marker) >>= fun _ => update fun s => { s with
        ctrl := { s.ctrl with
          recordedSendSeq := s.ctrl.recordedSendSeq.set ip (s.peer ip).sendSeq } }) := by
    rw [bind_assoc]
    rfl
  rw [marks, bind_run]
  cases ended : (getPeer ip >>= fun _ => sendData ip ⟨0, 0, zeroIp, payload⟩ .marker) s with
  | ok a t =>
      rw [ended] at outcome
      exact ⟨[.marker ip payload], .single (.marker outcome)⟩
  | error e t =>
      rw [ended] at outcome
      exact (Unmarked.of_same outcome).acts

end MeshSnapshot
