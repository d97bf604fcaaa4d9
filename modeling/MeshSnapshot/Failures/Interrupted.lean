import MeshSnapshot.Failures.Acknowledged
import MeshSnapshot.Model.Fleet
import MeshSnapshot.Transport.Reliable

/-! Delivery when callbacks raise. The number of a packet is passed only after
`process_and_deliver` has returned, so an exception leaves the packet in hand: its link stands
until another copy arrives, and never skips, repeats or reorders a packet.
-/

namespace MeshSnapshot.Transport

open Procedure

variable {cfg : Config} {ip : Ip} {s s' : Sidecar} {history : List Held} {hand : Option Held}
  {held : Held} {sender : SenderView} {receiver : ReceiverView}

/-- A link between two callbacks. The processing of the packet in hand has raised. -/
structure LinkStands (history : List Held) (hand : Option Held) (sender : SenderView)
    (receiver : ReceiverView) : Prop where
  ok : LinkOk history hand sender receiver
  absent : receiver.buffer.get? receiver.next = none

theorem LinkOk.retake (ok : LinkOk history hand sender receiver)
    (copy : (receiver.next, held) ∈ sender.data)
    : LinkOk history (some held) sender receiver where
  inv := ok.inv.retake copy
  counted := ok.counted
  packets := ok.packets

namespace LinkStands

variable (stands : LinkStands history hand sender receiver)

include stands

/-- A copy of the next packet is acknowledged, and taken in hand. -/
theorem take (copy : (receiver.next, held) ∈ sender.data)
    : LinkStands history (some held) sender (receiver.acknowledge receiver.next) :=
  ⟨(stands.ok.retake copy).acknowledge (.inr (.inr ⟨rfl, held, rfl⟩)), stands.absent⟩

/-- A copy of a later packet is acknowledged and buffered. -/
theorem hold {seq : Nat} (copy : (seq, held) ∈ sender.data) (later : receiver.next < seq)
    : LinkStands history hand sender ((receiver.acknowledge seq).hold seq held) where
  ok := (stands.ok.hold copy later).acknowledge (.inr (.inl ⟨held, by
    simp [linkOf, ReceiverView.hold]⟩))
  absent := by
    have apart : receiver.next ≠ seq := Nat.ne_of_lt later
    simpa [ReceiverView.hold, ReceiverView.acknowledge, apart] using stands.absent

/-- A copy of a passed packet is acknowledged again. -/
theorem acknowledgePast {seq : Nat} (past : seq < receiver.next)
    : LinkStands history hand sender (receiver.acknowledge seq) :=
  ⟨stands.ok.acknowledge (.inl past), stands.absent⟩

end LinkStands

/-- An exception out of the processing of a packet leaves its stream as it was. -/
theorem passPacket_stays (cfg : Config) (ip : Ip) (held : Held) (view : ReceiverView)
    : Triple (fun s => receiverView s ip = view) (passPacket cfg ip held)
        (fun _ s => receiverView s ip = view.pass held) (fun s => receiverView s ip = view) := by
  refine .of_outcomes (fun same returned => same ▸ passPacket_view returned) fun same raised => ?_
  have notes (seq : Sidecar → Nat) : Keeps (fun s => receiverView s ip = view)
      (update fun s => s.logOvertaking ⟨ip, seq s, held⟩) (fun s => receiverView s ip = view) :=
    .of_within (quietly_logOvertaking _) fun same quiet => (quiet.receiverView ip).trans same
  have processes (seq : Nat) : Keeps (fun s => receiverView s ip = view)
      (processAndDeliver cfg callDepth ip seq held) (fun s => receiverView s ip = view) :=
    .of_within (sending_processAndDeliver _ _ _ _ _) fun same sends =>
      (sends.receiver ip).trans same
  have logs : Triple (fun s => receiverView s ip = view)
      (update fun s => s.logConsumed ⟨ip, (s.peer ip).recvSeq, held⟩ : Py Unit)
      (fun _ _ => True) (fun s => receiverView s ip = view) :=
    .update fun _ _ => trivial
  have passes : Triple (fun s => receiverView s ip = view) (passPacket cfg ip held)
      (fun _ _ => True) (fun s => receiverView s ip = view) :=
    .readThen fun s _ => (notes fun s => (s.peer ip).recvSeq).bind fun _ =>
      (processes _).bind fun _ => logs.bind fun _ => .update fun _ _ => trivial
  exact passes.error same raised

/-- The flush loop passes what has become next until nothing has, or raises with it in hand. -/
theorem flushBuffer_stands (cfg : Config) (ip : Ip) (fuel : Nat)
    : Triple (fun s => LinkOk history none sender (receiverView s ip)
          ∧ (receiverView s ip).buffer.size ≤ fuel)
        (flushBuffer cfg ip fuel)
        (fun _ s => LinkStands history none sender (receiverView s ip))
        (fun s => ∃ held, LinkStands history (some held) sender (receiverView s ip)) := by
  induction fuel with
  | zero =>
      refine .pure fun s ⟨ok, enough⟩ => ⟨ok, ?_⟩
      rw [Dict.eq_empty_of_size (Nat.le_zero.mp enough), Dict.get?_empty]
  | succ fuel ih =>
      refine .readBind fun s ⟨ok, enough⟩ => ?_
      cases found : (s.peer ip).recvBuffer.get? (s.peer ip).recvSeq with
      | none => exact .pure fun _ same => same ▸ ⟨ok, found⟩
      | some held =>
          have smaller := Dict.size_erase_lt found
          have bound : (s.peer ip).recvBuffer.size ≤ fuel + 1 := enough
          have taken : LinkStands history (some held) sender (receiverView s ip).takeBuffered :=
            ⟨ok.takeBuffered found, by simp [ReceiverView.takeBuffered]⟩
          have pops : Triple (fun t => t = s)
              (modifyPeer ip fun peer => { peer with
                recvBuffer := peer.recvBuffer.erase peer.recvSeq })
              (fun _ t => receiverView t ip = (receiverView s ip).takeBuffered)
              (fun t => ∃ held, LinkStands history (some held) sender (receiverView t ip)) :=
            .update fun t same => same ▸ receiverView_buffer s ip _
          have passes : Triple (fun t => receiverView t ip = (receiverView s ip).takeBuffered)
              (passPacket cfg ip held)
              (fun _ t => LinkOk history none sender (receiverView t ip)
                ∧ (receiverView t ip).buffer.size ≤ fuel)
              (fun t => ∃ held, LinkStands history (some held) sender (receiverView t ip)) := by
            refine (passPacket_stays cfg ip held _).weaken (fun _ same => same)
              (fun t _ passed => ?_) fun t same => ⟨held, same ▸ taken⟩
            rw [passed]
            refine ⟨taken.ok.pass taken.absent, ?_⟩
            change ((s.peer ip).recvBuffer.erase (s.peer ip).recvSeq).size ≤ fuel
            omega
          exact pops.bind fun _ => passes.bind fun _ => ih

/-- What a returned callback has left of a packet in hand: it was passed, or is still next. -/
def Leaves (hand hand' : Option Held) (next next' : Nat) : Prop :=
  hand' = none ∨ (hand' = hand ∧ next' = next)

/-- A data packet is passed or buffered, or the exception leaves one in hand. -/
theorem dataReceived_stands (cfg : Config) (ip : Ip) {seq : Nat} (fits : seq < 2 ^ 64)
    (copy : (seq, held) ∈ sender.data) (s : Sidecar)
    (stands : LinkStands history hand sender (receiverView s ip))
    : Triple (fun t => t = s) (dataReceived cfg ip seq held)
        (fun _ t => ∃ hand', LinkStands history hand' sender (receiverView t ip)
          ∧ Leaves hand hand' (s.peer ip).recvSeq (t.peer ip).recvSeq)
        (fun t => ∃ hand', LinkStands history hand' sender (receiverView t ip)) := by
  have acknowledges : Triple (fun t => t = s) (tunnelSendto (packAck seq) ip)
      (fun _ t => receiverView t ip = (receiverView s ip).acknowledge seq)
      (fun t => ∃ hand', LinkStands history hand' sender (receiverView t ip)) := by
    refine .readBind fun u same => ?_
    subst same
    split
    · exact .update fun t same => same ▸
        ReceiverView.ext (acksTo_append_ack (parseFrame_packAck fits)) rfl rfl rfl
    · exact .raise fun t same => ⟨hand, same ▸ stands⟩
  refine acknowledges.bind fun _ => .readBind fun t acked => ?_
  have sameNext : (t.peer ip).recvSeq = (s.peer ip).recvSeq := congrArg ReceiverView.next acked
  split
  case isTrue current =>
    have here : seq = (receiverView s ip).next := current.trans sameNext
    have taken : LinkStands history (some held) sender (receiverView t ip) := by
      rw [acked, here]
      exact stands.take (here ▸ copy)
    have passes : Triple (fun u => u = t) (passPacket cfg ip held)
        (fun _ u => LinkOk history none sender (receiverView u ip))
        (fun u => ∃ hand', LinkStands history hand' sender (receiverView u ip)) :=
      (passPacket_stays cfg ip held (receiverView t ip)).weaken (fun _ same => same ▸ rfl)
        (fun _ _ passed => passed ▸ taken.ok.pass taken.absent)
        fun _ same => ⟨some held, same ▸ taken⟩
    refine passes.bind fun _ => .readBind fun u ok => ?_
    rintro v rfl
    exact (flushBuffer_stands cfg ip _).weaken (fun _ before => before)
      (fun _ _ after => ⟨none, after, .inl rfl⟩) (fun _ ⟨held, after⟩ => ⟨some held, after⟩) v
      ⟨ok, Nat.le_refl _⟩
  case isFalse =>
    split
    case isTrue future =>
      have later : (receiverView s ip).next < seq := lt_of_eq_of_lt sameNext.symm future
      refine .update fun u same => ⟨hand, ?_, .inr ⟨rfl, ?_⟩⟩
      · have stored := receiverView_buffer t ip ((t.peer ip).recvBuffer.set seq held)
        subst same
        have whole := stands.hold copy later
        rw [← acked] at whole
        exact stored ▸ whole
      · subst same
        simpa [Sidecar.peer_setPeer] using sameNext
    case isFalse =>
      have past : seq < (receiverView s ip).next := by
        have : (receiverView s ip).next = (s.peer ip).recvSeq := rfl
        omega
      refine .pure fun u same => ⟨hand, ?_, .inr ⟨rfl, same ▸ sameNext⟩⟩
      rw [same, acked]
      exact stands.acknowledgePast past

theorem datagramReceived_stands (cfg : Config) (src : Ip) {packet : Bytes} {seq : Nat}
    (parsed : parseFrame packet = .data seq held) (copy : (seq, held) ∈ sender.data)
    (stands : LinkStands history hand sender (receiverView s src))
    : Triple (fun t => t = s) (datagramReceived cfg packet src)
        (fun _ t => ∃ hand', LinkStands history hand' sender (receiverView t src)
          ∧ Leaves hand hand' (s.peer src).recvSeq (t.peer src).recvSeq)
        (fun t => ∃ hand', LinkStands history hand' sender (receiverView t src)) := by
  have knows : Triple (fun t => t = s) (getPeer src)
      (fun _ t => receiverView t src = receiverView s src)
      (fun t => ∃ hand', LinkStands history hand' sender (receiverView t src)) := by
    refine .of_outcomes (fun same returned => ?_) fun same raised => ?_
    · exact same ▸ ((quietly_of_framed (framed_getPeer src)).ok returned).receiverView src
    · exact ((MeshSnapshot.getPeer_returns src).error trivial raised).elim
  refine knows.bind fun _ => ?_
  rw [parsed]
  intro t same
  have next : (t.peer src).recvSeq = (s.peer src).recvSeq := congrArg ReceiverView.next same
  have received := dataReceived_stands cfg src (parseFrame_data_lt parsed) copy t
    (same ▸ stands) t rfl
  rwa [next] at received

/-- An exception that is raised while no data packet is received leaves a sidecar that has sent. -/
theorem raised_sends {callback : Callback} {e : PyErr} (noData : dataOf callback = none)
    (raised : callback.run cfg s = .error e s') : Sends s s' := by
  cases callback with
  | emit datagrams => cases raised
  | send dst message =>
      have sending : Sending (Callback.run cfg (.send dst message)) :=
        .bind (.of_framed (framed_getPeer dst)) fun _ => sending_sendData dst message .direct
      exact sending.error raised
  | intercept =>
      have sending : Sending (Callback.run cfg .intercept) :=
        .bind .read fun _ => sending_handleLoop cfg _
      exact sending.error raised
  | retransmit => exact (retransmitRound_raises cfg s).error (.refl s) raised
  | received packet src =>
      cases parsed : parseFrame packet with
      | data seq held => simp [dataOf, parsed] at noData
      | plain held =>
          have sending : Sending (Callback.run cfg (.received packet src)) := by
            refine .bind (.of_framed (framed_getPeer src)) fun _ => ?_
            rw [parsed]
            exact .of_framed (framed_plainReceived src held)
          exact sending.error raised
      | ack seq =>
          have returns : Triple (fun _ => True) (Callback.run cfg (.received packet src))
              (fun _ _ => True) (fun _ => False) := by
            refine (MeshSnapshot.getPeer_returns src).bind fun _ => ?_
            rw [parsed]
            exact .update fun _ _ => trivial
          exact (returns.error trivial raised).elim
      | ignored =>
          have returns : Triple (fun _ => True) (Callback.run cfg (.received packet src))
              (fun _ _ => True) (fun _ => False) := by
            refine (MeshSnapshot.getPeer_returns src).bind fun _ => ?_
            rw [parsed]
            exact .pure fun _ _ => trivial
          exact (returns.error trivial raised).elim

/-- A callback on the links of its sidecar. If it raised, the packet in hand may be a new one. -/
structure CallbackEnds (raises : Prop) (callback : Callback) (s s' : Sidecar) : Prop where
  sender : ∀ dst, SenderView.Steps (Acks callback dst) (senderView s dst) (senderView s' dst)
  receiver
    : ∀ {src history hand sender},
        LinkStands history hand sender (receiverView s src)
        → (∀ {packet seq held},
            callback = .received packet src → parseFrame packet = .data seq held
            → (seq, held) ∈ sender.data)
        → ∃ hand', LinkStands history hand' sender (receiverView s' src)
            ∧ (Leaves hand hand' (s.peer src).recvSeq (s'.peer src).recvSeq
              ∨ (raises ∧ ∃ seq held, dataOf callback = some (src, seq, held)))
  confirming
    : ∀ {dst seq}, Acks callback dst seq → ∀ src, receiverView s' src = receiverView s src

/-- No data packet is received: the packet in hand stays there. -/
theorem CallbackEnds.of_unmoved {raises : Prop} {callback : Callback}
    (sender : ∀ dst, SenderView.Steps (Acks callback dst) (senderView s dst) (senderView s' dst))
    (unmoved : ∀ src, receiverView s' src = receiverView s src)
    : CallbackEnds raises callback s s' where
  sender := sender
  receiver {src _ hand _} stands _ := by
    have next : (s'.peer src).recvSeq = (s.peer src).recvSeq :=
      congrArg ReceiverView.next (unmoved src)
    exact ⟨hand, unmoved src ▸ stands, .inl (.inr ⟨rfl, next⟩)⟩
  confirming _ := unmoved

/-- A data packet does not confirm anything. -/
theorem not_acks_of_data {packet : Bytes} {src dst : Ip} {seq number : Nat}
    (parsed : parseFrame packet = .data seq held) : ¬ Acks (.received packet src) dst number := by
  rintro ⟨_, same, isAck⟩
  obtain ⟨rfl, -⟩ := Callback.received.inj same
  cases parsed.symm.trans isAck

theorem run_returned {callback : Callback} {u : Unit}
    (framed : ∀ dst, (senderView s dst).Framed) (returned : callback.run cfg s = .ok u s')
    : CallbackEnds False callback s s' := by
  have moves := run_moves returned framed
  cases received : dataOf callback with
  | none =>
      have unmoved := (run_unmoved cfg received framed).ok rfl returned
      exact .of_unmoved moves.sender unmoved.receiver
  | some data =>
      obtain ⟨src, seq, held⟩ := data
      obtain ⟨packet, rfl, parsed⟩ := dataOf_eq_some received
      have stream := (datagramReceived_unmoved cfg src parsed).ok returned
      refine ⟨moves.sender, ?_, fun acks => (not_acks_of_data parsed acks).elim⟩
      intro other history hand sender stands heard
      by_cases here : other = src
      · subst here
        obtain ⟨hand', stands', leaves⟩ :=
          (datagramReceived_stands cfg other parsed (heard rfl parsed) stands).ok rfl returned
        exact ⟨hand', stands', .inl leaves⟩
      · have same := stream.other other here
        exact ⟨hand, same ▸ stands, .inl (.inr ⟨rfl, congrArg ReceiverView.next same⟩)⟩

theorem run_raised {callback : Callback} {e : PyErr}
    (raised : callback.run cfg s = .error e s') : CallbackEnds True callback s s' := by
  cases received : dataOf callback with
  | none =>
      have sends := raised_sends received raised
      exact .of_unmoved (fun dst => (sends.sender dst).mono_acked False.elim) sends.receiver
  | some data =>
      obtain ⟨src, seq, held⟩ := data
      obtain ⟨packet, rfl, parsed⟩ := dataOf_eq_some received
      have stream := (datagramReceived_unmoved cfg src parsed).error raised
      refine ⟨fun dst => (stream.sender dst).mono_acked False.elim, ?_,
        fun acks => (not_acks_of_data parsed acks).elim⟩
      intro other history hand sender stands heard
      by_cases here : other = src
      · subst here
        obtain ⟨hand', stands'⟩ :=
          (datagramReceived_stands cfg other parsed (heard rfl parsed) stands).error rfl raised
        exact ⟨hand', stands', .inr ⟨trivial, seq, held, received⟩⟩
      · have same := stream.other other here
        exact ⟨hand, same ▸ stands, .inl (.inr ⟨rfl, congrArg ReceiverView.next same⟩)⟩

end MeshSnapshot.Transport

namespace MeshSnapshot

open Transport Procedure

variable {cfg : Ip → Config} {fleet next : Fleet} {source target node : Ip} {seq : Nat}

/-- An exception left `target` with packet `seq` of `source` acknowledged and not processed. -/
def Fleet.Interrupted (fleet : Fleet) (target source : Ip) (seq : Nat) : Prop :=
  ∃ interruption ∈ fleet.interruptions,
    interruption.node = target
    ∧ (∃ number held, dataOf interruption.callback = some (source, number, held))
    ∧ (interruption.left.peer source).recvSeq = seq

/-- Every link stands, with a packet in hand only where an exception has left it. -/
def Fleet.LinksStand (fleet : Fleet) : Prop :=
  ∀ source target, ∃ hand,
    LinkStands [] hand (senderView (fleet.mesh source) target)
      (receiverView (fleet.mesh target) source)
    ∧ (hand ≠ none
      → fleet.Interrupted target source ((fleet.mesh target).peer source).recvSeq)

/-- What was interrupted stays on record. -/
theorem Fleet.Interrupted.after {more : List Interruption}
    (interrupted : fleet.Interrupted target source seq)
    (grown : next.interruptions = fleet.interruptions ++ more)
    : next.Interrupted target source seq := by
  obtain ⟨interruption, member, same⟩ := interrupted
  exact ⟨interruption, grown ▸ List.mem_append_left _ member, same⟩

/-- A step of a fleet on the links of the sidecar that runs. -/
theorem Fleet.step_ends {callback : Callback} {host : Host}
    (framed : ∀ dst, (senderView (fleet.mesh node) dst).Framed)
    (stepped : fleet.step cfg node callback host = some next)
    : ∃ (raises : Prop) (more : List Interruption) (s' : Sidecar),
        next.mesh = Function.update fleet.mesh node s'
        ∧ next.interruptions = fleet.interruptions ++ more
        ∧ (raises → ⟨node, callback, s'⟩ ∈ more)
        ∧ CallbackEnds raises callback { fleet.mesh node with host } s' := by
  obtain ⟨-, mesh, ⟨s', returned, same⟩ | ⟨error, s', raised, same⟩⟩ := step_eq_some stepped
  · rw [returned] at mesh
    exact ⟨False, [], s', mesh, by rw [same, List.append_nil], False.elim,
      run_returned framed returned⟩
  · rw [raised] at mesh
    exact ⟨True, _, s', mesh, same, fun _ => List.mem_singleton_self _, run_raised raised⟩

/-- One step keeps every link standing. As in a mesh where nothing raises, the receiving half
moves first.
-/
theorem Fleet.LinksStand.step (links : fleet.LinksStand) {callback : Callback} {host : Host}
    (stepped : fleet.step cfg node callback host = some next) : next.LinksStand := by
  have framed (dst : Ip) : (senderView (fleet.mesh node) dst).Framed :=
    let ⟨_, stands, _⟩ := links node dst
    stands.ok.framed
  have admitted := Mesh.admits_iff.mp (step_eq_some stepped).1
  obtain ⟨raises, more, s', mesh, grown, adds, ends⟩ := step_ends framed stepped
  intro source target
  obtain ⟨hand, stands, left⟩ := links source target
  have received
      : ∃ hand', LinkStands [] hand' (senderView (fleet.mesh source) target)
          (receiverView (next.mesh target) source)
        ∧ (hand' ≠ none → next.Interrupted target source ((next.mesh target).peer source).recvSeq)
      := by
    by_cases here : target = node
    · subst here
      obtain ⟨hand', stands', leaves⟩ := ends.receiver stands fun isReceived parsed =>
        ⟨_, admitted _ _ isReceived, parsed⟩
      rw [mesh, Function.update_self]
      refine ⟨hand', stands', fun inHand => ?_⟩
      rcases leaves with (gone | ⟨rfl, sameNext⟩) | ⟨raised, seq, held, isData⟩
      · exact absurd gone inHand
      · rw [sameNext]
        exact (left inHand).after grown
      · exact ⟨_, grown ▸ List.mem_append_right _ (adds raised), rfl, ⟨seq, held, isData⟩, rfl⟩
    · rw [mesh, Function.update_of_ne here]
      exact ⟨hand, stands, fun inHand => (left inHand).after grown⟩
  obtain ⟨hand', stands', left'⟩ := received
  refine ⟨hand', ?_, left'⟩
  by_cases here : source = node
  · subst here
    have acked {seq : Nat} (acks : Acks callback target seq)
        : seq ∈ (receiverView (next.mesh target) source).acks := by
      have unchanged : receiverView (next.mesh target) source
          = receiverView (fleet.mesh target) source := by
        rw [mesh]
        by_cases self : target = source
        · subst self
          rw [Function.update_self]
          exact ends.confirming acks target
        · rw [Function.update_of_ne self]
      obtain ⟨packet, isReceived, parsed⟩ := acks
      rw [unchanged]
      exact ⟨packet, admitted packet target isReceived, parsed⟩
    have sends := (ends.sender target).mono_acked acked
    have same : (next.mesh source) = s' := by rw [mesh, Function.update_self]
    exact ⟨stands'.ok.steps (same ▸ sends), stands'.absent⟩
  · have same : next.mesh source = fleet.mesh source := by rw [mesh, Function.update_of_ne here]
    rwa [same]

theorem Fleet.Reachable.linksStand (reachable : Fleet.Reachable cfg fleet) : fleet.LinksStand := by
  induction reachable with
  | init starts =>
      intro source target
      have link := linksRest_started starts source target
      exact ⟨none, ⟨link.ok, link.absent⟩, fun inHand => absurd rfl inHand⟩
  | step node callback host _ stepped links => exact links.step stepped

/-- What a link guarantees while callbacks raise. -/
structure Fleet.Delivers (fleet : Fleet) (source target : Ip) : Prop where
  inOrder : consumedFrom (fleet.mesh target) source <+: sentTo (fleet.mesh source) target
  counted
    : ((fleet.mesh target).peer source).recvSeq = (consumedFrom (fleet.mesh target) source).length
  kept
    : ∀ {seq held},
        (sentTo (fleet.mesh source) target)[seq]? = some held
        → ((fleet.mesh target).peer source).recvSeq ≤ seq
        → (∃ sentAt packet,
            ((fleet.mesh source).peer target).unacked.get? seq = some (sentAt, packet)
            ∧ parseFrame packet = .data seq held)
          ∨ ((fleet.mesh target).peer source).recvBuffer.get? seq = some held
          ∨ (seq = ((fleet.mesh target).peer source).recvSeq
            ∧ fleet.Interrupted target source seq)
  settled
    : ((fleet.mesh source).peer target).unacked = ∅
      → consumedFrom (fleet.mesh target) source = sentTo (fleet.mesh source) target
        ∨ fleet.Interrupted target source ((fleet.mesh target).peer source).recvSeq

/-- Whatever raises at whatever point, no link skips, repeats or reorders a packet. It stops only
at a packet whose processing has raised.
-/
theorem Fleet.Reachable.delivers (reachable : Fleet.Reachable cfg fleet) (source target : Ip)
    : fleet.Delivers source target := by
  obtain ⟨hand, stands, left⟩ := reachable.linksStand source target
  have inv := stands.ok.inv
  have passed : consumedFrom (fleet.mesh target) source
      = (sentTo (fleet.mesh source) target).take ((fleet.mesh target).peer source).recvSeq :=
    inv.passedLogged
  have bound : ((fleet.mesh target).peer source).recvSeq
      ≤ (sentTo (fleet.mesh source) target).length :=
    inv.nextBound
  have kept {seq : Nat} {held : Held}
      (sent : (sentTo (fleet.mesh source) target)[seq]? = some held)
      (later : ((fleet.mesh target).peer source).recvSeq ≤ seq)
      : (∃ sentAt packet,
          ((fleet.mesh source).peer target).unacked.get? seq = some (sentAt, packet)
          ∧ parseFrame packet = .data seq held)
        ∨ ((fleet.mesh target).peer source).recvBuffer.get? seq = some held
        ∨ (seq = ((fleet.mesh target).peer source).recvSeq
          ∧ fleet.Interrupted target source seq) := by
    rcases inv.retained sent later with ⟨packet, pending⟩ | buffered | ⟨rfl, inHand⟩
    · obtain ⟨⟨sentAt, _⟩, found, rfl⟩ := Option.map_eq_some_iff.mp pending
      obtain ⟨logged, at_, parsed⟩ := stands.ok.packets pending
      obtain rfl := Option.some.inj (at_.symm.trans sent)
      exact .inl ⟨sentAt, _, found, parsed⟩
    · exact .inr (.inl buffered)
    · have taken : hand = some held := inHand
      exact .inr (.inr ⟨rfl, left (by rw [taken]; exact Option.some_ne_none held)⟩)
  refine ⟨?_, ?_, kept, fun nothing => ?_⟩
  · rw [passed]
    exact List.take_prefix _ _
  · rw [passed, List.length_take, Nat.min_eq_left bound]
  · by_cases drained
      : ((fleet.mesh target).peer source).recvSeq = (sentTo (fleet.mesh source) target).length
    · exact .inl (by rw [passed, drained, List.take_length])
    · have short := Nat.lt_of_le_of_ne bound drained
      have sent := List.getElem?_eq_getElem short
      rcases kept sent (Nat.le_refl _) with ⟨_, _, pending, -⟩ | buffered | ⟨-, interrupted⟩
      · simp [nothing] at pending
      · exact absurd (buffered.symm.trans stands.absent) (Option.some_ne_none _)
      · exact .inr interrupted

/-- B cannot hand the first packet of A to its app, and buffers the second one. A hears that
both were received.
-/
def interruptedCalls : List (Ip × Callback × Host) := [
  (nodeA, .send nodeB ⟨5000, 5000, [10, 24, 24, 11], [109]⟩, {}),
  (nodeA, .send nodeB ⟨5000, 5000, [10, 24, 24, 11], [110]⟩, {}),
  (nodeB, .received (dataFrame 0 [10, 24, 24, 11] [109]) nodeA, { faults := [true] }),
  (nodeA, .received (packAck 0) nodeB, {}),
  (nodeB, .received (dataFrame 1 [10, 24, 24, 11] [110]) nodeA, {}),
  (nodeA, .received (packAck 1) nodeB, {})
]

/-- The link has stopped at the first packet, of which only another copy can still arrive. -/
theorem Fleet.Reachable.delivers_interruptedCalls
    : ∃ fleet : Fleet,
        Fleet.runAll threeMembers { mesh := threeStarted } interruptedCalls = some fleet
        ∧ (sentTo (fleet.mesh nodeA) nodeB).length = 2
        ∧ ((fleet.mesh nodeA).peer nodeB).unacked = ∅
        ∧ consumedFrom (fleet.mesh nodeB) nodeA = []
        ∧ fleet.Interrupted nodeB nodeA 0 := by
  have ran : (Fleet.runAll threeMembers { mesh := threeStarted } interruptedCalls).any
      (fun fleet => (sentTo (fleet.mesh nodeA) nodeB).length == 2
        && ((fleet.mesh nodeA).peer nodeB).unacked.size == 0
        && consumedFrom (fleet.mesh nodeB) nodeA == []) = true := by
    decide +kernel
  obtain ⟨fleet, ran, shown⟩ := (Option.any_eq_true _ _).mp ran
  simp only [Bool.and_eq_true, beq_iff_eq] at shown
  obtain ⟨⟨sent, unacked⟩, consumed⟩ := shown
  have settled := Dict.eq_empty_of_size unacked
  have delivers := Fleet.Reachable.delivers ((Fleet.Reachable.init threeStarted_starts).runAll ran)
    nodeA nodeB
  have next := delivers.counted
  rw [consumed, List.length_nil] at next
  refine ⟨fleet, ran, sent, settled, consumed, ?_⟩
  rcases delivers.settled settled with all | interrupted
  · rw [← all, consumed] at sent
    cases sent
  · rwa [next] at interrupted

end MeshSnapshot
