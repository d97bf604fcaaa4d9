import MeshSnapshot.Library.SelectiveRepeat
import MeshSnapshot.Model.Mesh

/-! What the two ends of a link see of it, read off the state and the trace of a sidecar.
A link between two sidecars is the selective-repeat link of their views.
-/

namespace MeshSnapshot.Transport

open SelectiveRepeat

-----------------------------------------------------------------------------------------
-- Views
-----------------------------------------------------------------------------------------

/-- The sending half of a link, at its sender. -/
@[ext]
structure SenderView where
  log : List Held
  sendSeq : Nat
  unacked : Nat → Option Bytes
  data : Set (Nat × Held)

/-- The receiving half of a link, at its receiver. -/
@[ext]
structure ReceiverView where
  acks : Set Nat
  next : Nat
  buffer : Dict Nat Held
  passed : List Held

/-- The messages that `s` has passed to `send_data` for `dst`, as `dst` will see them. -/
def sentTo (s : Sidecar) (dst : Ip) : List Held :=
  (s.trace.sent.filter (fun call => call.dst = dst)).map (fun call => call.message.held)

/-- The packets of `src` that `s` has passed to `process_and_deliver`, in order. -/
def consumedFrom (s : Sidecar) (src : Ip) : List Held :=
  (s.trace.consumed.filter (fun packet => packet.peer = src)).map PeerPacket.held

/-- The copies of data packets on their way to `dst`. -/
def dataTo (wire : List (Bytes × Ip)) (dst : Ip) : Set (Nat × Held) :=
  { copy | ∃ packet, (packet, dst) ∈ wire ∧ parseFrame packet = .data copy.1 copy.2 }

/-- The sequence numbers that acknowledgements on their way to `dst` confirm. -/
def acksTo (wire : List (Bytes × Ip)) (dst : Ip) : Set Nat :=
  { seq | ∃ packet, (packet, dst) ∈ wire ∧ parseFrame packet = .ack seq }

def senderView (s : Sidecar) (dst : Ip) : SenderView where
  log := sentTo s dst
  sendSeq := (s.peer dst).sendSeq
  unacked seq := ((s.peer dst).unacked.get? seq).map Prod.snd
  data := dataTo s.trace.wire dst

def receiverView (s : Sidecar) (src : Ip) : ReceiverView where
  acks := acksTo s.trace.wire src
  next := (s.peer src).recvSeq
  buffer := (s.peer src).recvBuffer
  passed := consumedFrom s src

section Wire

variable {wire : List (Bytes × Ip)} {packet : Bytes} {ip dst : Ip}

/-- A packet to one address is none to another. -/
theorem dataTo_append_other (other : dst ≠ ip)
    : dataTo (wire ++ [(packet, ip)]) dst = dataTo wire dst := by
  simp [dataTo, other]

theorem acksTo_append_other (other : dst ≠ ip)
    : acksTo (wire ++ [(packet, ip)]) dst = acksTo wire dst := by
  simp [acksTo, other]

theorem dataTo_append_data {seq : Nat} {held : Held}
    (framed : parseFrame packet = .data seq held)
    : dataTo (wire ++ [(packet, ip)]) ip = insert (seq, held) (dataTo wire ip) := by
  ext copy
  simp only [dataTo, Set.mem_insert_iff, Set.mem_ofPred_eq, List.mem_append, List.mem_singleton,
    Prod.mk.injEq, and_true, or_and_right, exists_or, exists_eq_left, framed, Frame.data.injEq]
  rw [or_comm, Prod.ext_iff, eq_comm (a := seq), eq_comm (a := held)]

theorem dataTo_append_else (framed : ∀ seq held, parseFrame packet ≠ .data seq held)
    : dataTo (wire ++ [(packet, ip)]) dst = dataTo wire dst := by
  ext copy
  simp only [dataTo, Set.mem_ofPred_eq, List.mem_append, List.mem_singleton, Prod.mk.injEq,
    or_and_right, exists_or, and_assoc, exists_eq_left, framed, and_false, or_false]

theorem acksTo_append_ack {seq : Nat} (framed : parseFrame packet = .ack seq)
    : acksTo (wire ++ [(packet, ip)]) ip = insert seq (acksTo wire ip) := by
  ext other
  simp only [acksTo, Set.mem_insert_iff, Set.mem_ofPred_eq, List.mem_append, List.mem_singleton,
    Prod.mk.injEq, and_true, or_and_right, exists_or, exists_eq_left, framed, Frame.ack.injEq]
  rw [or_comm, eq_comm (a := seq)]

theorem acksTo_append_else (framed : ∀ seq, parseFrame packet ≠ .ack seq)
    : acksTo (wire ++ [(packet, ip)]) dst = acksTo wire dst := by
  ext seq
  simp only [acksTo, Set.mem_ofPred_eq, List.mem_append, List.mem_singleton, Prod.mk.injEq,
    or_and_right, exists_or, and_assoc, exists_eq_left, framed, and_false, or_false]

end Wire

namespace SenderView

def send (view : SenderView) (held : Held) (packet : Bytes) : SenderView where
  log := view.log ++ [held]
  sendSeq := view.sendSeq + 1
  unacked := Function.update view.unacked view.sendSeq (some packet)
  data := insert (view.sendSeq, held) view.data

def resend (view : SenderView) (seq : Nat) (held : Held) : SenderView :=
  { view with data := insert (seq, held) view.data }

def confirm (view : SenderView) (seq : Nat) : SenderView :=
  { view with unacked := Function.update view.unacked seq none }

end SenderView

namespace ReceiverView

def acknowledge (view : ReceiverView) (seq : Nat) : ReceiverView :=
  { view with acks := insert seq view.acks }

def hold (view : ReceiverView) (seq : Nat) (held : Held) : ReceiverView :=
  { view with buffer := view.buffer.set seq held }

def takeBuffered (view : ReceiverView) : ReceiverView :=
  { view with buffer := view.buffer.erase view.next }

def pass (view : ReceiverView) (held : Held) : ReceiverView :=
  { view with next := view.next + 1, passed := view.passed ++ [held] }

end ReceiverView

-----------------------------------------------------------------------------------------
-- Links
-----------------------------------------------------------------------------------------

/-- The link between two views. `history` is what both ends have behind them, and `hand` the
message that the receiver is processing.
-/
def linkOf (history : List Held) (hand : Option Held) (sender : SenderView)
    (receiver : ReceiverView) : Link Held where
  log := history ++ sender.log
  unacked := { seq | ∃ packet, sender.unacked seq = some packet }
  data := sender.data
  acks := receiver.acks
  next := receiver.next
  buffer := receiver.buffer.get?
  hand := hand
  passed := history ++ receiver.passed

/-- A link satisfies the selective-repeat invariant, its sender counts its messages, and its
unacknowledged packets are the frames of the logged messages.
-/
structure LinkOk (history : List Held) (hand : Option Held) (sender : SenderView)
    (receiver : ReceiverView) : Prop where
  inv : (linkOf history hand sender receiver).Inv
  counted : sender.sendSeq = history.length + sender.log.length
  packets
    : ∀ {seq packet},
        sender.unacked seq = some packet
        → ∃ held, (history ++ sender.log)[seq]? = some held
            ∧ parseFrame packet = .data seq held

namespace LinkOk

variable {history : List Held} {hand : Option Held} {sender : SenderView}
  {receiver : ReceiverView}

theorem send (ok : LinkOk history hand sender receiver) {held : Held} {packet : Bytes}
    (framed : parseFrame packet = .data sender.sendSeq held)
    : LinkOk history hand (sender.send held packet) receiver where
  inv := by
    have sent : linkOf history hand (sender.send held packet) receiver
        = (linkOf history hand sender receiver).send held := by
      ext1
      case unacked =>
        ext seq
        simp only [linkOf, SenderView.send, Link.send, ok.counted, List.length_append,
          Set.mem_ofPred_eq, Set.mem_insert_iff, Function.update_apply]
        split <;> simp_all
      all_goals
        simp [linkOf, SenderView.send, Link.send, ok.counted, List.append_assoc]
    exact sent ▸ ok.inv.send held
  counted := by
    simp only [SenderView.send, ok.counted, List.length_append, List.length_singleton]
    omega
  packets := by
    intro seq other found
    by_cases last : seq = sender.sendSeq
    · subst last
      obtain rfl : packet = other := by simpa [SenderView.send] using found
      refine ⟨held, ?_, framed⟩
      simp [SenderView.send, ok.counted, ← List.append_assoc]
    · have earlier : sender.unacked seq = some other := by
        simpa [SenderView.send, last] using found
      obtain ⟨logged, at_, parsed⟩ := ok.packets earlier
      refine ⟨logged, ?_, parsed⟩
      obtain ⟨bound, -⟩ := List.getElem?_eq_some_iff.mp at_
      simp only [SenderView.send, ← List.append_assoc]
      rw [List.getElem?_append_left bound, at_]

theorem resend (ok : LinkOk history hand sender receiver) {seq : Nat} {held : Held}
    (logged : (history ++ sender.log)[seq]? = some held)
    : LinkOk history hand (sender.resend seq held) receiver where
  inv := ok.inv.resend logged
  counted := ok.counted
  packets := ok.packets

theorem confirm (ok : LinkOk history hand sender receiver) {seq : Nat}
    (acked : seq ∈ receiver.acks)
    : LinkOk history hand (sender.confirm seq) receiver where
  inv := by
    have confirmed : linkOf history hand (sender.confirm seq) receiver
        = (linkOf history hand sender receiver).confirm seq := by
      ext1
      case unacked =>
        ext other
        simp only [linkOf, SenderView.confirm, Link.confirm, Set.mem_ofPred_eq,
          Set.mem_sdiff, Set.mem_singleton_iff, Function.update_apply]
        split <;> simp_all
      all_goals rfl
    exact confirmed ▸ ok.inv.confirm acked
  counted := ok.counted
  packets := by
    intro other packet found
    by_cases same : other = seq
    · simp [SenderView.confirm, same] at found
    · exact ok.packets (by simpa [SenderView.confirm, same] using found)

theorem acknowledge (ok : LinkOk history hand sender receiver) {seq : Nat}
    (received : (linkOf history hand sender receiver).Received seq)
    : LinkOk history hand sender (receiver.acknowledge seq) where
  inv := ok.inv.acknowledge received
  counted := ok.counted
  packets := ok.packets

theorem hold (ok : LinkOk history hand sender receiver) {seq : Nat} {held : Held}
    (copy : (seq, held) ∈ sender.data) (future : receiver.next < seq)
    : LinkOk history hand sender (receiver.hold seq held) where
  inv := by
    have held : linkOf history hand sender (receiver.hold seq held)
        = (linkOf history hand sender receiver).hold seq held := by
      ext1
      case buffer =>
        funext other
        simp [linkOf, ReceiverView.hold, Link.hold, Function.update_apply]
      all_goals rfl
    exact held ▸ ok.inv.hold copy future
  counted := ok.counted
  packets := ok.packets

theorem takeData (ok : LinkOk history none sender receiver) {held : Held}
    (copy : (receiver.next, held) ∈ sender.data)
    : LinkOk history (some held) sender receiver where
  inv := ok.inv.takeData rfl copy
  counted := ok.counted
  packets := ok.packets

theorem takeBuffered (ok : LinkOk history none sender receiver) {held : Held}
    (found : receiver.buffer.get? receiver.next = some held)
    : LinkOk history (some held) sender receiver.takeBuffered where
  inv := by
    have taken : linkOf history (some held) sender receiver.takeBuffered
        = (linkOf history none sender receiver).takeBuffered held := by
      ext1
      case buffer =>
        funext other
        simp [linkOf, ReceiverView.takeBuffered, Link.takeBuffered, Function.update_apply]
      all_goals rfl
    exact taken ▸ ok.inv.takeBuffered rfl found
  counted := ok.counted
  packets := ok.packets

theorem pass {held : Held} (ok : LinkOk history (some held) sender receiver)
    (absent : receiver.buffer.get? receiver.next = none)
    : LinkOk history none sender (receiver.pass held) where
  inv := by
    have passed : linkOf history none sender (receiver.pass held)
        = (linkOf history (some held) sender receiver).pass held := by
      ext1 <;> simp [linkOf, ReceiverView.pass, Link.pass]
    exact passed ▸ ok.inv.pass rfl absent
  counted := ok.counted
  packets := ok.packets

end LinkOk

end MeshSnapshot.Transport
