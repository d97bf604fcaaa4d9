import MeshSnapshot.Sidecar.Outlets
import Mathlib.Data.List.Forall2

/-! Whose address the local app sees. A spoof socket is cached under the address that it is
bound to, unless the bind failed and a generic socket took its place. What counts as delivered is
what has been sent on these sockets.
-/

namespace MeshSnapshot

open Procedure

/-- What is sent on the socket comes from `key`, unless it is the generic outbound fallback. -/
def SpoofSock.Serves (sock : SpoofSock) (key : Ip × Nat) : Prop :=
  sock.bound = some key ∨ sock.bound = none

/-- The packet is given to the app by this send, on a socket that serves the address of its sender.
-/
def PeerPacket.SentAs (packet : PeerPacket) (sent : SpoofSock × Bytes × Ip × Nat) : Prop :=
  sent.1.Serves (packet.peer, packet.held.srcPort)
  ∧ sent.2 = (packet.held.payload, packet.held.localIp, packet.held.dstPort)

/-- Every cached socket serves the address under which it is kept, and every delivery is a send of
its own, in their order.
-/
structure Sidecar.Faithful (s : Sidecar) : Prop where
  sockets : ∀ {key sock}, s.spoofSockets.get? key = some sock → sock.Serves key
  delivered : s.trace.delivered.SublistForall₂ PeerPacket.SentAs s.trace.spoofed

variable {cfg : Config} {s s' : Sidecar}

theorem Sidecar.Faithful.unseen (faithful : s.Faithful) (same : s'.outlets = s.outlets)
    : s'.Faithful := by
  have sockets : s'.spoofSockets = s.spoofSockets := congrArg Outlets.spoofSockets same
  have spoofed : s'.trace.spoofed = s.trace.spoofed := congrArg Outlets.spoofed same
  have delivered : s'.trace.delivered = s.trace.delivered := congrArg Outlets.delivered same
  refine ⟨fun found => faithful.sockets (sockets ▸ found), ?_⟩
  rw [spoofed, delivered]
  exact faithful.delivered

section Matching

variable {α β : Type} {relation : α → β → Prop} {left : List α} {right : List β}

theorem matched_append_right (matched : left.SublistForall₂ relation right) (more : List β)
    : left.SublistForall₂ relation (right ++ more) := by
  obtain ⟨part, same, sublist⟩ := List.sublistForall₂_iff.mp matched
  exact List.sublistForall₂_iff.mpr
    ⟨part, same, sublist.trans (List.sublist_append_left right more)⟩

theorem matched_concat (matched : left.SublistForall₂ relation right) {a : α} {b : β}
    (related : relation a b)
    : (left ++ [a]).SublistForall₂ relation (right ++ [b]) := by
  obtain ⟨part, same, sublist⟩ := List.sublistForall₂_iff.mp matched
  refine List.sublistForall₂_iff.mpr ⟨part ++ [b], ?_, sublist.append_right [b]⟩
  exact List.rel_append same (.cons related .nil)

end Matching

/-- A procedure that leaves the outlets alone, however it ends. -/
abbrev Sealed {α : Type} (body : Py α) : Prop :=
  Within (fun s s' : Sidecar => s'.outlets = s.outlets) body

namespace Sealed

variable {α β : Type}

theorem bind {x : Py α} {f : α → Py β} (first : Sealed x) (second : ∀ a, Sealed (f a))
    : Sealed (x >>= f) :=
  Within.bind (fun same next => next.trans same) first second

theorem faithful {body : Py α} (within : Sealed body)
    : Keeps Sidecar.Faithful body Sidecar.Faithful :=
  .of_within within fun faithful same => faithful.unseen same

end Sealed

theorem sealed_outsideCall : Sealed outsideCall := by
  refine .bind (fun _ => rfl) fun s => ?_
  split
  · exact fun _ => rfl
  · refine .bind (fun _ => rfl) fun _ => ?_
    split <;> exact fun _ => rfl

theorem sealed_outsideAnswer : Sealed outsideAnswer :=
  Within.attempt (fun same next => next.trans same)
    (Sealed.bind sealed_outsideCall fun _ _ => rfl) fun _ _ => rfl

theorem sealed_newSock : Sealed newSock :=
  .bind sealed_outsideCall fun _ _ => rfl

theorem faithful_evictSpoofSock : Keeps Sidecar.Faithful evictSpoofSock Sidecar.Faithful := by
  refine .readThen fun s _ => ?_
  split
  · split
    · exact .pure fun _ faithful => faithful
    case h_2 oldKey oldSock _ _ =>
      refine .update fun t faithful => ⟨fun {key sock} found => ?_, faithful.delivered⟩
      simp only [Dict.get?_erase] at found
      split at found
      · cases found
      · exact faithful.sockets found
  · exact .pure fun _ faithful => faithful

/-- `bind` succeeds, or the socket is replaced by a generic one. -/
theorem serves_bindOrFallback (key : Ip × Nat) (id : Nat)
    : Triple Sidecar.Faithful (bindOrFallback key id)
        (fun sock s => s.Faithful ∧ sock.Serves key) Sidecar.Faithful := by
  refine sealed_outsideAnswer.faithful.bind fun bound => ?_
  split
  · exact .pure fun _ faithful => ⟨faithful, .inl rfl⟩
  · exact sealed_newSock.faithful.bind fun _ =>
      sealed_outsideCall.faithful.bind fun _ => .pure fun _ faithful =>
        ⟨faithful, .inr rfl⟩

theorem serves_getSpoofSock (key : Ip × Nat)
    : Triple Sidecar.Faithful (getSpoofSock key) (fun sock s => s.Faithful ∧ sock.Serves key)
        Sidecar.Faithful := by
  refine .readThen fun s faithful => ?_
  split
  case h_1 sock found =>
    have moves : Triple Sidecar.Faithful
        (update fun s => { s with spoofSockets := s.spoofSockets.moveToEnd key } : Py Unit)
        (fun _ => Sidecar.Faithful) Sidecar.Faithful :=
      .update fun t faithful => ⟨fun found => faithful.sockets (by simpa using found),
        faithful.delivered⟩
    exact moves.bind fun _ => .pure fun _ after => ⟨after, faithful.sockets found⟩
  case h_2 =>
    refine faithful_evictSpoofSock.bind fun _ => sealed_newSock.faithful.bind fun id => ?_
    refine sealed_outsideCall.faithful.bind fun _ => (serves_bindOrFallback key id).bind
      fun sock => ?_
    have caches : Triple (fun s => s.Faithful ∧ sock.Serves key)
        (update fun s => { s with spoofSockets := s.spoofSockets.set key sock } : Py Unit)
        (fun _ s => s.Faithful ∧ sock.Serves key) Sidecar.Faithful := by
      refine .update ?_
      rintro t ⟨faithful, serves⟩
      refine ⟨⟨fun {other kept} found => ?_, faithful.delivered⟩, serves⟩
      simp only [Dict.get?_set] at found
      split at found
      case isTrue here =>
        obtain rfl := Option.some.inj found
        exact here ▸ serves
      case isFalse => exact faithful.sockets found
    exact caches.bind fun _ => .pure fun _ after => after

-----------------------------------------------------------------------------------------
-- Sending
-----------------------------------------------------------------------------------------

/-- A procedure that leaves alone what has been sent and what has been delivered. -/
abbrev Unsent {α : Type} (body : Py α) : Prop :=
  Within (fun s s' : Sidecar =>
    s'.trace.spoofed = s.trace.spoofed ∧ s'.trace.delivered = s.trace.delivered) body

namespace Unsent

variable {α β : Type}

theorem bind {x : Py α} {f : α → Py β} (first : Unsent x) (second : ∀ a, Unsent (f a))
    : Unsent (x >>= f) :=
  Within.bind (fun same next => ⟨next.1.trans same.1, next.2.trans same.2⟩) first second

theorem of_sealed {body : Py α} (within : Sealed body) : Unsent body := fun s =>
  ⟨congrArg Outlets.spoofed (within s), congrArg Outlets.delivered (within s)⟩

theorem readBind {f : Sidecar → Py β} (second : ∀ s, Unsent (f s)) : Unsent (read >>= f) :=
  bind (fun _ => ⟨rfl, rfl⟩) second

end Unsent

theorem unsent_getSpoofSock (key : Ip × Nat) : Unsent (getSpoofSock key) := by
  have evicts : Unsent evictSpoofSock := by
    refine .readBind fun s => ?_
    split
    · split <;> exact fun _ => ⟨rfl, rfl⟩
    · exact fun _ => ⟨rfl, rfl⟩
  have falls (id : Nat) : Unsent (bindOrFallback key id) := by
    refine .bind (.of_sealed sealed_outsideAnswer) fun bound => ?_
    split
    · exact fun _ => ⟨rfl, rfl⟩
    · exact .bind (.of_sealed sealed_newSock) fun _ =>
        .bind (.of_sealed sealed_outsideCall) fun _ _ => ⟨rfl, rfl⟩
  refine .readBind fun s => ?_
  split
  · exact .bind (fun _ => ⟨rfl, rfl⟩) fun _ _ => ⟨rfl, rfl⟩
  · exact .bind evicts fun _ => .bind (.of_sealed sealed_newSock) fun _ =>
      .bind (.of_sealed sealed_outsideCall) fun _ => .bind (falls _) fun _ =>
        .bind (fun _ => ⟨rfl, rfl⟩) fun _ _ => ⟨rfl, rfl⟩

/-- On the way to a delivery: nothing has been sent since `past`, on sockets that serve their keys.
-/
structure Sidecar.Pending (past s : Sidecar) : Prop where
  faithful : s.Faithful
  spoofed : s.trace.spoofed = past.trace.spoofed
  delivered : s.trace.delivered = past.trace.delivered

/-- Since `past` one payload has been sent, on a socket that serves `key`. -/
structure Sidecar.Sends (past s : Sidecar) (sock : SpoofSock) (key : Ip × Nat) (payload : Bytes)
    (dst : Ip × Nat)
    : Prop where
  faithful : s.Faithful
  serves : sock.Serves key
  spoofed : s.trace.spoofed = past.trace.spoofed ++ [(sock, payload, dst)]
  delivered : s.trace.delivered = past.trace.delivered

theorem pending_getSpoofSock (past : Sidecar) (key : Ip × Nat)
    : Triple (Sidecar.Pending past) (getSpoofSock key)
        (fun sock s => Sidecar.Pending past s ∧ sock.Serves key) (Sidecar.Pending past) := by
  have both := (serves_getSpoofSock key).alongside (unsent_getSpoofSock key)
    (fun same next => ⟨next.1.trans same.1, next.2.trans same.2⟩) past
  exact both.weaken (fun _ before => ⟨before.faithful, before.spoofed, before.delivered⟩)
    (fun _ _ after => ⟨⟨after.1.1, after.2.1, after.2.2⟩, after.1.2⟩)
    fun _ after => ⟨after.1, after.2.1, after.2.2⟩

/-- What is sent is logged with the socket that serves its sender. -/
theorem sends_spoofSendto (past : Sidecar) (sock : SpoofSock) (key : Ip × Nat) (payload : Bytes)
    (dst : Ip × Nat)
    : Triple (fun s => Sidecar.Pending past s ∧ sock.Serves key) (spoofSendto sock payload dst)
        (fun _ s => Sidecar.Sends past s sock key payload dst) (Sidecar.Pending past) := by
  have calls : Triple (fun s => Sidecar.Pending past s ∧ sock.Serves key) outsideCall
      (fun _ s => Sidecar.Pending past s ∧ sock.Serves key)
      (fun s => Sidecar.Pending past s ∧ sock.Serves key) := by
    refine .of_within sealed_outsideCall fun before same => ⟨⟨?_, ?_, ?_⟩, before.2⟩
    · exact before.1.faithful.unseen same
    · exact (congrArg Outlets.spoofed same).trans before.1.spoofed
    · exact (congrArg Outlets.delivered same).trans before.1.delivered
  have logs : Triple (fun s => Sidecar.Pending past s ∧ sock.Serves key)
      (update fun s => { s with
        trace := { s.trace with spoofed := s.trace.spoofed ++ [(sock, payload, dst)] } } : Py Unit)
      (fun _ s => Sidecar.Sends past s sock key payload dst) (Sidecar.Pending past) := by
    refine .update ?_
    rintro t ⟨pending, serves⟩
    constructor
    case faithful =>
      exact ⟨pending.faithful.sockets, matched_append_right pending.faithful.delivered _⟩
    case serves => exact serves
    case spoofed => exact congrArg (· ++ [(sock, payload, dst)]) pending.spoofed
    case delivered => exact pending.delivered
  exact (calls.weaken (fun _ before => before) (fun _ _ after => after) fun _ after =>
    after.1).bind fun _ => logs

/-- A delivery is one send, which is logged as one, or it fails and nothing is sent. -/
theorem deliver_logs (past : Sidecar) (faithful : past.Faithful) (ip : Ip) (seq : Nat) (held : Held)
    : Triple (Sidecar.Pending past) (deliver ip seq held)
        (fun _ s => s.Faithful ∧ ∃ sent,
          PeerPacket.SentAs ⟨ip, seq, held⟩ sent
          ∧ s.trace.spoofed = past.trace.spoofed ++ [sent]
          ∧ s.trace.delivered = past.trace.delivered ++ [⟨ip, seq, held⟩])
        (Sidecar.Pending past) := by
  refine (pending_getSpoofSock past _).bind fun sock =>
    (sends_spoofSendto past sock _ _ _).bind fun _ => .update ?_
  intro t sends
  have sentAs : PeerPacket.SentAs ⟨ip, seq, held⟩
      (sock, held.payload, held.localIp, held.dstPort) :=
    ⟨sends.serves, rfl⟩
  have delivered : (t.logDelivered ⟨ip, seq, held⟩).trace.delivered
      = past.trace.delivered ++ [⟨ip, seq, held⟩] := by
    rw [← sends.delivered]
    rfl
  refine ⟨⟨sends.faithful.sockets, ?_⟩, _, sentAs, sends.spoofed, delivered⟩
  rw [delivered, show (t.logDelivered ⟨ip, seq, held⟩).trace.spoofed = _ from sends.spoofed]
  exact matched_concat faithful.delivered sentAs

theorem respects_faithful : Respects (fun s s' : Sidecar => s.Faithful → s'.Faithful) := by
  have within {α : Type} {body : Py α}
      (keeps : ∀ past : Sidecar, past.Faithful →
        Triple (Sidecar.Pending past) body (fun _ => Sidecar.Faithful) Sidecar.Faithful)
      : Within (fun s s' : Sidecar => s.Faithful → s'.Faithful) body := by
    intro s faithful
    have outcome := keeps s faithful s ⟨faithful, rfl, rfl⟩
    cases stopped : body s <;> simpa [stopped, final] using outcome
  constructor
  case unseen => exact fun same faithful => faithful.unseen same
  case trans => exact fun first second faithful => second (first faithful)
  case sends =>
    refine fun key payload dst => within fun past _ => ?_
    have sends := (pending_getSpoofSock past key).bind fun sock =>
      (sends_spoofSendto past sock key payload dst).weaken (fun _ before => before)
        (fun _ _ after => after.faithful) fun _ after => after
    exact sends.weaken (fun _ before => before) (fun _ _ after => after) fun _ after =>
      after.faithful
  case delivers =>
    refine fun ip seq held => within fun past faithful => ?_
    exact (deliver_logs past faithful ip seq held).weaken (fun _ before => before)
      (fun _ _ after => after.1) fun _ after => after.faithful

/-- Every delivery that a sidecar counts is a send to its app, as if by the sender of the packet. -/
theorem Sidecar.Run.faithful (run : s.Run cfg) : s.Faithful := by
  induction run with
  | start starts =>
      obtain ⟨isServer, cache, rfl, -⟩ := starts.started
      exact ⟨fun found => by simp [Sidecar.started] at found, .nil⟩
  | @call s next callback host _ returned ih =>
      have before : ({ s with host } : Sidecar).Faithful := ih.unseen rfl
      exact (respects_faithful.run cfg callback).ok (Sidecar.call_eq_some.mp returned) before

end MeshSnapshot
