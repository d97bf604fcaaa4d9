import Mathlib.Data.List.Basic
import Mathlib.Data.Set.Insert
import Mathlib.Logic.Function.Basic

/-! A selective-repeat link over a network that loses, duplicates and reorders. The network
is the set of all copies ever sent, so that losing one is never receiving it. The receiver
may hold one message in hand while it passes it on.
-/

namespace MeshSnapshot.SelectiveRepeat

variable {α : Type}

-----------------------------------------------------------------------------------------
-- The link and its moves
-----------------------------------------------------------------------------------------

/-- One direction between a sender and a receiver. -/
@[ext]
structure Link (α : Type) where
  /-- Messages handed to the sender, at their sequence numbers. -/
  log : List α
  unacked : Set Nat
  data : Set (Nat × α)
  acks : Set Nat
  next : Nat
  buffer : Nat → Option α
  hand : Option α
  /-- Messages the receiver has passed on, in order. -/
  passed : List α

namespace Link

/-- Nothing has been sent, except a common history that both ends have behind them. -/
def start (history : List α) : Link α where
  log := history
  unacked := ∅
  data := ∅
  acks := ∅
  next := history.length
  buffer := fun _ => none
  hand := none
  passed := history

def send (link : Link α) (message : α) : Link α :=
  { link with
    log := link.log ++ [message]
    unacked := insert link.log.length link.unacked
    data := insert (link.log.length, message) link.data }

/-- Put another copy of a logged message on the network. -/
def resend (link : Link α) (seq : Nat) (message : α) : Link α :=
  { link with data := insert (seq, message) link.data }

/-- Take the next message from the network. -/
def takeData (link : Link α) (message : α) : Link α :=
  { link with hand := some message }

/-- Take the next message out of the buffer. -/
def takeBuffered (link : Link α) (message : α) : Link α :=
  { link with
    buffer := Function.update link.buffer link.next none
    hand := some message }

def pass (link : Link α) (message : α) : Link α :=
  { link with
    next := link.next + 1
    hand := none
    passed := link.passed ++ [message] }

def hold (link : Link α) (seq : Nat) (message : α) : Link α :=
  { link with buffer := Function.update link.buffer seq (some message) }

def acknowledge (link : Link α) (seq : Nat) : Link α :=
  { link with acks := insert seq link.acks }

def confirm (link : Link α) (seq : Nat) : Link α :=
  { link with unacked := link.unacked \ {seq} }

/-- The receiver has a message, whether or not it has passed it on. -/
def Received (link : Link α) (seq : Nat) : Prop :=
  seq < link.next ∨ (∃ message, link.buffer seq = some message)
  ∨ (seq = link.next ∧ ∃ message, link.hand = some message)

-----------------------------------------------------------------------------------------
-- The invariant
-----------------------------------------------------------------------------------------

/-- Every copy anywhere is a copy of the logged message at its number, and every logged
message is either unacknowledged or received.
-/
structure Inv (link : Link α) : Prop where
  dataLogged : ∀ {seq message}, (seq, message) ∈ link.data → link.log[seq]? = some message
  unackedLogged : ∀ {seq}, seq ∈ link.unacked → seq < link.log.length
  bufferLogged
    : ∀ {seq message},
        link.buffer seq = some message → link.log[seq]? = some message ∧ link.next ≤ seq
  handLogged : ∀ {message}, link.hand = some message → link.log[link.next]? = some message
  acksReceived : ∀ {seq}, seq ∈ link.acks → link.Received seq
  covered : ∀ {seq}, seq < link.log.length → seq ∈ link.unacked ∨ link.Received seq
  passedLogged : link.passed = link.log.take link.next
  nextBound : link.next ≤ link.log.length

variable {link : Link α}

theorem Inv.start (history : List α) : Inv (start history) where
  dataLogged := by simp [Link.start]
  unackedLogged := by simp [Link.start]
  bufferLogged := by simp [Link.start]
  handLogged := by simp [Link.start]
  acksReceived := by simp [Link.start]
  covered := fun bound => Or.inr (Or.inl bound)
  passedLogged := by simp [Link.start]
  nextBound := Nat.le_refl _

/-- A logged message keeps its number when the log grows. -/
private theorem getElem?_append_some {log : List α} {seq : Nat} {message : α} (more : List α)
    (found : log[seq]? = some message) : (log ++ more)[seq]? = some message := by
  obtain ⟨bound, -⟩ := List.getElem?_eq_some_iff.mp found
  rw [List.getElem?_append_left bound, found]

theorem Inv.send (inv : Inv link) (message : α) : Inv (link.send message) where
  dataLogged := by
    intro seq copy member
    rcases Set.mem_insert_iff.mp member with same | earlier
    · obtain ⟨rfl, rfl⟩ := Prod.mk.inj same
      simp [Link.send]
    · exact getElem?_append_some _ (inv.dataLogged earlier)
  unackedLogged := by
    intro seq member
    simp only [Link.send, List.length_append, List.length_singleton]
    rcases Set.mem_insert_iff.mp member with rfl | earlier
    · omega
    · exact Nat.lt_succ_of_lt (inv.unackedLogged earlier)
  bufferLogged := fun found =>
    ⟨getElem?_append_some _ (inv.bufferLogged found).1, (inv.bufferLogged found).2⟩
  handLogged := fun found => getElem?_append_some _ (inv.handLogged found)
  acksReceived := inv.acksReceived
  covered := by
    intro seq bound
    simp only [Link.send, List.length_append, List.length_singleton] at bound
    by_cases last : seq = link.log.length
    · exact Or.inl (Set.mem_insert_iff.mpr (Or.inl last))
    · exact (inv.covered (by omega)).imp_left (Set.mem_insert_of_mem _)
  passedLogged := by
    simp only [Link.send]
    rw [inv.passedLogged, List.take_append_of_le_length inv.nextBound]
  nextBound := by
    have := inv.nextBound
    simp only [Link.send, List.length_append, List.length_singleton]
    omega

theorem Inv.resend (inv : Inv link) {seq : Nat} {message : α}
    (logged : link.log[seq]? = some message) : Inv (link.resend seq message) where
  dataLogged := by
    intro other copy member
    rcases Set.mem_insert_iff.mp member with same | earlier
    · obtain ⟨rfl, rfl⟩ := Prod.mk.inj same
      exact logged
    · exact inv.dataLogged earlier
  unackedLogged := inv.unackedLogged
  bufferLogged := inv.bufferLogged
  handLogged := inv.handLogged
  acksReceived := inv.acksReceived
  covered := inv.covered
  passedLogged := inv.passedLogged
  nextBound := inv.nextBound

/-- Taking the next message from the network needs no acknowledgement of its own. -/
theorem Inv.takeData (inv : Inv link) {message : α} (empty : link.hand = none)
    (copy : (link.next, message) ∈ link.data) : Inv (link.takeData message) where
  dataLogged := inv.dataLogged
  unackedLogged := inv.unackedLogged
  bufferLogged := inv.bufferLogged
  handLogged := by
    rintro _ ⟨⟩
    exact inv.dataLogged copy
  acksReceived := fun member => by
    rcases inv.acksReceived member with past | held | ⟨-, _, taken⟩
    · exact Or.inl past
    · exact Or.inr (Or.inl held)
    · simp [empty] at taken
  covered := fun bound => (inv.covered bound).imp_right (fun received => by
    rcases received with past | held | ⟨-, _, taken⟩
    · exact Or.inl past
    · exact Or.inr (Or.inl held)
    · simp [empty] at taken)
  passedLogged := inv.passedLogged
  nextBound := inv.nextBound

/-- The message in hand, if there is one, may be taken from the network again. -/
theorem Inv.retake (inv : Inv link) {message : α} (copy : (link.next, message) ∈ link.data)
    : Inv (link.takeData message) := by
  have stays {seq : Nat} (received : link.Received seq)
      : (link.takeData message).Received seq := by
    rcases received with past | held | ⟨same, -⟩
    · exact Or.inl past
    · exact Or.inr (Or.inl held)
    · exact Or.inr (Or.inr ⟨same, message, rfl⟩)
  constructor
  case handLogged =>
    rintro _ ⟨⟩
    exact inv.dataLogged copy
  case acksReceived => exact fun member => stays (inv.acksReceived member)
  case covered => exact fun bound => (inv.covered bound).imp_right stays
  case dataLogged => exact inv.dataLogged
  case unackedLogged => exact inv.unackedLogged
  case bufferLogged => exact inv.bufferLogged
  case passedLogged => exact inv.passedLogged
  case nextBound => exact inv.nextBound

/-- A message that leaves the buffer is in hand, so it stays received. -/
private theorem Received.takeBuffered {seq : Nat} {message : α} (empty : link.hand = none)
    (received : link.Received seq) : (link.takeBuffered message).Received seq := by
  rcases received with past | ⟨held, found⟩ | ⟨-, _, taken⟩
  · exact Or.inl past
  · by_cases first : seq = link.next
    · exact Or.inr (Or.inr ⟨first, message, rfl⟩)
    · exact Or.inr (Or.inl ⟨held, by simp [Link.takeBuffered, first, found]⟩)
  · simp [empty] at taken

theorem Inv.takeBuffered (inv : Inv link) {message : α} (empty : link.hand = none)
    (found : link.buffer link.next = some message) : Inv (link.takeBuffered message) where
  dataLogged := inv.dataLogged
  unackedLogged := inv.unackedLogged
  bufferLogged := by
    intro seq held kept
    by_cases first : seq = link.next
    · simp [Link.takeBuffered, first] at kept
    · exact inv.bufferLogged (by simpa [Link.takeBuffered, first] using kept)
  handLogged := by
    rintro _ ⟨⟩
    exact (inv.bufferLogged found).1
  acksReceived := fun member => (inv.acksReceived member).takeBuffered empty
  covered := fun bound => (inv.covered bound).imp_right (fun h => h.takeBuffered empty)
  passedLogged := inv.passedLogged
  nextBound := inv.nextBound

private theorem Received.pass {seq : Nat} {message : α} (received : link.Received seq)
    : (link.pass message).Received seq := by
  rcases received with past | held | ⟨same, -⟩
  · exact Or.inl (Nat.lt_succ_of_lt past)
  · exact Or.inr (Or.inl held)
  · exact Or.inl (by simp [Link.pass, same])

/-- Passing on the message in hand extends the passed prefix of the log by one. -/
theorem Inv.pass (inv : Inv link) {message : α} (taken : link.hand = some message)
    (absent : link.buffer link.next = none) : Inv (link.pass message) where
  dataLogged := inv.dataLogged
  unackedLogged := inv.unackedLogged
  bufferLogged := by
    intro seq held found
    obtain ⟨logged, later⟩ := inv.bufferLogged found
    refine ⟨logged, ?_⟩
    rcases Nat.lt_or_eq_of_le later with after | same
    · exact after
    · subst same
      cases absent.symm.trans found
  handLogged := by simp [Link.pass]
  acksReceived := fun member => (inv.acksReceived member).pass
  covered := fun bound => (inv.covered bound).imp_right Received.pass
  passedLogged := by
    obtain ⟨bound, value⟩ := List.getElem?_eq_some_iff.mp (inv.handLogged taken)
    simp only [Link.pass]
    rw [List.take_succ_eq_append_getElem bound, ← inv.passedLogged, value]
  nextBound := by
    obtain ⟨bound, -⟩ := List.getElem?_eq_some_iff.mp (inv.handLogged taken)
    exact bound

private theorem Received.hold {seq other : Nat} {message : α} (received : link.Received other)
    : (link.hold seq message).Received other := by
  rcases received with past | ⟨held, found⟩ | taken
  · exact Or.inl past
  · by_cases same : other = seq
    · exact Or.inr (Or.inl ⟨message, by simp [Link.hold, same]⟩)
    · exact Or.inr (Or.inl ⟨held, by simp [Link.hold, same, found]⟩)
  · exact Or.inr (Or.inr taken)

theorem Inv.hold (inv : Inv link) {seq : Nat} {message : α}
    (copy : (seq, message) ∈ link.data) (future : link.next < seq)
    : Inv (link.hold seq message) where
  dataLogged := inv.dataLogged
  unackedLogged := inv.unackedLogged
  bufferLogged := by
    intro other held found
    by_cases same : other = seq
    · subst same
      obtain rfl : message = held := by simpa [Link.hold] using found
      exact ⟨inv.dataLogged copy, Nat.le_of_lt future⟩
    · exact inv.bufferLogged (by simpa [Link.hold, same] using found)
  handLogged := inv.handLogged
  acksReceived := fun member => (inv.acksReceived member).hold
  covered := fun bound => (inv.covered bound).imp_right Received.hold
  passedLogged := inv.passedLogged
  nextBound := inv.nextBound

theorem Inv.acknowledge (inv : Inv link) {seq : Nat} (received : link.Received seq)
    : Inv (link.acknowledge seq) where
  dataLogged := inv.dataLogged
  unackedLogged := inv.unackedLogged
  bufferLogged := inv.bufferLogged
  handLogged := inv.handLogged
  acksReceived := by
    intro other member
    rcases Set.mem_insert_iff.mp member with rfl | earlier
    · exact received
    · exact inv.acksReceived earlier
  covered := inv.covered
  passedLogged := inv.passedLogged
  nextBound := inv.nextBound

/-- An acknowledged message leaves `unacked`; the acknowledgement says it was received. -/
theorem Inv.confirm (inv : Inv link) {seq : Nat} (acked : seq ∈ link.acks)
    : Inv (link.confirm seq) where
  dataLogged := inv.dataLogged
  unackedLogged := fun member => inv.unackedLogged member.1
  bufferLogged := inv.bufferLogged
  handLogged := inv.handLogged
  acksReceived := inv.acksReceived
  covered := by
    intro other bound
    by_cases same : other = seq
    · subst same
      exact Or.inr (inv.acksReceived acked)
    · exact (inv.covered bound).imp_left (fun member => ⟨member, same⟩)
  passedLogged := inv.passedLogged
  nextBound := inv.nextBound

-----------------------------------------------------------------------------------------
-- What the invariant gives
-----------------------------------------------------------------------------------------

/-- The receiver passes on a prefix of what the sender was handed. -/
theorem Inv.passed_prefix (inv : Inv link) : link.passed <+: link.log := by
  rw [inv.passedLogged]
  exact List.take_prefix _ _

/-- A message that was not passed on is unacknowledged, buffered, or in hand. -/
theorem Inv.retained (inv : Inv link) {seq : Nat} {message : α}
    (logged : link.log[seq]? = some message) (later : link.next ≤ seq)
    : seq ∈ link.unacked ∨ link.buffer seq = some message
      ∨ (seq = link.next ∧ link.hand = some message) := by
  obtain ⟨bound, -⟩ := List.getElem?_eq_some_iff.mp logged
  rcases inv.covered bound with unacked | past | ⟨held, found⟩ | ⟨rfl, held, taken⟩
  · exact .inl unacked
  · exact absurd past (Nat.not_lt.mpr later)
  · have same := (inv.bufferLogged found).1.symm.trans logged
    exact .inr (.inl (same ▸ found))
  · have same := (inv.handLogged taken).symm.trans logged
    exact .inr (.inr ⟨rfl, same ▸ taken⟩)

/-- A link without unacknowledged messages, whose receiver is at rest, is drained. -/
theorem Inv.drained (inv : Inv link) (settled : link.unacked = ∅)
    (empty : link.hand = none) (absent : link.buffer link.next = none)
    : link.next = link.log.length ∧ link.passed = link.log
      ∧ ∀ seq, link.buffer seq = none := by
  have received {seq : Nat} (bound : seq < link.log.length) : link.Received seq := by
    rcases inv.covered bound with member | received
    · simp [settled] at member
    · exact received
  have full : link.next = link.log.length := by
    refine Nat.le_antisymm inv.nextBound (Nat.not_lt.mp (fun short => ?_))
    rcases received short with past | ⟨held, found⟩ | ⟨-, _, taken⟩
    · exact Nat.lt_irrefl _ past
    · cases absent.symm.trans found
    · cases empty.symm.trans taken
  refine ⟨full, ?_, ?_⟩
  · rw [inv.passedLogged, full, List.take_length]
  · intro seq
    cases found : link.buffer seq with
    | none => rfl
    | some message =>
        obtain ⟨logged, later⟩ := inv.bufferLogged found
        obtain ⟨bound, -⟩ := List.getElem?_eq_some_iff.mp logged
        omega

end Link

end MeshSnapshot.SelectiveRepeat
