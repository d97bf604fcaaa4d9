import MeshSnapshot.Counter.Conservation
import MeshSnapshot.Model.CounterClient

/-! `sum_counters`: what a client reads is what a node counts, and the loop ends with success after
the first round in which enough rounds in a row have added up.
-/

namespace MeshSnapshot.Counter

open Procedure Text

-----------------------------------------------------------------------------------------
-- Reading one counter
-----------------------------------------------------------------------------------------

/-- `f"STATE {name} counter={counter}"` -/
def stateReply (node : Node) : List Char :=
  "STATE ".toList ++ node.name ++ " counter=".toList ++ str node.counter

/-- A name in which a client does not mistake anything for the counter, in a reply that fits the
buffer of the client.
-/
structure Node.Readable (node : Node) : Prop where
  keyless : find? counterKey node.name = none
  fits : (encode (stateReply node)).length ≤ bufferSize

/-- A node answers `STATE` with one reply. -/
theorem replied_state (node : Node)
    : (node.after {} (encode "STATE".toList)).replied = node.replied ++ [stateReply node] := by
  have whole : (encode "STATE".toList).take bufferSize = encode "STATE".toList := by decide
  rw [Node.after, final_iteration, whole, decode?_encode]
  rfl

theorem ask_some (node : Node) : ask (some node) = .answered (encode (stateReply node)) := by
  rw [ask, replied_state, List.drop_left]

/-- The value after two words, neither of which contains the key. -/
theorem readCounter_third {first second : List Char} (absent : find? counterKey first = none)
    (keyless : find? counterKey second = none) (value : Int)
    : readCounter (first ++ ' ' :: (second ++ ' ' :: (counterKey ++ str value))) = some value := by
  have found : find? counterKey (first ++ ' ' :: (second ++ ' ' :: (counterKey ++ str value)))
      = some (second.length + 1 + (first.length + 1)) := by
    rw [find?_append_cons (by decide) (by decide) absent,
      find?_append_cons (by decide) (by decide) keyless, find?_self_append, Option.map_some,
      Option.map_some, Nat.zero_add]
  have rest : (first ++ ' ' :: (second ++ ' ' :: (counterKey ++ str value))).drop
        (second.length + 1 + (first.length + 1) + counterKey.length)
      = str value := by
    have front : first ++ ' ' :: (second ++ ' ' :: (counterKey ++ str value))
        = (first ++ ' ' :: (second ++ ' ' :: counterKey)) ++ str value := by
      simp only [List.append_assoc, List.cons_append]
    rw [front]
    refine List.drop_left' ?_
    simp only [List.length_append, List.length_cons]
    omega
  rw [readCounter, found, Option.bind_some, rest, split_token (isToken_str _)]
  exact int?_str _

theorem stateReply_eq (node : Node)
    : stateReply node
      = "STATE".toList ++ ' ' :: (node.name ++ ' ' :: (counterKey ++ str node.counter)) := by
  have first : "STATE ".toList = "STATE".toList ++ [' '] := by decide
  have second : " counter=".toList = ' ' :: counterKey := by decide
  unfold stateReply
  rw [first, second]
  generalize "STATE".toList = state
  simp only [List.append_assoc, List.cons_append, List.nil_append]

theorem getCounter_ask {node : Node} (readable : node.Readable)
    : getCounter (ask (some node)) = .ok (some node.counter) := by
  have nonempty : stateReply node ≠ [] := by
    rw [stateReply_eq]
    exact List.append_ne_nil_of_left_ne_nil (by decide) _
  have whole : (encode (stateReply node)).take bufferSize = encode (stateReply node) :=
    List.take_of_length_le readable.fits
  have asked : requestUdp (ask (some node)) = .ok (some (stateReply node)) := by
    rw [ask_some, requestUdp, whole, decode?_encode, Option.map_some, String.toList_ofList]
  rw [getCounter, asked]
  change Except.ok (if stateReply node = [] then none else readCounter (stateReply node)) = _
  rw [if_neg nonempty, stateReply_eq, readCounter_third (by decide) readable.keyless]

-- a client takes the number in such a name for the counter
example : readCounter (stateReply { name := "counter=5".toList, counter := 7 }) = some 5 := by
  decide

-----------------------------------------------------------------------------------------
-- The loop
-----------------------------------------------------------------------------------------

/-- How many rounds in a row have succeeded before round `n`. -/
def streak (succeeds : Nat → Bool) : Nat → Nat
  | 0 => 0
  | n + 1 => if succeeds n then streak succeeds n + 1 else 0

/-- Round `n` has read three counters, and they add up. -/
def passes (rounds : Nat → Round) (expected : Int) (n : Nat) : Bool :=
  match (rounds n).read with
  | .ok reading => reading.total? == some expected
  | .error _ => false

/-- Round `n` has read three counters. -/
def reads (rounds : Nat → Round) (n : Nat) : Bool :=
  match (rounds n).read with
  | .ok reading => reading.total?.isSome
  | .error _ => false

/-- Round `k` is run, and after it enough rounds in a row have passed. -/
def Settles (expected timeoutMs stableNeeded : Int) (rounds : Nat → Round) (k : Nat) : Prop :=
  100 * (k : Int) ≤ timeoutMs ∧ reads rounds k = true
  ∧ stableNeeded ≤ streak (passes rounds expected) (k + 1)

/-- The nodes as they answer in one round, where a node whose answer is lost is missing. -/
structure Poll where
  a : Option Node
  b : Option Node
  c : Option Node

structure Poll.Readable (poll : Poll) : Prop where
  a : ∀ node ∈ poll.a, node.Readable
  b : ∀ node ∈ poll.b, node.Readable
  c : ∀ node ∈ poll.c, node.Readable

def Poll.round (poll : Poll) : Round := ⟨ask poll.a, ask poll.b, ask poll.c⟩

/-- The sum of the three counters, if all nodes answer. -/
def Poll.sum? (poll : Poll) : Option Int := do
  let a ← poll.a
  let b ← poll.b
  let c ← poll.c
  pure (a.counter + b.counter + c.counter)

theorem getCounter_of_readable {node : Option Node} (readable : ∀ known ∈ node, known.Readable)
    : getCounter (ask node) = .ok (node.map Node.counter) := by
  cases node with
  | none => rfl
  | some node => exact getCounter_ask (readable node rfl)

theorem Poll.Readable.read {poll : Poll} (readable : poll.Readable)
    : ∃ reading, poll.round.read = .ok reading ∧ reading.total? = poll.sum? := by
  refine ⟨⟨poll.a.map Node.counter, poll.b.map Node.counter, poll.c.map Node.counter⟩, ?_, ?_⟩
  · simp only [Round.read, Poll.round, getCounter_of_readable readable.a,
      getCounter_of_readable readable.b, getCounter_of_readable readable.c]
    rfl
  · obtain ⟨a, b, c⟩ := poll
    cases a <;> cases b <;> cases c <;> rfl

end MeshSnapshot.Counter
