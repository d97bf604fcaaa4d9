import MeshSnapshot.Model.Counter

/-! The clients of `counter.py`: one request to a node, and `sum_counters`, which asks three nodes
in turn until the sum of their counters has been right often enough.
-/

namespace MeshSnapshot.Counter

open Procedure Text

/-- How the exchange of one `request_udp` call turns out. -/
inductive Exchange where
  /-- The socket cannot be opened or bound. -/
  | unbound
  /-- A later call raises, or no reply arrives in time. -/
  | silent
  | answered (data : Bytes)

/-- `request_udp`. An `OSError` from outside its `try` reaches the caller. -/
def requestUdp : Exchange → Except Failure (Option (List Char))
  | .unbound => .error .osError
  | .silent => .ok none
  | .answered data => .ok ((decode? (data.take bufferSize)).map String.toList)

def counterKey : List Char := "counter=".toList

/-- `int(reply[idx + len("counter="):].split()[0])`, where an exception yields `None`. -/
def readCounter (reply : List Char) : Option Int :=
  (find? counterKey reply).bind fun idx =>
    (split (reply.drop (idx + counterKey.length))).head?.bind int?

def getCounter (exchange : Exchange) : Except Failure (Option Int) := do
  let reply ← requestUdp exchange
  pure (reply.bind fun reply => if reply = [] then none else readCounter reply)

/-- The three exchanges of one round of `sum_counters`. -/
structure Round where
  a : Exchange
  b : Exchange
  c : Exchange

structure Reading where
  a : Option Int
  b : Option Int
  c : Option Int

def Round.read (round : Round) : Except Failure Reading := do
  let a ← getCounter round.a
  let b ← getCounter round.b
  let c ← getCounter round.c
  pure ⟨a, b, c⟩

/-- The sum of three counters that have all been read. -/
def Reading.total? (reading : Reading) : Option Int := do
  let a ← reading.a
  let b ← reading.b
  let c ← reading.c
  pure (a + b + c)

def showName (name : String) (value : Option Int) : List Char :=
  if value.isNone then name.toList else []

/-- What a round prints. -/
def Reading.line (reading : Reading) (expected : Int) : List Char :=
  match reading with
  | ⟨some a, some b, some c⟩ =>
      "SUM a=".toList ++ str a ++ " b=".toList ++ str b ++ " c=".toList ++ str c
        ++ " total=".toList ++ str (a + b + c) ++ " expected=".toList ++ str expected ++ ' '
        :: (if a + b + c = expected then "PASS" else "FAIL").toList
  | ⟨a, b, c⟩ =>
      "SUM waiting for nodes: ".toList ++ showName "a" a ++ ' ' :: showName "b" b ++ ' '
        :: showName "c" c

/-- The exchange in which a node is asked for its `STATE`, unless a datagram is lost. -/
def ask : Option Node → Exchange
  | none => .silent
  | some node =>
      match (node.after {} (encode "STATE".toList)).replied.drop node.replied.length with
      | [reply] => .answered (encode reply)
      | _ => .silent

end MeshSnapshot.Counter
