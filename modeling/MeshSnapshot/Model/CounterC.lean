import MeshSnapshot.Library.Scanf
import MeshSnapshot.Model.Counter

/-! `counter.c`: the same node in C. One iteration of the loop of `node`, on the datagram that
`recvfrom` returned. A character stands for a byte. A sum that leaves the range of an `int`, which
C does not define, is reduced modulo `2 ^ 32`.
-/

namespace MeshSnapshot.CounterC

open Counter Procedure Scanf Text

/-- How the calls that leave the process turn out during one iteration. -/
structure Answers where
  /-- The port of the address that `getaddrinfo` finds for a host and a service. -/
  resolves : List Char → List Char → Option Int
  /-- A service that is the number of a port is that port. -/
  numeric : ∀ host port found,
    0 ≤ port → port ≤ 65535 → resolves host (str port) = some found → found = port
  /-- `socket` returns. -/
  opens : Bool := true
  /-- The `sendto` of `send_udp` accepts the datagram. -/
  sends : Bool := true
  /-- The `sendto` of the reply accepts it. -/
  replies : Bool := true

/-- A procedure of the node, which raises the status with which it calls `exit`. -/
abbrev Act := Procedure Int Node

/-- What `snprintf` leaves of a text in a buffer of `BUF` bytes. -/
def truncate (text : List Char) : List Char := text.take (bufferSize - 1)

def print (line : List Char) : Act Unit :=
  update fun node => { node with printed := node.printed ++ [line] }

/-- `send_reply`, which ignores the result of `sendto`. -/
def sendReply (answers : Answers) (text : List Char) : Act Unit :=
  if answers.replies then
    update fun node => { node with replied := node.replied ++ [truncate text] }
  else
    pure ()

/-- `send_udp`. It ends the process when the host cannot be resolved. -/
def sendUdp (answers : Answers) (host port msg : List Char) : Act Int :=
  match answers.resolves host port with
  | none => raise 1
  | some found =>
      if answers.opens then
        if answers.sends then do
          update fun node => { node with sent := node.sent ++ [⟨host, found, msg⟩] }
          pure 0
        else
          pure (-1)
      else
        raise 1

def credit (answers : Answers) (txid fromNode : List Char) (amount : Int) : Act Unit := do
  update fun node => { node with counter := toInt (node.counter + amount) }
  let node ← read
  print (node.name ++ " CREDIT tx=".toList ++ txid ++ " from=".toList ++ fromNode
    ++ " amount=".toList ++ str amount ++ " counter=".toList ++ str node.counter)
  sendReply answers ("OK CREDIT ".toList ++ txid)

def transfer (answers : Answers) (txid host peerPort : List Char) (amount : Int) : Act Unit := do
  update fun node => { node with counter := toInt (node.counter - amount) }
  let node ← read
  print (node.name ++ " DEBIT tx=".toList ++ txid ++ " to=".toList ++ host
    ++ ":".toList ++ peerPort ++ " amount=".toList ++ str amount ++ " counter=".toList
    ++ str node.counter)
  let _ ← sendUdp answers host peerPort (truncate (creditMsg txid node.name amount))
  sendReply answers ("OK TRANSFER ".toList ++ txid)

def reset (answers : Answers) (amount : Int) : Act Unit := do
  update fun node => { node with counter := amount }
  let node ← read
  print (node.name ++ " RESET amount=".toList ++ str amount ++ " counter=".toList
    ++ str node.counter)
  sendReply answers "OK RESET".toList

/-- `"CREDIT %127s %63s %d"` -/
def creditFormat : List Directive :=
  chars "CREDIT".toList ++ [.space, .word 127, .space, .word 63, .space, .int]

/-- `"TRANSFER %127s %255s %31s %d"` -/
def transferFormat : List Directive :=
  chars "TRANSFER".toList
    ++ [.space, .word 127, .space, .word 255, .space, .word 31, .space, .int]

/-- `"RESET %d"` -/
def resetFormat : List Directive := chars "RESET".toList ++ [.space, .int]

/-- The branches of `node` on the text in its buffer. -/
def dispatch (answers : Answers) (buf : List Char) : Act Unit :=
  if "STATE".toList.isPrefixOf buf then do
    let node ← read
    sendReply answers ("STATE ".toList ++ node.name ++ " counter=".toList ++ str node.counter)
  else
    match scan creditFormat buf with
    | [.word txid, .word fromNode, .int amount] => credit answers txid fromNode amount
    | _ =>
        match scan transferFormat buf with
        | [.word txid, .word host, .word peerPort, .int amount] =>
            transfer answers txid host peerPort amount
        | _ =>
            match scan resetFormat buf with
            | [.int amount] => reset answers amount
            | _ => sendReply answers "ERR".toList

/-- The string in the buffer, which ends at the first zero byte. -/
def buffered (data : Bytes) : List Char :=
  ((data.take (bufferSize - 1)).map fun byte => Char.ofNat byte.toNat).takeWhile (·.toNat ≠ 0)

/-- A node after the iteration on `data`, unless the process has ended. What it has sent is that of
this iteration.
-/
def after (answers : Answers) (node : Node) (data : Bytes) : Option Node :=
  (returned? (dispatch answers (buffered data) { node with sent := [] })).map Prod.snd

end MeshSnapshot.CounterC
