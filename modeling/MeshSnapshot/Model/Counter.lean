import MeshSnapshot.Library.Procedure
import MeshSnapshot.Library.Text
import MeshSnapshot.Model.Controller

/-! `counter.py`: one iteration of the loop of `node`, on the datagram that `recvfrom` returned. -/

namespace MeshSnapshot.Counter

open Procedure Text

/-- `BUF` -/
def bufferSize : Nat := 512

/-- How the calls that leave the process turn out during one iteration. -/
structure Answers where
  /-- `print` returns. -/
  prints : Bool := true
  /-- The host of a `send_udp` call is resolved and its `sendto` accepts the datagram. -/
  sends : Bool := true
  /-- The `sendto` of the reply returns. -/
  replies : Bool := true

/-- A datagram that `send_udp` has sent. -/
structure Send where
  host : List Char
  port : Int
  msg : List Char
deriving DecidableEq

structure Node where
  name : List Char
  counter : Int
  printed : List (List Char) := []
  sent : List Send := []
  replied : List (List Char) := []
deriving DecidableEq

inductive Failure where
  | unicodeDecodeError
  | valueError
  | overflowError
  | osError

abbrev Act := Procedure Failure Node

/-- `text.encode('utf-8')` -/
def encode (text : List Char) : Bytes := (String.ofList text).toByteArray.data.toList

def decode (bytes : Bytes) : Act (List Char) :=
  match decode? bytes with
  | some text => pure text.toList
  | none => raise .unicodeDecodeError

def int (text : List Char) : Act Int :=
  match int? text with
  | some value => pure value
  | none => raise .valueError

def print (answers : Answers) (line : List Char) : Act Unit :=
  if answers.prints then update fun node => { node with printed := node.printed ++ [line] }
  else raise .osError

def reply (answers : Answers) (text : List Char) : Act Unit :=
  if answers.replies then update fun node => { node with replied := node.replied ++ [text] }
  else raise .osError

/-- `send_udp`. Its callers do not look at the result. -/
def sendUdp (answers : Answers) (host port msg : List Char) : Act Int :=
  attempt
    (do
      let port ← int port
      if port < 0 ∨ 65535 < port then
        raise .overflowError
      else if answers.sends then
        update fun node => { node with sent := node.sent ++ [⟨host, port, msg⟩] }
        pure 0
      else
        raise .osError)
    (fun _ => pure (-1))

/-- `f"CREDIT {txid} {name} {amount}"` -/
def creditMsg (txid name : List Char) (amount : Int) : List Char :=
  "CREDIT ".toList ++ (txid ++ ' ' :: (name ++ ' ' :: str amount))

def credit (answers : Answers) (parts : List (List Char)) : Act Unit :=
  match parts with
  | _ :: txid :: fromNode :: amountText :: _ => do
      let amount ← int amountText
      update fun node => { node with counter := node.counter + amount }
      let node ← read
      print answers (node.name ++ " CREDIT tx=".toList ++ txid ++ " from=".toList ++ fromNode
        ++ " amount=".toList ++ str amount ++ " counter=".toList ++ str node.counter)
      reply answers ("OK CREDIT ".toList ++ txid)
  | _ => pure ()

def transfer (answers : Answers) (parts : List (List Char)) : Act Unit :=
  match parts with
  | _ :: txid :: host :: peerPort :: amountText :: _ => do
      let amount ← int amountText
      update fun node => { node with counter := node.counter - amount }
      let node ← read
      print answers (node.name ++ " DEBIT tx=".toList ++ txid ++ " to=".toList ++ host
        ++ ":".toList ++ peerPort ++ " amount=".toList ++ str amount ++ " counter=".toList
        ++ str node.counter)
      let _ ← sendUdp answers host peerPort (creditMsg txid node.name amount)
      reply answers ("OK TRANSFER ".toList ++ txid)
  | _ => pure ()

def reset (answers : Answers) (parts : List (List Char)) : Act Unit :=
  match parts with
  | _ :: amountText :: _ => do
      let amount ← int amountText
      update fun node => { node with counter := amount }
      let node ← read
      print answers (node.name ++ " RESET amount=".toList ++ str amount ++ " counter=".toList
        ++ str node.counter)
      reply answers "OK RESET".toList
  | _ => pure ()

/-- The branches of `node` on the text of a datagram. -/
def dispatch (answers : Answers) (text : List Char) : Act Unit :=
  if "STATE".toList.isPrefixOf text then do
    let node ← read
    reply answers ("STATE ".toList ++ node.name ++ " counter=".toList ++ str node.counter)
  else if "CREDIT ".toList.isPrefixOf text then
    credit answers (split text)
  else if "TRANSFER ".toList.isPrefixOf text then
    transfer answers (split text)
  else if "RESET ".toList.isPrefixOf text then
    reset answers (split text)
  else
    reply answers "ERR".toList

/-- One iteration of the loop: `except Exception: pass` keeps what was done before the exception.
A datagram longer than the buffer is truncated by `recvfrom`.
-/
def iteration (answers : Answers) (data : Bytes) : Act Unit :=
  attempt
    (do
      let text ← decode (data.take bufferSize)
      dispatch answers text)
    (fun _ => pure ())

/-- A node after the iteration on `data`. What it has sent is that of this iteration. -/
def Node.after (node : Node) (answers : Answers) (data : Bytes) : Node :=
  final (iteration answers data { node with sent := [] })

end MeshSnapshot.Counter
