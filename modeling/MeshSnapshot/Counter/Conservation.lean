import MeshSnapshot.Model.Counter
import Mathlib.Algebra.BigOperators.Group.Finset.Basic
import Mathlib.Data.Fintype.BigOperators
import Mathlib.Tactic.Ring
import Mathlib.Algebra.BigOperators.Fin

/-! What `counter.py` conserves: the counters of all nodes and the CREDIT datagrams under way. A
TRANSFER debits before `send_udp` is called, whose result nobody looks at.
-/

namespace MeshSnapshot.Counter

open Procedure Text

/-- What a TRANSFER datagram asks for. -/
structure Transfer where
  txid : List Char
  host : List Char
  port : List Char
  amount : Int
deriving DecidableEq

/-- The transfer that the parts of a datagram name, if its amount is a number. -/
def transferOf : List (List Char) → Option Transfer
  | _ :: txid :: host :: port :: amountText :: _ =>
      (int? amountText).map fun amount => ⟨txid, host, port, amount⟩
  | _ => none

/-- The transfer that a node reads from a datagram. -/
def transfer? (data : Bytes) : Option Transfer :=
  (decode? (data.take bufferSize)).bind fun text =>
    if "TRANSFER ".toList.isPrefixOf text.toList then transferOf (split text.toList) else none

/-- A datagram that is no CREDIT and no RESET. -/
def fromClient (data : Bytes) : Bool :=
  (decode? (data.take bufferSize)).all fun text =>
    !"CREDIT ".toList.isPrefixOf text.toList && !"RESET ".toList.isPrefixOf text.toList

/-- What a call of `send_udp` sends. -/
def accepted (answers : Answers) (host port msg : List Char) : List Send :=
  match int? port with
  | some port =>
      if 0 ≤ port ∧ port ≤ 65535 ∧ answers.sends then [⟨host, port, msg⟩] else []
  | none => []

/-- What a node sends for a transfer. -/
def Transfer.sends (transfer : Transfer) (name : List Char) (answers : Answers) : List Send :=
  if answers.prints then
    accepted answers transfer.host transfer.port (creditMsg transfer.txid name transfer.amount)
  else []

/-- The line is printed, `send_udp` accepts the CREDIT of the transfer, and its receiver gets the
whole of it.
-/
def Transfer.Carried (transfer : Transfer) (name : List Char) (answers : Answers) : Prop :=
  answers.prints ∧ answers.sends
    ∧ (∃ port, int? transfer.port = some port ∧ 0 ≤ port ∧ port ≤ 65535)
    ∧ (encode (creditMsg transfer.txid name transfer.amount)).length ≤ bufferSize

/-- A datagram that names a transfer is processed with its CREDIT accepted. -/
def Node.Carries (node : Node) (answers : Answers) (data : Bytes) : Prop :=
  ∀ transfer, transfer? data = some transfer → transfer.Carried node.name answers

/-- The amount that the parts of a CREDIT name. -/
def amountOf : List (List Char) → Int
  | _ :: _ :: _ :: amountText :: _ => (int? amountText).getD 0
  | _ => 0

def Send.amount (send : Send) : Int := amountOf (split send.msg)

/-- A CREDIT that `recvfrom` does not truncate. -/
structure Send.Whole (send : Send) : Prop where
  isCredit : "CREDIT ".toList.isPrefixOf send.msg = true
  fits : (encode send.msg).length ≤ bufferSize

-----------------------------------------------------------------------------------------
-- One iteration
-----------------------------------------------------------------------------------------

/-- What an iteration leaves of a node: its name, its counter and what was sent. -/
structure Node.Leaves (node next : Node) (change : Int) (sent : List Send) : Prop where
  name : next.name = node.name
  counter : next.counter = node.counter + change
  sent : next.sent = sent

theorem Node.leaves_self (node : Node) : node.Leaves node 0 node.sent :=
  ⟨rfl, (add_zero _).symm, rfl⟩

theorem reply_leaves (answers : Answers) (text : List Char) (node : Node)
    : node.Leaves (final (reply answers text node)) 0 node.sent := by
  unfold reply
  split
  · exact ⟨rfl, (add_zero _).symm, rfl⟩
  · exact node.leaves_self

/-- `send_udp` always returns, whether or not the datagram was sent. -/
theorem sendUdp_run (answers : Answers) (host port msg : List Char) (node : Node)
    : ∃ result, sendUdp answers host port msg node
        = .ok result { node with sent := node.sent ++ accepted answers host port msg } := by
  unfold sendUdp accepted int
  cases int? port with
  | none => exact ⟨-1, by simp [attempt_run, bind_run]⟩
  | some port =>
      by_cases outside : port < 0 ∨ 65535 < port
      · have refused : ¬ (0 ≤ port ∧ port ≤ 65535 ∧ answers.sends = true) := by omega
        exact ⟨-1, by simp [attempt_run, outside, refused]⟩
      · have inside : 0 ≤ port ∧ port ≤ 65535 := by omega
        cases answers.sends with
        | false => exact ⟨-1, by simp [attempt_run, outside]⟩
        | true =>
            refine ⟨0, ?_⟩
            simp only [attempt_run, bind_run, pure_run, update_run, if_neg outside, inside,
              if_true, and_self]

theorem transfer_leaves (answers : Answers) (parts : List (List Char)) (node : Node)
    (idle : node.sent = [])
    : node.Leaves (final (transfer answers parts node))
        (-(transferOf parts).elim 0 Transfer.amount)
        ((transferOf parts).elim [] (·.sends node.name answers)) := by
  have still : node.Leaves node (-0) [] := by
    rw [neg_zero, ← idle]
    exact node.leaves_self
  fun_cases transferOf
  case case2 short =>
    unfold transfer
    split
    · exact absurd rfl (short _ _ _ _ _ _)
    · exact still
  case case1 txid host port amountText _ =>
    rw [transfer, int]
    cases int? amountText with
    | none => exact still
    | some amount =>
        simp only [print, Transfer.sends, Option.map_some, Option.elim_some]
        cases answers.prints with
        | false => exact ⟨rfl, sub_eq_add_neg _ _, idle⟩
        | true =>
            simp only [bind_run, pure_run, update_run, read_run, if_true]
            obtain ⟨result, sent⟩ := sendUdp_run answers host port (creditMsg txid node.name amount)
              { node with
                counter := node.counter - amount
                printed := node.printed ++ [node.name ++ " DEBIT tx=".toList ++ txid
                  ++ " to=".toList ++ host ++ ":".toList ++ port ++ " amount=".toList ++ str amount
                  ++ " counter=".toList ++ str (node.counter - amount)] }
            rw [sent]
            have replied := reply_leaves answers ("OK TRANSFER ".toList ++ txid)
            refine ⟨(replied _).name, (replied _).counter.trans ?_, (replied _).sent.trans ?_⟩
            · exact (add_zero _).trans (sub_eq_add_neg _ _)
            · rw [idle, List.nil_append]

theorem credit_leaves (answers : Answers) (parts : List (List Char)) (node : Node)
    : node.Leaves (final (credit answers parts node)) (amountOf parts) node.sent := by
  fun_cases amountOf
  case case2 short =>
    unfold credit
    split
    · exact absurd rfl (short _ _ _ _ _)
    · exact node.leaves_self
  case case1 txid fromNode amountText _ =>
    rw [credit, int]
    cases int? amountText with
    | none => exact node.leaves_self
    | some amount =>
        simp only [print]
        cases answers.prints with
        | false => exact ⟨rfl, rfl, rfl⟩
        | true =>
            have replied := reply_leaves answers ("OK CREDIT ".toList ++ txid)
            simp only [bind_run, pure_run, update_run, read_run, if_true, Option.getD_some]
            exact ⟨(replied _).name, (replied _).counter.trans (add_zero _), (replied _).sent⟩

/-- `text.encode('utf-8').decode('utf-8')` is `text`. -/
theorem decode?_encode (text : List Char) : decode? (encode text) = some (String.ofList text) := by
  unfold decode? encode String.fromUTF8?
  exact dif_pos (String.ofList text).isValidUTF8

/-- The blanket handler keeps the state in which the exception was raised. -/
theorem final_iteration (answers : Answers) (data : Bytes) (node : Node)
    : final (iteration answers data node)
      = match decode? (data.take bufferSize) with
        | some text => final (dispatch answers text.toList node)
        | none => node := by
  unfold iteration decode
  cases decode? (data.take bufferSize) with
  | none => rfl
  | some text =>
      simp only [attempt_run, bind_run, pure_run]
      cases dispatch answers text.toList node <;> rfl

/-- A text of a client debits what it asks for, whether or not the CREDIT is sent. -/
theorem dispatch_leaves (answers : Answers) (text : List Char) (node : Node)
    (idle : node.sent = []) (noCredit : "CREDIT ".toList.isPrefixOf text = false)
    (noReset : "RESET ".toList.isPrefixOf text = false)
    : let asked :=
        if "TRANSFER ".toList.isPrefixOf text then transferOf (split text) else none
      node.Leaves (final (dispatch answers text node)) (-asked.elim 0 Transfer.amount)
        (asked.elim [] (·.sends node.name answers)) := by
  intro asked
  have still (reply : Node) (leaves : node.Leaves reply 0 node.sent)
      (nothing : asked = none)
      : node.Leaves reply (-asked.elim 0 Transfer.amount)
          (asked.elim [] (·.sends node.name answers)) := by
    rw [nothing, Option.elim_none, Option.elim_none, neg_zero, ← idle]
    exact leaves
  unfold dispatch
  split
  case isTrue state =>
    refine still _ (reply_leaves _ _ _) (if_neg ?_)
    obtain ⟨rest, rfl⟩ := List.isPrefixOf_iff_prefix.mp state
    exact Bool.false_ne_true
  case isFalse =>
    rw [noCredit, noReset, if_neg Bool.false_ne_true, if_neg Bool.false_ne_true]
    split
    case isTrue isTransfer =>
      have here : asked = transferOf (split text) := if_pos isTransfer
      rw [here]
      exact transfer_leaves answers (split text) node idle
    case isFalse other => exact still _ (reply_leaves _ _ _) (if_neg other)

/-- What a node does on a datagram of a client. -/
theorem Node.after_client (node : Node) (answers : Answers) {data : Bytes}
    (client : fromClient data = true)
    : node.Leaves (node.after answers data) (-(transfer? data).elim 0 Transfer.amount)
        ((transfer? data).elim [] (·.sends node.name answers)) := by
  unfold fromClient at client
  unfold Node.after transfer?
  rw [final_iteration]
  cases decoded : decode? (data.take bufferSize) with
  | none => exact ⟨rfl, (add_zero _).symm, rfl⟩
  | some text =>
      rw [decoded, Option.all_some, Bool.and_eq_true, Bool.not_eq_true', Bool.not_eq_true']
        at client
      have leaves := dispatch_leaves answers text.toList { node with sent := [] } rfl client.1
        client.2
      exact ⟨leaves.name, leaves.counter, leaves.sent⟩

/-- A CREDIT that fits the buffer is credited as it was written. -/
theorem Node.after_credit (node : Node) (answers : Answers) {msg : List Char}
    (isCredit : "CREDIT ".toList.isPrefixOf msg = true) (fits : (encode msg).length ≤ bufferSize)
    : node.Leaves (node.after answers (encode msg)) (amountOf (split msg)) [] := by
  have noState : "STATE".toList.isPrefixOf msg = false := by
    obtain ⟨rest, rfl⟩ := List.isPrefixOf_iff_prefix.mp isCredit
    rfl
  unfold Node.after
  rw [final_iteration, List.take_of_length_le fits, decode?_encode]
  simp only [String.toList_ofList, dispatch, noState, isCredit, if_true, Bool.false_eq_true,
    if_false]
  have leaves := credit_leaves answers (split msg) { node with sent := [] }
  exact ⟨leaves.name, leaves.counter, leaves.sent⟩

/-- The CREDIT of a transfer carries its amount. -/
theorem amountOf_creditMsg {txid name : List Char} (isTxid : IsToken txid) (isName : IsToken name)
    (amount : Int) : amountOf (split (creditMsg txid name amount)) = amount := by
  have credit : IsToken "CREDIT".toList := ⟨by decide, by simp [isSpace]⟩
  have parts : split (creditMsg txid name amount) = ["CREDIT".toList, txid, name, str amount] := by
    calc split (creditMsg txid name amount)
        = split ("CREDIT".toList ++ ' ' :: (txid ++ ' ' :: (name ++ ' ' :: str amount))) := rfl
      _ = _ := by
        rw [split_token_space credit, split_token_space isTxid, split_token_space isName,
          split_token (isToken_str amount)]
  rw [parts, amountOf, int?_str, Option.getD_some]

/-- The txid of a transfer is one of the words of the datagram. -/
theorem isToken_txid {data : Bytes} {transfer : Transfer}
    (asked : transfer? data = some transfer) : IsToken transfer.txid := by
  obtain ⟨text, -, asked⟩ := Option.bind_eq_some_iff.mp asked
  split at asked
  case isFalse => cases asked
  case isTrue =>
    unfold transferOf at asked
    split at asked
    case h_2 => cases asked
    case h_1 parts first txid host port amountText rest shown =>
      obtain ⟨amount, -, rfl⟩ := Option.map_eq_some_iff.mp asked
      have word : txid ∈ split text.toList := by simp [shown]
      exact isToken_of_mem_split word

-----------------------------------------------------------------------------------------
-- The network
-----------------------------------------------------------------------------------------

/-- Nodes, and the datagrams that `send_udp` has accepted and that no node has processed. -/
structure Net (ι : Type) where
  nodes : ι → Node
  flight : List Send := []

section

variable {ι : Type} [DecidableEq ι]

/-- A node processes a datagram, and what it sends joins `flight`. -/
def Net.process (net : Net ι) (i : ι) (answers : Answers) (data : Bytes) (flight : List Send)
    : Net ι :=
  let next := (net.nodes i).after answers data
  ⟨Function.update net.nodes i next, flight ++ next.sent⟩

/-- The steps of a network: a datagram of a client, where `meets` holds of it, or one that a node
has sent, which reaches the node it is addressed to.
-/
inductive Net.Step (route : List Char → Int → Option ι) (meets : Node → Answers → Bytes → Prop)
    (net : Net ι) : Net ι → Prop where
  | client (i : ι) (answers : Answers) (data : Bytes) (client : fromClient data = true)
    (met : meets (net.nodes i) answers data)
    : Step route meets net (net.process i answers data net.flight)
  | credit (i : ι) (answers : Answers) (before after : List Send) (send : Send)
    (waiting : net.flight = before ++ send :: after)
    (addressed : route send.host send.port = some i)
    : Step route meets net (net.process i answers (encode send.msg) (before ++ after))

/-- The counters of all nodes and the amounts under way. -/
def Net.total [Fintype ι] (net : Net ι) : Int :=
  ∑ i, (net.nodes i).counter + (net.flight.map Send.amount).sum

/-- Names are single words, and what is under way are CREDIT messages that fit the buffer. -/
structure Net.Sound (net : Net ι) : Prop where
  names : ∀ i, IsToken (net.nodes i).name
  flight : ∀ send ∈ net.flight, send.Whole

omit [DecidableEq ι] in
/-- What a node sends for a transfer that is carried. -/
theorem Net.Sound.sends {net : Net ι} (sound : net.Sound) (i : ι) {answers : Answers}
    {data : Bytes} (carries : (net.nodes i).Carries answers data) {transfer : Transfer}
    (asked : transfer? data = some transfer)
    : ∃ send, transfer.sends (net.nodes i).name answers = [send]
        ∧ send.amount = transfer.amount ∧ send.Whole := by
  obtain ⟨prints, sends, ⟨port, number, low, high⟩, fits⟩ := carries transfer asked
  refine ⟨⟨transfer.host, port, creditMsg transfer.txid (net.nodes i).name transfer.amount⟩,
    ?_, ?_, ?_, fits⟩
  · simp [Transfer.sends, accepted, number, prints, sends, low, high]
  · exact amountOf_creditMsg (isToken_txid asked) (sound.names i) transfer.amount
  · exact List.isPrefixOf_iff_prefix.mpr (List.prefix_append _ _)

/-- A client's datagram debits exactly the amounts of the CREDITs that enter the network. -/
theorem Net.Sound.client {net : Net ι} (sound : net.Sound) (i : ι) {answers : Answers}
    {data : Bytes} (client : fromClient data = true)
    (carries : (net.nodes i).Carries answers data)
    : ∃ entered,
        (net.process i answers data net.flight).flight = net.flight ++ entered
          ∧ (∀ send ∈ entered, send.Whole)
          ∧ entered.length ≤ 1
          ∧ ((net.nodes i).after answers data).counter
              = (net.nodes i).counter - (entered.map Send.amount).sum := by
  have leaves := (net.nodes i).after_client answers client
  refine ⟨((net.nodes i).after answers data).sent, rfl, ?_⟩
  rw [leaves.counter, leaves.sent]
  cases asked : transfer? data with
  | none => simp
  | some transfer =>
      obtain ⟨send, only, amount, whole⟩ := sound.sends i carries asked
      simp [only, amount, whole, sub_eq_add_neg]

/-- A datagram under way is credited with its amount. -/
theorem Net.Sound.credit {net : Net ι} (sound : net.Sound) (i : ι) (answers : Answers)
    {send : Send} (waiting : send ∈ net.flight) (flight : List Send)
    : (net.process i answers (encode send.msg) flight).flight = flight
        ∧ ((net.nodes i).after answers (encode send.msg)).counter
            = (net.nodes i).counter + send.amount := by
  have whole := sound.flight send waiting
  have leaves := (net.nodes i).after_credit answers whole.isCredit whole.fits
  refine ⟨?_, leaves.counter⟩
  simp only [Net.process, leaves.sent, List.append_nil]

theorem Net.Sound.process {net : Net ι} (sound : net.Sound) (i : ι) {answers : Answers}
    {data : Bytes} {flight : List Send}
    (named : ((net.nodes i).after answers data).name = (net.nodes i).name)
    (whole : ∀ send ∈ (net.process i answers data flight).flight, send.Whole)
    : (net.process i answers data flight).Sound where
  flight := whole
  names j := by
    by_cases same : j = i
    · subst same
      simpa only [Net.process, Function.update_self, named] using sound.names j
    · simpa only [Net.process, Function.update_of_ne same] using sound.names j

/-- Processing a datagram changes the total by what the node's counter and the list of datagrams
under way change.
-/
theorem Net.total_process [Fintype ι] (net : Net ι) (i : ι) (answers : Answers) (data : Bytes)
    (flight : List Send)
    : (net.process i answers data flight).total
      = ∑ j, (net.nodes j).counter
        + (((net.nodes i).after answers data).counter - (net.nodes i).counter)
        + ((net.process i answers data flight).flight.map Send.amount).sum := by
  have others : ∑ j ∈ Finset.univ.erase i,
      (Function.update net.nodes i ((net.nodes i).after answers data) j).counter
        = ∑ j ∈ Finset.univ.erase i, (net.nodes j).counter := by
    refine Finset.sum_congr rfl fun j other => ?_
    rw [Function.update_of_ne (Finset.ne_of_mem_erase other)]
  have before := Finset.add_sum_erase Finset.univ (fun j => (net.nodes j).counter)
    (Finset.mem_univ i)
  have now := Finset.add_sum_erase Finset.univ
    (fun j => (Function.update net.nodes i ((net.nodes i).after answers data) j).counter)
    (Finset.mem_univ i)
  simp only [Function.update_self, others] at before now
  simp only [Net.total, Net.process, ← before, ← now]
  ring

/-- A step in which a client's transfers are carried keeps the total. -/
theorem Net.Sound.step [Fintype ι] {route : List Char → Int → Option ι} {net next : Net ι}
    (sound : net.Sound) (step : Net.Step route Node.Carries net next)
    : next.Sound ∧ next.total = net.total := by
  cases step with
  | client i answers data client carries =>
      obtain ⟨entered, flight, whole, -, counter⟩ := sound.client i client carries
      constructor
      · refine sound.process i ((net.nodes i).after_client answers client).name ?_
        rw [flight]
        exact List.forall_mem_append.mpr ⟨sound.flight, whole⟩
      · rw [Net.total_process, flight, counter, Net.total, List.map_append, List.sum_append]
        ring
  | credit i answers before after send waiting addressed =>
      have listed : send ∈ net.flight := by simp [waiting]
      obtain ⟨flight, counter⟩ := sound.credit i answers listed (before ++ after)
      have whole := sound.flight send listed
      constructor
      · refine sound.process i
          ((net.nodes i).after_credit answers whole.isCredit whole.fits).name ?_
        rw [flight]
        intro other member
        refine sound.flight other ?_
        rw [waiting]
        rcases List.mem_append.mp member with earlier | later
        · exact List.mem_append_left _ earlier
        · exact List.mem_append_right _ (List.mem_cons_of_mem _ later)
      · rw [Net.total_process, flight, counter, Net.total, waiting]
        simp only [List.map_append, List.map_cons, List.sum_append, List.sum_cons]
        ring

/-- In every run in which the CREDIT of each transfer is accepted and fits the buffer of its
receiver, the total never changes; a node debits exactly what enters the network, and a node
credits exactly what it is sent.
-/
theorem Net.total_conserved [Fintype ι] {route : List Char → Int → Option ι} {start net : Net ι}
    (names : ∀ i, IsToken (start.nodes i).name) (nothingYet : start.flight = [])
    (run : Relation.ReflTransGen (Net.Step route Node.Carries) start net)
    : net.total = start.total
      ∧ (∀ i answers data, fromClient data = true → (net.nodes i).Carries answers data →
          ∀ amount ≠ 0,
            ((net.process i answers data net.flight).nodes i).counter
                = (net.nodes i).counter - amount
              ↔ ∃ send,
                  (net.process i answers data net.flight).flight = net.flight ++ [send]
                    ∧ send.amount = amount)
      ∧ (∀ i answers before after send, net.flight = before ++ send :: after →
          let next := net.process i answers (encode send.msg) (before ++ after)
          next.flight = before ++ after
            ∧ (next.nodes i).counter = (net.nodes i).counter + send.amount) := by
  have sound : net.Sound ∧ net.total = start.total := by
    induction run with
    | refl => exact ⟨⟨names, by simp [nothingYet]⟩, rfl⟩
    | tail _ step ih =>
        obtain ⟨sound, total⟩ := ih
        obtain ⟨sound, kept⟩ := sound.step step
        exact ⟨sound, kept.trans total⟩
  obtain ⟨sound, total⟩ := sound
  refine ⟨total, ?_, ?_⟩
  · intro i answers data client carries amount nonzero
    obtain ⟨entered, flight, -, short, counter⟩ := sound.client i client carries
    rw [flight]
    simp only [Net.process, Function.update_self, counter, List.append_cancel_left_eq]
    constructor
    · intro debited
      match entered, short with
      | [], _ =>
          simp only [List.map_nil, List.sum_nil] at debited
          omega
      | [send], _ =>
          refine ⟨send, rfl, ?_⟩
          simp only [List.map_cons, List.map_nil, List.sum_singleton] at debited
          omega
    · rintro ⟨send, rfl, rfl⟩
      simp
  · intro i answers before after send waiting next
    have listed : send ∈ net.flight := by simp [waiting]
    obtain ⟨flight, counter⟩ := sound.credit i answers listed (before ++ after)
    refine ⟨flight, ?_⟩
    simp only [next, Net.process, Function.update_self, counter]

end

/-- Nodes `a` and `b`, of which `b` is reached at port 5000. -/
def twoNodes : Net (Fin 2) :=
  ⟨fun i => if i = 0 then ⟨['a'], 10, [], [], []⟩ else ⟨['b'], 5, [], [], []⟩, []⟩

def toNodeB (host : List Char) (port : Int) : Option (Fin 2) :=
  if host = ['b'] ∧ port = 5000 then some 1 else none

def transferText (port : String) : Bytes := encode ("TRANSFER t b " ++ port ++ " 3").toList

/-- A transfer from `a` to `b` and its CREDIT. -/
theorem Net.total_conserved_twoNodes
    : ∃ net, Relation.ReflTransGen (Net.Step toNodeB Node.Carries) twoNodes net
        ∧ (net.nodes 0).counter = 7 ∧ (net.nodes 1).counter = 8 ∧ net.total = twoNodes.total := by
  have asked : transfer? (transferText "5000") = some ⟨['t'], ['b'], ['5', '0', '0', '0'], 3⟩ := by
    decide +kernel
  have carries : (twoNodes.nodes 0).Carries {} (transferText "5000") := by
    intro transfer found
    obtain rfl := Option.some.inj (asked.symm.trans found)
    exact ⟨rfl, rfl, ⟨5000, by decide +kernel⟩, by decide +kernel⟩
  have debit : Net.Step toNodeB Node.Carries twoNodes
      (twoNodes.process 0 {} (transferText "5000") []) :=
    .client 0 {} (transferText "5000") (by decide +kernel) carries
  have credit : Net.Step toNodeB Node.Carries (twoNodes.process 0 {} (transferText "5000") []) _ :=
    .credit 1 {} [] [] ⟨['b'], 5000, creditMsg ['t'] ['a'] 3⟩ (by decide +kernel) rfl
  have run := (Relation.ReflTransGen.single debit).tail credit
  refine ⟨_, run, by decide +kernel, by decide +kernel, (Net.total_conserved ?_ rfl run).1⟩
  exact Fin.forall_fin_two.mpr
    ⟨⟨by decide, by simp [twoNodes, isSpace]⟩, ⟨by decide, by simp [twoNodes, isSpace]⟩⟩

/-- A port that is no number: `a` has debited 3, `send_udp` has returned -1, and nothing is under
way.
-/
theorem Net.total_lost
    : ¬ ∀ net, Relation.ReflTransGen (Net.Step toNodeB fun _ _ _ => True) twoNodes net →
        net.total = twoNodes.total := by
  intro always
  have step : Net.Step toNodeB (fun _ _ _ => True) twoNodes
      (twoNodes.process 0 {} (transferText "x") []) :=
    .client 0 {} (transferText "x") (by decide +kernel) trivial
  have kept := always _ (.single step)
  have counters : ((twoNodes.process 0 {} (transferText "x") []).nodes 0).counter = 7
      ∧ ((twoNodes.process 0 {} (transferText "x") []).nodes 1).counter = 5
      ∧ (twoNodes.process 0 {} (transferText "x") []).flight = [] := by
    decide +kernel
  rw [Net.total, Net.total, Fin.sum_univ_two, Fin.sum_univ_two, counters.1, counters.2.1,
    counters.2.2] at kept
  exact absurd kept (by decide)

end MeshSnapshot.Counter
