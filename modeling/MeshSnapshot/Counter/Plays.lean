import MeshSnapshot.Counter.Conservation
import MeshSnapshot.Snapshot.Shows

/-! A run of `counter.py` behind a sidecar: the datagrams that it takes from its socket, those that it
puts on the wire, and what becomes of its counter.
-/

namespace MeshSnapshot.Counter

open Procedure Text

/-- The amount that a node credits for a datagram. -/
def creditOf (data : Bytes) : Int :=
  ((decode? (data.take bufferSize)).map fun text =>
    if "CREDIT ".toList.isPrefixOf text.toList then amountOf (split text.toList) else 0).getD 0

/-- A datagram that is no RESET. -/
def noReset (data : Bytes) : Bool :=
  (decode? (data.take bufferSize)).all fun text => !"RESET ".toList.isPrefixOf text.toList

/-- What a node sends and replies in one iteration reaches the wire, first what it sends. A datagram
that it sends is one that is `addressed`.
-/
structure Node.Queues (addressed : Datagram → Prop) (next : Node)
    (sends replies : List Datagram) : Prop where
  sent
    : List.Forall₂ (fun send datagram => datagram.data = encode send.msg ∧ addressed datagram)
        next.sent sends
  replied : ∀ datagram ∈ replies, ∃ text ∈ next.replied, datagram.data = encode text

/-- A node takes datagrams from clients and packets from its sidecar, in any order of the two. So far
it has taken the packets `taken`, and the datagrams `emitted` have left its host: its own, and the
START commands of operators there.
-/
inductive Node.Plays (addressed : Datagram → Prop) (start : Node)
    : List PeerPacket → List Datagram → Node → Prop where
  | start : Plays addressed start [] [] start
  | client {taken : List PeerPacket} {emitted sends replies : List Datagram} {node : Node}
    {answers : Answers} {data : Bytes} (before : Plays addressed start taken emitted node)
    (client : fromClient data = true) (carries : node.Carries answers data)
    (queues : (node.after answers data).Queues addressed sends replies)
    : Plays addressed start taken (emitted ++ (sends ++ replies)) (node.after answers data)
  | packet {taken : List PeerPacket} {emitted sends replies : List Datagram} {node : Node}
    {answers : Answers} {packet : PeerPacket} (before : Plays addressed start taken emitted node)
    (noReset : noReset packet.held.payload = true)
    (carries : node.Carries answers packet.held.payload)
    (queues : (node.after answers packet.held.payload).Queues addressed sends replies)
    : Plays addressed start (taken ++ [packet]) (emitted ++ (sends ++ replies))
        (node.after answers packet.held.payload)
  | command {taken : List PeerPacket} {emitted : List Datagram} {node : Node}
    {datagram : Datagram} (before : Plays addressed start taken emitted node)
    (isStart : startPrefix.isPrefixOf datagram.data = true)
    : Plays addressed start taken (emitted ++ [datagram]) node

-----------------------------------------------------------------------------------------
-- Datagrams that credit nothing
-----------------------------------------------------------------------------------------

theorem encode_eq (text : List Char) : encode text = text.flatMap String.utf8EncodeChar := by
  rw [encode, String.toByteArray_ofList, List.utf8Encode, List.data_toByteArray]

theorem encode_cons (c : Char) (text : List Char)
    : encode (c :: text) = String.utf8EncodeChar c ++ encode text := by
  rw [encode_eq, encode_eq, List.flatMap_cons]

/-- A CREDIT begins with `C`. -/
theorem creditOf_of_head {data : Bytes} (other : data.head? ≠ some 67) : creditOf data = 0 := by
  unfold creditOf
  cases decoded : decode? (data.take bufferSize) with
  | none => rfl
  | some text =>
      rw [Option.map_some, Option.getD_some]
      refine if_neg fun isCredit => other ?_
      obtain ⟨rest, shown⟩ := List.isPrefixOf_iff_prefix.mp isCredit
      have bytes : data.take bufferSize = encode text.toList := by
        rw [decode?_eq_some decoded, encode, String.ofList_toList]
      have first : (data.take bufferSize).head? = some 67 := by
        rw [bytes, ← shown]
        exact congrArg List.head? (encode_cons 'C' _)
      rw [← first, List.head?_take, if_neg (by decide)]

theorem creditOf_start {data : Bytes} (isStart : startPrefix.isPrefixOf data = true)
    : creditOf data = 0 := by
  obtain ⟨rest, rfl⟩ := List.isPrefixOf_iff_prefix.mp isStart
  have first : (startPrefix ++ rest).head? = some 95 := rfl
  exact creditOf_of_head (by rw [first]; decide)

/-- What a node replies begins with another letter than a CREDIT. -/
def Node.RepliesOther (node : Node) : Prop :=
  ∀ text ∈ node.replied, (encode text).head? ≠ some 67

theorem reply_other (answers : Answers) {text : List Char} (other : (encode text).head? ≠ some 67)
    : Keeps Node.RepliesOther (reply answers text) Node.RepliesOther := by
  unfold reply
  split
  · refine .update fun node before last member => ?_
    rcases List.mem_append.mp member with earlier | now
    · exact before last earlier
    · exact List.mem_singleton.mp now ▸ other
  · exact .raise fun _ before => before

theorem print_other (answers : Answers) (line : List Char)
    : Keeps Node.RepliesOther (print answers line) Node.RepliesOther := by
  unfold print
  split
  · exact .update fun _ before => before
  · exact .raise fun _ before => before

theorem int_other (text : List Char)
    : Keeps Node.RepliesOther (int text) Node.RepliesOther := by
  unfold int
  split
  · exact .pure fun _ before => before
  · exact .raise fun _ before => before

theorem sendUdp_other (answers : Answers) (host port msg : List Char)
    : Keeps Node.RepliesOther (sendUdp answers host port msg) Node.RepliesOther := by
  refine .attempt (.bind (int_other port) fun number => ?_) fun _ => .pure fun _ before => before
  split
  · exact .raise fun _ before => before
  · split
    · exact .bind (.update fun _ before => before) fun _ => .pure fun _ before => before
    · exact .raise fun _ before => before

/-- The first byte of a text is that of its first character. -/
theorem head_encode_ne {c : Char} (rest : List Char) {first : UInt8}
    (encoded : (String.utf8EncodeChar c).head? = some first) (other : first ≠ 67)
    : (encode (c :: rest)).head? ≠ some 67 := by
  rw [encode_cons, List.head?_append, encoded, Option.some_or]
  exact fun same => other (Option.some.inj same)

theorem credit_other (answers : Answers) (parts : List (List Char))
    : Keeps Node.RepliesOther (credit answers parts) Node.RepliesOther := by
  unfold credit
  split
  · exact .bind (int_other _) fun _ => .bind (.update fun _ before => before) fun _ =>
      .readThen fun _ _ => .bind (print_other answers _) fun _ =>
        reply_other answers (head_encode_ne (c := 'O') _ rfl (by decide))
  · exact .pure fun _ before => before

theorem transfer_other (answers : Answers) (parts : List (List Char))
    : Keeps Node.RepliesOther (transfer answers parts) Node.RepliesOther := by
  unfold transfer
  split
  · exact .bind (int_other _) fun _ => .bind (.update fun _ before => before) fun _ =>
      .readThen fun _ _ => .bind (print_other answers _) fun _ =>
        .bind (sendUdp_other answers _ _ _) fun _ =>
          reply_other answers (head_encode_ne (c := 'O') _ rfl (by decide))
  · exact .pure fun _ before => before

theorem reset_other (answers : Answers) (parts : List (List Char))
    : Keeps Node.RepliesOther (reset answers parts) Node.RepliesOther := by
  unfold reset
  split
  · exact .bind (int_other _) fun _ => .bind (.update fun _ before => before) fun _ =>
      .readThen fun _ _ => .bind (print_other answers _) fun _ =>
        reply_other answers (head_encode_ne (c := 'O') _ rfl (by decide))
  · exact .pure fun _ before => before

theorem dispatch_other (answers : Answers) (text : List Char)
    : Keeps Node.RepliesOther (dispatch answers text) Node.RepliesOther := by
  unfold dispatch
  split
  · exact .readThen fun node _ =>
      reply_other answers (head_encode_ne (c := 'S') _ rfl (by decide))
  · split
    · exact credit_other answers _
    · split
      · exact transfer_other answers _
      · split
        · exact reset_other answers _
        · exact reply_other answers (head_encode_ne (c := 'E') _ rfl (by decide))

theorem Node.after_other {node : Node} (answers : Answers) (data : Bytes)
    (before : node.RepliesOther) : (node.after answers data).RepliesOther := by
  have before : Node.RepliesOther { node with sent := [] } := before
  unfold Node.after
  rw [final_iteration]
  cases decode? (data.take bufferSize) with
  | none => exact before
  | some text =>
      have kept := dispatch_other answers text.toList
      dsimp only
      cases stopped : dispatch answers text.toList { node with sent := [] } with
      | ok u next => exact kept.ok before stopped
      | error failure next => exact kept.error before stopped

-----------------------------------------------------------------------------------------
-- One iteration
-----------------------------------------------------------------------------------------

/-- A client credits nothing. -/
theorem creditOf_client {data : Bytes} (client : fromClient data = true) : creditOf data = 0 := by
  unfold creditOf
  unfold fromClient at client
  cases decoded : decode? (data.take bufferSize) with
  | none => rfl
  | some text =>
      rw [decoded, Option.all_some, Bool.and_eq_true, Bool.not_eq_true'] at client
      rw [Option.map_some, Option.getD_some, client.1, if_neg Bool.false_ne_true]

/-- Unless it is a RESET, a datagram changes the counter by what it credits and what is sent for it. -/
theorem Node.after_leaves (node : Node) (answers : Answers) {data : Bytes}
    (kept : noReset data = true)
    : node.Leaves (node.after answers data)
        (creditOf data - (transfer? data).elim 0 Transfer.amount)
        ((transfer? data).elim [] (·.sends node.name answers)) := by
  by_cases client : fromClient data = true
  case pos =>
    rw [creditOf_client client, zero_sub]
    exact node.after_client answers client
  case neg =>
    unfold Node.after creditOf transfer?
    unfold fromClient at client
    unfold noReset at kept
    rw [final_iteration]
    cases decoded : decode? (data.take bufferSize) with
    | none => simp [decoded] at client
    | some text =>
        rw [decoded, Option.all_some, Bool.not_eq_true'] at kept
        have isCredit : "CREDIT ".toList.isPrefixOf text.toList = true := by
          rw [decoded, Option.all_some, kept, Bool.not_false, Bool.and_true] at client
          exact Bool.eq_true_of_not_eq_false fun none => client (by rw [none, Bool.not_false])
        obtain ⟨rest, shown⟩ := List.isPrefixOf_iff_prefix.mp isCredit
        have noState : "STATE".toList.isPrefixOf text.toList = false := by
          rw [← shown]
          rfl
        have noTransfer : "TRANSFER ".toList.isPrefixOf text.toList = false := by
          rw [← shown]
          rfl
        have leaves := credit_leaves answers (split text.toList) { node with sent := [] }
        simp only [dispatch, noState, isCredit, noTransfer, Option.map_some, Option.getD_some,
          Option.bind_some, Option.elim_none, sub_zero, if_true, Bool.false_eq_true, if_false]
        exact ⟨leaves.name, leaves.counter, leaves.sent⟩

/-- What a node with a single-word name sends for a transfer that is carried. -/
theorem Node.sends (node : Node) (named : IsToken node.name) {answers : Answers} {data : Bytes}
    (carries : node.Carries answers data) {transfer : Transfer}
    (asked : transfer? data = some transfer)
    : ∃ send,
        transfer.sends node.name answers = [send]
        ∧ send.amount = transfer.amount
        ∧ send.Whole := by
  have alone : (⟨fun _ => node, []⟩ : Net Unit).Sound := ⟨fun _ => named, fun _ member => by cases member⟩
  exact alone.sends () carries asked

/-- A CREDIT that is sent credits its amount. -/
theorem Send.Whole.creditOf {send : Send} (whole : send.Whole)
    : creditOf (encode send.msg) = send.amount := by
  have text : (String.ofList send.msg).toList = send.msg := String.toList_ofList
  unfold Counter.creditOf
  rw [List.take_of_length_le whole.fits, decode?_encode, Option.map_some, Option.getD_some, text,
    if_pos whole.isCredit, Send.amount]

/-- What a node puts on the wire in an iteration credits what the transfer debits. -/
theorem Node.Queues.credits {node : Node} {answers : Answers} {data : Bytes}
    {addressed : Datagram → Prop} {sends replies : List Datagram}
    (queues : (node.after answers data).Queues addressed sends replies)
    (kept : noReset data = true) (carries : node.Carries answers data) (named : IsToken node.name)
    (others : node.RepliesOther)
    : ((sends ++ replies).map (fun datagram => creditOf datagram.data)).sum
        = (transfer? data).elim 0 Transfer.amount
      ∧ ∀ datagram ∈ sends ++ replies, creditOf datagram.data ≠ 0 → addressed datagram := by
  have silent (datagram : Datagram) (member : datagram ∈ replies) : creditOf datagram.data = 0 := by
    obtain ⟨text, replied, shown⟩ := queues.replied datagram member
    exact creditOf_of_head (shown ▸ Node.after_other answers data others text replied)
  have replies_sum : (replies.map (fun datagram => creditOf datagram.data)).sum = 0 := by
    refine List.sum_eq_zero fun amount member => ?_
    obtain ⟨datagram, listed, rfl⟩ := List.mem_map.mp member
    exact silent datagram listed
  have sent := (node.after_leaves answers kept).sent
  have shown := queues.sent
  rw [sent] at shown
  rw [List.map_append, List.sum_append, replies_sum, add_zero]
  refine ⟨?_, fun datagram member credited => ?_⟩
  · cases asked : transfer? data with
    | none =>
        rw [asked, Option.elim_none, List.forall₂_nil_left_iff] at shown
        rw [shown]
        rfl
    | some transfer =>
        obtain ⟨send, sends, amount, whole⟩ := node.sends named carries asked
        rw [asked, Option.elim_some, sends] at shown
        obtain ⟨datagram, rest, ⟨data, -⟩, nothing, rfl⟩ := List.forall₂_cons_left_iff.mp shown
        obtain rfl := List.forall₂_nil_left_iff.mp nothing
        simp [data, whole.creditOf, amount]
  · rcases List.mem_append.mp member with sends | replies
    · obtain ⟨send, -, -, isAddressed⟩ := exists_of_forall₂ shown.flip sends
      exact isAddressed
    · exact (credited (silent datagram replies)).elim

-----------------------------------------------------------------------------------------
-- Runs
-----------------------------------------------------------------------------------------

/-- What the datagrams credit together. -/
def credits (emitted : List Datagram) : Int :=
  (emitted.map fun datagram => creditOf datagram.data).sum

theorem credits_append (emitted more : List Datagram)
    : credits (emitted ++ more) = credits emitted + credits more := by
  rw [credits, List.map_append, List.sum_append, credits, credits]

/-- The counter of a node is explained by what it has taken and what it has emitted. -/
structure Node.Accounts (addressed : Datagram → Prop) (start : Node) (taken : List PeerPacket)
    (emitted : List Datagram) (node : Node) : Prop where
  named : IsToken node.name
  others : node.RepliesOther
  counter
    : node.counter + credits emitted
        = start.counter + (taken.map fun packet => creditOf packet.held.payload).sum
  addressed : ∀ datagram ∈ emitted, creditOf datagram.data ≠ 0 → addressed datagram

/-- One iteration on a datagram that is no RESET: the counter gains what the datagram credits, less
what is put on the wire.
-/
theorem Node.Accounts.iterate {addressed : Datagram → Prop} {start node : Node}
    {taken : List PeerPacket} {emitted sends replies : List Datagram} {answers : Answers}
    {data : Bytes} (accounts : start.Accounts addressed taken emitted node)
    (kept : noReset data = true) (carries : node.Carries answers data)
    (queues : (node.after answers data).Queues addressed sends replies)
    : IsToken (node.after answers data).name
      ∧ (node.after answers data).RepliesOther
      ∧ (node.after answers data).counter + credits (emitted ++ (sends ++ replies))
          = node.counter + credits emitted + creditOf data
      ∧ ∀ datagram ∈ emitted ++ (sends ++ replies),
          creditOf datagram.data ≠ 0 → addressed datagram := by
  have leaves := node.after_leaves answers kept
  obtain ⟨wired, shown⟩ := queues.credits kept carries accounts.named accounts.others
  refine ⟨?_, Node.after_other answers data accounts.others, ?_, ?_⟩
  · rw [leaves.name]
    exact accounts.named
  · rw [credits_append, leaves.counter, show credits (sends ++ replies) = _ from wired]
    ring
  · exact List.forall_mem_append.mpr ⟨accounts.addressed, shown⟩

theorem Node.Plays.accounts {addressed : Datagram → Prop} {start node : Node}
    {taken : List PeerPacket} {emitted : List Datagram}
    (plays : start.Plays addressed taken emitted node) (named : IsToken start.name)
    (others : start.RepliesOther) : start.Accounts addressed taken emitted node := by
  induction plays with
  | start => exact ⟨named, others, rfl, fun _ member => by cases member⟩
  | @client taken emitted sends replies node answers data before client carries queues ih =>
      have kept : noReset data = true := by
        unfold noReset
        unfold fromClient at client
        cases decoded : decode? (data.take bufferSize) with
        | none => rfl
        | some text =>
            rw [decoded, Option.all_some, Bool.and_eq_true] at client
            exact client.2
      have nothing : creditOf data = 0 := creditOf_client client
      obtain ⟨name, others, counter, shown⟩ := ih.iterate kept carries queues
      refine ⟨name, others, ?_, shown⟩
      rw [counter, nothing, add_zero]
      exact ih.counter
  | @packet taken emitted sends replies node answers packet before kept carries queues ih =>
      obtain ⟨name, others, counter, shown⟩ := ih.iterate kept carries queues
      refine ⟨name, others, ?_, shown⟩
      rw [counter, ih.counter, List.map_append, List.sum_append, List.map_singleton,
        List.sum_singleton, add_assoc]
  | @command taken emitted node datagram before isStart ih =>
      have nothing : creditOf datagram.data = 0 := creditOf_start isStart
      refine ⟨ih.named, ih.others, ?_, ?_⟩
      · have silent : credits [datagram] = 0 := by
          rw [credits, List.map_singleton, List.sum_singleton, nothing]
        rw [credits_append, silent, add_zero]
        exact ih.counter
      · refine List.forall_mem_append.mpr ⟨ih.addressed, fun other member credited => ?_⟩
        rw [List.mem_singleton.mp member] at credited
        exact (credited nothing).elim

end MeshSnapshot.Counter
