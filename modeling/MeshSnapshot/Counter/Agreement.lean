import MeshSnapshot.Counter.Conservation
import MeshSnapshot.Host.Validation
import MeshSnapshot.Model.CounterC

/-! `counter.py` and `counter.c` on the requests that clients and nodes write. Both do the same, as
long as no counter leaves the range of an `int`, except that a host which cannot be resolved ends
the C process.
-/

namespace MeshSnapshot.Counter

open Procedure Text
open Scanf (InRange Fits scan scan_chars scan_word scan_int space_ends toInt_of_inRange)

-----------------------------------------------------------------------------------------
-- Words
-----------------------------------------------------------------------------------------

/-- A word of visible ASCII characters. -/
structure Word (width : Nat) (word : List Char) : Prop where
  nonempty : word ≠ []
  visible : ∀ c ∈ word, 33 ≤ c.toNat ∧ c.toNat ≤ 126
  short : word.length ≤ width

theorem bounds_of_all {low : Nat} {text : List Char}
    (all : (text.all fun c => low ≤ c.toNat && c.toNat ≤ 126) = true)
    : ∀ c ∈ text, low ≤ c.toNat ∧ c.toNat ≤ 126 := by
  intro c member
  simpa using List.all_eq_true.mp all c member

theorem Word.isToken {width : Nat} {word : List Char} (isWord : Word width word)
    : IsToken word where
  nonempty := isWord.nonempty
  spaceless c member := by
    have bounds := isWord.visible c member
    simp only [isSpace, Bool.or_eq_false_iff, Bool.and_eq_false_iff, decide_eq_false_iff_not,
      beq_eq_false_iff_ne]
    omega

theorem Word.fits {width : Nat} {word : List Char} (isWord : Word width word)
    : Fits width word where
  nonempty := isWord.nonempty
  short := isWord.short
  spaceless c member := by
    have bounds := isWord.visible c member
    simp only [Scanf.isSpace, Bool.or_eq_false_iff, Bool.and_eq_false_iff, decide_eq_false_iff_not,
      beq_eq_false_iff_ne]
    refine ⟨?_, by omega⟩
    rintro rfl
    exact absurd bounds.1 (by decide)

theorem Word.mono {width more : Nat} {word : List Char} (isWord : Word width word)
    (wider : width ≤ more) : Word more word :=
  { isWord with short := isWord.short.trans wider }

/-- The text of an `int` is short. -/
theorem word_str {value : Int} (inRange : InRange value) : Word 11 (str value) := by
  have digits (n : Nat) : ∀ c ∈ Nat.toDigits 10 n, 33 ≤ c.toNat ∧ c.toNat ≤ 126 := by
    intro c member
    have bounds := isDigit_bounds (Nat.isDigit_of_mem_toDigits (by decide) (by decide) member)
    omega
  cases value with
  | ofNat n =>
      have bound : (n : Int) < 2 ^ 31 := inRange.2
      have small : (Nat.toDigits 10 n).length ≤ 10 :=
        (Nat.length_toDigits_le_iff (by decide) (by decide)).mpr (by omega)
      exact ⟨Nat.toDigits_ne_nil, digits n, small.trans (by decide)⟩
  | negSucc n =>
      have bound : -2 ^ 31 ≤ Int.negSucc n := inRange.1
      have small : (Nat.toDigits 10 (n + 1)).length ≤ 10 :=
        (Nat.length_toDigits_le_iff (by decide) (by decide)).mpr (by omega)
      refine ⟨List.cons_ne_nil _ _, fun c member => ?_, Nat.succ_le_succ small⟩
      rcases List.mem_cons.mp member with rfl | later
      · decide
      · exact digits (n + 1) c later

-----------------------------------------------------------------------------------------
-- Requests
-----------------------------------------------------------------------------------------

/-- What clients and nodes ask a node for. -/
inductive Request where
  | state
  | credit (txid fromNode : List Char) (amount : Int)
  | transfer (txid host : List Char) (port amount : Int)
  | reset (amount : Int)

def Request.text : Request → List Char
  | state => "STATE".toList
  | credit txid fromNode amount => creditMsg txid fromNode amount
  | transfer txid host port amount =>
      "TRANSFER ".toList ++ (txid ++ ' ' :: (host ++ ' ' :: (str port ++ ' ' :: str amount)))
  | reset amount => "RESET ".toList ++ str amount

/-- The words of a request fit the buffers of `counter.c`, and its numbers fit an `int`. -/
def Request.Fits : Request → Prop
  | state => True
  | credit txid fromNode amount => Word 127 txid ∧ Word 63 fromNode ∧ InRange amount
  | transfer txid host port amount =>
      Word 127 txid ∧ Word 255 host ∧ (0 ≤ port ∧ port ≤ 65535) ∧ InRange amount
  | reset amount => InRange amount

/-- `resolve_udp` and `socket` return. -/
def Request.connects (answers : CounterC.Answers) : Request → Bool
  | transfer _ host port _ => (answers.resolves host (str port)).isSome && answers.opens
  | _ => true

/-- How the same calls turn out in `counter.py`. -/
def Request.answers (answers : CounterC.Answers) (request : Request) : Answers where
  sends := request.connects answers && answers.sends
  replies := answers.replies

theorem inRange_port {port : Int} (inside : 0 ≤ port ∧ port ≤ 65535) : InRange port := by
  unfold InRange
  omega

/-- A text of visible characters and spaces. -/
def Printable (text : List Char) : Prop := ∀ c ∈ text, 32 ≤ c.toNat ∧ c.toNat ≤ 126

theorem Word.printable {width : Nat} {word : List Char} (isWord : Word width word)
    : Printable word :=
  fun c member => (isWord.visible c member).imp_left (Nat.le_of_succ_le)

theorem printable_append {text more : List Char} (first : Printable text) (second : Printable more)
    : Printable (text ++ more) :=
  List.forall_mem_append.mpr ⟨first, second⟩

theorem printable_space {text : List Char} (rest : Printable text) : Printable (' ' :: text) :=
  List.forall_mem_cons.mpr ⟨by decide, rest⟩

/-- A request is written with visible characters and spaces. -/
theorem Request.Fits.printable {request : Request} (fits : request.Fits)
    : Printable request.text := by
  cases request with
  | state => exact bounds_of_all (by decide)
  | credit txid fromNode amount =>
      obtain ⟨isTxid, isFrom, inRange⟩ := fits
      refine printable_append (bounds_of_all (by decide)) (printable_append isTxid.printable ?_)
      exact printable_space (printable_append isFrom.printable
        (printable_space (word_str inRange).printable))
  | transfer txid host port amount =>
      obtain ⟨isTxid, isHost, isPort, inRange⟩ := fits
      refine printable_append (bounds_of_all (by decide)) (printable_append isTxid.printable ?_)
      refine printable_space (printable_append isHost.printable (printable_space ?_))
      exact printable_append (word_str (inRange_port isPort)).printable
        (printable_space (word_str inRange).printable)
  | reset amount =>
      exact printable_append (bounds_of_all (by decide)) (word_str fits).printable

/-- A request fits the buffer. -/
theorem Request.Fits.short {request : Request} (fits : request.Fits)
    : request.text.length < bufferSize := by
  cases request with
  | state =>
      have keyword : "STATE".toList.length = 5 := rfl
      have small : 5 < bufferSize := by simp [bufferSize]
      exact keyword.trans_lt small
  | credit txid fromNode amount =>
      have keyword : "CREDIT ".toList.length = 7 := rfl
      obtain ⟨isTxid, isFrom, inRange⟩ := fits
      have lengths := And.intro isTxid.short (And.intro isFrom.short (word_str inRange).short)
      unfold Request.text creditMsg bufferSize
      simp only [List.length_append, List.length_cons, keyword]
      omega
  | transfer txid host port amount =>
      have keyword : "TRANSFER ".toList.length = 9 := rfl
      obtain ⟨isTxid, isHost, isPort, inRange⟩ := fits
      have lengths := And.intro isTxid.short (And.intro isHost.short
        (And.intro (word_str (inRange_port isPort)).short (word_str inRange).short))
      unfold Request.text bufferSize
      simp only [List.length_append, List.length_cons, keyword]
      omega
  | reset amount =>
      have keyword : "RESET ".toList.length = 6 := rfl
      have length := (word_str fits).short
      unfold Request.text bufferSize
      simp only [List.length_append, keyword]
      omega

/-- `buf.decode('utf-8')` of a request. -/
theorem Request.Fits.decoded {request : Request} (fits : request.Fits)
    : decode? ((ascii request.text).take bufferSize) = some (String.ofList request.text) := by
  have whole : (ascii request.text).length ≤ bufferSize := by
    rw [ascii, List.length_map]
    exact fits.short.le
  rw [List.take_of_length_le whole]
  exact decode?_ascii fun c member => (fits.printable c member).2.trans_lt (by decide)

/-- The string that `counter.c` has of a request. -/
theorem Request.Fits.buffered {request : Request} (fits : request.Fits)
    : CounterC.buffered (ascii request.text) = request.text := by
  have whole : (ascii request.text).length ≤ bufferSize - 1 := by
    rw [ascii, List.length_map]
    exact Nat.le_sub_one_of_lt fits.short
  have same : (ascii request.text).map (fun byte => Char.ofNat byte.toNat) = request.text := by
    rw [ascii, List.map_map]
    refine (List.map_congr_left fun c member => ?_).trans (List.map_id _)
    have small : c.toNat < 256 := (fits.printable c member).2.trans_lt (by decide)
    change Char.ofNat (UInt8.ofNat c.toNat).toNat = c
    rw [UInt8.toNat_ofNat_of_lt' small, Char.ofNat_toNat]
  rw [CounterC.buffered, List.take_of_length_le whole, same, List.takeWhile_eq_self_iff]
  intro c member
  have positive := (fits.printable c member).1
  exact decide_eq_true (by omega)

-----------------------------------------------------------------------------------------
-- What each node reads
-----------------------------------------------------------------------------------------

/-- The parts of a request. -/
def Request.parts : Request → List (List Char)
  | state => ["STATE".toList]
  | credit txid fromNode amount => ["CREDIT".toList, txid, fromNode, str amount]
  | transfer txid host port amount => ["TRANSFER".toList, txid, host, str port, str amount]
  | reset amount => ["RESET".toList, str amount]

theorem isToken_keyword {keyword : List Char} (nonempty : keyword ≠ [])
    (visible : (keyword.all fun c => 33 ≤ c.toNat && c.toNat ≤ 126) = true) : IsToken keyword :=
  Word.isToken ⟨nonempty, bounds_of_all visible, le_rfl⟩

theorem Request.Fits.split {request : Request} (fits : request.Fits)
    : split request.text = request.parts := by
  cases request with
  | state => exact split_token (isToken_keyword (by decide) (by decide))
  | credit txid fromNode amount =>
      obtain ⟨isTxid, isFrom, inRange⟩ := fits
      have keyword : IsToken "CREDIT".toList := isToken_keyword (by decide) (by decide)
      change Text.split ("CREDIT".toList
        ++ ' ' :: (txid ++ ' ' :: (fromNode ++ ' ' :: str amount))) = _
      rw [split_token_space keyword, split_token_space isTxid.isToken,
        split_token_space isFrom.isToken, split_token (isToken_str amount), Request.parts]
  | transfer txid host port amount =>
      obtain ⟨isTxid, isHost, isPort, inRange⟩ := fits
      have keyword : IsToken "TRANSFER".toList := isToken_keyword (by decide) (by decide)
      change Text.split ("TRANSFER".toList
        ++ ' ' :: (txid ++ ' ' :: (host ++ ' ' :: (str port ++ ' ' :: str amount)))) = _
      rw [split_token_space keyword, split_token_space isTxid.isToken,
        split_token_space isHost.isToken, split_token_space (isToken_str port),
        split_token (isToken_str amount), Request.parts]
  | reset amount =>
      have keyword : IsToken "RESET".toList := isToken_keyword (by decide) (by decide)
      change Text.split ("RESET".toList ++ ' ' :: str amount) = _
      rw [split_token_space keyword, split_token (isToken_str amount), Request.parts]

theorem scan_credit {txid fromNode : List Char} {amount : Int}
    (fits : (Request.credit txid fromNode amount).Fits)
    : scan CounterC.creditFormat (Request.credit txid fromNode amount).text
      = [.word txid, .word fromNode, .int amount] := by
  obtain ⟨isTxid, isFrom, inRange⟩ := fits
  change scan (Scanf.chars "CREDIT".toList ++ _)
    ("CREDIT".toList ++ ' ' :: (txid ++ ' ' :: (fromNode ++ ' ' :: str amount))) = _
  rw [scan_chars, scan_word isTxid.fits _ (space_ends _), scan_word isFrom.fits _ (space_ends _),
    scan_int inRange]

theorem scan_transfer {txid host : List Char} {port amount : Int}
    (fits : (Request.transfer txid host port amount).Fits)
    : scan CounterC.transferFormat (Request.transfer txid host port amount).text
      = [.word txid, .word host, .word (str port), .int amount] := by
  obtain ⟨isTxid, isHost, isPort, inRange⟩ := fits
  have isWord := (word_str (inRange_port isPort)).mono (show 11 ≤ 31 by decide)
  change scan (Scanf.chars "TRANSFER".toList ++ _) ("TRANSFER".toList
    ++ ' ' :: (txid ++ ' ' :: (host ++ ' ' :: (str port ++ ' ' :: str amount)))) = _
  rw [scan_chars, scan_word isTxid.fits _ (space_ends _), scan_word isHost.fits _ (space_ends _),
    scan_word isWord.fits _ (space_ends _), scan_int inRange]

theorem scan_reset {amount : Int} (inRange : InRange amount)
    : scan CounterC.resetFormat (Request.reset amount).text = [.int amount] := by
  change scan (Scanf.chars "RESET".toList ++ _) ("RESET".toList ++ ' ' :: str amount) = _
  rw [scan_chars, scan_int inRange]

-----------------------------------------------------------------------------------------
-- What `counter.py` does
-----------------------------------------------------------------------------------------

/-- The branch of `counter.py` for a request. -/
def Request.serve (answers : Answers) (request : Request) : Act Unit :=
  match request with
  | state => do
      let node ← read
      reply answers ("STATE ".toList ++ node.name ++ " counter=".toList ++ str node.counter)
  | credit _ _ _ => Counter.credit answers request.parts
  | transfer _ _ _ _ => Counter.transfer answers request.parts
  | reset _ => Counter.reset answers request.parts

theorem Request.Fits.dispatch {request : Request} (fits : request.Fits) (answers : Answers)
    : dispatch answers request.text = request.serve answers := by
  unfold Counter.dispatch
  rw [fits.split]
  cases request <;> rfl

/-- The counter of a node that has processed a request. -/
def Request.counter (before : Int) : Request → Int
  | state => before
  | credit _ _ amount => before + amount
  | transfer _ _ _ amount => before - amount
  | reset amount => amount

theorem Request.Fits.after {request : Request} (fits : request.Fits) (answers : Answers)
    (node : Node)
    : node.after answers (ascii request.text)
      = final (Counter.dispatch answers request.text { node with sent := [] }) := by
  rw [Node.after, final_iteration, fits.decoded]
  simp only [String.toList_ofList]

theorem Request.Fits.after_leaves {request : Request} (fits : request.Fits) (answers : Answers)
    (node : Node) (prints : answers.prints = true)
    : (node.after answers (ascii request.text)).name = node.name
        ∧ (node.after answers (ascii request.text)).counter = request.counter node.counter := by
  rw [fits.after, fits.dispatch]
  cases request with
  | state =>
      have leaves := reply_leaves answers ("STATE ".toList ++ node.name ++ " counter=".toList
        ++ str node.counter) { node with sent := [] }
      exact ⟨leaves.name, leaves.counter.trans (add_zero _)⟩
  | credit txid fromNode amount =>
      have leaves := credit_leaves answers (Request.credit txid fromNode amount).parts
        { node with sent := [] }
      have named : amountOf (Request.credit txid fromNode amount).parts = amount := by
        rw [Request.parts, amountOf, int?_str, Option.getD_some]
      rw [named] at leaves
      exact ⟨leaves.name, leaves.counter⟩
  | transfer txid host port amount =>
      have leaves := transfer_leaves answers (Request.transfer txid host port amount).parts
        { node with sent := [] } rfl
      have named : transferOf (Request.transfer txid host port amount).parts
          = some ⟨txid, host, str port, amount⟩ := by
        rw [Request.parts, transferOf, int?_str, Option.map_some]
      rw [named] at leaves
      exact ⟨leaves.name, leaves.counter.trans (sub_eq_add_neg _ _).symm⟩
  | reset amount =>
      simp only [Request.serve, Request.parts, Counter.reset, int, int?_str, print, bind_run,
        pure_run, update_run, read_run, prints, if_true]
      have leaves := reply_leaves answers "OK RESET".toList
      exact ⟨(leaves _).name, (leaves _).counter.trans (add_zero _)⟩

-----------------------------------------------------------------------------------------
-- What each node does
-----------------------------------------------------------------------------------------

section

variable (answers : CounterC.Answers) (request : Request) (node : Node)

theorem truncate_of_short {text : List Char} (short : text.length < bufferSize)
    : CounterC.truncate text = text :=
  List.take_of_length_le (Nat.le_sub_one_of_lt short)

/-- The reply that names a transfer fits the buffer. -/
theorem reply_short {status txid : List Char} (isWord : Word 127 txid)
    (brief : status.length ≤ 12) : (status ++ txid).length < bufferSize := by
  have bound := isWord.short
  unfold bufferSize
  rw [List.length_append]
  omega

/-- A reply that fits the buffer is sent whole. -/
theorem sendReply_agrees {text : List Char} (short : text.length < bufferSize)
    : CounterC.sendReply answers text node
      = .ok () (final (reply (request.answers answers) text node)) := by
  rw [CounterC.sendReply, reply, Request.answers, truncate_of_short short]
  cases answers.replies <;> rfl

/-- `send_udp` of a node whose peer is resolved. -/
theorem sendUdp_connected {txid host : List Char} {port amount : Int}
    (inside : 0 ≤ port ∧ port ≤ 65535) (msg : List Char)
    (connects : (Request.transfer txid host port amount).connects answers = true)
    : ∃ result, CounterC.sendUdp answers host (str port) msg node
        = .ok result { node with
            sent := node.sent ++ accepted
              ((Request.transfer txid host port amount).answers answers) host (str port) msg } := by
  obtain ⟨isSome, opens⟩ := Bool.and_eq_true_iff.mp connects
  obtain ⟨found, resolved⟩ := Option.isSome_iff_exists.mp isSome
  obtain rfl := answers.numeric host port found inside.1 inside.2 resolved
  unfold CounterC.sendUdp accepted
  simp only [int?_str, resolved, opens, inside, Request.answers, connects, Bool.true_and, true_and,
    if_true]
  cases answers.sends with
  | false => exact ⟨-1, by simp⟩
  | true => exact ⟨0, rfl⟩

/-- `send_udp` ends the process where the peer is not resolved. -/
theorem sendUdp_unconnected {txid host : List Char} {port amount : Int} (msg : List Char)
    (ends : (Request.transfer txid host port amount).connects answers = false)
    : CounterC.sendUdp answers host (str port) msg node = .error 1 node := by
  unfold CounterC.sendUdp
  cases resolved : answers.resolves host (str port) with
  | none => rfl
  | some found =>
      have closed : answers.opens = false := by simpa [Request.connects, resolved] using ends
      simp only [closed, Bool.false_eq_true, if_false, raise_run]

theorem credit_agrees {txid fromNode : List Char} {amount : Int}
    (fits : (Request.credit txid fromNode amount).Fits)
    (inRange : InRange (node.counter + amount))
    : let request := Request.credit txid fromNode amount
      CounterC.credit answers txid fromNode amount node
        = .ok () (final (credit (request.answers answers) request.parts node)) := by
  intro request
  have short : ("OK CREDIT ".toList ++ txid).length < bufferSize :=
    reply_short fits.1 (by decide)
  simp only [CounterC.credit, CounterC.print, bind_run, update_run, read_run,
    toInt_of_inRange inRange]
  rw [sendReply_agrees answers request _ short]
  simp only [request, Request.parts, credit, int, int?_str, print, Request.answers, bind_run,
    pure_run, update_run, read_run, if_true]

/-- A node that has debited an amount and printed the line about it. -/
def Node.debit (node : Node) (txid host port : List Char) (amount : Int) : Node :=
  { node with
    counter := node.counter - amount
    printed := node.printed ++ [node.name ++ " DEBIT tx=".toList ++ txid ++ " to=".toList ++ host
      ++ ":".toList ++ port ++ " amount=".toList ++ str amount ++ " counter=".toList
      ++ str (node.counter - amount)] }

theorem transfer_agrees {txid host : List Char} {port amount : Int}
    (named : Word 63 node.name) (fits : (Request.transfer txid host port amount).Fits)
    (inRange : InRange (node.counter - amount))
    : let request := Request.transfer txid host port amount
      returned? (CounterC.transfer answers txid host (str port) amount node)
        = if request.connects answers then
            some ((), final (transfer (request.answers answers) request.parts node))
          else none := by
  dsimp only
  obtain ⟨isTxid, isHost, isPort, isAmount⟩ := fits
  have short : ("OK TRANSFER ".toList ++ txid).length < bufferSize :=
    reply_short isTxid (by decide)
  have credit : (Request.credit txid node.name amount).Fits := ⟨isTxid, named, isAmount⟩
  have whole : CounterC.truncate (creditMsg txid node.name amount)
      = creditMsg txid node.name amount :=
    truncate_of_short credit.short
  simp only [CounterC.transfer, CounterC.print, bind_run, update_run, read_run,
    toInt_of_inRange inRange, whole]
  -- Up to here both have debited and printed the same.
  cases connects : (Request.transfer txid host port amount).connects answers with
  | false =>
      rw [sendUdp_unconnected answers _ _ connects]
      rfl
  | true =>
      obtain ⟨_, carried⟩ := sendUdp_connected answers (node.debit txid host (str port) amount)
        isPort (creditMsg txid node.name amount) connects
      obtain ⟨_, sent⟩ := sendUdp_run ((Request.transfer txid host port amount).answers answers)
        host (str port) (creditMsg txid node.name amount)
        (node.debit txid host (str port) amount)
      have prints : ((Request.transfer txid host port amount).answers answers).prints = true := rfl
      unfold Node.debit at carried sent
      rw [carried]
      simp only [sendReply_agrees answers (.transfer txid host port amount) _ short, Request.parts,
        transfer, int, int?_str, print, bind_run, pure_run, update_run, read_run, if_true, prints,
        sent]
      rfl

theorem reset_agrees (amount : Int)
    : CounterC.reset answers amount node
      = .ok () (final (reset ((Request.reset amount).answers answers)
          (Request.reset amount).parts node)) := by
  have short : "OK RESET".toList.length < bufferSize := by simp [bufferSize]
  have prints : ((Request.reset amount).answers answers).prints = true := rfl
  simp only [CounterC.reset, CounterC.print, bind_run, update_run, read_run]
  rw [sendReply_agrees answers (.reset amount) _ short]
  simp only [Request.parts, reset, int, int?_str, print, bind_run, pure_run, update_run, read_run,
    prints, if_true]

variable {request node}

theorem dispatch_agrees (named : Word 63 node.name) (fits : request.Fits)
    (inRange : InRange (request.counter node.counter))
    : returned? (CounterC.dispatch answers request.text node)
      = if request.connects answers then
          some ((), final (dispatch (request.answers answers) request.text node))
        else none := by
  rw [fits.dispatch]
  cases request with
  | state =>
      have keyword : "STATE ".toList.length = 6 := rfl
      have label : " counter=".toList.length = 9 := rfl
      have short : ("STATE ".toList ++ node.name ++ " counter=".toList
          ++ str node.counter).length < bufferSize := by
        have name := named.short
        have number : (str node.counter).length ≤ 11 := (word_str inRange).short
        unfold bufferSize
        simp only [List.length_append, keyword, label]
        omega
      have isState : "STATE".toList.isPrefixOf Request.state.text = true := rfl
      simp only [CounterC.dispatch, Request.serve, isState, if_true, bind_run, read_run]
      rw [sendReply_agrees answers .state _ short]
      rfl
  | credit txid fromNode amount =>
      have noState : "STATE".toList.isPrefixOf (Request.credit txid fromNode amount).text = false :=
        rfl
      simp only [CounterC.dispatch, noState, Bool.false_eq_true, if_false, scan_credit fits]
      rw [credit_agrees answers node fits inRange]
      rfl
  | transfer txid host port amount =>
      have noState : "STATE".toList.isPrefixOf (Request.transfer txid host port amount).text
          = false :=
        rfl
      have uncredited : scan CounterC.creditFormat (Request.transfer txid host port amount).text
          = [] :=
        rfl
      simp only [CounterC.dispatch, noState, Bool.false_eq_true, if_false, uncredited,
        scan_transfer fits]
      exact transfer_agrees answers node named fits inRange
  | reset amount =>
      have noState : "STATE".toList.isPrefixOf (Request.reset amount).text = false := rfl
      have uncredited : scan CounterC.creditFormat (Request.reset amount).text = [] := rfl
      have untransferred : scan CounterC.transferFormat (Request.reset amount).text = [] := rfl
      simp only [CounterC.dispatch, noState, Bool.false_eq_true, if_false, uncredited,
        untransferred, scan_reset fits]
      rw [reset_agrees]
      rfl

/-- An iteration of `counter.c` on a request is that of `counter.py`, where it returns. -/
theorem Request.Fits.after_agrees (fits : request.Fits) (named : Word 63 node.name)
    (inRange : InRange (node.after (request.answers answers) (ascii request.text)).counter)
    : CounterC.after answers node (ascii request.text)
      = if request.connects answers then
          some (node.after (request.answers answers) (ascii request.text))
        else none := by
  rw [(fits.after_leaves (request.answers answers) node rfl).2] at inRange
  have same := @dispatch_agrees answers request { node with sent := [] } named fits inRange
  rw [CounterC.after, fits.buffered, same, fits.after]
  cases request.connects answers <;> rfl

end

-----------------------------------------------------------------------------------------
-- Runs
-----------------------------------------------------------------------------------------

/-- A node of `counter.py` after a list of requests. -/
def Node.run (node : Node) (steps : List (CounterC.Answers × Request)) : Node :=
  steps.foldl (fun node step => node.after (step.2.answers step.1) (ascii step.2.text)) node

/-- A node of `counter.c` after a list of requests, unless the process has ended. -/
def Node.runC (node : Node) (steps : List (CounterC.Answers × Request)) : Option Node :=
  steps.foldlM (fun node step => CounterC.after step.1 node (ascii step.2.text)) node

/-- The two programs keep the same counter, print the same lines and send the same datagrams on
requests that fit their buffers, as long as no counter leaves the range of an `int`. The process of
`counter.c` ends exactly if the peer of some transfer cannot be resolved.
-/
theorem Node.runC_agrees {node : Node} (named : Word 63 node.name)
    {steps : List (CounterC.Answers × Request)} (fits : ∀ step ∈ steps, step.2.Fits)
    (inRange : ∀ before, before <+: steps → InRange (node.run before).counter)
    : node.runC steps
      = if steps.all fun step => step.2.connects step.1 then some (node.run steps) else none := by
  induction steps generalizing node with
  | nil => rfl
  | cons step steps ih =>
      obtain ⟨first, others⟩ := List.forall_mem_cons.mp fits
      have agrees := first.after_agrees step.1 named
        (inRange [step] ((List.prefix_cons_inj step).mpr List.nil_prefix))
      have kept := (first.after_leaves (step.2.answers step.1) node rfl).1
      have rest := ih (kept.symm ▸ named) others
        fun before earlier => inRange (step :: before) ((List.prefix_cons_inj step).mpr earlier)
      rw [Node.runC, List.foldlM_cons, agrees, List.all_cons]
      cases step.2.connects step.1 with
      | false => rfl
      | true => exact rest

/-- `B` is resolved, and no other host. -/
def onlyB : CounterC.Answers where
  resolves host service := if host = "B".toList then int? service else none
  numeric host port found _ _ resolved := by
    rw [int?_str] at resolved
    split at resolved
    · exact (Option.some.inj resolved).symm
    · cases resolved

def lockstepCalls : List (CounterC.Answers × Request) :=
  [(onlyB, .reset 100), (onlyB, .transfer "tx1".toList "B".toList 5000 30),
    (onlyB, .credit "tx2".toList "B".toList 7), (onlyB, .state)]

/-- A transfer to a host that is not resolved. -/
def endingCalls : List (CounterC.Answers × Request) :=
  lockstepCalls ++ [(onlyB, .transfer "tx3".toList "C".toList 5000 1)]

theorem Node.runC_agrees_endingCalls
    : let node : Node := { name := "A".toList, counter := 0 }
      node.runC lockstepCalls = some (node.run lockstepCalls) ∧ node.runC endingCalls = none := by
  intro node
  have named : Word 63 node.name := ⟨by decide, bounds_of_all (by decide), by decide⟩
  have fits : ∀ step ∈ endingCalls, step.2.Fits := by
    simp only [endingCalls, lockstepCalls, List.cons_append, List.nil_append, List.forall_mem_cons]
    have isB (width : Nat) (wide : 1 ≤ width) : Word width "B".toList :=
      ⟨by decide, bounds_of_all (by decide), wide⟩
    have isTxid (digit : Char) (isDigit : 33 ≤ digit.toNat ∧ digit.toNat ≤ 126)
        : Word 127 ['t', 'x', digit] :=
      ⟨List.cons_ne_nil _ _, by simp [isDigit], by simp⟩
    refine ⟨?reset, ?transfer, ?credit, trivial, ?ending, by simp⟩
    case reset => exact show InRange 100 by decide
    case transfer => exact ⟨isTxid '1' (by decide), isB 255 (by decide), by decide, by decide⟩
    case credit => exact ⟨isTxid '2' (by decide), isB 63 (by decide), by decide⟩
    case ending =>
      have isC : Word 255 "C".toList := ⟨by decide, bounds_of_all (by decide), by decide⟩
      exact ⟨isTxid '3' (by decide), isC, by decide, by decide⟩
  have inRange : ∀ before ∈ endingCalls.inits, InRange (node.run before).counter := by
    decide +kernel
  constructor
  · refine (Node.runC_agrees named (fun step member => fits step (List.mem_append_left _ member))
      fun before earlier => ?_).trans (if_pos (by decide +kernel))
    exact inRange before ((List.mem_inits _ _).mpr (earlier.trans (List.prefix_append _ _)))
  · exact (Node.runC_agrees named fits fun before earlier =>
      inRange before ((List.mem_inits _ _).mpr earlier)).trans (if_neg (by decide +kernel))

end MeshSnapshot.Counter
