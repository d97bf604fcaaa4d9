import MeshSnapshot.Counter.Plays
import MeshSnapshot.Recovery.Balance
import MeshSnapshot.Snapshot.Consistency

/-! `counter.py` on a mesh that takes snapshots: the counters in a complete snapshot, with the amounts
that wait in the sockets of the images and those in the recorded channels, add up to what the
counters began with.
-/

namespace MeshSnapshot

open Counter Text ChandyLamport

section

variable {α κ M : Type} [DecidableEq κ]

/-- A sum over items is one over their keys, where only items with one of the keys count. -/
theorem sum_by_key [AddCommMonoid M] (keys : Finset κ) (key : α → κ) (amount : α → M)
    (items : List α) (covered : ∀ item ∈ items, amount item ≠ 0 → key item ∈ keys)
    : ∑ k ∈ keys, ((items.filter (fun item => key item = k)).map amount).sum
      = (items.map amount).sum := by
  induction items with
  | nil => simp
  | cons item rest ih =>
      have ih := ih fun other member => covered other (List.mem_cons_of_mem _ member)
      have split (k : κ)
          : (((item :: rest).filter (fun item => key item = k)).map amount).sum
            = (if key item = k then amount item else 0)
              + ((rest.filter (fun item => key item = k)).map amount).sum := by
        by_cases here : key item = k <;> simp [here]
      rw [Finset.sum_congr rfl fun k _ => split k, Finset.sum_add_distrib, ih, Finset.sum_ite_eq,
        List.map_cons, List.sum_cons]
      congr 1
      by_cases nothing : amount item = 0
      · rw [nothing, ite_self]
      · exact if_pos (covered item List.mem_cons_self nothing)

/-- Parties that pass amounts to each other: what all hold, and what has been passed on but not
taken, is what they held.
-/
theorem sum_exchanged [AddCancelCommMonoid M] (keys : Finset κ) {before after : κ → M}
    {passed taken pending : κ → κ → M}
    (each
      : ∀ k ∈ keys,
          after k + ∑ other ∈ keys.erase k, passed k other
            = before k + ∑ other ∈ keys.erase k, taken other k)
    (pairs
      : ∀ source ∈ keys, ∀ target ∈ keys,
          source ≠ target → passed source target = taken source target + pending source target)
    : ∑ k ∈ keys, after k + ∑ target ∈ keys, ∑ source ∈ keys.erase target, pending source target
      = ∑ k ∈ keys, before k := by
  have swap : ∑ source ∈ keys, ∑ target ∈ keys.erase source, passed source target
      = ∑ target ∈ keys, ∑ source ∈ keys.erase target, passed source target := by
    refine Finset.sum_comm' fun a b => ?_
    simp only [Finset.mem_erase, ne_eq]
    tauto
  have split : ∑ target ∈ keys, ∑ source ∈ keys.erase target, passed source target
      = ∑ target ∈ keys, ∑ source ∈ keys.erase target, taken source target
        + ∑ target ∈ keys, ∑ source ∈ keys.erase target, pending source target := by
    rw [← Finset.sum_add_distrib]
    refine Finset.sum_congr rfl fun target targetKey => ?_
    rw [← Finset.sum_add_distrib]
    refine Finset.sum_congr rfl fun source listed => ?_
    obtain ⟨distinct, sourceKey⟩ := Finset.mem_erase.mp listed
    exact pairs source sourceKey target targetKey distinct
  have total := Finset.sum_congr rfl each
  rw [Finset.sum_add_distrib, Finset.sum_add_distrib, swap, split] at total
  refine add_right_cancel (Eq.trans ?_ total)
  rw [add_assoc, add_comm (∑ target ∈ keys, ∑ source ∈ keys.erase target, pending source target)]

end

variable {members : List Ip} {cfg : Ip → Config} {mesh : Mesh} {id : Bytes} {config : Config}
  {isServer : Bool} {own : Ip} {given waiting : List PeerPacket} {emitted : List Datagram}
  {start node : Node}

/-- The amount that a message credits. -/
def credited (held : Held) : Int := creditOf held.payload

/-- The amount that packets credit together. -/
def creditedBy (packets : List PeerPacket) : Int :=
  (packets.map fun packet => credited packet.held).sum

theorem creditedBy_append (packets more : List PeerPacket)
    : creditedBy (packets ++ more) = creditedBy packets + creditedBy more := by
  rw [creditedBy, List.map_append, List.sum_append, creditedBy, creditedBy]

/-- The app of `own` is `counter.py`, which has been `start` and is `node` now. Of the packets `given`
it has yet to take `waiting` from the buffer of its socket. Only CREDITs between different members
count.
-/
structure RunsCounter (members : List Ip) (config : Config) (isServer : Bool) (own : Ip)
    (given : List PeerPacket) (emitted : List Datagram) (start node : Node)
    (waiting : List PeerPacket) : Prop where
  plays
    : ∃ taken,
        given = taken ++ waiting
        ∧ start.Plays
            (fun datagram => ∃ target ∈ members,
              target ≠ own
              ∧ ∃ message, rudpRoute config isServer datagram = some (target, message))
            taken emitted node
  inside
    : ∀ packet ∈ given,
        credited packet.held ≠ 0 → packet.peer ∈ members ∧ packet.peer ≠ own

/-- The calls of datagrams carry what the datagrams credit, where these are routed. -/
theorem credited_calls (datagrams : List Datagram) (k : Nat)
    (routed
      : ∀ datagram ∈ datagrams,
          creditOf datagram.data ≠ 0 → (rudpRoute config isServer datagram).isSome)
    : (((datagrams.zipIdx k).filterMap (forwardCall? config isServer)).map
        (fun call => credited call.message.held)).sum
      = credits datagrams := by
  induction datagrams generalizing k with
  | nil => rfl
  | cons datagram rest ih =>
      have ih := ih (k + 1) fun other member => routed other (List.mem_cons_of_mem _ member)
      have whole : credits (datagram :: rest) = creditOf datagram.data + credits rest := rfl
      rw [whole, ← ih, List.zipIdx_cons, List.filterMap_cons]
      cases called : forwardCall? config isServer (datagram, k) with
      | none =>
          have nothing : creditOf datagram.data = 0 := by
            unfold forwardCall? at called
            split at called
            case isTrue isStart => exact creditOf_start isStart
            case isFalse =>
              by_contra counts
              have isSome := routed datagram List.mem_cons_self counts
              rw [Option.map_eq_none_iff.mp called] at isSome
              cases isSome
          rw [nothing, zero_add]
      | some call =>
          unfold forwardCall? at called
          split at called
          · cases called
          · obtain ⟨route, found, rfl⟩ := Option.map_eq_some_iff.mp called
            have payload : credited route.2.held = creditOf datagram.data :=
              congrArg creditOf (rudpRoute_message found).1
            simp [payload]

namespace RunsCounter

/-- What the node has taken and emitted explains its counter. -/
theorem accounts (runs : RunsCounter members config isServer own given emitted start node waiting)
    (named : IsToken start.name) (others : start.RepliesOther)
    : IsToken node.name
      ∧ node.RepliesOther
      ∧ node.counter + creditedBy waiting + credits emitted = start.counter + creditedBy given := by
  obtain ⟨taken, rfl, plays⟩ := runs.plays
  have accounts := plays.accounts named others
  refine ⟨accounts.named, accounts.others, ?_⟩
  have explained : node.counter + credits emitted = start.counter + creditedBy taken :=
    accounts.counter
  rw [creditedBy_append, ← add_assoc, ← explained]
  ring

/-- What is emitted is emitted for the other members. -/
theorem credits_emitted
    (runs : RunsCounter members config isServer own given emitted start node waiting)
    (named : IsToken start.name) (others : start.RepliesOther)
    : credits emitted
      = ∑ target ∈ members.toFinset.erase own,
          weigh credited
            (heldTo (emitted.zipIdx.filterMap (forwardCall? config isServer)) target) := by
  obtain ⟨taken, -, plays⟩ := runs.plays
  have addressed := (plays.accounts named others).addressed
  have wired : ((emitted.zipIdx.filterMap (forwardCall? config isServer)).map
      fun call => credited call.message.held).sum = credits emitted := by
    refine credited_calls _ 0 fun datagram listed counts => ?_
    obtain ⟨target, -, -, message, routed⟩ := addressed datagram listed counts
    exact Option.isSome_iff_exists.mpr ⟨_, routed⟩
  rw [← wired, ← sum_by_key (members.toFinset.erase own) SendCall.dst]
  · refine Finset.sum_congr rfl fun target _ => ?_
    rw [weigh, heldTo, List.map_map]
    rfl
  · intro call listed counts
    obtain ⟨⟨datagram, k⟩, entry, called⟩ := List.mem_filterMap.mp listed
    have member : datagram ∈ emitted := List.fst_mem_of_mem_zipIdx entry
    unfold forwardCall? at called
    split at called
    · cases called
    · obtain ⟨route, found, rfl⟩ := Option.map_eq_some_iff.mp called
      have same : credited route.2.held = creditOf datagram.data :=
        congrArg creditOf (rudpRoute_message found).1
      have credits : creditOf datagram.data ≠ 0 := fun none => counts (same.trans none)
      obtain ⟨target, inside, other, message, routed⟩ := addressed datagram member credits
      obtain rfl := Option.some.inj (found.symm.trans routed)
      exact Finset.mem_erase.mpr ⟨other, List.mem_toFinset.mpr inside⟩

end RunsCounter

/-- What is given is given from the other members. -/
theorem creditedBy_given
    (inside
      : ∀ packet ∈ given,
          credited packet.held ≠ 0 → packet.peer ∈ members ∧ packet.peer ≠ own)
    : creditedBy given
      = ∑ source ∈ members.toFinset.erase own, weigh credited (heldFrom given source) := by
  rw [creditedBy, ← sum_by_key (members.toFinset.erase own) PeerPacket.peer]
  · refine Finset.sum_congr rfl fun source _ => ?_
    rw [weigh, heldFrom, List.map_map]
    rfl
  · intro packet listed counts
    obtain ⟨inside, other⟩ := inside packet listed counts
    exact Finset.mem_erase.mpr ⟨other, List.mem_toFinset.mpr inside⟩

/-- The image that `own` has taken for a snapshot holds the node `node` of `counter.py`, which began as
`start`, and `waiting` in the buffer of its socket. The app has been quiet between the last read of
the intercept socket and the image.
-/
structure Mesh.HoldsCounter (members : List Ip) (cfg : Ip → Config) (mesh : Mesh) (id : Bytes)
    (own : Ip) (artifact : Artifact) (start node : Node) (waiting : List PeerPacket) : Prop where
  named : IsToken start.name
  fresh : start.replied = []
  indirect : ∀ call ∈ (mesh own).trace.sent, call.origin ≠ .direct
  imaged
    : ∃ reads emitted delivered,
        mesh.Imaged own id artifact reads emitted delivered
        ∧ (∀ target k message,
            (mesh own).journal.Emits (cfg own) k target message → ¬ (reads ≤ k ∧ k < emitted))
        ∧ RunsCounter members (cfg own) (mesh own).isServer own
            ((mesh own).trace.delivered.take delivered) ((mesh own).trace.emitted.take emitted)
            start node waiting

theorem Mesh.HoldsCounter.others {artifact : Artifact}
    (holds : mesh.HoldsCounter members cfg id own artifact start node waiting)
    : start.RepliesOther := by
  intro text replied
  rw [holds.fresh] at replied
  cases replied

/-- The amounts that the nodes have passed on and have taken, until their images were taken. -/
theorem Mesh.Reachable.exchanges (deployed : ∀ ip, (cfg ip).Deployed members ip)
    (reachable : Mesh.Reachable cfg mesh) (lawful : mesh.Lawful members)
    {stored : Ip → Artifact} {start node : Ip → Node} {waiting : Ip → List PeerPacket}
    (holds
      : ∀ ip ∈ members,
          mesh.HoldsCounter members cfg id ip (stored ip) (start ip) (node ip) (waiting ip))
    : ∃ passed taken : Ip → Ip → Int,
        (∀ ip ∈ members.toFinset,
          (node ip).counter + creditedBy (waiting ip)
              + ∑ target ∈ members.toFinset.erase ip, passed ip target
            = (start ip).counter + ∑ source ∈ members.toFinset.erase ip, taken source ip)
        ∧ ∀ source ∈ members.toFinset, ∀ target ∈ members.toFinset,
            source ≠ target
            → passed source target
              = taken source target + weigh credited ((stored target).channelFrom source) := by
  have neutral (held : Held) (isStart : startPrefix.isPrefixOf held.payload = true)
      : credited held = 0 :=
    creditOf_start isStart
  choose! reads emitted delivered imaged quiet runs using fun ip member => (holds ip member).imaged
  refine ⟨fun source target => weigh credited ((mesh source).emittedTo (cfg source) target
    (emitted source)), fun source target => weigh credited ((mesh target).givenFrom source
      (delivered target)), fun ip listed => ?_, fun source sourceListed target targetListed distinct => ?_⟩
  case refine_1 =>
    have member := List.mem_toFinset.mp listed
    have runs := runs ip member
    obtain ⟨-, -, accounts⟩ := runs.accounts (holds ip member).named (holds ip member).others
    rwa [runs.credits_emitted (holds ip member).named (holds ip member).others,
      creditedBy_given runs.inside] at accounts
  case refine_2 =>
    have sourceMember := List.mem_toFinset.mp sourceListed
    have targetMember := List.mem_toFinset.mp targetListed
    exact reachable.balance deployed lawful (holds source sourceMember).indirect distinct sourceMember
      targetMember (imaged source sourceMember) (imaged target targetMember)
      (fun k message => quiet source sourceMember target k message) credited neutral

/-- The counters in the images of a complete snapshot, what waits in their sockets and what the
artifacts have recorded add up to what the counters began with.
-/
theorem Mesh.Reachable.counters_conserved (deployed : ∀ ip, (cfg ip).Deployed members ip)
    (reachable : Mesh.Reachable cfg mesh) (lawful : mesh.Lawful members)
    {stored : Ip → Artifact} {start node : Ip → Node} {waiting : Ip → List PeerPacket}
    (holds
      : ∀ ip ∈ members,
          mesh.HoldsCounter members cfg id ip (stored ip) (start ip) (node ip) (waiting ip))
    : ∑ ip ∈ members.toFinset, ((node ip).counter + creditedBy (waiting ip))
        + ∑ target ∈ members.toFinset, ∑ source ∈ members.toFinset.erase target,
            weigh credited ((stored target).channelFrom source)
      = ∑ ip ∈ members.toFinset, (start ip).counter := by
  obtain ⟨passed, taken, each, pairs⟩ := reachable.exchanges deployed lawful holds
  exact sum_exchanged members.toFinset each pairs

/-- The CREDIT that the node on A sends for a transfer of 3 to B. -/
def creditText : Bytes := encode (creditMsg ['t'] ['a'] 3)

/-- A's node sends a CREDIT before the snapshot, which B receives while it records the channel. -/
def counterCalls : List (Ip × Callback × Host) := [
  (nodeA, .emit [datagramToB creditText, startCommand [49]], {}),
  (nodeA, .intercept, {}),
  (nodeC, .received (markerFrame 0 [49]) nodeA, {}),
  (nodeB, .received (markerFrame 0 [49]) nodeC, {}),
  (nodeB, .received (dataFrame 0 [10, 24, 24, 11] creditText) nodeA, {}),
  (nodeB, .received (markerFrame 1 [49]) nodeA, {}),
  (nodeA, .received (markerFrame 0 [49]) nodeB, {}),
  (nodeA, .received (markerFrame 0 [49]) nodeC, {}),
  (nodeC, .received (markerFrame 0 [49]) nodeB, {})
]

/-- A node that begins with 10. -/
def counterNode : Node := ⟨['a'], 10, [], [], []⟩

/-- What a client of A's node asks for. -/
def transferToB : Bytes := encode ("TRANSFER t " ++ nodeB ++ " 5000 3").toList

/-- The nodes in the images. -/
def counterNodes (ip : Ip) : Node :=
  if ip = nodeA then counterNode.after {} transferToB else counterNode

/-- How many datagrams have left each host when its image is taken. -/
def counterReads (ip : Ip) : Nat := if ip = nodeA then 2 else 0

theorem counterNode_plays {isServer : Bool} (member : isServer = true)
    : counterNode.Plays
        (fun datagram => ∃ target ∈ [nodeA, nodeB, nodeC],
          target ≠ nodeA
          ∧ ∃ message,
              rudpRoute (threeMembers nodeA) isServer datagram = some (target, message))
        [] [datagramToB creditText, startCommand [49]] (counterNodes nodeA) := by
  have asked : transfer? transferToB
      = some ⟨['t'], nodeB.toList, ['5', '0', '0', '0'], 3⟩ := by
    decide +kernel
  have carries : counterNode.Carries {} transferToB := by
    intro transfer found
    obtain rfl := Option.some.inj (asked.symm.trans found)
    exact ⟨rfl, rfl, ⟨5000, by decide +kernel⟩, by decide +kernel⟩
  have sent : (counterNode.after {} transferToB).sent
      = [⟨nodeB.toList, 5000, creditMsg ['t'] ['a'] 3⟩] := by
    decide +kernel
  have queues : (counterNode.after {} transferToB).Queues
      (fun datagram => ∃ target ∈ [nodeA, nodeB, nodeC],
        target ≠ nodeA
        ∧ ∃ message, rudpRoute (threeMembers nodeA) isServer datagram = some (target, message))
      [datagramToB creditText] [] := by
    refine ⟨?_, fun _ none => by cases none⟩
    rw [sent, member]
    have routed : (rudpRoute (threeMembers nodeA) true (datagramToB creditText)).map Prod.fst
        = some nodeB := by
      decide +kernel
    obtain ⟨route, routed, named⟩ := Option.map_eq_some_iff.mp routed
    exact .cons ⟨rfl, nodeB, by decide, by decide, route.2, named ▸ routed⟩ .nil
  exact (Node.Plays.start.client (by decide +kernel) carries queues).command (by decide)

/-- All three have completed snapshot 1 and have taken an image for it, with `counterNodes`. -/
def Mesh.isCounted (mesh : Mesh) : Bool :=
  mesh.isRoutine nodeA [[49]] && mesh.isStored
  && [nodeA, nodeB, nodeC].all (fun ip =>
      (mesh.stored ip).status == .complete
      && (mesh ip).trace.sent.all (·.origin != .direct)
      && decide (imageOf ip true (counterReads ip) (counterReads ip) 0 ∈ (mesh ip).trace.control)
      && (mesh ip).isServer)
  && (mesh nodeA).trace.emitted == [datagramToB creditText, startCommand [49]]

theorem Mesh.holds_of_isCounted
    (ran : threeStarted.runAll threeMembers counterCalls = some mesh)
    (counted : mesh.isCounted = true)
    : mesh.Lawful [nodeA, nodeB, nodeC]
      ∧ mesh.isStored = true
      ∧ ∀ ip ∈ [nodeA, nodeB, nodeC],
          mesh.HoldsCounter [nodeA, nodeB, nodeC] threeMembers [49] ip (mesh.stored ip) counterNode
            (counterNodes ip) [] := by
  simp only [Mesh.isCounted, Bool.and_eq_true, List.all_eq_true, beq_iff_eq, bne_iff_ne,
    decide_eq_true_eq] at counted
  obtain ⟨⟨⟨routine, isStored⟩, each⟩, emitted⟩ := counted
  have callers : ∀ call ∈ counterCalls, call.1 ∈ [nodeA, nodeB, nodeC] := by decide
  obtain ⟨-, lawful⟩ :=
    Mesh.lawful_of_isRoutine ran callers routine List.mem_cons_self (List.nodup_singleton _)
  refine ⟨lawful, isStored, fun ip member => ?_⟩
  obtain ⟨⟨⟨complete, indirect⟩, checkpointed⟩, isServer⟩ := each ip member
  obtain ⟨posted, isFor, -⟩ := Mesh.posted_of_isStored isStored ip member
  have named : IsToken counterNode.name := ⟨by decide, by simp [counterNode, isSpace]⟩
  refine ⟨named, rfl, indirect, counterReads ip, counterReads ip, 0,
    ⟨⟨posted, isFor, complete⟩, _, _, _, checkpointed⟩, fun _ _ _ _ => by omega,
    ⟨[], rfl, ?_⟩, fun packet none => by cases none⟩
  by_cases isA : ip = nodeA
  case pos =>
    subst isA
    have taken : (mesh nodeA).trace.emitted.take (counterReads nodeA)
        = [datagramToB creditText, startCommand [49]] := by
      rw [emitted]
      rfl
    rw [taken]
    exact counterNode_plays isServer
  case neg =>
    have none : counterReads ip = 0 := if_neg isA
    have idle : counterNodes ip = counterNode := if_neg isA
    rw [none, idle]
    exact .start

theorem Mesh.Reachable.counters_conserved_counterCalls
    : ∃ mesh : Mesh,
        threeStarted.runAll threeMembers counterCalls = some mesh
        ∧ (counterNodes nodeA).counter = 7
        ∧ weigh credited ((mesh.stored nodeB).channelFrom nodeA) = 3
        ∧ ∑ ip ∈ [nodeA, nodeB, nodeC].toFinset, ((counterNodes ip).counter + 0)
            + ∑ target ∈ [nodeA, nodeB, nodeC].toFinset,
              ∑ source ∈ [nodeA, nodeB, nodeC].toFinset.erase target,
                weigh credited ((mesh.stored target).channelFrom source)
          = ∑ _ip ∈ [nodeA, nodeB, nodeC].toFinset, counterNode.counter := by
  have ran : (threeStarted.runAll threeMembers counterCalls).any (fun mesh =>
      mesh.isCounted && (counterNodes nodeA).counter == 7
      && weigh credited ((mesh.stored nodeB).channelFrom nodeA) == 3) = true := by
    decide +kernel
  obtain ⟨mesh, ran, shown⟩ := (Option.any_eq_true _ _).mp ran
  simp only [Bool.and_eq_true, beq_iff_eq] at shown
  obtain ⟨⟨counted, debited⟩, recorded⟩ := shown
  have reachable := (Mesh.Reachable.init threeStarted_starts).runAll ran
  obtain ⟨lawful, -, holds⟩ := Mesh.holds_of_isCounted ran counted
  exact ⟨mesh, ran, debited, recorded,
    reachable.counters_conserved threeMembers_deployed lawful holds⟩

end MeshSnapshot
