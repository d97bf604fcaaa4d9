import MeshSnapshot.Recovery.Passage
import MeshSnapshot.Snapshot.Pipeline
import Mathlib.Algebra.BigOperators.Group.List.Basic

/-! What the apps have exchanged balances in a complete snapshot: whatever the images of the apps show
as sent to another member has been given to the app there before its image, or is in the recorded
channel. The balance is one of any quantity that app messages carry.
-/

namespace MeshSnapshot

open ChandyLamport

variable {members : List Ip} {cfg : Ip → Config} {mesh : Mesh} {source target : Ip} {id : Bytes}

/-- What the app has been given from `source` in its first `n` deliveries. -/
def Sidecar.givenFrom (s : Sidecar) (source : Ip) (n : Nat) : List Held :=
  heldFrom (s.trace.delivered.take n) source

section

variable {M : Type} [AddCommMonoid M] (weight : Held → M)

/-- The quantity that messages carry together. -/
def weigh (messages : List Held) : M := (messages.map weight).sum

@[simp] theorem weigh_append (messages more : List Held)
    : weigh weight (messages ++ more) = weigh weight messages + weigh weight more := by
  simp [weigh]

theorem weigh_perm {messages others : List Held} (perm : messages.Perm others)
    : weigh weight messages = weigh weight others :=
  (perm.map weight).sum_eq

-----------------------------------------------------------------------------------------
-- The sending side
-----------------------------------------------------------------------------------------

/-- Below the markers of a snapshot, the app messages are those of the first `reads` datagrams. -/
theorem Journal.Image.sentBelow {own : Ip} {config : Config} {j : Journal}
    {reads emitted delivered : Nat} (deployed : config.Deployed members own)
    (image : j.Image config own id reads emitted delivered) (forwards : j.Forwards config)
    (covered : target ∈ members) (other : target ≠ own)
    : ∃ before,
        before <+: j.sent
        ∧ before.filter SendCall.isApp = j.appCalls config reads
        ∧ (heldTo j.sent target).take (heldTo before target).length = heldTo before target
        ∧ ∃ held,
            (heldTo j.sent target)[(heldTo before target).length]? = some held
            ∧ markerId? held.payload = some id := by
  obtain ⟨before, after, selfIp, sent, known, earlier, later⟩ := image.sent
  have inCut : target ∈ cutMembers config selfIp := by
    refine (mem_cutMembers deployed).mpr ⟨covered, ?_⟩
    rcases known with rfl | rfl <;> simp [other]
  have unique : (cutMembers config selfIp).Nodup := by
    rw [cutMembers, deployed.meshMembers]
    exact deployed.unique.filter _
  have stream : heldTo j.sent target
      = heldTo before target
        ++ (Message.held ⟨0, 0, zeroIp, markerPrefix ++ id⟩ :: heldTo after target) := by
    rw [sent, heldTo_append, heldTo_append, heldTo_markers unique, if_pos inCut, List.append_assoc,
      List.singleton_append]
  refine ⟨before, ?_, ?_, ?_, ?_⟩
  · rw [sent, List.append_assoc]
    exact List.prefix_append _ _
  · have app {call : SendCall} (isApp : call.isApp = true) : call.origin = .forwarded := by
      simp only [SendCall.isApp, Bool.and_eq_true, beq_iff_eq] at isApp
      exact isApp.1
    have kept : (before.filter SendCall.isApp).filter (fun call => call.reads ≤ reads)
        = before.filter SendCall.isApp := by
      refine List.filter_eq_self.mpr fun call member => ?_
      obtain ⟨listed, isApp⟩ := List.mem_filter.mp member
      exact decide_eq_true (earlier call listed (app isApp))
    have noMarker : ((cutMembers config selfIp).map
        (markerCall (markerPrefix ++ id) reads)).filter SendCall.isApp = [] := by
      refine List.filter_eq_nil_iff.mpr fun call member isApp => ?_
      obtain ⟨ip, -, rfl⟩ := List.mem_map.mp member
      cases app isApp
    have dropped : (after.filter SendCall.isApp).filter (fun call => call.reads ≤ reads) = [] := by
      refine List.filter_eq_nil_iff.mpr fun call member => ?_
      obtain ⟨listed, isApp⟩ := List.mem_filter.mp member
      have beyond := later call listed (app isApp)
      simpa using beyond
    rw [← filter_appCalls image.bound forwards.bound, ← forwards.calls, sent]
    simp only [List.filter_append, noMarker, kept, dropped, List.append_nil]
  · rw [stream, List.take_left]
  · refine ⟨_, by rw [stream, List.getElem?_append_right (Nat.le_refl _), Nat.sub_self]; rfl, ?_⟩
    simp [Message.held]

/-- Apart from markers, only the messages of apps count. -/
theorem weigh_app (neutral : ∀ held, startPrefix.isPrefixOf held.payload = true → weight held = 0)
    (messages : List Held)
    : weigh weight (messages.filter (fun held => !isMarker held))
      = weigh weight (messages.filter isAppHeld) := by
  induction messages with
  | nil => rfl
  | cons held rest ih =>
      rw [← List.singleton_append, List.filter_append, weigh_append, ih, List.filter_append,
        weigh_append]
      congr 1
      cases marked : isMarker held with
      | true => simp [marked, isAppHeld]
      | false =>
          cases isStart : startPrefix.isPrefixOf held.payload with
          | true => simp [marked, isStart, isAppHeld, weigh, neutral held isStart]
          | false => simp [marked, isStart, isAppHeld]

/-- An app that emits nothing for `target` in between has emitted the same for it. -/
theorem emittedTo_quiet {config : Config} {s : Sidecar} {reads emitted : Nat}
    (ordered : reads ≤ emitted)
    (quiet
      : ∀ k message,
          s.journal.Emits config k target message → ¬ (reads ≤ k ∧ k < emitted))
    : s.emittedTo config target emitted = s.emittedTo config target reads := by
  induction emitted, ordered using Nat.le_induction with
  | base => rfl
  | succ n ordered ih =>
      have same := ih fun k message emits inside => quiet k message emits (by omega)
      cases found : s.journal.emitted[n]? with
      | none =>
          have short : s.journal.emitted.length ≤ n := List.getElem?_eq_none_iff.mp found
          rw [← same, Sidecar.emittedTo, Sidecar.emittedTo, Journal.appCalls, Journal.appCalls,
            List.take_of_length_le short, List.take_of_length_le (short.trans (Nat.le_succ n))]
      | some datagram =>
          have nothing : heldTo (forwardCall? config s.journal.isServer (datagram, n)).toList target
              = [] := by
            unfold forwardCall?
            split
            case isTrue => rfl
            case isFalse plain =>
              cases routed : rudpRoute config s.journal.isServer datagram with
              | none => rfl
              | some route =>
                  rw [Option.map_some, Option.toList_some, heldTo_singleton]
                  refine if_neg fun here => quiet n route.2 ⟨datagram, found, ?_, ?_⟩ (by omega)
                  · exact Bool.eq_false_iff.mpr plain
                  · rw [routed, ← here]
          rw [Sidecar.emittedTo, Journal.appCalls_succ found, heldTo_append, nothing,
            List.append_nil]
          exact same

end

-----------------------------------------------------------------------------------------
-- The receiving side
-----------------------------------------------------------------------------------------

/-- The messages up to a cut are those up to an earlier position and those in flight. -/
theorem plain_take (stream : List Held) {before cut : Nat} (ordered : before ≤ cut)
    : (stream.take cut).filter (fun held => !isMarker held)
      = (stream.take before).filter (fun held => !isMarker held)
        ++ (inFlight (Deferral.numbered (fun _ => false) stream) before cut).map Prod.snd := by
  have data := dataOf_take (stream.map toMsg) ordered
  rwa [← List.map_take, ← List.map_take, dataOf_toMsg, dataOf_toMsg, between_toMsg] at data

-----------------------------------------------------------------------------------------
-- Balance
-----------------------------------------------------------------------------------------

/-- The image of a member's app for a snapshot, and its artifact. -/
structure Mesh.Imaged (mesh : Mesh) (ip : Ip) (id : Bytes) (artifact : Artifact)
    (reads emitted delivered : Nat) : Prop where
  posted : (mesh ip).Posted id .complete artifact
  image
    : ∃ target exportPath ok,
        .checkpointed id target exportPath ok reads emitted delivered ∈ (mesh ip).trace.control

/-- What the image of the sender shows as emitted for the receiver is what the image of the receiver
shows as given to it, and the recorded channel.
-/
theorem Mesh.Reachable.balance (deployed : ∀ ip, (cfg ip).Deployed members ip)
    (reachable : Mesh.Reachable cfg mesh) (lawful : mesh.Lawful members)
    (indirect : ∀ call ∈ (mesh source).trace.sent, call.origin ≠ .direct)
    (distinct : source ≠ target) (sourceMember : source ∈ members)
    (targetMember : target ∈ members) {sender receiver : Artifact}
    {reads emitted delivered targetReads targetEmitted targetDelivered : Nat}
    (sent : mesh.Imaged source id sender reads emitted delivered)
    (received : mesh.Imaged target id receiver targetReads targetEmitted targetDelivered)
    (quiet
      : ∀ k message,
          (mesh source).journal.Emits (cfg source) k target message
          → ¬ (reads ≤ k ∧ k < emitted))
    {M : Type} [AddCommMonoid M] (weight : Held → M)
    (neutral : ∀ held, startPrefix.isPrefixOf held.payload = true → weight held = 0)
    : weigh weight ((mesh source).emittedTo (cfg source) target emitted)
      = weigh weight ((mesh target).givenFrom source targetDelivered)
        + weigh weight (receiver.channelFrom source) := by
  obtain ⟨net, shows⟩ := reachable.shows deployed lawful
  obtain ⟨toTarget, fromSource, passed, cut, -, found, once, agreement⟩ :=
    shows.agreement distinct sourceMember targetMember sent.posted received.posted
  obtain ⟨_, _, _, sourceImage⟩ := sent.image
  obtain ⟨_, _, _, targetImage⟩ := received.image
  have sourceShot := ((reachable.run source).captures (deployed source)).images sourceImage
  have targetShot := ((reachable.run target).captures (deployed target)).images targetImage
  have forwards := (reachable.run source).forwards
  -- what the sender has sent below its marker
  obtain ⟨before, shorter, calls, taken, held, standing, named⟩ :=
    sourceShot.sentBelow (deployed source) forwards targetMember (Ne.symm distinct)
  have below : (heldTo before target).length = cut :=
    (agreement.marker _).mp ⟨held, Deferral.mem_numbered.mpr ⟨standing, rfl⟩, named⟩
  rw [below] at taken
  have sends : weigh weight ((mesh source).emittedTo (cfg source) target emitted)
      = weigh weight (((heldTo (mesh source).trace.sent target).take cut).filter
          (fun held => !isMarker held)) := by
    have plain := (lawful.plain source).before shorter
    have counted : weigh weight ((heldTo before target).filter (fun held => !isMarker held))
        = weigh weight (heldTo (before.filter SendCall.isApp) target) := by
      rw [weigh_app weight neutral, heldTo_app plain
        (fun call member => forwards.markers call (shorter.mem member))
        (fun call member => indirect call (shorter.mem member))]
    rw [emittedTo_quiet sourceShot.emitted quiet, Sidecar.emittedTo, ← calls, ← counted]
    exact congrArg (fun stream => weigh weight (stream.filter fun held => !isMarker held)) taken.symm
  -- what the receiver had been given when it began, and what it recorded then
  obtain ⟨began, logged, -, -, given⟩ := targetShot.delivered
  have entry : (id, began) ∈ (beginsOf (mesh target).trace.control).filter
      (fun entry => entry.1 = id) := List.mem_filter.mpr ⟨logged, decide_eq_true rfl⟩
  rw [once] at entry
  obtain rfl := (Prod.mk.inj (List.mem_singleton.mp entry)).2
  have whole : heldFrom (mesh target).trace.consumed source
      <+: heldTo (mesh source).trace.sent target := by
    have consumed := (reachable.passes_prefix source target).map Prod.snd
    rwa [map_snd_packetsOf, numberedTo, Deferral.map_snd_numbered] at consumed
  have passed : heldFrom ((mesh target).trace.consumed.take began) source
      <+: heldTo (mesh source).trace.sent target :=
    (((List.take_prefix _ _).filter _).map _).trans whole
  have perm := (given source).map Prod.snd
  rw [map_snd_packetsOf, Deferral.map_snd_numbered_data] at perm
  have gives : weigh weight ((mesh target).givenFrom source targetDelivered)
      = weigh weight ((heldFrom ((mesh target).trace.consumed.take began) source).filter
          (fun held => !isMarker held)) :=
    weigh_perm weight perm
  rw [sends, plain_take _ agreement.noOrphan, weigh_append, ← List.prefix_iff_eq_take.mp passed,
    ← gives, Artifact.channelFrom_of_increasing found agreement.channel
      ((Deferral.numbered_increasing _).filter _)]
  rfl

end MeshSnapshot
