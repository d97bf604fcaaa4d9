import MeshSnapshot.Failures.Interrupted
import MeshSnapshot.Sidecar.Outlets
import MeshSnapshot.Transport.ExactlyOnce
import MeshSnapshot.Transport.Framing

/-! Fair delivery. A packet stays unacknowledged until an acknowledgement arrives, and every copy
of it that arrives is acknowledged. So a run in which one copy of every pending packet arrives
passes everything that was sent before the run.
-/

namespace MeshSnapshot.Transport

open Procedure

variable {cfg : Config} {s : Sidecar} {callback : Callback} {ip dst src : Ip} {seq : Nat}
  {held : Held} {acked : Nat → Prop} {view view' : SenderView}

/-- A sending half sends under new numbers, and does not go back to a confirmed one. -/
structure SenderView.Grows (view view' : SenderView) : Prop where
  log : view.log <+: view'.log
  sendSeq : view.sendSeq ≤ view'.sendSeq
  confirmed : ∀ {seq}, seq < view.sendSeq → view.unacked seq = none → view'.unacked seq = none

theorem SenderView.Grows.refl (view : SenderView) : view.Grows view :=
  ⟨List.prefix_rfl, Nat.le_refl _, fun _ confirmed => confirmed⟩

theorem SenderView.Grows.trans {a b c : SenderView} (first : a.Grows b) (second : b.Grows c)
    : a.Grows c :=
  ⟨first.log.trans second.log, Nat.le_trans first.sendSeq second.sendSeq, fun earlier confirmed =>
    second.confirmed (Nat.lt_of_lt_of_le earlier first.sendSeq) (first.confirmed earlier confirmed)⟩

theorem SenderView.Steps.grows (steps : SenderView.Steps acked view view') : view.Grows view' := by
  induction steps with
  | refl => exact .refl view
  | tail _ step ih =>
      refine ih.trans ?_
      cases step with
      | send framed =>
          refine ⟨List.prefix_append _ _, Nat.le_succ _, fun earlier confirmed => ?_⟩
          simpa [SenderView.send, Nat.ne_of_lt earlier] using confirmed
      | resend => exact ⟨List.prefix_rfl, Nat.le_refl _, fun _ confirmed => confirmed⟩
      | confirm =>
          refine ⟨List.prefix_rfl, Nat.le_refl _, fun {other} _ confirmed => ?_⟩
          simp only [SenderView.confirm, Function.update_apply]
          split
          · rfl
          · exact confirmed

/-- Every sent packet is pending, or was acknowledged. -/
def SenderView.Answered (acks : Set Nat) (view : SenderView) : Prop :=
  ∀ seq < view.sendSeq, view.unacked seq ≠ none ∨ seq ∈ acks

theorem SenderView.Steps.answered {acks : Set Nat}
    (steps : SenderView.Steps (· ∈ acks) view view') (answered : view.Answered acks)
    : view'.Answered acks := by
  induction steps with
  | refl => exact answered
  | @tail middle _ _ step ih =>
      intro seq sent
      cases step with
      | @send held packet framed =>
          by_cases last : seq = middle.sendSeq
          · exact .inl (by simp [SenderView.send, last])
          · have earlier : seq < middle.sendSeq := by
              have : seq < middle.sendSeq + 1 := sent
              omega
            refine (ih seq earlier).imp_left fun pending => ?_
            simpa [SenderView.send, last] using pending
      | resend => exact ih seq sent
      | @confirm other confirmed =>
          by_cases same : seq = other
          · exact .inr (same ▸ confirmed)
          · refine (ih seq sent).imp_left fun pending => ?_
            simpa [SenderView.confirm, same] using pending

theorem respects_transport
    : Respects fun s s' : Sidecar => s'.tunnelTransport = s.tunnelTransport where
  unseen same := congrArg Outlets.tunnelTransport same
  trans first second := second.trans first
  sends key payload dst s := congrArg Desk.transport
    (Calm.bind (calm_getSpoofSock key) (fun sock => calm_spoofSendto sock payload dst) s)
  delivers ip seq held s := congrArg Desk.transport (calm_deliver ip seq held s)

/-- What has been acknowledged stays so, and a data packet that is received is acknowledged. -/
theorem run_acks (cfg : Config) (opened : s.tunnelTransport = true)
    (framed : ∀ dst, (senderView s dst).Framed)
    (known : seq ∈ acksTo s.trace.wire ip ∨ ∃ held, dataOf callback = some (ip, seq, held))
    : seq ∈ acksTo (final (callback.run cfg s)).trace.wire ip := by
  cases received : dataOf callback with
  | none =>
      have before : seq ∈ acksTo s.trace.wire ip := by
        rcases known with before | ⟨held, isData⟩
        · exact before
        · cases received.symm.trans isData
      have unmoved := run_unmoved cfg received framed
      cases ended : callback.run cfg s with
      | ok _ s' =>
          have same : acksTo s'.trace.wire ip = acksTo s.trace.wire ip :=
            congrArg ReceiverView.acks ((unmoved.ok rfl ended).receiver ip)
          exact same ▸ before
      | error e s' =>
          have same : acksTo s'.trace.wire ip = acksTo s.trace.wire ip :=
            congrArg ReceiverView.acks ((unmoved.error rfl ended).receiver ip)
          exact same ▸ before
  | some data =>
      obtain ⟨src, number, held⟩ := data
      obtain ⟨packet, rfl, parsed⟩ := dataOf_eq_some received
      obtain ⟨s₁, peered, -, rest⟩ := getPeer_returns src s
      have same : s₁.trace = s.trace := (congrArg Sidecar.trace rest :)
      have opened₁ : s₁.tunnelTransport = true :=
        (congrArg Sidecar.tunnelTransport rest :).trans opened
      have ran : Callback.run cfg (.received packet src) s
          = dataReceived cfg src number held s₁ := by
        change datagramReceived cfg packet src s = _
        rw [datagramReceived, bind_run, peered, parsed]
      rw [ran, acks_dataReceived opened₁ (parseFrame_data_lt parsed) held, same]
      split
      case isTrue here =>
        rcases known with before | ⟨_, isData⟩
        · exact .inr before
        · obtain ⟨-, rfl, -⟩ := Prod.mk.inj (Option.some.inj (received.symm.trans isData))
          exact .inl rfl
      case isFalse other =>
        rcases known with before | ⟨_, isData⟩
        · exact before
        · obtain ⟨rfl, -⟩ := Prod.mk.inj (Option.some.inj (received.symm.trans isData))
          exact absurd rfl other

/-- An acknowledgement that arrives removes its entry. -/
theorem run_confirms (cfg : Config) (s : Sidecar) (acks : Acks callback dst seq)
    : (senderView (final (callback.run cfg s)) dst).unacked seq = none := by
  obtain ⟨packet, rfl, parsed⟩ := acks
  obtain ⟨s₁, peered, -, -⟩ := getPeer_returns dst s
  have ran : Callback.run cfg (.received packet dst) s = ackReceived dst seq s₁ := by
    change datagramReceived cfg packet dst s = _
    rw [datagramReceived, bind_run, peered, parsed]
  rw [ran]
  change (senderView (s₁.setPeer dst { s₁.peer dst with
    unacked := (s₁.peer dst).unacked.erase seq }) dst).unacked seq = none
  simp [senderView, Sidecar.peer_setPeer]

end MeshSnapshot.Transport

namespace MeshSnapshot

open Transport Procedure

variable {cfg : Ip → Config} {fleet next final : Fleet} {source target node : Ip} {seq : Nat}
  {callback : Callback} {host : Host} {calls : List (Ip × Callback × Host)}

/-- The numbers of the packets from `source` that `target` has acknowledged. -/
def Fleet.acknowledged (fleet : Fleet) (source target : Ip) : Set Nat :=
  acksTo (fleet.mesh target).trace.wire source

/-- A fleet between callbacks: tunnel sockets are open, and every sent packet is pending or was
acknowledged.
-/
structure Fleet.Accounts (fleet : Fleet) : Prop where
  links : fleet.LinksStand
  opened : ∀ ip, (fleet.mesh ip).tunnelTransport = true
  answered
    : ∀ source target,
        (senderView (fleet.mesh source) target).Answered (fleet.acknowledged source target)

theorem Fleet.Accounts.framed (accounts : fleet.Accounts) (source target : Ip)
    : (senderView (fleet.mesh source) target).Framed :=
  let ⟨_, stands, _⟩ := accounts.links source target
  stands.ok.framed

/-- Acknowledgements stay, and a data packet that arrives adds its own. -/
theorem Fleet.Accounts.acknowledges (accounts : fleet.Accounts)
    (stepped : fleet.step cfg node callback host = some next)
    (known : seq ∈ fleet.acknowledged source target
      ∨ (node = target ∧ ∃ held, dataOf callback = some (source, seq, held)))
    : seq ∈ next.acknowledged source target := by
  obtain ⟨-, mesh, -⟩ := step_eq_some stepped
  unfold Fleet.acknowledged
  rw [mesh]
  by_cases here : target = node
  · subst here
    rw [Function.update_self]
    exact run_acks (cfg target) (s := { fleet.mesh target with host }) (accounts.opened target)
      (accounts.framed target) (known.imp_right And.right)
  · rw [Function.update_of_ne here]
    rcases known with before | ⟨rfl, -⟩
    · exact before
    · exact absurd rfl here

/-- The sending halves of a step confirm what was acknowledged. -/
theorem Fleet.Accounts.sends (accounts : fleet.Accounts)
    (stepped : fleet.step cfg node callback host = some next) (source target : Ip)
    : SenderView.Steps (· ∈ fleet.acknowledged source target)
        (senderView (fleet.mesh source) target) (senderView (next.mesh source) target) := by
  have admitted := Mesh.admits_iff.mp (step_eq_some stepped).1
  obtain ⟨raises, more, s', mesh, -, -, ends⟩ := step_ends (accounts.framed node) stepped
  rw [mesh]
  by_cases here : source = node
  · subst here
    rw [Function.update_self]
    refine (ends.sender target).mono_acked ?_
    rintro seq ⟨packet, isReceived, parsed⟩
    exact ⟨packet, admitted packet target isReceived, parsed⟩
  · rw [Function.update_of_ne here]

theorem Fleet.Accounts.step (accounts : fleet.Accounts)
    (stepped : fleet.step cfg node callback host = some next) : next.Accounts where
  links := accounts.links.step stepped
  opened ip := by
    obtain ⟨-, mesh, -⟩ := step_eq_some stepped
    rw [mesh]
    by_cases here : ip = node
    · subst here
      rw [Function.update_self]
      exact (respects_transport.run (cfg ip) callback _).trans (accounts.opened ip)
    · rw [Function.update_of_ne here]
      exact accounts.opened ip
  answered source target := by
    have stay {seq : Nat} (acked : seq ∈ fleet.acknowledged source target)
        : seq ∈ next.acknowledged source target :=
      accounts.acknowledges stepped (.inl acked)
    have steps := (accounts.sends stepped source target).mono_acked stay
    exact steps.answered fun seq sent => (accounts.answered source target seq sent).imp_right stay

theorem Fleet.Reachable.accounts (reachable : Fleet.Reachable cfg fleet) : fleet.Accounts := by
  induction reachable with
  | @init mesh starts =>
      refine ⟨(Fleet.Reachable.init starts).linksStand, fun ip => ?_, fun source target => ?_⟩
      · obtain ⟨isServer, cache, same, -⟩ := (starts ip).started
        exact congrArg Sidecar.tunnelTransport same
      · obtain ⟨isServer, cache, same, -⟩ := (starts source).started
        intro seq sent
        simp [senderView, same, Sidecar.started, Sidecar.peer] at sent
  | step node callback host _ stepped accounts => exact accounts.step stepped

/-- In a run, `target` receives a packet of `source`. -/
def Receives (calls : List (Ip × Callback × Host)) (target source : Ip) (packet : Bytes) : Prop :=
  ∃ host, (target, .received packet source, host) ∈ calls

/-- What one link has after a run of a fleet. -/
structure Fleet.Proceeds (fleet final : Fleet) (calls : List (Ip × Callback × Host))
    (source target : Ip) : Prop where
  accounts : final.Accounts
  grows : (senderView (fleet.mesh source) target).Grows (senderView (final.mesh source) target)
  acknowledged
    : ∀ {seq},
        seq ∈ fleet.acknowledged source target
          ∨ (∃ packet held, Receives calls target source packet
            ∧ parseFrame packet = .data seq held)
        → seq ∈ final.acknowledged source target
  confirmed
    : ∀ {seq packet},
        seq < (senderView (fleet.mesh source) target).sendSeq
        → Receives calls source target packet → parseFrame packet = .ack seq
        → (senderView (final.mesh source) target).unacked seq = none

theorem Fleet.Accounts.proceeds (accounts : fleet.Accounts)
    (ran : fleet.runAll cfg calls = some final) (source target : Ip)
    : fleet.Proceeds final calls source target := by
  induction calls generalizing fleet with
  | nil =>
      obtain rfl := Option.some.inj ran
      refine ⟨accounts, .refl _, ?_, ?_⟩
      · rintro seq (before | ⟨_, _, ⟨host, member⟩, -⟩)
        · exact before
        · cases member
      · rintro seq packet - ⟨host, member⟩
        cases member
  | cons call rest ih =>
      obtain ⟨node, callback, host⟩ := call
      obtain ⟨next, stepped, ran⟩ := Option.bind_eq_some_iff.mp ran
      have proceeds := ih (accounts.step stepped) ran
      have grows := (accounts.sends stepped source target).grows
      refine ⟨proceeds.accounts, grows.trans proceeds.grows, ?_, ?_⟩
      · rintro seq (before | ⟨packet, held, ⟨host', member⟩, parsed⟩)
        · exact proceeds.acknowledged (.inl (accounts.acknowledges stepped (.inl before)))
        · rcases List.mem_cons.mp member with same | later
          · obtain ⟨rfl, rfl, rfl⟩ : target = node ∧ .received packet source = callback
                ∧ host' = host := by simpa using same
            have isData : dataOf (.received packet source) = some (source, seq, held) := by
              simp [dataOf, parsed]
            exact proceeds.acknowledged
              (.inl (accounts.acknowledges stepped (.inr ⟨rfl, held, isData⟩)))
          · exact proceeds.acknowledged (.inr ⟨packet, held, ⟨host', later⟩, parsed⟩)
      · rintro seq packet sent ⟨host', member⟩ parsed
        have sent' := Nat.lt_of_lt_of_le sent grows.sendSeq
        rcases List.mem_cons.mp member with same | later
        · obtain ⟨rfl, rfl, rfl⟩ : source = node ∧ .received packet target = callback
              ∧ host' = host := by simpa using same
          obtain ⟨-, mesh, -⟩ := step_eq_some stepped
          refine proceeds.grows.confirmed sent' ?_
          rw [mesh, Function.update_self]
          exact run_confirms (cfg source) _ ⟨packet, rfl, parsed⟩
        · exact proceeds.confirmed sent' ⟨host', later⟩ parsed

/-- A pending packet is a data frame under its own number. -/
theorem Fleet.Accounts.pending (accounts : fleet.Accounts)
    (unacked : (senderView (fleet.mesh source) target).unacked seq ≠ none)
    : ∃ sentAt packet held,
        ((fleet.mesh source).peer target).unacked.get? seq = some (sentAt, packet)
        ∧ parseFrame packet = .data seq held := by
  obtain ⟨packet, kept⟩ := Option.ne_none_iff_exists'.mp unacked
  obtain ⟨⟨sentAt, _⟩, found, rfl⟩ := Option.map_eq_some_iff.mp kept
  obtain ⟨held, parsed⟩ := accounts.framed source target kept
  exact ⟨sentAt, _, held, found, parsed⟩

theorem Fleet.Accounts.counted (accounts : fleet.Accounts) (source target : Ip)
    : (senderView (fleet.mesh source) target).sendSeq
      = (sentTo (fleet.mesh source) target).length := by
  obtain ⟨_, stands, -⟩ := accounts.links source target
  exact stands.ok.counted.trans (Nat.zero_add _)

/-- What is pending has been sent. -/
theorem Fleet.Accounts.below (accounts : fleet.Accounts) {entry : Int × Bytes}
    (pending : ((fleet.mesh source).peer target).unacked.get? seq = some entry)
    : seq < ((fleet.mesh source).peer target).sendSeq := by
  obtain ⟨_, stands, -⟩ := accounts.links source target
  have unacked : (senderView (fleet.mesh source) target).unacked seq = some entry.2 := by
    simp [senderView, pending]
  obtain ⟨held, logged, -⟩ := stands.ok.packets unacked
  obtain ⟨bound, -⟩ := List.getElem?_eq_some_iff.mp logged
  have counted : ((fleet.mesh source).peer target).sendSeq = _ := stands.ok.counted
  rwa [counted, ← List.length_append]

/-- Once a copy of every pending packet has arrived, all that was sent is acknowledged. -/
theorem Fleet.Accounts.answers (accounts : fleet.Accounts)
    (proceeds : fleet.Proceeds final calls source target)
    (heard
      : ∀ sentAt packet,
          ((fleet.mesh source).peer target).unacked.get? seq = some (sentAt, packet)
          → Receives calls target source packet)
    (sent : seq < (sentTo (fleet.mesh source) target).length)
    : seq ∈ final.acknowledged source target := by
  rw [← accounts.counted] at sent
  rcases accounts.answered source target seq sent with unacked | before
  · obtain ⟨sentAt, packet, held, found, parsed⟩ := accounts.pending unacked
    exact proceeds.acknowledged (.inr ⟨packet, held, heard sentAt packet found, parsed⟩)
  · exact proceeds.acknowledged (.inl before)

/-- Messages that are acknowledged are passed, unless the processing of one of them raised. -/
theorem Fleet.Accounts.arrives (accounts : fleet.Accounts) {messages : List Held}
    (sent : messages <+: sentTo (fleet.mesh source) target)
    (acked : ∀ seq < messages.length, seq ∈ fleet.acknowledged source target)
    : messages <+: consumedFrom (fleet.mesh target) source
      ∨ (((fleet.mesh target).peer source).recvSeq < messages.length
        ∧ fleet.Interrupted target source ((fleet.mesh target).peer source).recvSeq) := by
  obtain ⟨hand, stands, left⟩ := accounts.links source target
  have passed : consumedFrom (fleet.mesh target) source <+: sentTo (fleet.mesh source) target :=
    stands.ok.inv.passed_prefix
  have next : (consumedFrom (fleet.mesh target) source).length
      = ((fleet.mesh target).peer source).recvSeq := by
    have logged : consumedFrom (fleet.mesh target) source
        = (sentTo (fleet.mesh source) target).take ((fleet.mesh target).peer source).recvSeq :=
      stands.ok.inv.passedLogged
    rw [logged, List.length_take]
    exact Nat.min_eq_left stands.ok.inv.nextBound
  rcases Nat.lt_or_ge ((fleet.mesh target).peer source).recvSeq messages.length with short | all
  · refine .inr ⟨short, left ?_⟩
    -- the next packet is acknowledged, and nowhere but in hand
    rcases stands.ok.inv.acksReceived (acked _ short) with past | ⟨held, found⟩ | ⟨-, held, inHand⟩
    · exact absurd past (Nat.lt_irrefl _)
    · cases stands.absent.symm.trans found
    · exact fun empty => Option.some_ne_none held (inHand.symm.trans empty)
  · exact .inl (List.prefix_of_prefix_length_le sent passed (next ▸ all))

/-- In a fair run, all that was sent before is passed, unless its processing raised. Once the
acknowledgements have arrived too, nothing of it is pending.
-/
theorem Fleet.Reachable.fair_delivery (reachable : Fleet.Reachable cfg fleet)
    (ran : fleet.runAll cfg calls = some final) (source target : Ip)
    (heard
      : ∀ seq sentAt packet,
          ((fleet.mesh source).peer target).unacked.get? seq = some (sentAt, packet)
          → Receives calls target source packet)
    : (sentTo (fleet.mesh source) target <+: consumedFrom (final.mesh target) source
        ∨ (((final.mesh target).peer source).recvSeq < (sentTo (fleet.mesh source) target).length
          ∧ final.Interrupted target source ((final.mesh target).peer source).recvSeq))
      ∧ ((∀ seq entry,
            ((fleet.mesh source).peer target).unacked.get? seq = some entry
            → Receives calls source target (packAck seq))
        → ∀ seq < (sentTo (fleet.mesh source) target).length,
            ((final.mesh source).peer target).unacked.get? seq = none) := by
  have accounts := reachable.accounts
  have proceeds := accounts.proceeds ran source target
  refine ⟨?_, fun settled seq sent => ?_⟩
  · apply proceeds.accounts.arrives proceeds.grows.log
    intro seq sent
    exact accounts.answers proceeds (heard seq) sent
  rw [← accounts.counted] at sent
  have confirmed : (senderView (final.mesh source) target).unacked seq = none := by
    cases unacked : (senderView (fleet.mesh source) target).unacked seq with
    | none => exact proceeds.grows.confirmed sent unacked
    | some packet =>
        obtain ⟨sentAt, _, held, found, parsed⟩ := accounts.pending
          (Option.ne_none_iff_exists'.mpr ⟨packet, unacked⟩)
        exact proceeds.confirmed sent (settled seq _ found)
          (parseFrame_packAck (parseFrame_data_lt parsed))
  exact Option.map_eq_none_iff.mp confirmed

/-- Whether `target` receives a packet of `source`. -/
def isReceipt (target source : Ip) (packet : Bytes) : Ip × Callback × Host → Bool
  | (node, .received other src, _) => node == target && other == packet && src == source
  | _ => false

theorem receives_of_any {packet : Bytes}
    (received : calls.any (isReceipt target source packet) = true)
    : Receives calls target source packet := by
  obtain ⟨⟨node, callback, host⟩, member, shown⟩ := List.any_eq_true.mp received
  cases callback <;> simp only [isReceipt, Bool.false_eq_true, Bool.and_eq_true,
    beq_iff_eq] at shown
  obtain ⟨⟨rfl, rfl⟩, rfl⟩ := shown
  exact ⟨host, member⟩

/-- Two messages are pending, and arrive in the other order. -/
theorem Fleet.Reachable.fair_delivery_reorderedCalls
    : ∃ fleet final : Fleet,
        Fleet.runAll threeMembers { mesh := threeStarted } (reorderedCalls.take 2) = some fleet
        ∧ fleet.runAll threeMembers (reorderedCalls.drop 2) = some final
        ∧ (sentTo (fleet.mesh nodeA) nodeB).length = 2
        ∧ (∀ seq < 2, ((final.mesh nodeA).peer nodeB).unacked.get? seq = none)
        ∧ (sentTo (fleet.mesh nodeA) nodeB <+: consumedFrom (final.mesh nodeB) nodeA) := by
  have ran : (Fleet.runAll threeMembers { mesh := threeStarted } (reorderedCalls.take 2)).any
      (fun fleet => (fleet.runAll threeMembers (reorderedCalls.drop 2)).any fun final =>
        (sentTo (fleet.mesh nodeA) nodeB).length == 2
        && final.interruptions.isEmpty
        && ((fleet.mesh nodeA).peer nodeB).unacked.entries.all fun entry =>
          (reorderedCalls.drop 2).any (isReceipt nodeB nodeA entry.2.2)
          && (reorderedCalls.drop 2).any (isReceipt nodeA nodeB (packAck entry.1))) = true := by
    decide +kernel
  obtain ⟨fleet, started, ran⟩ := (Option.any_eq_true _ _).mp ran
  obtain ⟨final, ran, shown⟩ := (Option.any_eq_true _ _).mp ran
  simp only [Bool.and_eq_true, beq_iff_eq, List.all_eq_true, List.isEmpty_iff] at shown
  obtain ⟨⟨sent, untouched⟩, received⟩ := shown
  have reachable := (Fleet.Reachable.init threeStarted_starts).runAll started
  obtain ⟨delivered, confirmed⟩ := Fleet.Reachable.fair_delivery reachable ran nodeA nodeB
    fun seq sentAt packet found =>
      receives_of_any (received (seq, sentAt, packet) (Dict.mem_entries_iff.mpr found)).1
  refine ⟨fleet, final, started, ran, sent, fun seq early => ?_, ?_⟩
  · exact confirmed (fun seq entry found =>
      receives_of_any (received (seq, entry) (Dict.mem_entries_iff.mpr found)).2) seq (sent ▸ early)
  · rcases delivered with all | ⟨-, interruption, member, -⟩
    · exact all
    · rw [untouched] at member
      cases member

end MeshSnapshot
