import MeshSnapshot.Library.Text
import MeshSnapshot.Transport.Delivery

/-! Tunnel framing as a whole: what is packed at one end is unpacked at the other, and what is
no frame changes nothing.
-/

namespace MeshSnapshot.Transport

open Procedure

-----------------------------------------------------------------------------------------
-- Addresses
-----------------------------------------------------------------------------------------

/-- The decimal digits of a byte. -/
def byteDigits (byte : UInt8) : List Char := Nat.toDigits 10 byte.toNat

theorem toList_byte (byte : UInt8) : (toString byte.toNat).toList = byteDigits byte := by
  simp [byteDigits, Nat.repr]

theorem dot_notMem_byteDigits (byte : UInt8) : '.' ∉ byteDigits byte := fun member =>
  absurd (Nat.isDigit_of_mem_toDigits (by decide) (by decide) member) (by decide)

theorem byteDigits_inj {byte other : UInt8} (same : byteDigits byte = byteDigits other)
    : byte = other := by
  have value (n : Nat) : Nat.ofDigitChars 10 (Nat.toDigits 10 n) 0 = n :=
    Nat.ofDigitChars_ten_toDigits
  have numbers := congrArg (fun digits => Nat.ofDigitChars 10 digits 0) same
  simp only [byteDigits, value] at numbers
  exact UInt8.toNat_inj.mp numbers

/-- The dotted form of an address determines the address. -/
theorem inetNtoa_inj {ip other : Bytes} (length : ip.length = other.length)
    (same : inetNtoa ip = inetNtoa other)
    : ip = other := by
  induction ip generalizing other with
  | nil => exact (List.length_eq_zero_iff.mp length.symm).symm
  | cons byte rest ih =>
      obtain ⟨otherByte, otherRest, rfl⟩ := List.exists_cons_of_length_pos
        (l := other) (by rw [← length]; exact Nat.succ_pos _)
      have restLength : rest.length = otherRest.length := Nat.succ.inj length
      have texts := congrArg String.toList same
      cases rest with
      | nil =>
          obtain rfl := List.length_eq_zero_iff.mp restLength.symm
          simp only [inetNtoa, List.map_cons, List.map_nil, String.intercalate_singleton,
            toList_byte] at texts
          rw [byteDigits_inj texts]
      | cons next rest =>
          obtain ⟨otherNext, otherTail, rfl⟩ := List.exists_cons_of_length_pos
            (l := otherRest) (by rw [← restLength]; exact Nat.succ_pos _)
          simp only [inetNtoa, List.map_cons, String.intercalate_cons_cons, String.toList_append,
            toList_byte, List.append_assoc] at texts
          obtain ⟨first, later⟩ := Text.append_cons_inj (dot_notMem_byteDigits byte)
            (dot_notMem_byteDigits otherByte) texts
          rw [byteDigits_inj first, ih restLength (String.toList_inj.mp (by simpa [inetNtoa] using later))]

-----------------------------------------------------------------------------------------
-- Frames
-----------------------------------------------------------------------------------------

/-- A frame starts with a known type, and is at least as long as the header of that type. -/
def WellFormed (packet : Bytes) : Prop :=
  ((packet.head? = some 0 ∨ packet.head? = some 2) ∧ 17 ≤ packet.length)
  ∨ (packet.head? = some 1 ∧ 9 ≤ packet.length)

instance (packet : Bytes) : Decidable (WellFormed packet) := inferInstanceAs (Decidable (_ ∨ _))

/-- Exactly the byte strings that are no frames are ignored. -/
theorem parseFrame_eq_ignored {packet : Bytes}
    : parseFrame packet = .ignored ↔ ¬ WellFormed packet := by
  unfold parseFrame WellFormed
  constructor
  · intro ignored
    split at ignored
    case isTrue short => omega
    case isFalse =>
      split at ignored <;> simp_all
  · intro illFormed
    split
    case isTrue => rfl
    case isFalse =>
      split <;> simp_all

/-- The values that fit the fields of a header. -/
structure FitsHeader (message : Message) : Prop where
  srcPort : message.srcPort < 2 ^ 16
  dstPort : message.dstPort < 2 ^ 16
  target : message.target.length = 4

/-- The fields of a message, with its target as the dotted quad that the code handles. -/
def fieldsOf (message : Message) : Held where
  payload := message.payload
  srcPort := message.srcPort
  dstPort := message.dstPort
  localIp := inetNtoa message.target

variable {message : Message}

theorem FitsHeader.packs (fits : FitsHeader message) (kind : UInt8) {seq : Nat}
    (seqFits : seq < 2 ^ 64)
    : ∃ header, packDataHeader kind seq message.srcPort message.dstPort message.target = some header := by
  unfold packDataHeader
  exact ⟨_, if_pos ⟨seqFits, fits.srcPort, fits.dstPort⟩⟩

/-- A four-byte address needs no padding. -/
theorem FitsHeader.held (fits : FitsHeader message) : message.held = fieldsOf message := by
  have whole : fourBytes message.target = message.target := by
    rw [fourBytes, List.take_left' fits.target]
  rw [Message.held, whole]
  rfl

-----------------------------------------------------------------------------------------
-- Acknowledgements
-----------------------------------------------------------------------------------------

/-- A procedure that acknowledges nothing, however it ends. -/
abbrev Unacknowledging {α : Type} (body : Py α) : Prop :=
  Within (fun s s' : Sidecar => ∀ src, acksTo s'.trace.wire src = acksTo s.trace.wire src) body

namespace Unacknowledging

variable {α β : Type}

theorem bind {x : Py α} {f : α → Py β} (first : Unacknowledging x)
    (second : ∀ a, Unacknowledging (f a))
    : Unacknowledging (x >>= f) :=
  Within.bind (fun before after src => (after src).trans (before src)) first second

theorem of_sending {body : Py α} (sending : Sending body) : Unacknowledging body :=
  fun s src => congrArg ReceiverView.acks ((sending s).receiver src)

theorem read : Unacknowledging Procedure.read := fun _ _ => rfl

end Unacknowledging

theorem unacknowledging_modifyPeer (ip : Ip) (change : PeerState → PeerState)
    : Unacknowledging (modifyPeer ip change) :=
  fun _ _ => rfl

theorem unacknowledging_passPacket (cfg : Config) (ip : Ip) (held : Held)
    : Unacknowledging (passPacket cfg ip held) :=
  .bind .read fun _ => .bind (.of_sending (.of_quietly (quietly_logOvertaking _))) fun _ =>
    .bind (.of_sending (sending_processAndDeliver _ _ _ _ _)) fun _ =>
      .bind (fun _ _ => rfl) fun _ => unacknowledging_modifyPeer _ _

theorem unacknowledging_flushBuffer (cfg : Config) (ip : Ip) (fuel : Nat)
    : Unacknowledging (flushBuffer cfg ip fuel) := by
  induction fuel with
  | zero => exact fun _ _ => rfl
  | succ fuel ih =>
      refine .bind .read fun s => ?_
      split
      · exact fun _ _ => rfl
      · exact .bind (unacknowledging_modifyPeer _ _) fun _ =>
          .bind (unacknowledging_passPacket cfg ip _) fun _ => ih

/-- The tunnel socket takes every packet once there is a transport. -/
theorem tunnelSendto_returns {s : Sidecar} (packet : Bytes) (dst : Ip)
    (opened : s.tunnelTransport = true)
    : tunnelSendto packet dst s = .ok () (s.putWire packet dst) := by
  rw [tunnelSendto, bind_run, read_run]
  exact congrFun (if_pos opened) s

/-- A data frame is acknowledged once, to its sender, however its processing ends. -/
theorem acks_dataReceived {cfg : Config} {s : Sidecar} {ip : Ip} {seq : Nat}
    (opened : s.tunnelTransport = true) (fits : seq < 2 ^ 64) (held : Held) (src : Ip)
    : acksTo (final (dataReceived cfg ip seq held s)).trace.wire src
      = if src = ip then insert seq (acksTo s.trace.wire src) else acksTo s.trace.wire src := by
  have acked := tunnelSendto_returns (packAck seq) ip opened
  have rest : Unacknowledging (do
      let s ← read
      if seq = (s.peer ip).recvSeq then do
        passPacket cfg ip held
        let s ← read
        flushBuffer cfg ip (s.peer ip).recvBuffer.size
      else if (s.peer ip).recvSeq < seq then
        modifyPeer ip fun peer => { peer with recvBuffer := peer.recvBuffer.set seq held }
      else
        pure ()) := by
    refine .bind .read fun s => ?_
    split
    · exact .bind (unacknowledging_passPacket cfg ip held) fun _ => .bind .read fun _ =>
        unacknowledging_flushBuffer cfg ip _
    · split
      · exact unacknowledging_modifyPeer _ _
      · exact fun _ _ => rfl
  rw [dataReceived, bind_run, acked]
  refine (rest _ src).trans ?_
  split
  case isTrue here => exact here ▸ acksTo_append_ack (parseFrame_packAck fits)
  case isFalse other => exact acksTo_append_other other

-----------------------------------------------------------------------------------------
-- Round trip and rejection
-----------------------------------------------------------------------------------------

/-- `get_peer` shows no peer another state, and touches nothing but the peers. -/
theorem getPeer_returns (ip : Ip) (s : Sidecar)
    : ∃ s', getPeer ip s = .ok () s' ∧ s'.peer = s.peer ∧ { s' with peers := s.peers } = s := by
  cases known : s.peers.get? ip with
  | some peer => exact ⟨s, by simp [getPeer, bind_run, known], rfl, rfl⟩
  | none =>
      refine ⟨s.setPeer ip {}, by simp [getPeer, bind_run, known], ?_, rfl⟩
      have unknown : s.peer ip = {} := by rw [Sidecar.peer, known, Option.getD_none]
      rw [Sidecar.peer_setPeer, ← unknown, Function.update_eq_self]

/-- `time` always answers, and leaves the trace alone. -/
theorem time_returns (s : Sidecar) : ∃ now s', time s = .ok now s' ∧ s'.trace = s.trace := by
  unfold time
  cases clock : s.host.clock with
  | nil => exact ⟨0, s, by simp [bind_run, clock], rfl⟩
  | cons now rest =>
      exact ⟨now, { s with host := { s.host with clock := rest } },
        by simp only [bind_run, read_run, clock, update_run, pure_run], rfl⟩

/-- `send_data` puts its packet on the wire. -/
theorem sendData_returns {s : Sidecar} {peerIp : Ip} {packet : Bytes} (origin : SendOrigin)
    (opened : s.tunnelTransport = true)
    (built : dataPacket (s.peer peerIp).sendSeq message = some packet)
    : ∃ s', sendData peerIp message origin s = .ok () s'
        ∧ s'.trace.wire = s.trace.wire ++ [(packet, peerIp)] := by
  obtain ⟨now, s₁, timed, trace⟩ := time_returns (s.putWire packet peerIp)
  have put := tunnelSendto_returns packet peerIp opened
  have ran : sendData peerIp message origin s
      = .ok () ((s₁.setPeer peerIp { s₁.peer peerIp with
          unacked := (s₁.peer peerIp).unacked.set (s₁.peer peerIp).sendSeq (now, packet)
          sendSeq := (s₁.peer peerIp).sendSeq + 1 }).logSent
        ⟨peerIp, message, origin, s₁.trace.reads⟩) := by
    simp only [sendData, bind_run, read_run, built, orStructError, pure_run, put, timed,
      modifyPeer, update_run]
    rfl
  exact ⟨_, ran, congrArg Trace.wire trace⟩

theorem sendPlain_returns {s : Sidecar} {peerIp : Ip} {packet : Bytes}
    (opened : s.tunnelTransport = true) (built : plainPacket message = some packet)
    : ∃ s', sendPlain peerIp message s = .ok () s'
        ∧ s'.trace.wire = s.trace.wire ++ [(packet, peerIp)] := by
  refine ⟨s.putWire packet peerIp, ?_, rfl⟩
  rw [sendPlain, built, orStructError, bind_run, pure_run]
  exact tunnelSendto_returns packet peerIp opened

/-- The effect of a received acknowledgement is that of deleting one entry. -/
theorem datagramReceived_ack (cfg : Config) {seq : Nat} (fits : seq < 2 ^ 64) (src : Ip)
    (s : Sidecar)
    : ∃ s', datagramReceived cfg (packAck seq) src s = .ok () s'
        ∧ (∀ ip, s'.peer ip
          = if ip = src then { s.peer ip with unacked := (s.peer ip).unacked.erase seq }
            else s.peer ip)
        ∧ { s' with peers := s.peers } = s := by
  obtain ⟨s₁, known, peers, rest⟩ := getPeer_returns src s
  refine ⟨s₁.setPeer src { s₁.peer src with unacked := (s₁.peer src).unacked.erase seq }, ?_,
    fun ip => ?_, rest⟩
  · rw [datagramReceived, bind_run, known, parseFrame_packAck fits]
    rfl
  · rw [Sidecar.peer_setPeer, peers, Function.update_apply]
    split
    case isTrue here => rw [here]
    case isFalse => rfl

/-- What is no frame only creates the entry of an unknown peer. -/
theorem datagramReceived_ignored (cfg : Config) {packet : Bytes} (illFormed : ¬ WellFormed packet)
    (src : Ip) (s : Sidecar)
    : ∃ s', datagramReceived cfg packet src s = .ok () s'
        ∧ s'.peer = s.peer ∧ { s' with peers := s.peers } = s := by
  obtain ⟨s₁, known, peers, rest⟩ := getPeer_returns src s
  refine ⟨s₁, ?_, peers, rest⟩
  rw [datagramReceived, bind_run, known, parseFrame_eq_ignored.mpr illFormed]
  rfl

/-- The frames that `send_data` and `send_plain` put on the wire are decoded to the fields they
were built from. A data frame is acknowledged to its sender only, and the acknowledgement removes
exactly its own entry there. What is no frame raises nothing and changes nothing.
-/
theorem frames_round_trip (cfg : Config)
    : (∀ message : Message, ∀ seq, FitsHeader message → seq < 2 ^ 64 →
        ∃ data plain,
          (∀ s peerIp origin, s.tunnelTransport = true → (s.peer peerIp).sendSeq = seq →
            ∃ s', sendData peerIp message origin s = .ok () s'
              ∧ s'.trace.wire = s.trace.wire ++ [(data, peerIp)])
          ∧ (∀ s peerIp, s.tunnelTransport = true →
            ∃ s', sendPlain peerIp message s = .ok () s'
              ∧ s'.trace.wire = s.trace.wire ++ [(plain, peerIp)])
          ∧ (∀ src, datagramReceived cfg data src
            = (do getPeer src; dataReceived cfg src seq (fieldsOf message)))
          ∧ (∀ src, datagramReceived cfg plain src
            = (do getPeer src; plainReceived src (fieldsOf message)))
          ∧ (∀ s src ip, s.tunnelTransport = true →
            acksTo (final (datagramReceived cfg data src s)).trace.wire ip
              = if ip = src then insert seq (acksTo s.trace.wire ip) else acksTo s.trace.wire ip)
          ∧ (∀ s src, ∃ s', datagramReceived cfg (packAck seq) src s = .ok () s'
            ∧ (∀ ip, s'.peer ip
              = if ip = src then { s.peer ip with unacked := (s.peer ip).unacked.erase seq }
                else s.peer ip)
            ∧ { s' with peers := s.peers } = s))
      ∧ (∀ ip other : Bytes, ip.length = 4 → other.length = 4 →
        inetNtoa ip = inetNtoa other → ip = other)
      ∧ (∀ packet, ¬ WellFormed packet →
        ∀ s src, ∃ s', datagramReceived cfg packet src s = .ok () s'
          ∧ s'.peer = s.peer ∧ { s' with peers := s.peers } = s) := by
  refine ⟨fun message seq fits seqFits => ?_,
    fun ip other length otherLength => inetNtoa_inj (length.trans otherLength.symm),
    fun packet illFormed s src => datagramReceived_ignored cfg illFormed src s⟩
  obtain ⟨dataHeader, dataPacked⟩ := fits.packs 0 seqFits
  obtain ⟨plainHeader, plainPacked⟩ := fits.packs 2 (show 0 < 2 ^ 64 by decide)
  have dataBuilt : dataPacket seq message = some (dataHeader ++ message.payload) := by
    rw [dataPacket, dataPacked, Option.map_some]
  have plainBuilt : plainPacket message = some (plainHeader ++ message.payload) := by
    rw [plainPacket, plainPacked, Option.map_some]
  have dataParsed := (parseFrame_dataPacket dataBuilt).trans (by rw [fits.held])
  have plainParsed := (parseFrame_plainPacket plainBuilt).trans (by rw [fits.held])
  have received (src : Ip) : datagramReceived cfg (dataHeader ++ message.payload) src
      = (do getPeer src; dataReceived cfg src seq (fieldsOf message)) := by
    rw [datagramReceived, dataParsed]
  refine ⟨_, _, ?_, fun s peerIp opened => sendPlain_returns opened plainBuilt, received, ?_, ?_,
    fun s src => datagramReceived_ack cfg seqFits src s⟩
  · intro s peerIp origin opened current
    exact sendData_returns origin opened (current ▸ dataBuilt)
  · intro src
    rw [datagramReceived, plainParsed]
  · intro s src ip opened
    obtain ⟨s₁, known, peers, rest⟩ := getPeer_returns src s
    have sameTrace : s₁.trace = s.trace := (congrArg Sidecar.trace rest :)
    have sameTransport : s₁.tunnelTransport = s.tunnelTransport :=
      (congrArg Sidecar.tunnelTransport rest :)
    rw [received, bind_run, known]
    rw [acks_dataReceived (sameTransport.trans opened) seqFits, sameTrace]

/-- A sends a message to B under number 7, which B acknowledges. A hears of it, and then gets a
truncated frame.
-/
theorem frames_round_trip_seventhMessage
    : ∃ data sent acked,
        sendData nodeB ⟨5000, 5001, [10, 24, 24, 11], [109, 112]⟩ .direct
            ((threeStarted nodeA).setPeer nodeB { sendSeq := 7 }) = .ok () sent
        ∧ sent.trace.wire = [(data, nodeB)]
        ∧ (∀ src, datagramReceived (threeMembers nodeB) data src = (do
            getPeer src
            dataReceived (threeMembers nodeB) src 7 ⟨[109, 112], 5000, 5001, "10.24.24.11"⟩))
        ∧ 7 ∈ acksTo
          (final (datagramReceived (threeMembers nodeB) data nodeA (threeStarted nodeB))).trace.wire
          nodeA
        ∧ datagramReceived (threeMembers nodeA) (packAck 7) nodeB sent = .ok () acked
        ∧ (acked.peer nodeB).unacked = (sent.peer nodeB).unacked.erase 7
        ∧ ∃ s', datagramReceived (threeMembers nodeA) [0, 0, 0, 0, 0] nodeB acked = .ok () s'
          ∧ s'.peer = acked.peer := by
  have fits : FitsHeader ⟨5000, 5001, [10, 24, 24, 11], [109, 112]⟩ :=
    ⟨by decide, by decide, by decide⟩
  obtain ⟨tripsA, -, ignores⟩ := frames_round_trip (threeMembers nodeA)
  obtain ⟨tripsB, -, -⟩ := frames_round_trip (threeMembers nodeB)
  obtain ⟨-, -, -, -, -, -, -, hears⟩ := tripsA _ 7 fits (by decide)
  obtain ⟨data, -, sends, -, decoded, -, answers, -⟩ := tripsB _ 7 fits (by decide)
  obtain ⟨sent, returned, wire⟩ := sends ((threeStarted nodeA).setPeer nodeB { sendSeq := 7 }) nodeB
    .direct (by decide) (by decide +kernel)
  obtain ⟨acked, heard, peers, -⟩ := hears sent nodeB
  obtain ⟨s', ignored, same, -⟩ := ignores [0, 0, 0, 0, 0] (by decide) acked nodeB
  refine ⟨data, sent, acked, returned, wire, decoded, ?_, heard, ?_, s', ignored, same⟩
  · rw [answers (threeStarted nodeB) nodeA nodeA (by decide), if_pos rfl]
    exact Set.mem_insert 7 _
  · rw [peers, if_pos rfl]

end MeshSnapshot.Transport
