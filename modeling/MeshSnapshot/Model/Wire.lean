import MeshSnapshot.Library.BigEndian

/-! Tunnel wire framing: the two header layouts of `mesh_proxy.py`, read and written.
Payload prefixes that carry control messages in-band are defined here as well.
-/

namespace MeshSnapshot

/-- An address as the program handles it: a dotted quad in a string. -/
abbrev Ip := String

/-- `127.0.0.1`, the address that `_handle_local_intercept` passes for a START command. -/
def loopback : Ip := "127.0.0.1"

-----------------------------------------------------------------------------------------
-- Payload prefixes
-----------------------------------------------------------------------------------------

def ascii (text : List Char) : Bytes := text.map (fun c => UInt8.ofNat c.toNat)

/-- `b"__MARKER__:"` -/
def markerPrefix : Bytes := ascii ['_', '_', 'M', 'A', 'R', 'K', 'E', 'R', '_', '_', ':']

/-- `b"__START_SNAPSHOT__"` -/
def startPrefix : Bytes :=
  ascii ['_', '_', 'S', 'T', 'A', 'R', 'T', '_', 'S', 'N', 'A', 'P', 'S', 'H', 'O', 'T', '_', '_']

/-- `payload.split(b":", 1)[1]` for a payload that contains a colon. -/
def afterColon (payload : Bytes) : Bytes := (payload.dropWhile (· ≠ 58)).drop 1

/-- The snapshot id of a marker payload, and nothing for any other payload. -/
def markerId? (payload : Bytes) : Option Bytes :=
  if markerPrefix.isPrefixOf payload then some (afterColon payload) else none

@[simp] theorem markerId?_marker (id : Bytes) : markerId? (markerPrefix ++ id) = some id := by
  have isMarker : markerPrefix.isPrefixOf (markerPrefix ++ id) = true := by
    simp
  simp only [markerId?, isMarker, if_true]
  rfl

/-- A payload is a marker for `id` exactly when it is the marker prefix followed by `id`. -/
theorem markerId?_eq_some {payload id : Bytes}
    : markerId? payload = some id ↔ payload = markerPrefix ++ id := by
  constructor
  · intro found
    by_cases isMarker : markerPrefix.isPrefixOf payload = true
    · obtain ⟨rest, rfl⟩ := List.isPrefixOf_iff_prefix.mp isMarker
      rw [markerId?_marker] at found
      rw [Option.some.inj found]
    · simp [markerId?, isMarker] at found
  · rintro rfl
    exact markerId?_marker id

-----------------------------------------------------------------------------------------
-- `DATA_HEADER = "!BQHH4s"` and `ACK_HEADER = "!BQ"`
-----------------------------------------------------------------------------------------

/-- `struct`'s `4s` pads a short byte string with zeros and truncates a long one. -/
def fourBytes (bytes : Bytes) : Bytes := (bytes ++ [0, 0, 0, 0]).take 4

/-- `b"\x00\x00\x00\x00"`, the target address of a marker frame. -/
def zeroIp : Bytes := [0, 0, 0, 0]

/-- `DATA_HEADER.pack`; `none` stands for `struct.error`, a field out of range. -/
def packDataHeader (kind : UInt8) (seq srcPort dstPort : Nat) (target : Bytes) : Option Bytes :=
  if seq < 2 ^ 64 ∧ srcPort < 2 ^ 16 ∧ dstPort < 2 ^ 16 then
    some (kind :: (toBigEndian 8 seq ++ (toBigEndian 2 srcPort
      ++ (toBigEndian 2 dstPort ++ fourBytes target))))
  else
    none

/-- `ACK_HEADER.pack(1, seq)` -/
def packAck (seq : Nat) : Bytes := 1 :: toBigEndian 8 seq

/-- `socket.inet_ntoa` -/
def inetNtoa (ip : Bytes) : Ip := ".".intercalate (ip.map (fun byte => toString byte.toNat))

/-- The arguments of one `send_data` or `send_plain` call. -/
structure Message where
  srcPort : Nat
  dstPort : Nat
  target : Bytes
  payload : Bytes
deriving DecidableEq

/-- What `datagram_received` extracts from a data frame, and keeps in `recv_buffer`. -/
structure Held where
  payload : Bytes
  srcPort : Nat
  dstPort : Nat
  localIp : Ip
deriving DecidableEq

/-- A message as the receiving side will see it. -/
def Message.held (message : Message) : Held where
  payload := message.payload
  srcPort := message.srcPort
  dstPort := message.dstPort
  localIp := inetNtoa (fourBytes message.target)

/-- The packet that `send_data` builds. -/
def dataPacket (seq : Nat) (message : Message) : Option Bytes :=
  (packDataHeader 0 seq message.srcPort message.dstPort message.target).map
    (· ++ message.payload)

/-- The packet that `send_plain` builds, with the unused sequence field packed as 0. -/
def plainPacket (message : Message) : Option Bytes :=
  (packDataHeader 2 0 message.srcPort message.dstPort message.target).map
    (· ++ message.payload)

-----------------------------------------------------------------------------------------
-- Parsing
-----------------------------------------------------------------------------------------

/-- A received tunnel datagram after the header checks of `datagram_received`. -/
inductive Frame where
  | data (seq : Nat) (held : Held)
  | plain (held : Held)
  | ack (seq : Nat)
  | ignored
deriving DecidableEq

/-- `DATA_HEADER.unpack` without the leading type byte, and the payload behind it. -/
def unpackData (packet : Bytes) : Nat × Held :=
  (ofBigEndian ((packet.drop 1).take 8), {
    payload := packet.drop 17
    srcPort := ofBigEndian ((packet.drop 9).take 2)
    dstPort := ofBigEndian ((packet.drop 11).take 2)
    localIp := inetNtoa ((packet.drop 13).take 4)
  })

/-- The header checks of `datagram_received`, in their order. -/
def parseFrame (packet : Bytes) : Frame :=
  if packet.length < 5 then
    .ignored
  else
    match packet.head? with
    | some 0 =>
        if packet.length < 17 then .ignored
        else .data (unpackData packet).1 (unpackData packet).2
    | some 2 => if packet.length < 17 then .ignored else .plain (unpackData packet).2
    | some 1 =>
        if packet.length < 9 then .ignored
        else .ack (ofBigEndian ((packet.drop 1).take 8))
    | _ => .ignored

@[simp] theorem fourBytes_length (bytes : Bytes) : (fourBytes bytes).length = 4 := by
  simp [fourBytes]

/-- Every field of a packed header is read back at its own offset. -/
private theorem unpackData_pack {kind : UInt8} {seq srcPort dstPort : Nat}
    {target header : Bytes} (payload : Bytes)
    (packed : packDataHeader kind seq srcPort dstPort target = some header)
    : unpackData (header ++ payload) = (seq, {
        payload, srcPort, dstPort, localIp := inetNtoa (fourBytes target)
      })
      ∧ (header ++ payload).head? = some kind
      ∧ header.length = 17 := by
  unfold packDataHeader at packed
  split at packed
  case isFalse => cases packed
  case isTrue fits =>
    obtain ⟨seqFits, srcFits, dstFits⟩ := fits
    obtain rfl := Option.some.inj packed
    have seqRead : ofBigEndian (toBigEndian 8 seq) = seq :=
      ofBigEndian_toBigEndian (by omega)
    have srcRead : ofBigEndian (toBigEndian 2 srcPort) = srcPort :=
      ofBigEndian_toBigEndian (by omega)
    have dstRead : ofBigEndian (toBigEndian 2 dstPort) = dstPort :=
      ofBigEndian_toBigEndian (by omega)
    refine ⟨?_, rfl, by simp⟩
    have seqLength := toBigEndian_length 8 seq
    have srcLength := toBigEndian_length 2 srcPort
    have dstLength := toBigEndian_length 2 dstPort
    have ipLength := fourBytes_length target
    simp [unpackData, List.drop_append, seqLength, srcLength, dstLength, ipLength, seqRead,
      srcRead, dstRead, List.drop_of_length_le]

/-- A data packet parses back to its sequence number and its message. -/
theorem parseFrame_dataPacket {seq : Nat} {message : Message} {packet : Bytes}
    (built : dataPacket seq message = some packet)
    : parseFrame packet = .data seq message.held := by
  obtain ⟨header, packed, rfl⟩ := Option.map_eq_some_iff.mp built
  obtain ⟨fields, kind, length⟩ := unpackData_pack message.payload packed
  have long : ¬ (header ++ message.payload).length < 5 := by simp; omega
  have whole : ¬ (header ++ message.payload).length < 17 := by simp; omega
  simp only [parseFrame, if_neg long, kind, if_neg whole, fields, Message.held]

/-- A plain packet parses back to its message. -/
theorem parseFrame_plainPacket {message : Message} {packet : Bytes}
    (built : plainPacket message = some packet)
    : parseFrame packet = .plain message.held := by
  obtain ⟨header, packed, rfl⟩ := Option.map_eq_some_iff.mp built
  obtain ⟨fields, kind, length⟩ := unpackData_pack message.payload packed
  have long : ¬ (header ++ message.payload).length < 5 := by simp; omega
  have whole : ¬ (header ++ message.payload).length < 17 := by simp; omega
  simp only [parseFrame, if_neg long, kind, if_neg whole, fields, Message.held]

/-- An acknowledgement parses back to the sequence number it acknowledges. -/
theorem parseFrame_packAck {seq : Nat} (fits : seq < 2 ^ 64)
    : parseFrame (packAck seq) = .ack seq := by
  have read : ofBigEndian (toBigEndian 8 seq) = seq := ofBigEndian_toBigEndian (by omega)
  simp [parseFrame, packAck, List.take_of_length_le, read]

/-- A sequence number read from a frame fits its eight-byte field. -/
theorem parseFrame_data_lt {packet : Bytes} {seq : Nat} {held : Held}
    (parsed : parseFrame packet = .data seq held) : seq < 2 ^ 64 := by
  have read : seq = ofBigEndian ((packet.drop 1).take 8) := by
    unfold parseFrame at parsed
    split at parsed
    · cases parsed
    · split at parsed <;> (try split at parsed) <;> cases parsed
      rfl
  have bound := ofBigEndian_lt ((packet.drop 1).take 8)
  have short : ((packet.drop 1).take 8).length ≤ 8 := List.length_take_le _ _
  calc seq = ofBigEndian ((packet.drop 1).take 8) := read
    _ < 256 ^ ((packet.drop 1).take 8).length := bound
    _ ≤ 256 ^ 8 := Nat.pow_le_pow_right (by omega) short
    _ = 2 ^ 64 := by norm_num

end MeshSnapshot
