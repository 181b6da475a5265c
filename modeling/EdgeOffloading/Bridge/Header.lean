import Mathlib

/-!
# The data-plane message header

The gateway writes a header with `createHeaderInBuffer` and the Bridge reads it back with `parseMessageHeader`:
magic number `0xA5C3`, flags, message type, group, identifier in group, four bytes of payload size, one byte of topic
length, the topic. A `Frame` is a header followed by its payload.

* `parse_frame`: the header of a frame is read back from any buffer that starts with the frame;
* `parse_cut`: a proper prefix of a frame parses, with the frame's length, once the whole topic is there, and fails
  before.
-/

namespace EdgeOffloading

/-! ## Writing a header -/

inductive MessageType where
  | string
  | int32
  | float32
  | bool
  | smLaserscan
  | smSerialString
  | smJointstate
  | smSerialFeedback
  | stringTestInput
  | stringTestResult
  deriving DecidableEq, Repr

/-- `static_cast<uint8_t>(type)`. -/
def MessageType.toUInt8 : MessageType → UInt8
  | .string => 1
  | .int32 => 2
  | .float32 => 3
  | .bool => 4
  | .smLaserscan => 11
  | .smSerialString => 12
  | .smJointstate => 13
  | .smSerialFeedback => 14
  | .stringTestInput => 201
  | .stringTestResult => 202

structure MessageOptions where
  hasTimestamp : Bool := false
  fragmented : Bool := false
  serialized : Bool := false
  hasChecksum : Bool := false
  compressed : Bool := false
  version : UInt8 := 0
  deriving DecidableEq, Repr

def MessageOptions.toFlags (o : MessageOptions) : UInt8 :=
  (if o.hasTimestamp then 0x80 else 0) ||| (if o.fragmented then 0x40 else 0) |||
    (if o.serialized then 0x20 else 0) ||| (if o.hasChecksum then 0x10 else 0) |||
    (if o.compressed then 0x08 else 0) ||| (o.version &&& 0x07)

/-- The byte `(data_size >> shift) & 0xFF`. -/
def sizeByte (dataSize shift : Nat) : UInt8 := UInt8.ofNat (dataSize / 2 ^ shift % 256)

/-- The topic as it is written: its first 255 bytes. -/
def writtenTopic (topic : List UInt8) : List UInt8 := topic.take (min topic.length 255)

def createHeaderInBuffer (topic : List UInt8) (type : MessageType) (idGroup identifierInGroup : UInt8)
    (dataSize : Nat) (options : MessageOptions) : List UInt8 :=
  [0xA5, 0xC3, options.toFlags, type.toUInt8, idGroup, identifierInGroup,
    sizeByte dataSize 24, sizeByte dataSize 16, sizeByte dataSize 8, sizeByte dataSize 0,
    UInt8.ofNat (min topic.length 255)] ++ writtenTopic topic

/-- A message as the gateway sends it: the arguments of its header and its payload. -/
structure Frame where
  topic : List UInt8
  type : MessageType
  idGroup : UInt8
  identifierInGroup : UInt8
  options : MessageOptions
  payload : List UInt8
  deriving DecidableEq, Repr

namespace Frame

def header (f : Frame) : List UInt8 :=
  createHeaderInBuffer f.topic f.type f.idGroup f.identifierInGroup f.payload.length f.options

def bytes (f : Frame) : List UInt8 := f.header ++ f.payload

/-- The length of the topic on the wire. -/
def topicLength (f : Frame) : Nat := min f.topic.length 255

end Frame

/-! ## Reading a header -/

/-- Source and type of a message; `sourceId` is the group in the high byte and the identifier in the low byte. -/
structure RoutingKey where
  sourceId : UInt16
  messageType : UInt8
  deriving DecidableEq, Repr

def constructRoutingKey (idGroup idInGroup msgType : UInt8) : RoutingKey :=
  ⟨(idGroup.toUInt16 <<< 8) ||| idInGroup.toUInt16, msgType⟩

structure ParsedHeaderInfo where
  routingKey : RoutingKey
  totalMessageLength : Nat
  payloadOffset : Nat
  payloadSize : Nat
  deriving DecidableEq, Repr

/-- `MIN_HEADER_LEN_BEFORE_TOPIC_NAME`. -/
def minHeaderLen : Nat := 11

def expectedMagicNumber : Nat := 0xA5C3

/-- The byte at an offset that the length checks have covered. -/
def byteAt (buffer : List UInt8) (i : Nat) : UInt8 := buffer.getD i 0

def readUint16BigEndian (buffer : List UInt8) (i : Nat) : Nat :=
  (byteAt buffer i).toNat * 256 + (byteAt buffer (i + 1)).toNat

def readUint32BigEndian (buffer : List UInt8) (i : Nat) : Nat :=
  readUint16BigEndian buffer i * 65536 + readUint16BigEndian buffer (i + 2)

def parseMessageHeader (buffer : List UInt8) : Option ParsedHeaderInfo :=
  if buffer.length < minHeaderLen then none
  else if readUint16BigEndian buffer 0 ≠ expectedMagicNumber then none
  else
    let key := constructRoutingKey (byteAt buffer 4) (byteAt buffer 5) (byteAt buffer 3)
    let topicLength := (byteAt buffer 10).toNat
    if buffer.length < minHeaderLen + topicLength then none
    else
      let payloadSize := readUint32BigEndian buffer 6
      let totalHeaderLength := minHeaderLen + topicLength
      some ⟨key, totalHeaderLength + payloadSize, totalHeaderLength, payloadSize⟩

theorem totalMessageLength_pos {buffer : List UInt8} {h : ParsedHeaderInfo} (hp : parseMessageHeader buffer = some h) :
    minHeaderLen ≤ h.totalMessageLength := by
  unfold parseMessageHeader at hp
  dsimp only at hp
  split_ifs at hp
  simp only [Option.some.injEq] at hp
  subst hp
  dsimp only
  omega

theorem readMagic_congr {a b : List UInt8} (h : ∀ i < minHeaderLen, byteAt a i = byteAt b i) :
    readUint16BigEndian a 0 = readUint16BigEndian b 0 := by
  unfold readUint16BigEndian
  rw [h 0 (by decide), h 1 (by decide)]

theorem readSize_congr {a b : List UInt8} (h : ∀ i < minHeaderLen, byteAt a i = byteAt b i) :
    readUint32BigEndian a 6 = readUint32BigEndian b 6 := by
  unfold readUint32BigEndian readUint16BigEndian
  rw [h 6 (by decide), h 7 (by decide), h 8 (by decide), h 9 (by decide)]

/-! ## The header of a frame -/

theorem toNat_sizeByte (n shift : Nat) : (sizeByte n shift).toNat = n / 2 ^ shift % 256 := by
  rw [sizeByte, UInt8.toNat_ofNat']
  exact Nat.mod_eq_of_lt (Nat.mod_lt _ (by norm_num))

/-- The eleven bytes that a header has before the topic. -/
def headerStart (topic : List UInt8) (type : MessageType) (idGroup identifierInGroup : UInt8) (dataSize : Nat)
    (options : MessageOptions) : List UInt8 :=
  [0xA5, 0xC3, options.toFlags, type.toUInt8, idGroup, identifierInGroup, sizeByte dataSize 24, sizeByte dataSize 16,
    sizeByte dataSize 8, sizeByte dataSize 0, UInt8.ofNat (min topic.length 255)]

section HeaderStart

variable (topic : List UInt8) (type : MessageType) (idGroup identifierInGroup : UInt8)

theorem readMagic_headerStart (dataSize : Nat) (options : MessageOptions) (rest : List UInt8) :
    readUint16BigEndian (headerStart topic type idGroup identifierInGroup dataSize options ++ rest) 0 =
      expectedMagicNumber := by
  simp [readUint16BigEndian, byteAt, headerStart, expectedMagicNumber]

theorem readSize_headerStart {dataSize : Nat} (hsize : dataSize < 2 ^ 32) (options : MessageOptions)
    (rest : List UInt8) :
    readUint32BigEndian (headerStart topic type idGroup identifierInGroup dataSize options ++ rest) 6 = dataSize := by
  have h : readUint32BigEndian (headerStart topic type idGroup identifierInGroup dataSize options ++ rest) 6 =
      ((sizeByte dataSize 24).toNat * 256 + (sizeByte dataSize 16).toNat) * 65536 +
        ((sizeByte dataSize 8).toNat * 256 + (sizeByte dataSize 0).toNat) := rfl
  rw [h, toNat_sizeByte, toNat_sizeByte, toNat_sizeByte, toNat_sizeByte]
  norm_num only
  omega

/-- Behind the eleven fixed bytes, parsing only asks whether the topic is there. -/
theorem parse_headerStart {dataSize : Nat} (hsize : dataSize < 2 ^ 32) (options : MessageOptions)
    (rest : List UInt8) :
    parseMessageHeader (headerStart topic type idGroup identifierInGroup dataSize options ++ rest) =
      if rest.length < min topic.length 255 then none
      else some ⟨constructRoutingKey idGroup identifierInGroup type.toUInt8,
        minHeaderLen + min topic.length 255 + dataSize, minHeaderLen + min topic.length 255, dataSize⟩ := by
  have htopic : (UInt8.ofNat (min topic.length 255)).toNat = min topic.length 255 := by
    rw [UInt8.toNat_ofNat']
    exact Nat.mod_eq_of_lt (by omega)
  have hmagic := readMagic_headerStart topic type idGroup identifierInGroup dataSize options rest
  have hread := readSize_headerStart topic type idGroup identifierInGroup hsize options rest
  have hlen : (headerStart topic type idGroup identifierInGroup dataSize options ++ rest).length =
      minHeaderLen + rest.length := List.length_append
  have hbyte : byteAt (headerStart topic type idGroup identifierInGroup dataSize options ++ rest) 10 =
      UInt8.ofNat (min topic.length 255) := rfl
  unfold parseMessageHeader
  rw [if_neg (by rw [hlen]; omega), if_neg (by rw [hmagic]; simp)]
  dsimp only
  rw [hbyte, htopic, hread, hlen]
  by_cases h : rest.length < min topic.length 255
  · rw [if_pos (by omega), if_pos h]
  · rw [if_neg (by omega), if_neg h]
    rfl

end HeaderStart

namespace Frame

variable (f : Frame)

/-- The eleven bytes before the topic. -/
def fixed : List UInt8 :=
  [0xA5, 0xC3, f.options.toFlags, f.type.toUInt8, f.idGroup, f.identifierInGroup,
    sizeByte f.payload.length 24, sizeByte f.payload.length 16, sizeByte f.payload.length 8,
    sizeByte f.payload.length 0, UInt8.ofNat f.topicLength]

theorem bytes_eq : f.bytes = f.fixed ++ (writtenTopic f.topic ++ f.payload) := by
  simp [bytes, header, createHeaderInBuffer, fixed, topicLength]

@[simp] theorem length_fixed : f.fixed.length = minHeaderLen := rfl

@[simp] theorem length_writtenTopic : (writtenTopic f.topic).length = f.topicLength := by
  simp [writtenTopic, topicLength]

theorem length_bytes : f.bytes.length = minHeaderLen + f.topicLength + f.payload.length := by
  rw [bytes_eq]
  simp only [List.length_append, length_fixed, length_writtenTopic]
  omega

/-- The key under which the Bridge routes the frame. -/
def routingKey : RoutingKey := constructRoutingKey f.idGroup f.identifierInGroup f.type.toUInt8

theorem parse_fixed (hpay : f.payload.length < 2 ^ 32) (rest : List UInt8) :
    parseMessageHeader (f.fixed ++ rest) =
      if rest.length < f.topicLength then none
      else some ⟨f.routingKey, f.bytes.length, minHeaderLen + f.topicLength, f.payload.length⟩ := by
  rw [length_bytes]
  exact parse_headerStart f.topic f.type f.idGroup f.identifierInGroup hpay f.options rest

theorem parse_frame (hpay : f.payload.length < 2 ^ 32) (rest : List UInt8) :
    parseMessageHeader (f.bytes ++ rest) =
      some ⟨f.routingKey, f.bytes.length, minHeaderLen + f.topicLength, f.payload.length⟩ := by
  have hlen : ¬ (writtenTopic f.topic ++ f.payload ++ rest).length < f.topicLength := by
    simp only [List.length_append, length_writtenTopic]
    omega
  conv_lhs => rw [bytes_eq, List.append_assoc]
  rw [parse_fixed f hpay, if_neg hlen]

theorem parse_cut (hpay : f.payload.length < 2 ^ 32) {p : List UInt8} (hp : p <+: f.bytes)
    (hlen : minHeaderLen ≤ p.length) :
    parseMessageHeader p =
      if p.length < minHeaderLen + f.topicLength then none
      else some ⟨f.routingKey, f.bytes.length, minHeaderLen + f.topicLength, f.payload.length⟩ := by
  have hfix : f.fixed <+: p := by
    have hfix : f.fixed <+: f.bytes := by
      rw [bytes_eq]
      exact List.prefix_append _ _
    exact List.prefix_of_prefix_length_le hfix hp (by simpa using hlen)
  obtain ⟨rest, rfl⟩ := hfix
  rw [parse_fixed f hpay]
  simp only [List.length_append, length_fixed, Nat.add_lt_add_iff_left]

end Frame

end EdgeOffloading
