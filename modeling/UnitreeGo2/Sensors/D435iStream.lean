import UnitreeGo2.Lib.LittleEndian
import Mathlib.Tactic.IntervalCases

/-!
# The frame stream of the D435i

A remote producer writes camera frames as packets to a byte stream: a prefix with a magic
number, the lengths and the checksums of three payloads, and the payloads.  The reader sits at
the other end of a pipe that delivers the bytes in pieces of its own choice.
-/

namespace UnitreeGo2.Sensors.D435i

open LittleEndian

abbrev Bytes := List UInt8

inductive Raised where
  | streamProtocolError (detail : String)
  /-- `json.dumps` refuses the header. -/
  | typeError
  | unicodeEncodeError
  | structError
  deriving DecidableEq, Repr

/-! ## Packets -/

/-- `b"RBNXD435"`. -/
def PROTOCOL_MAGIC : Bytes := [0x52, 0x42, 0x4e, 0x58, 0x44, 0x34, 0x33, 0x35]

def PROTOCOL_VERSION : ℕ := 1

def MAX_HEADER_BYTES : ℕ := 4096

def MAX_JPEG_BYTES : ℕ := 1024 * 1024

def MAX_DEPTH_ZLIB_BYTES : ℕ := 700 * 1024

/-- What `json.loads` returns, where `H` are the dictionaries. -/
inductive JsonValue (H : Type) where
  | dict (header : H)
  | other

/-- The functions of `json` and `zlib` that the stream uses. -/
structure Codec (H : Type) where
  /-- `json.dumps` with `ensure_ascii`. -/
  dumps : H → Except Raised String
  /-- `json.loads`; there is no value where it raises `JSONDecodeError`. -/
  loads : String → Option (JsonValue H)
  zlibCrc32 : Bytes → ℕ

/-- `json.loads` gives back what `json.dumps` has written. -/
def Codec.Inverse {H : Type} (codec : Codec H) : Prop :=
  ∀ header text, codec.dumps header = .ok text → codec.loads text = some (.dict header)

structure Packet (H : Type) where
  header : H
  jpegPayload : Bytes
  depthPayload : Bytes
  deriving DecidableEq

/-- The fields of `PACKET_PREFIX`, `struct.Struct("!8s7I")`. -/
structure PacketPrefix where
  magic : Bytes
  version : ℕ
  headerLength : ℕ
  jpegLength : ℕ
  depthLength : ℕ
  headerCrc : ℕ
  jpegCrc : ℕ
  depthCrc : ℕ
  deriving DecidableEq

/-- `PACKET_PREFIX.size`. -/
def PacketPrefix.size : ℕ := 36

/-- An `I` field in network byte order. -/
def packUInt32 (value : ℕ) : Except Raised Bytes :=
  if value < 2 ^ 32 then .ok (toBytes 4 value).reverse else .error .structError

def unpackUInt32 (payload : Bytes) : ℕ := ofBytes payload.reverse

/-- `PACKET_PREFIX.pack`, for a magic number of eight bytes. -/
def PacketPrefix.pack (p : PacketPrefix) : Except Raised Bytes := do
  let version ← packUInt32 p.version
  let headerLength ← packUInt32 p.headerLength
  let jpegLength ← packUInt32 p.jpegLength
  let depthLength ← packUInt32 p.depthLength
  let headerCrc ← packUInt32 p.headerCrc
  let jpegCrc ← packUInt32 p.jpegCrc
  let depthCrc ← packUInt32 p.depthCrc
  return [p.magic, version, headerLength, jpegLength, depthLength, headerCrc, jpegCrc,
    depthCrc].flatten

/-- `PACKET_PREFIX.unpack`. -/
def PacketPrefix.unpack (payload : Bytes) : PacketPrefix where
  magic := field payload 0 8
  version := unpackUInt32 (field payload 8 4)
  headerLength := unpackUInt32 (field payload 12 4)
  jpegLength := unpackUInt32 (field payload 16 4)
  depthLength := unpackUInt32 (field payload 20 4)
  headerCrc := unpackUInt32 (field payload 24 4)
  jpegCrc := unpackUInt32 (field payload 28 4)
  depthCrc := unpackUInt32 (field payload 32 4)

/-- `text.encode("ascii")`. -/
def encodeAscii (text : String) : Except Raised Bytes :=
  if text.toList.all fun c => c.toNat < 128 then
    .ok (text.toList.map fun c => UInt8.ofNat c.toNat)
  else .error .unicodeEncodeError

/-- `payload.decode("ascii")`; there is no text where it raises `UnicodeDecodeError`. -/
def decodeAscii (payload : Bytes) : Option String :=
  if payload.all fun byte => byte.toNat < 128 then
    some (String.ofList (payload.map fun byte => Char.ofNat byte.toNat))
  else none

section Packets

variable {H : Type} (codec : Codec H)

/-- `_crc32`. -/
def Codec.crc32 (payload : Bytes) : ℕ := codec.zlibCrc32 payload &&& 0xFFFFFFFF

/-- `_canonical_header_bytes`. -/
def canonicalHeaderBytes (header : H) : Except Raised Bytes := do
  let text ← codec.dumps header
  encodeAscii text

/-- The prefix of three payloads. -/
def prefixOf (headerPayload jpegPayload depthPayload : Bytes) : PacketPrefix where
  magic := PROTOCOL_MAGIC
  version := PROTOCOL_VERSION
  headerLength := headerPayload.length
  jpegLength := jpegPayload.length
  depthLength := depthPayload.length
  headerCrc := codec.crc32 headerPayload
  jpegCrc := codec.crc32 jpegPayload
  depthCrc := codec.crc32 depthPayload

def encodePacket (packet : Packet H) : Except Raised Bytes := do
  let headerPayload ← canonicalHeaderBytes codec packet.header
  if ¬ (0 < headerPayload.length ∧ headerPayload.length ≤ MAX_HEADER_BYTES) then
    throw (.streamProtocolError "frame header exceeds the approved byte ceiling")
  if ¬ (0 < packet.jpegPayload.length ∧ packet.jpegPayload.length ≤ MAX_JPEG_BYTES) then
    throw (.streamProtocolError "JPEG payload exceeds the approved byte ceiling")
  if ¬ (0 < packet.depthPayload.length ∧ packet.depthPayload.length ≤ MAX_DEPTH_ZLIB_BYTES) then
    throw (.streamProtocolError "compressed depth payload exceeds the approved byte ceiling")
  let packed ← (prefixOf codec headerPayload packet.jpegPayload packet.depthPayload).pack
  return packed ++ headerPayload ++ packet.jpegPayload ++ packet.depthPayload

end Packets

/-! ## Reading -/

/-- A stream that still has to deliver some bytes, and how many of those that a read could
return each read returns. -/
structure ByteStream where
  bytes : Bytes
  deliver : ℕ → ℕ
  reads : ℕ := 0

/-- `stream.read(size)`: any nonempty part of what is asked for, and nothing at the end only. -/
def ByteStream.read (size : ℕ) (s : ByteStream) : Bytes × ByteStream :=
  let available := min size s.bytes.length
  let length := if available = 0 then 0 else 1 + s.deliver s.reads % available
  (s.bytes.take length, { s with bytes := s.bytes.drop length, reads := s.reads + 1 })

/-- The loop of `_read_exact`. -/
def readLoop (size : ℕ) (allowCleanEof : Bool) (chunks : List Bytes) (remaining : ℕ)
    (s : ByteStream) : Except Raised Bytes × ByteStream :=
  if remaining = 0 then (.ok chunks.flatten, s)
  else if _hchunk : (s.read remaining).1 = [] then
    if allowCleanEof && remaining = size then (.ok [], (s.read remaining).2)
    else (.error (.streamProtocolError "D435i stream ended mid-packet"), (s.read remaining).2)
  else
    readLoop size allowCleanEof (chunks ++ [(s.read remaining).1])
      (remaining - (s.read remaining).1.length) (s.read remaining).2
termination_by remaining
decreasing_by
  have := List.length_pos_iff.mpr _hchunk
  omega

/-- `_read_exact`; the sizes are lengths, and not negative. -/
def readExact (size : ℕ) (allowCleanEof : Bool) (s : ByteStream) :
    Except Raised Bytes × ByteStream :=
  readLoop size allowCleanEof [] size s

/-- What is wrong with a prefix. -/
def PacketPrefix.refused (p : PacketPrefix) : Option String :=
  if p.magic ≠ PROTOCOL_MAGIC ∨ p.version ≠ PROTOCOL_VERSION then
    some "D435i stream magic/version mismatch"
  else if ¬ (0 < p.headerLength ∧ p.headerLength ≤ MAX_HEADER_BYTES) then
    some "invalid D435i header length"
  else if ¬ (0 < p.jpegLength ∧ p.jpegLength ≤ MAX_JPEG_BYTES) then
    some "invalid D435i JPEG length"
  else if ¬ (0 < p.depthLength ∧ p.depthLength ≤ MAX_DEPTH_ZLIB_BYTES) then
    some "invalid D435i depth length"
  else none

section Reading

variable {H : Type} (codec : Codec H)

/-- The end of `read_packet`, from the checksums on. -/
def decodePayloads (p : PacketPrefix) (headerPayload jpegPayload depthPayload : Bytes) :
    Except Raised (Packet H) :=
  if codec.crc32 headerPayload ≠ p.headerCrc then
    .error (.streamProtocolError "header CRC mismatch")
  else if codec.crc32 jpegPayload ≠ p.jpegCrc then
    .error (.streamProtocolError "JPEG CRC mismatch")
  else if codec.crc32 depthPayload ≠ p.depthCrc then
    .error (.streamProtocolError "depth CRC mismatch")
  else
    match (decodeAscii headerPayload).bind codec.loads with
    | none => .error (.streamProtocolError "invalid D435i JSON header")
    | some .other => .error (.streamProtocolError "D435i header must be a JSON object")
    | some (.dict header) => .ok ⟨header, jpegPayload, depthPayload⟩

/-- `read_packet` after its prefix. -/
def readPayloads (p : PacketPrefix) (s : ByteStream) : Except Raised (Packet H) × ByteStream :=
  match readExact p.headerLength false s with
  | (.error raised, s) => (.error raised, s)
  | (.ok headerPayload, s) =>
    match readExact p.jpegLength false s with
    | (.error raised, s) => (.error raised, s)
    | (.ok jpegPayload, s) =>
      match readExact p.depthLength false s with
      | (.error raised, s) => (.error raised, s)
      | (.ok depthPayload, s) => (decodePayloads codec p headerPayload jpegPayload depthPayload, s)

def readPacket (s : ByteStream) : Except Raised (Option (Packet H)) × ByteStream :=
  match readExact PacketPrefix.size true s with
  | (.error raised, s) => (.error raised, s)
  | (.ok [], s) => (.ok none, s)
  | (.ok payload, s) =>
    match (PacketPrefix.unpack payload).refused with
    | some detail => (.error (.streamProtocolError detail), s)
    | none => ((readPayloads codec (PacketPrefix.unpack payload) s).1.map some,
        (readPayloads codec (PacketPrefix.unpack payload) s).2)

/-- The results of a number of calls of `read_packet`. -/
def readPackets : ℕ → ByteStream → List (Except Raised (Option (Packet H)))
  | 0, _ => []
  | count + 1, s => (readPacket codec s).1 :: readPackets count (readPacket codec s).2

end Reading

/-! ## What the framing promises -/

/-- The checks of a prefix. -/
structure PacketPrefix.Admissible (p : PacketPrefix) : Prop where
  magic : p.magic = PROTOCOL_MAGIC
  version : p.version = PROTOCOL_VERSION
  header : 0 < p.headerLength ∧ p.headerLength ≤ MAX_HEADER_BYTES
  jpeg : 0 < p.jpegLength ∧ p.jpegLength ≤ MAX_JPEG_BYTES
  depth : 0 < p.depthLength ∧ p.depthLength ≤ MAX_DEPTH_ZLIB_BYTES

/-- The prefix announces the payloads, which have its checksums. -/
structure PacketPrefix.Announces {H : Type} (codec : Codec H) (p : PacketPrefix)
    (headerPayload jpegPayload depthPayload : Bytes) : Prop where
  headerLength : p.headerLength = headerPayload.length
  jpegLength : p.jpegLength = jpegPayload.length
  depthLength : p.depthLength = depthPayload.length
  headerCrc : codec.crc32 headerPayload = p.headerCrc
  jpegCrc : codec.crc32 jpegPayload = p.jpegCrc
  depthCrc : codec.crc32 depthPayload = p.depthCrc

/-- What `read_packet` makes of a stream: the end, a packet that its prefix announces, or a
refusal, and in no case a byte that the prefix does not announce. -/
inductive Outcome {H : Type} (codec : Codec H) (s s' : ByteStream) :
    Except Raised (Option (Packet H)) → Prop
  | ended (hs : s.bytes = []) (hs' : s'.bytes = []) : Outcome codec s s' (.ok none)
  | packet (payload headerPayload : Bytes) (packet : Packet H)
      (hs : s.bytes = payload ++ headerPayload ++ packet.jpegPayload ++ packet.depthPayload ++
        s'.bytes)
      (hsize : payload.length = PacketPrefix.size)
      (hhead : (PacketPrefix.unpack payload).Admissible)
      (hannounced : (PacketPrefix.unpack payload).Announces codec headerPayload
        packet.jpegPayload packet.depthPayload)
      (hheader : (decodeAscii headerPayload).bind codec.loads = some (.dict packet.header)) :
      Outcome codec s s' (.ok (some packet))
  | refused (detail : String) (consumed : Bytes) (hs : s.bytes = consumed ++ s'.bytes)
      (hsize : consumed.length ≤ PacketPrefix.size)
      (hhead : consumed.length < PacketPrefix.size ∨
        ¬ (PacketPrefix.unpack consumed).Admissible) :
      Outcome codec s s' (.error (.streamProtocolError detail))
  | broken (detail : String) (payload consumed : Bytes)
      (hs : s.bytes = payload ++ consumed ++ s'.bytes)
      (hsize : payload.length = PacketPrefix.size)
      (hhead : (PacketPrefix.unpack payload).Admissible)
      (hconsumed : consumed.length ≤ (PacketPrefix.unpack payload).headerLength +
        (PacketPrefix.unpack payload).jpegLength + (PacketPrefix.unpack payload).depthLength) :
      Outcome codec s s' (.error (.streamProtocolError detail))

/-- `encode_packet` accepts the packets, with these encodings. -/
def Encoded {H : Type} (codec : Codec H) (packets : List (Packet H)) (encodings : List Bytes) :
    Prop :=
  List.Forall₂ (fun packet encoding => encodePacket codec packet = .ok encoding) packets encodings

structure Framing {H : Type} (codec : Codec H) : Prop where
  roundTrip : ∀ packets encodings s, Encoded codec packets encodings →
    s.bytes = encodings.flatten →
    readPackets codec (packets.length + 1) s =
      packets.map (fun packet => .ok (some packet)) ++ [.ok none]
  /-- The stream ends inside a packet. -/
  truncated : ∀ packets encodings packet encoding cut s, Encoded codec packets encodings →
    encodePacket codec packet = .ok encoding → 0 < cut → cut < encoding.length →
    s.bytes = encodings.flatten ++ encoding.take cut →
    ∃ detail, readPackets codec (packets.length + 1) s =
      packets.map (fun packet => .ok (some packet)) ++ [.error (.streamProtocolError detail)]
  anyBytes : ∀ s, Outcome codec s (readPacket codec s).2 (readPacket codec s).1

/-! ## Reading back what was packed -/

lemma unpackUInt32_packed {value : ℕ} (h : value < 2 ^ 32) :
    unpackUInt32 (toBytes 4 value).reverse = value := by
  rw [unpackUInt32, List.reverse_reverse]
  exact ofBytes_toBytes h

/-- The fields of a prefix, as its bytes hold them. -/
def PacketPrefix.parts (p : PacketPrefix) : List Bytes :=
  [p.magic, (toBytes 4 p.version).reverse, (toBytes 4 p.headerLength).reverse,
    (toBytes 4 p.jpegLength).reverse, (toBytes 4 p.depthLength).reverse,
    (toBytes 4 p.headerCrc).reverse, (toBytes 4 p.jpegCrc).reverse, (toBytes 4 p.depthCrc).reverse]

/-- The fields of a prefix fit into its bytes. -/
structure PacketPrefix.Fits (p : PacketPrefix) : Prop where
  magic : p.magic.length = 8
  version : p.version < 2 ^ 32
  headerLength : p.headerLength < 2 ^ 32
  jpegLength : p.jpegLength < 2 ^ 32
  depthLength : p.depthLength < 2 ^ 32
  headerCrc : p.headerCrc < 2 ^ 32
  jpegCrc : p.jpegCrc < 2 ^ 32
  depthCrc : p.depthCrc < 2 ^ 32

lemma PacketPrefix.Fits.pack {p : PacketPrefix} (h : p.Fits) : p.pack = .ok p.parts.flatten := by
  unfold PacketPrefix.pack packUInt32
  rw [if_pos h.version, if_pos h.headerLength, if_pos h.jpegLength, if_pos h.depthLength,
    if_pos h.headerCrc, if_pos h.jpegCrc, if_pos h.depthCrc]
  rfl

lemma PacketPrefix.Fits.length_flatten {p : PacketPrefix} (h : p.Fits) :
    p.parts.flatten.length = PacketPrefix.size := by
  simp [PacketPrefix.parts, h.magic, PacketPrefix.size]

/-- **Unpacking gives back the prefix.** -/
theorem PacketPrefix.Fits.unpack_flatten {p : PacketPrefix} (h : p.Fits) :
    PacketPrefix.unpack p.parts.flatten = p := by
  have hmagic : field p.parts.flatten 0 8 = p.magic := field_flatten 0 rfl rfl h.magic
  have hfield : ∀ (index value offset : ℕ), p.parts[index]? = some (toBytes 4 value).reverse →
      (p.parts.take index).flatten.length = offset → value < 2 ^ 32 →
      unpackUInt32 (field p.parts.flatten offset 4) = value := by
    intro index value offset hpart hoffset hvalue
    rw [field_flatten index hpart hoffset (by simp), unpackUInt32_packed hvalue]
  have hoffset : ∀ index, 1 ≤ index → index ≤ 7 →
      (p.parts.take index).flatten.length = 4 + 4 * index := by
    intro index hlow hhigh
    interval_cases index <;> simp [PacketPrefix.parts, h.magic]
  unfold PacketPrefix.unpack
  rw [hmagic, hfield 1 p.version 8 rfl (hoffset 1 (by decide) (by decide)) h.version,
    hfield 2 p.headerLength 12 rfl (hoffset 2 (by decide) (by decide)) h.headerLength,
    hfield 3 p.jpegLength 16 rfl (hoffset 3 (by decide) (by decide)) h.jpegLength,
    hfield 4 p.depthLength 20 rfl (hoffset 4 (by decide) (by decide)) h.depthLength,
    hfield 5 p.headerCrc 24 rfl (hoffset 5 (by decide) (by decide)) h.headerCrc,
    hfield 6 p.jpegCrc 28 rfl (hoffset 6 (by decide) (by decide)) h.jpegCrc,
    hfield 7 p.depthCrc 32 rfl (hoffset 7 (by decide) (by decide)) h.depthCrc]

/-- Text that was encoded is decoded. -/
lemma decodeAscii_of_encodeAscii {text : String} {payload : Bytes}
    (h : encodeAscii text = .ok payload) : decodeAscii payload = some text := by
  unfold encodeAscii at h
  split at h
  · rename_i hascii
    cases h
    rw [List.all_eq_true] at hascii
    have hbyte : ∀ c ∈ text.toList, (UInt8.ofNat c.toNat).toNat = c.toNat := by
      intro c hc
      have hlt : c.toNat < 128 := by simpa using hascii c hc
      rw [UInt8.toNat_ofNat']
      omega
    unfold decodeAscii
    rw [if_pos, List.map_map]
    · have hmap : text.toList.map ((fun byte => Char.ofNat byte.toNat) ∘
          fun c => UInt8.ofNat c.toNat) = text.toList := by
        refine (List.map_congr_left fun c hc => ?_).trans (List.map_id _)
        rw [Function.comp_apply, hbyte c hc, Char.ofNat_toNat, id]
      rw [hmap, String.ofList_toList]
    · rw [List.all_map, List.all_eq_true]
      intro c hc
      rw [Function.comp_apply, hbyte c hc]
      exact hascii c hc
  · cases h

section Encoding

variable {H : Type} {codec : Codec H} {packet : Packet H} {encoding : Bytes}

lemma Codec.crc32_lt (payload : Bytes) : codec.crc32 payload < 2 ^ 32 :=
  Nat.and_lt_two_pow _ (by decide)

/-- What `encode_packet` accepts, and how it encodes it. -/
lemma encodePacket_eq_ok (h : encodePacket codec packet = .ok encoding) :
    ∃ headerPayload, canonicalHeaderBytes codec packet.header = .ok headerPayload ∧
      (0 < headerPayload.length ∧ headerPayload.length ≤ MAX_HEADER_BYTES) ∧
      (0 < packet.jpegPayload.length ∧ packet.jpegPayload.length ≤ MAX_JPEG_BYTES) ∧
      (0 < packet.depthPayload.length ∧ packet.depthPayload.length ≤ MAX_DEPTH_ZLIB_BYTES) ∧
      ∃ packed, (prefixOf codec headerPayload packet.jpegPayload packet.depthPayload).pack =
        .ok packed ∧
        encoding = packed ++ headerPayload ++ packet.jpegPayload ++ packet.depthPayload := by
  unfold encodePacket at h
  cases hheader : canonicalHeaderBytes codec packet.header with
  | error raised =>
    rw [hheader] at h
    cases h
  | ok headerPayload =>
    rw [hheader] at h
    simp only [bind, Except.bind] at h
    split at h
    · cases h
    split at h
    · cases h
    split at h
    · cases h
    cases hpack : (prefixOf codec headerPayload packet.jpegPayload packet.depthPayload).pack with
    | error raised =>
      rw [hpack] at h
      cases h
    | ok packed =>
      rw [hpack] at h
      cases h
      rename_i hsize hjpeg hdepth
      exact ⟨headerPayload, rfl, not_not.mp hsize, not_not.mp hjpeg, not_not.mp hdepth, packed,
        hpack, rfl⟩

/-- **An encoded packet** is the bytes of an admissible prefix and the payloads it announces. -/
theorem encoded_parts (hjson : codec.Inverse) (h : encodePacket codec packet = .ok encoding) :
    ∃ payload headerPayload,
      encoding = payload ++ (headerPayload ++ (packet.jpegPayload ++ packet.depthPayload)) ∧
      payload.length = PacketPrefix.size ∧ (PacketPrefix.unpack payload).Admissible ∧
      (PacketPrefix.unpack payload).Announces codec headerPayload packet.jpegPayload
        packet.depthPayload ∧
      (decodeAscii headerPayload).bind codec.loads = some (.dict packet.header) := by
  obtain ⟨headerPayload, hheader, hsize, hjpeg, hdepth, packed, hpack, rfl⟩ := encodePacket_eq_ok h
  have hfits : (prefixOf codec headerPayload packet.jpegPayload packet.depthPayload).Fits := by
    have hbounds : MAX_HEADER_BYTES < 2 ^ 32 ∧ MAX_JPEG_BYTES < 2 ^ 32 ∧
        MAX_DEPTH_ZLIB_BYTES < 2 ^ 32 := by decide
    exact ⟨rfl, show PROTOCOL_VERSION < 2 ^ 32 by decide, hsize.2.trans_lt hbounds.1,
      hjpeg.2.trans_lt hbounds.2.1, hdepth.2.trans_lt hbounds.2.2, Codec.crc32_lt _,
      Codec.crc32_lt _, Codec.crc32_lt _⟩
  rw [hfits.pack] at hpack
  obtain rfl := Except.ok.inj hpack
  refine ⟨_, headerPayload, by simp only [List.append_assoc], hfits.length_flatten, ?_, ?_, ?_⟩
  · rw [hfits.unpack_flatten]
    exact ⟨rfl, rfl, hsize, hjpeg, hdepth⟩
  · rw [hfits.unpack_flatten]
    exact ⟨rfl, rfl, rfl, rfl, rfl, rfl⟩
  · unfold canonicalHeaderBytes at hheader
    cases htext : codec.dumps packet.header with
    | error raised =>
      rw [htext] at hheader
      cases hheader
    | ok text =>
      rw [htext] at hheader
      rw [decodeAscii_of_encodeAscii hheader]
      exact hjson _ _ htext

end Encoding

/-! ## Reading in pieces -/

section Reads

variable {size remaining : ℕ} {s : ByteStream}

lemma ByteStream.read_append (size : ℕ) (s : ByteStream) :
    (s.read size).1 ++ (s.read size).2.bytes = s.bytes :=
  List.take_append_drop _ _

lemma ByteStream.length_read_le (size : ℕ) (s : ByteStream) : (s.read size).1.length ≤ size := by
  unfold ByteStream.read
  dsimp only
  rw [List.length_take]
  split
  · omega
  · rename_i havailable
    have hmod := Nat.mod_lt (s.deliver s.reads) (Nat.pos_of_ne_zero havailable)
    omega

/-- A read returns nothing at the end only. -/
lemma ByteStream.read_eq_nil (hsize : size ≠ 0) (h : (s.read size).1 = []) : s.bytes = [] := by
  unfold ByteStream.read at h
  dsimp only at h
  rcases List.take_eq_nil_iff.mp h with h | h
  · split at h
    · exact List.length_eq_zero_iff.mp (by omega)
    · omega
  · exact h

/-- The loop reads what is there, in whatever pieces. -/
lemma readLoop_of_le (size : ℕ) (allowCleanEof : Bool) (chunks : List Bytes) (s : ByteStream)
    (h : remaining ≤ s.bytes.length) :
    ∃ s', readLoop size allowCleanEof chunks remaining s =
      (.ok (chunks.flatten ++ s.bytes.take remaining), s') ∧ s'.bytes = s.bytes.drop remaining := by
  induction remaining using Nat.strong_induction_on generalizing chunks s with
  | _ remaining ih =>
    rw [readLoop]
    split
    · rename_i hzero
      exact ⟨s, by simp [hzero], by simp [hzero]⟩
    · rename_i hpositive
      have happend := s.read_append remaining
      have hle := s.length_read_le remaining
      split
      · rename_i hnil
        rw [ByteStream.read_eq_nil hpositive hnil] at h
        exact absurd (Nat.le_zero.mp h) hpositive
      · rename_i hchunk
        have hlength := congrArg List.length happend
        rw [List.length_append] at hlength
        have hchunk := List.length_pos_iff.mpr hchunk
        obtain ⟨s', hloop, hs'⟩ := ih (remaining - (s.read remaining).1.length) (by omega)
          (chunks ++ [(s.read remaining).1]) (s.read remaining).2 (by omega)
        refine ⟨s', ?_, ?_⟩
        · rw [hloop, List.flatten_append, List.flatten_singleton, List.append_assoc]
          rw [← happend, List.take_append, List.take_of_length_le hle]
        · rw [hs', ← happend, List.drop_append, List.drop_of_length_le hle, List.nil_append]

/-- The loop comes to the end of a stream that is too short. -/
lemma readLoop_of_lt (allowCleanEof : Bool) (chunks : List Bytes) (s : ByteStream)
    (h : s.bytes.length < remaining) (hsize : remaining ≤ size) :
    ∃ s', readLoop size allowCleanEof chunks remaining s =
      (if allowCleanEof = true ∧ remaining = size ∧ s.bytes = [] then .ok []
        else .error (.streamProtocolError "D435i stream ended mid-packet"), s') ∧
      s'.bytes = [] := by
  induction remaining using Nat.strong_induction_on generalizing chunks s with
  | _ remaining ih =>
    rw [readLoop]
    split
    · omega
    · rename_i hpositive
      have happend := s.read_append remaining
      split
      · rename_i hnil
        have hbytes := ByteStream.read_eq_nil hpositive hnil
        rw [hbytes] at happend
        refine ⟨(s.read remaining).2, ?_, (List.append_eq_nil_iff.mp happend).2⟩
        cases allowCleanEof <;> by_cases hfull : remaining = size <;> simp [hfull, hbytes]
      · rename_i hchunk
        have hle := s.length_read_le remaining
        have hlength := congrArg List.length happend
        rw [List.length_append] at hlength
        have hpos := List.length_pos_iff.mpr hchunk
        obtain ⟨s', hloop, hs'⟩ := ih (remaining - (s.read remaining).1.length) (by omega)
          (chunks ++ [(s.read remaining).1]) (s.read remaining).2 (by omega) (by omega)
        refine ⟨s', ?_, hs'⟩
        have hbytes : s.bytes ≠ [] := by
          intro hnil
          rw [hnil] at happend
          exact hchunk (List.append_eq_nil_iff.mp happend).1
        rw [hloop, if_neg (by omega), if_neg (by tauto)]

/-- `_read_exact` of what is there. -/
lemma readExact_of_append (allowCleanEof : Bool) {payload rest : Bytes}
    (hs : s.bytes = payload ++ rest) (hsize : payload.length = size) :
    ∃ s', readExact size allowCleanEof s = (.ok payload, s') ∧ s'.bytes = rest := by
  subst hsize
  have hle : payload.length ≤ s.bytes.length := by simp [hs]
  obtain ⟨s', hloop, hs'⟩ := readLoop_of_le payload.length allowCleanEof [] s hle
  rw [hs, List.drop_left] at hs'
  rw [hs, List.take_left] at hloop
  exact ⟨s', hloop, hs'⟩

/-- `_read_exact` within a packet that is cut off. -/
lemma readExact_cut (allowCleanEof : Bool) (h : s.bytes.length < size)
    (hcut : allowCleanEof = true → s.bytes ≠ []) :
    ∃ s', readExact size allowCleanEof s =
      (.error (.streamProtocolError "D435i stream ended mid-packet"), s') ∧ s'.bytes = [] := by
  obtain ⟨s', hloop, hs'⟩ := readLoop_of_lt allowCleanEof [] s h le_rfl
  rw [if_neg (by tauto)] at hloop
  exact ⟨s', hloop, hs'⟩

/-- `_read_exact` at a clean end. -/
lemma readExact_end (hsize : 0 < size) (h : s.bytes = []) :
    ∃ s', readExact size true s = (.ok [], s') ∧ s'.bytes = [] := by
  have hlt : s.bytes.length < size := by simpa [h] using hsize
  obtain ⟨s', hloop, hs'⟩ := readLoop_of_lt true [] s hlt le_rfl
  rw [if_pos ⟨rfl, rfl, h⟩] at hloop
  exact ⟨s', hloop, hs'⟩

end Reads

/-! ## Reading packets -/

section Packets

variable {H : Type} {codec : Codec H} {s : ByteStream} {p : PacketPrefix}

lemma PacketPrefix.refused_eq_none_iff : p.refused = none ↔ p.Admissible := by
  unfold PacketPrefix.refused
  constructor
  · intro h
    split at h
    · cases h
    rename_i hmagic
    split at h
    · cases h
    rename_i hheader
    split at h
    · cases h
    rename_i hjpeg
    split at h
    · cases h
    rename_i hdepth
    exact ⟨by tauto, by tauto, not_not.mp hheader, not_not.mp hjpeg, not_not.mp hdepth⟩
  · intro h
    rw [if_neg (by rw [h.magic, h.version]; simp), if_neg (not_not.mpr h.header),
      if_neg (not_not.mpr h.jpeg), if_neg (not_not.mpr h.depth)]

/-- Payloads that are announced are decoded. -/
lemma PacketPrefix.Announces.decode {headerPayload jpegPayload depthPayload : Bytes} {header : H}
    (h : p.Announces codec headerPayload jpegPayload depthPayload)
    (hheader : (decodeAscii headerPayload).bind codec.loads = some (.dict header)) :
    decodePayloads codec p headerPayload jpegPayload depthPayload =
      .ok ⟨header, jpegPayload, depthPayload⟩ := by
  unfold decodePayloads
  rw [if_neg (not_not.mpr h.headerCrc), if_neg (not_not.mpr h.jpegCrc),
    if_neg (not_not.mpr h.depthCrc), hheader]

/-- What is decoded has the announced checksums. -/
lemma decodePayloads_cases (codec : Codec H) (p : PacketPrefix)
    (headerPayload jpegPayload depthPayload : Bytes) :
    (∃ detail, decodePayloads codec p headerPayload jpegPayload depthPayload =
      .error (.streamProtocolError detail)) ∨
    ∃ header, decodePayloads codec p headerPayload jpegPayload depthPayload =
      .ok ⟨header, jpegPayload, depthPayload⟩ ∧
      (codec.crc32 headerPayload = p.headerCrc ∧ codec.crc32 jpegPayload = p.jpegCrc ∧
        codec.crc32 depthPayload = p.depthCrc) ∧
      (decodeAscii headerPayload).bind codec.loads = some (.dict header) := by
  unfold decodePayloads
  split
  · exact .inl ⟨_, rfl⟩
  rename_i hheader
  split
  · exact .inl ⟨_, rfl⟩
  rename_i hjpeg
  split
  · exact .inl ⟨_, rfl⟩
  rename_i hdepth
  split
  · exact .inl ⟨_, rfl⟩
  · exact .inl ⟨_, rfl⟩
  · rename_i header hloads
    exact .inr ⟨header, rfl, ⟨not_not.mp hheader, not_not.mp hjpeg, not_not.mp hdepth⟩, hloads⟩

/-- The first three parts of enough bytes. -/
lemma exists_three_parts {bytes : Bytes} {a b c : ℕ} (h : a + b + c ≤ bytes.length) :
    ∃ x y z rest, bytes = x ++ (y ++ (z ++ rest)) ∧ x.length = a ∧ y.length = b ∧
      z.length = c := by
  refine ⟨bytes.take a, (bytes.drop a).take b, ((bytes.drop a).drop b).take c,
    ((bytes.drop a).drop b).drop c, ?_, ?_, ?_, ?_⟩
  · rw [List.take_append_drop, List.take_append_drop, List.take_append_drop]
  all_goals
    simp only [List.length_take, List.length_drop]
    omega

/-- The payloads that a prefix announces are read. -/
lemma readPayloads_of_append (codec : Codec H) {headerPayload jpegPayload depthPayload rest : Bytes}
    (hheader : headerPayload.length = p.headerLength) (hjpeg : jpegPayload.length = p.jpegLength)
    (hdepth : depthPayload.length = p.depthLength)
    (hs : s.bytes = headerPayload ++ (jpegPayload ++ (depthPayload ++ rest))) :
    ∃ s', readPayloads codec p s =
      (decodePayloads codec p headerPayload jpegPayload depthPayload, s') ∧ s'.bytes = rest := by
  obtain ⟨s₁, hread₁, hs₁⟩ := readExact_of_append false hs hheader
  obtain ⟨s₂, hread₂, hs₂⟩ := readExact_of_append false hs₁ hjpeg
  obtain ⟨s₃, hread₃, hs₃⟩ := readExact_of_append false hs₂ hdepth
  refine ⟨s₃, ?_, hs₃⟩
  unfold readPayloads
  rw [hread₁]
  dsimp only
  rw [hread₂]
  dsimp only
  rw [hread₃]

/-- A stream that ends within the payloads is refused. -/
lemma readPayloads_cut (codec : Codec H)
    (h : s.bytes.length < p.headerLength + p.jpegLength + p.depthLength) :
    ∃ s', readPayloads codec p s =
      (.error (.streamProtocolError "D435i stream ended mid-packet"), s') ∧ s'.bytes = [] := by
  unfold readPayloads
  rcases Nat.lt_or_ge s.bytes.length p.headerLength with hcut | henough
  · obtain ⟨s₁, hread₁, hs₁⟩ := readExact_cut false hcut (by simp)
    exact ⟨s₁, by rw [hread₁], hs₁⟩
  obtain ⟨s₁, hread₁, hs₁⟩ := readExact_of_append false
    (List.take_append_drop p.headerLength s.bytes).symm (List.length_take_of_le henough)
  rw [hread₁]
  have hlength₁ : s₁.bytes.length = s.bytes.length - p.headerLength := by rw [hs₁, List.length_drop]
  rcases Nat.lt_or_ge s₁.bytes.length p.jpegLength with hcut | henough
  · obtain ⟨s₂, hread₂, hs₂⟩ := readExact_cut false hcut (by simp)
    exact ⟨s₂, by dsimp only; rw [hread₂], hs₂⟩
  obtain ⟨s₂, hread₂, hs₂⟩ := readExact_of_append false
    (List.take_append_drop p.jpegLength s₁.bytes).symm (List.length_take_of_le henough)
  dsimp only
  rw [hread₂]
  have hlength₂ : s₂.bytes.length = s₁.bytes.length - p.jpegLength := by
    rw [hs₂, List.length_drop]
  obtain ⟨s₃, hread₃, hs₃⟩ := readExact_cut false
    (show s₂.bytes.length < p.depthLength by omega) (by simp)
  exact ⟨s₃, by dsimp only; rw [hread₃], hs₃⟩

/-- `read_packet` behind a whole prefix. -/
lemma readPacket_of_prefix (codec : Codec H) {payload rest : Bytes} (hs : s.bytes = payload ++ rest)
    (hsize : payload.length = PacketPrefix.size)
    (h : (PacketPrefix.unpack payload).Admissible) :
    ∃ s', s'.bytes = rest ∧
      readPacket codec s = ((readPayloads codec (PacketPrefix.unpack payload) s').1.map some,
        (readPayloads codec (PacketPrefix.unpack payload) s').2) := by
  obtain ⟨s', hread, hs'⟩ := readExact_of_append true hs hsize
  refine ⟨s', hs', ?_⟩
  have hne : payload ≠ [] := by
    rintro rfl
    cases hsize
  unfold readPacket
  rw [hread]
  split
  · rename_i heq
    cases heq
  · rename_i heq
    cases heq
    exact absurd rfl hne
  · rename_i heq
    cases heq
    rw [PacketPrefix.refused_eq_none_iff.mpr h]

/-- `read_packet` behind a prefix that it refuses. -/
lemma readPacket_refused (codec : Codec H) {payload rest : Bytes} (hs : s.bytes = payload ++ rest)
    (hsize : payload.length = PacketPrefix.size)
    (h : ¬ (PacketPrefix.unpack payload).Admissible) :
    ∃ detail s', readPacket codec s = (.error (.streamProtocolError detail), s') ∧
      s'.bytes = rest := by
  obtain ⟨s', hread, hs'⟩ := readExact_of_append true hs hsize
  have hne : payload ≠ [] := by
    rintro rfl
    cases hsize
  unfold readPacket
  rw [hread]
  split
  · rename_i heq
    cases heq
  · rename_i heq
    cases heq
    exact absurd rfl hne
  · rename_i heq
    cases heq
    cases hrefused : (PacketPrefix.unpack payload).refused with
    | none => exact absurd (PacketPrefix.refused_eq_none_iff.mp hrefused) h
    | some detail => exact ⟨detail, s', rfl, hs'⟩

/-- What comes of the payloads behind an admissible prefix. -/
lemma readPayloads_outcome (codec : Codec H) {s₁ : ByteStream} {payload : Bytes}
    (hs : s.bytes = payload ++ s₁.bytes) (hsize : payload.length = PacketPrefix.size)
    (h : (PacketPrefix.unpack payload).Admissible) :
    Outcome codec s (readPayloads codec (PacketPrefix.unpack payload) s₁).2
      ((readPayloads codec (PacketPrefix.unpack payload) s₁).1.map some) := by
  rcases Nat.lt_or_ge s₁.bytes.length ((PacketPrefix.unpack payload).headerLength +
    (PacketPrefix.unpack payload).jpegLength + (PacketPrefix.unpack payload).depthLength) with
    hshort | hlong
  · obtain ⟨s', hread, hs'⟩ := readPayloads_cut codec hshort
    rw [hread]
    exact .broken _ payload s₁.bytes (by rw [hs', List.append_nil, hs]) hsize h hshort.le
  obtain ⟨headerPayload, jpegPayload, depthPayload, rest, hsplit, hheader, hjpeg, hdepth⟩ :=
    exists_three_parts hlong
  obtain ⟨s', hread, rfl⟩ := readPayloads_of_append codec hheader hjpeg hdepth hsplit
  rw [hread]
  rw [hsplit] at hs
  rcases decodePayloads_cases codec (PacketPrefix.unpack payload) headerPayload
    jpegPayload depthPayload with ⟨detail, hdecode⟩ | ⟨header, hdecode, hcrcs, hloads⟩
  · rw [hdecode]
    refine .broken detail payload (headerPayload ++ (jpegPayload ++ depthPayload)) ?_ hsize h ?_
    · rw [hs]
      simp only [List.append_assoc]
    · simp only [List.length_append]
      omega
  · rw [hdecode]
    refine .packet payload headerPayload ⟨header, jpegPayload, depthPayload⟩ ?_ hsize h
      ⟨hheader.symm, hjpeg.symm, hdepth.symm, hcrcs.1, hcrcs.2.1, hcrcs.2.2⟩ hloads
    rw [hs]
    simp only [List.append_assoc]

/-- **A packet that was encoded is read back**, whatever follows it. -/
theorem readPacket_encoded {packet : Packet H} {encoding rest : Bytes}
    (hjson : codec.Inverse)
    (h : encodePacket codec packet = .ok encoding) (hs : s.bytes = encoding ++ rest) :
    ∃ s', readPacket codec s = (.ok (some packet), s') ∧ s'.bytes = rest := by
  obtain ⟨payload, headerPayload, rfl, hsize, hadmissible, hannounced, hheader⟩ :=
    encoded_parts hjson h
  rw [List.append_assoc] at hs
  obtain ⟨s₁, hs₁, hread⟩ := readPacket_of_prefix codec hs hsize hadmissible
  simp only [List.append_assoc] at hs₁
  obtain ⟨s', hpayloads, hs'⟩ := readPayloads_of_append codec hannounced.headerLength.symm
    hannounced.jpegLength.symm hannounced.depthLength.symm hs₁
  refine ⟨s', ?_, hs'⟩
  rw [hread, hpayloads, hannounced.decode hheader]
  rfl

/-- A packet that is cut off is refused. -/
theorem readPacket_cut {packet : Packet H} {encoding : Bytes} {cut : ℕ}
    (hjson : codec.Inverse)
    (h : encodePacket codec packet = .ok encoding) (hpos : 0 < cut) (hcut : cut < encoding.length)
    (hs : s.bytes = encoding.take cut) :
    (readPacket codec s).1 = .error (.streamProtocolError "D435i stream ended mid-packet") := by
  obtain ⟨payload, headerPayload, rfl, hsize, hadmissible, hannounced, -⟩ := encoded_parts hjson h
  have hlength : s.bytes.length = cut := by rw [hs, List.length_take_of_le hcut.le]
  rcases Nat.lt_or_ge cut PacketPrefix.size with hshort | hlong
  · have hne : s.bytes ≠ [] := List.length_pos_iff.mp (hlength ▸ hpos)
    obtain ⟨s', hread, -⟩ := readExact_cut true (hlength ▸ hshort) fun _ => hne
    unfold readPacket
    rw [hread]
  · rw [List.take_append, List.take_of_length_le (hsize ▸ hlong)] at hs
    obtain ⟨s₁, hs₁, hread⟩ := readPacket_of_prefix codec hs hsize hadmissible
    have hshort : s₁.bytes.length < (PacketPrefix.unpack payload).headerLength +
        (PacketPrefix.unpack payload).jpegLength + (PacketPrefix.unpack payload).depthLength := by
      rw [hannounced.headerLength, hannounced.jpegLength, hannounced.depthLength, hs₁,
        List.length_take]
      simp only [List.length_append] at hcut
      omega
    obtain ⟨s', hpayloads, -⟩ := readPayloads_cut codec hshort
    rw [hread, hpayloads]
    rfl

/-- At the end of the stream there is no packet. -/
lemma readPacket_end (codec : Codec H) (h : s.bytes = []) :
    ∃ s', readPacket codec s = (.ok none, s') ∧ s'.bytes = [] := by
  obtain ⟨s', hread, hs'⟩ := readExact_end (show 0 < PacketPrefix.size by decide) h
  refine ⟨s', ?_, hs'⟩
  unfold readPacket
  rw [hread]

/-- **Any bytes at all** are the end, a packet that is announced, or refused. -/
theorem readPacket_outcome (codec : Codec H) (s : ByteStream) :
    Outcome codec s (readPacket codec s).2 (readPacket codec s).1 := by
  by_cases hnil : s.bytes = []
  · obtain ⟨s', hread, hs'⟩ := readPacket_end codec hnil
    rw [hread]
    exact .ended hnil hs'
  rcases Nat.lt_or_ge s.bytes.length PacketPrefix.size with hshort | hlong
  · obtain ⟨s', hread, hs'⟩ := readExact_cut true hshort fun _ => hnil
    have hpacket : readPacket codec s =
        (.error (.streamProtocolError "D435i stream ended mid-packet"), s') := by
      unfold readPacket
      rw [hread]
    rw [hpacket]
    exact .refused _ s.bytes (by rw [hs', List.append_nil]) hshort.le (.inl hshort)
  have hsplit := (List.take_append_drop PacketPrefix.size s.bytes).symm
  have hsize : (s.bytes.take PacketPrefix.size).length = PacketPrefix.size :=
    List.length_take_of_le hlong
  generalize s.bytes.take PacketPrefix.size = payload at hsplit hsize
  by_cases hadmissible : (PacketPrefix.unpack payload).Admissible
  · obtain ⟨s₁, hs₁, hread⟩ := readPacket_of_prefix codec hsplit hsize hadmissible
    rw [hread]
    rw [← hs₁] at hsplit
    exact readPayloads_outcome codec hsplit hsize hadmissible
  · obtain ⟨detail, s', hread, hs'⟩ := readPacket_refused codec hsplit hsize hadmissible
    rw [hread]
    exact .refused detail payload (hs' ▸ hsplit) hsize.le (.inr hadmissible)

/-- The packets that were encoded are read back one after the other. -/
lemma readPackets_encoded {packets : List (Packet H)} {encodings : List Bytes} {rest : Bytes}
    (hjson : codec.Inverse)
    (h : Encoded codec packets encodings) (hs : s.bytes = encodings.flatten ++ rest) :
    ∃ s', s'.bytes = rest ∧ ∀ count, readPackets codec (packets.length + count) s =
      packets.map (fun packet => .ok (some packet)) ++ readPackets codec count s' := by
  induction h generalizing s with
  | nil => exact ⟨s, hs, fun count => by simp⟩
  | cons hpacket _ ih =>
    rw [List.flatten_cons, List.append_assoc] at hs
    obtain ⟨s₁, hread, hs₁⟩ := readPacket_encoded hjson hpacket hs
    obtain ⟨s', hs', hrest⟩ := ih hs₁
    refine ⟨s', hs', fun count => ?_⟩
    rw [List.length_cons, Nat.add_right_comm, readPackets, hread, List.map_cons, List.cons_append,
      hrest count]

/-- **The framing of the stream**: what was encoded is read back however the bytes come in, a
packet that is cut off is refused, and no bytes are taken for a packet that no prefix announces. -/
theorem framing {codec : Codec H}
    (hjson : codec.Inverse) : Framing codec where
  roundTrip packets encodings s h hs := by
    rw [← List.append_nil encodings.flatten] at hs
    obtain ⟨s', hs', hread⟩ := readPackets_encoded hjson h hs
    obtain ⟨s'', hend, -⟩ := readPacket_end codec hs'
    rw [hread 1, readPackets, readPackets, hend]
  truncated packets encodings packet encoding cut s h hpacket hpos hcut hs := by
    obtain ⟨s', hs', hread⟩ := readPackets_encoded hjson h hs
    refine ⟨"D435i stream ended mid-packet", ?_⟩
    rw [hread 1, readPackets, readPackets, readPacket_cut hjson hpacket hpos hcut hs']
  anyBytes := readPacket_outcome codec

end Packets

/-! ## A packet with an empty header -/

/-- The bitwise algorithm of `zlib.crc32`. -/
def bitwiseCrc32 (payload : Bytes) : ℕ :=
  let shift (crc : ℕ) := if crc % 2 = 1 then (crc >>> 1) ^^^ 0xEDB88320 else crc >>> 1
  payload.foldl (fun crc byte => Nat.iterate shift 8 (crc ^^^ byte.toNat)) 0xFFFFFFFF ^^^ 0xFFFFFFFF

/-- The texts of the empty dictionary. -/
def emptyHeaderCodec : Codec Unit where
  dumps _ := .ok "{}"
  loads text := if text = "{}" then some (.dict ()) else none
  zlibCrc32 := bitwiseCrc32

def emptyHeaderPacket : Packet Unit := ⟨(), [0xff, 0xd8, 0xff, 0xd9], [0x78, 0x9c]⟩

def emptyHeaderEncoding : Bytes :=
  [0x52, 0x42, 0x4e, 0x58, 0x44, 0x34, 0x33, 0x35, 0x0, 0x0, 0x0, 0x1, 0x0, 0x0, 0x0, 0x2,
    0x0, 0x0, 0x0, 0x4, 0x0, 0x0, 0x0, 0x2, 0xa3, 0xa6, 0xbf, 0x43, 0x10, 0xf0, 0x2a, 0x67,
    0x5f, 0x86, 0x3e, 0x6e, 0x7b, 0x7d, 0xff, 0xd8, 0xff, 0xd9, 0x78, 0x9c]

/-- The packet is read back when its bytes come in one by one. -/
theorem framing_emptyHeader :
    readPackets emptyHeaderCodec 2 ⟨emptyHeaderEncoding, fun _ => 0, 0⟩ =
      [.ok (some emptyHeaderPacket), .ok none] := by
  have hjson : emptyHeaderCodec.Inverse := by
    intro header text htext
    obtain rfl := Except.ok.inj htext
    rfl
  have hencoded : encodePacket emptyHeaderCodec emptyHeaderPacket = .ok emptyHeaderEncoding := by
    decide +kernel
  exact (framing hjson).roundTrip [emptyHeaderPacket] [emptyHeaderEncoding] _
    (.cons hencoded .nil) rfl

end UnitreeGo2.Sensors.D435i
