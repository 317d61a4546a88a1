import UnitreeGo2.WriterLocator.RtpsWriters
import Mathlib

/-!
# Correlating a writer with its source addresses

The locator reads a capture file record by record, unpacks each frame down to its UDP datagram,
and counts the source addresses of the RTPS messages of one writer.  A `ValueError` is an answer
here; any other exception is a fault.
-/

namespace UnitreeGo2.WriterLocator

/-! ## The writer -/

/-- The characters at which `str.split` splits. -/
def isSpace (c : Char) : Bool :=
  let n := c.toNat
  (0x09 ≤ n && n ≤ 0x0d) || (0x1c ≤ n && n ≤ 0x20) || n = 0x85 || n = 0xa0 || n = 0x1680 ||
    (0x2000 ≤ n && n ≤ 0x200a) || n = 0x2028 || n = 0x2029 || n = 0x202f || n = 0x205f ||
    n = 0x3000

def hexDigit? (c : Char) : Option ℕ :=
  let n := c.toNat
  if 0x30 ≤ n ∧ n ≤ 0x39 then some (n - 0x30)
  else if 0x41 ≤ n ∧ n ≤ 0x46 then some (n - 0x41 + 10)
  else if 0x61 ≤ n ∧ n ≤ 0x66 then some (n - 0x61 + 10)
  else none

/-- `bytes.fromhex`. -/
def fromHex : List Char → Option (List UInt8)
  | [] => some []
  | [_] => none
  | high :: low :: rest => do
    let high ← hexDigit? high
    let low ← hexDigit? low
    let bytes ← fromHex rest
    return UInt8.ofNat (16 * high + low) :: bytes

structure WriterGid where
  guidPrefix : List UInt8
  entityId : List UInt8
  bytes : List UInt8
  deriving DecidableEq

def parseWriterGid (value : String) : Except String WriterGid :=
  let compact := value.toList.filter fun c => !(c = '.' || c = ':' || c = '-' || isSpace c)
  if compact.length < 32 ∨ compact.length % 2 ≠ 0 then
    .error "writer GID must contain at least 16 hexadecimal bytes"
  else
    match fromHex compact with
    | none => .error "writer GID contains non-hexadecimal characters"
    | some gid => .ok ⟨gid.take 12, slice gid 12 16, gid⟩

/-! ## Capture files -/

def MAX_CAPTURED_PACKET_BYTES : ℕ := 16 * 1024 * 1024

/-- `struct.unpack` of unsigned fields of the given widths, which the data has to fill. -/
def unpack (byteOrder : ByteOrder) : List ℕ → List UInt8 → Option (List ℕ)
  | [], data => if data = [] then some [] else none
  | width :: widths, data =>
    if data.length < width then none
    else (unpack byteOrder widths (data.drop width)).map
      (fromBytes byteOrder (data.take width) :: ·)

def pcapLayouts (magic : List UInt8) : Option ByteOrder :=
  if magic = [0xd4, 0xc3, 0xb2, 0xa1] ∨ magic = [0x4d, 0x3c, 0xb2, 0xa1] then some .little
  else if magic = [0xa1, 0xb2, 0xc3, 0xd4] ∨ magic = [0xa1, 0xb2, 0x3c, 0x4d] then some .big
  else none

/-- `_pcap_layout`, for the first bytes of the file. -/
def pcapLayout (header : List UInt8) : Option (Except String (ByteOrder × ℕ)) :=
  if header.length ≠ 24 then some (.error "truncated classic PCAP global header")
  else if header.take 4 = [0x0a, 0x0d, 0x0d, 0x0a] then
    some (.error "PCAPNG is not supported; capture with tcpdump -w classic.pcap")
  else
    match pcapLayouts (header.take 4) with
    | none => some (.error "unrecognized PCAP magic")
    | some endian =>
      match unpack endian [4, 2, 2, 4, 4, 4, 4] header with
      | some [_, major, minor, _, _, _, linkType] =>
        if (major, minor) ≠ (2, 4) then
          some (.error s!"unsupported PCAP version {major}.{minor}")
        else some (.ok (endian, linkType))
      | _ => none

structure PcapPacket where
  packetNumber : ℕ
  linkType : ℕ
  captured : List UInt8
  deriving DecidableEq

/-- What the generator has yielded, and the `ValueError` that it has ended with. -/
structure PcapPackets where
  packets : List PcapPacket := []
  error : Option String := none
  deriving DecidableEq

structure PcapScan where
  offset : ℕ
  packetNumber : ℕ
  packets : List PcapPacket

/-- A round of the loop in `iter_pcap_packets`. -/
def pcapRound (data : List UInt8) (endian : ByteOrder) (linkType : ℕ) (s : PcapScan) :
    Option (Round PcapScan PcapPackets) :=
  let recordHeader := slice data s.offset (s.offset + 16)
  if recordHeader = [] then some (.leave ⟨s.packets, none⟩)
  else if recordHeader.length ≠ 16 then
    some (.leave ⟨s.packets, some "truncated PCAP packet header"⟩)
  else
    match unpack endian [4, 4, 4, 4] recordHeader with
    | some [_, _, capturedLength, originalLength] =>
      if MAX_CAPTURED_PACKET_BYTES < capturedLength then
        some (.leave ⟨s.packets,
          some s!"captured packet exceeds {MAX_CAPTURED_PACKET_BYTES} bytes"⟩)
      else if originalLength < capturedLength then
        some (.leave ⟨s.packets, some "PCAP original length is smaller than captured length"⟩)
      else
        let packet := slice data (s.offset + 16) (s.offset + 16 + capturedLength)
        if packet.length ≠ capturedLength then
          some (.leave ⟨s.packets, some "truncated PCAP packet body"⟩)
        else
          some (.next ⟨s.offset + 16 + capturedLength, s.packetNumber + 1,
            s.packets ++ [⟨s.packetNumber + 1, linkType, packet⟩]⟩)
    | _ => none

/-- `iter_pcap_packets`, for the bytes of the file. -/
def iterPcapPackets (data : List UInt8) : Option PcapPackets :=
  match pcapLayout (slice data 0 24) with
  | none => none
  | some (.error error) => some ⟨[], some error⟩
  | some (.ok (endian, linkType)) =>
    Loop.run (pcapRound data endian linkType) (data.length + 1) ⟨24, 0, []⟩

/-! ## Frames -/

/-- A round of the loop over VLAN tags. -/
def vlanRound (packet : List UInt8) (s : ℕ × ℕ) : Option (Round (ℕ × ℕ) (Option (List UInt8))) :=
  let (etherType, offset) := s
  if etherType = 0x8100 ∨ etherType = 0x88a8 ∨ etherType = 0x9100 then
    if packet.length < offset + 4 then some (.leave none)
    else some (.next (fromBytes .big (slice packet (offset + 2) (offset + 4)), offset + 4))
  else some (.leave (if etherType = 0x0800 then some (packet.drop offset) else none))

/-- `_ipv4_payload`. -/
def ipv4Payload (linkType : ℕ) (packet : List UInt8) : Option (Option (List UInt8)) :=
  if linkType = 1 then
    if packet.length < 14 then some none
    else Loop.run (vlanRound packet) (packet.length + 1) (fromBytes .big (slice packet 12 14), 14)
  else if linkType = 113 then
    if packet.length < 16 ∨ slice packet 14 16 ≠ [0x08, 0x00] then some none
    else some (some (packet.drop 16))
  else if linkType = 276 then
    if packet.length < 20 ∨ slice packet 0 2 ≠ [0x08, 0x00] then some none
    else some (some (packet.drop 20))
  else if linkType = 101 ∨ linkType = 228 then some (some packet)
  else if linkType = 0 ∧ 4 ≤ packet.length then
    if packet.take 4 = [2, 0, 0, 0] ∨ packet.take 4 = [0, 0, 0, 2] then some (some (packet.drop 4))
    else some none
  else some none

/-- `str` of an `IPv4Address`. -/
def ipv4Text (address : List UInt8) : String :=
  ".".intercalate (address.map fun octet => toString octet.toNat)

structure UdpDatagram where
  sourceIp : String
  destinationIp : String
  sourcePort : ℕ
  destinationPort : ℕ
  payload : List UInt8
  deriving DecidableEq

/-- `_udp_datagram`. -/
def udpDatagram (ipPacket : List UInt8) : Option (Option UdpDatagram) := do
  if ipPacket.length < 20 then return none
  let first : UInt8 ← ipPacket[0]?
  if first >>> 4 ≠ 4 then return none
  let headerLength := (first &&& 0x0f).toNat * 4
  if headerLength < 20 ∨ ipPacket.length < headerLength + 8 then return none
  let totalLength := fromBytes .big (slice ipPacket 2 4)
  if totalLength < headerLength + 8 then return none
  let totalLength := min totalLength ipPacket.length
  let fragment := fromBytes .big (slice ipPacket 6 8)
  let protocol : UInt8 ← ipPacket[9]?
  if fragment &&& 0x1fff ≠ 0 ∨ protocol ≠ 17 then return none
  let udp := slice ipPacket headerLength totalLength
  let udpLength := fromBytes .big (slice udp 4 6)
  if udpLength < 8 then return none
  let udp := udp.take (min udpLength udp.length)
  return some
    { sourceIp := ipv4Text (slice ipPacket 12 16)
      destinationIp := ipv4Text (slice ipPacket 16 20)
      sourcePort := fromBytes .big (slice udp 0 2)
      destinationPort := fromBytes .big (slice udp 2 4)
      payload := udp.drop 8 }

/-! ## Correlation -/

/-- A `Counter`, in the order in which its keys came. -/
abbrev Counter := List (String × ℕ)

/-- `counter[key] += 1`. -/
def Counter.bump (key : String) : Counter → Counter
  | [] => [(key, 1)]
  | (other, count) :: rest =>
    if other = key then (other, count + 1) :: rest else (other, count) :: Counter.bump key rest

def Counter.keys (counter : Counter) : List String := counter.map Prod.fst

/-- `sorted(counter.items())`. -/
def Counter.sorted (counter : Counter) : Counter := counter.mergeSort fun p q => p.1 ≤ q.1

structure PacketRecord where
  packetNumber : ℕ
  sourceIp : String
  destinationIp : String
  sourcePort : ℕ
  destinationPort : ℕ
  deriving DecidableEq

/-- The local variables of `correlate`. -/
structure Correlation where
  prefixSources : Counter := []
  writerSources : Counter := []
  prefixPackets : List PacketRecord := []
  writerPackets : List PacketRecord := []
  totalPackets : ℕ := 0
  decodedUdpPackets : ℕ := 0
  deriving DecidableEq

/-- Up to 32 packets are kept as examples. -/
def keepExample (packets : List PacketRecord) (record : PacketRecord) : List PacketRecord :=
  if packets.length < 32 then packets ++ [record] else packets

/-- The loop of `correlate` with a decoded datagram. -/
def Correlation.observeDatagram (gid : WriterGid) (packetNumber : ℕ) (datagram : UdpDatagram)
    (c : Correlation) : Option Correlation := do
  let c := { c with decodedUdpPackets := c.decodedUdpPackets + 1 }
  let payload := datagram.payload
  if payload.length < 20 ∨ payload.take 4 ≠ rtpsMagic then return c
  if slice payload 8 20 ≠ gid.guidPrefix then return c
  let source := datagram.sourceIp
  let record : PacketRecord := ⟨packetNumber, source, datagram.destinationIp, datagram.sourcePort,
    datagram.destinationPort⟩
  let c := { c with
    prefixSources := c.prefixSources.bump source
    prefixPackets := keepExample c.prefixPackets record }
  let writers ← rtpsDataWriterIds payload
  if gid.entityId ∈ writers then
    return { c with
      writerSources := c.writerSources.bump source
      writerPackets := keepExample c.writerPackets record }
  else return c

/-- The loop of `correlate` with a packet. -/
def Correlation.observe (gid : WriterGid) (c : Correlation) (packet : PcapPacket) :
    Option Correlation := do
  let c := { c with totalPackets := c.totalPackets + 1 }
  match ← ipv4Payload packet.linkType packet.captured with
  | none => return c
  | some ipPacket =>
    match ← udpDatagram ipPacket with
    | none => return c
    | some datagram => c.observeDatagram gid packet.packetNumber datagram

def hexByte (byte : UInt8) : String :=
  let digit (n : ℕ) : Char := Char.ofNat (if n < 10 then 0x30 + n else 0x61 + n - 10)
  String.ofList [digit (byte.toNat / 16), digit (byte.toNat % 16)]

/-- `bytes.hex` with a separator. -/
def hexText (separator : String) (bytes : List UInt8) : String :=
  separator.intercalate (bytes.map hexByte)

inductive Conclusion where
  | singleSourceProven
  | multipleSourcesObserved
  | prefixSeenOnly
  | prefixNotSeen
  deriving DecidableEq, Repr

def Conclusion.text : Conclusion → String
  | singleSourceProven => "single_source_proven_by_rtps_data_writer"
  | multipleSourcesObserved => "multiple_sources_observed_for_writer_gid"
  | prefixSeenOnly => "participant_prefix_seen_but_writer_data_not_proven"
  | prefixNotSeen => "writer_participant_prefix_not_seen"

structure CorrelationReport where
  schemaVersion : ℕ := 1
  method : String := "pcap_rtps_guid_prefix_and_data_writer_entity_correlation"
  inputPcap : String
  writerGid : String
  rtpsParticipantGuidPrefix : String
  rtpsWriterEntityId : String
  rosTopicInfoProvidesIp : Bool := false
  totalPackets : ℕ
  decodedIpv4UdpPackets : ℕ
  participantPrefixSources : Counter
  writerDataSources : Counter
  participantPrefixPacketExamples : List PacketRecord
  writerDataPacketExamples : List PacketRecord
  provenSourceIps : List String
  conclusion : Conclusion
  caveat : String := "A ROS 2 writer GID can change after publisher or robot restart; " ++
    "collect topic-info and packet evidence in the same session."
  deriving DecidableEq

def Correlation.conclusion (c : Correlation) : Conclusion :=
  let provenSources := c.writerSources.sorted.keys
  if provenSources.length = 1 then .singleSourceProven
  else if 1 < provenSources.length then .multipleSourcesObserved
  else if c.prefixSources ≠ [] then .prefixSeenOnly
  else .prefixNotSeen

def Correlation.report (path : String) (gid : WriterGid) (c : Correlation) : CorrelationReport where
  inputPcap := path
  writerGid := hexText "." gid.bytes
  rtpsParticipantGuidPrefix := hexText "" gid.guidPrefix
  rtpsWriterEntityId := hexText "" gid.entityId
  totalPackets := c.totalPackets
  decodedIpv4UdpPackets := c.decodedUdpPackets
  participantPrefixSources := c.prefixSources.sorted
  writerDataSources := c.writerSources.sorted
  participantPrefixPacketExamples := c.prefixPackets
  writerDataPacketExamples := c.writerPackets
  provenSourceIps := c.writerSources.sorted.keys
  conclusion := c.conclusion

/-- `correlate`, for a file with the given bytes. -/
def correlate (path : String) (data : List UInt8) (writerGid : String) :
    Option (Except String CorrelationReport) :=
  match parseWriterGid writerGid with
  | .error error => some (.error error)
  | .ok gid => do
    let packets ← iterPcapPackets data
    let c ← packets.packets.foldlM (Correlation.observe gid) {}
    match packets.error with
    | some error => return .error error
    | none => return .ok (c.report path gid)

/-! ## No fault -/

section Total

variable {data : List UInt8} {endian : ByteOrder}

/-- Fields that fill the data are unpacked. -/
lemma unpack_total (byteOrder : ByteOrder) (widths : List ℕ) (hlength : data.length = widths.sum) :
    ∃ values, unpack byteOrder widths data = some values ∧ values.length = widths.length := by
  induction widths generalizing data with
  | nil => exact ⟨[], if_pos (List.length_eq_zero_iff.mp hlength), rfl⟩
  | cons width widths ih =>
    rw [List.sum_cons] at hlength
    have hrest : (data.drop width).length = widths.sum := by
      rw [List.length_drop]
      omega
    obtain ⟨values, hvalues, hcount⟩ := ih hrest
    have hwide : ¬ data.length < width := by omega
    refine ⟨fromBytes byteOrder (data.take width) :: values, ?_, ?_⟩
    · rw [unpack, if_neg hwide, hvalues]
      rfl
    · rw [List.length_cons, List.length_cons, hcount]

lemma pcapLayout_total (header : List UInt8) : ∃ layout, pcapLayout header = some layout := by
  rw [pcapLayout]
  split_ifs with hlength hng
  · exact ⟨_, rfl⟩
  · exact ⟨_, rfl⟩
  cases hlayout : pcapLayouts (header.take 4) with
  | none => exact ⟨_, rfl⟩
  | some endian =>
    have hfill : header.length = [4, 2, 2, 4, 4, 4, 4].sum := not_not.mp hlength
    obtain ⟨values, hvalues, hcount⟩ := unpack_total endian _ hfill
    -- seven fields, as the format has them
    match values, hcount with
    | [magic, major, minor, zone, digits, snaplen, linkType], _ =>
      dsimp only
      rw [hvalues]
      dsimp only
      split_ifs
      · exact ⟨_, rfl⟩
      · exact ⟨_, rfl⟩

/-- A round answers with a `ValueError`, or goes on behind the record. -/
lemma pcapRound_total (linkType : ℕ) (s : PcapScan) :
    ∃ round, pcapRound data endian linkType s = some round ∧
      round.Meets (fun s' => data.length - s'.offset < data.length - s.offset) fun _ => True := by
  rw [pcapRound]
  dsimp only
  split_ifs with hend hlength
  · exact ⟨_, rfl, trivial⟩
  · exact ⟨_, rfl, trivial⟩
  have hfill : (slice data s.offset (s.offset + 16)).length = [4, 4, 4, 4].sum :=
    not_not.mp hlength
  obtain ⟨values, hvalues, hcount⟩ := unpack_total endian _ hfill
  have hinside : s.offset + 16 ≤ data.length := by
    rw [slice, List.length_take, List.length_drop] at hfill
    simp only [List.sum_cons, List.sum_nil] at hfill
    omega
  obtain ⟨seconds, fraction, capturedLength, originalLength, rfl⟩ :=
    List.length_eq_four.mp hcount
  rw [hvalues]
  dsimp only
  split_ifs
  · exact ⟨_, rfl, trivial⟩
  · exact ⟨_, rfl, trivial⟩
  · exact ⟨_, rfl, trivial⟩
  · refine ⟨_, rfl, ?_⟩
    show data.length - (s.offset + 16 + capturedLength) < data.length - s.offset
    omega

/-- The generator comes to its end on the bytes of every file. -/
lemma iterPcapPackets_total (data : List UInt8) :
    ∃ packets, iterPcapPackets data = some packets := by
  obtain ⟨layout, hlayout⟩ := pcapLayout_total (slice data 0 24)
  rw [iterPcapPackets, hlayout]
  cases layout with
  | error error => exact ⟨_, rfl⟩
  | ok layout =>
    obtain ⟨endian, linkType⟩ := layout
    have hrounds : data.length - 24 < data.length + 1 := by omega
    exact Loop.run_terminates (fun s : PcapScan => data.length - s.offset)
      (pcapRound_total linkType) hrounds

/-- Every VLAN tag is read within the packet. -/
lemma vlanRound_total (packet : List UInt8) (s : ℕ × ℕ) :
    ∃ round, vlanRound packet s = some round ∧
      round.Meets (fun s' => packet.length - s'.2 < packet.length - s.2) fun _ => True := by
  obtain ⟨etherType, offset⟩ := s
  rw [vlanRound]
  dsimp only
  split_ifs with htag hshort
  · exact ⟨_, rfl, trivial⟩
  · refine ⟨_, rfl, ?_⟩
    show packet.length - (offset + 4) < packet.length - offset
    omega
  · exact ⟨_, rfl, trivial⟩
  · exact ⟨_, rfl, trivial⟩

lemma ipv4Payload_total (linkType : ℕ) (packet : List UInt8) :
    ∃ payload, ipv4Payload linkType packet = some payload := by
  rw [ipv4Payload]
  split_ifs
  · exact ⟨_, rfl⟩
  · have hrounds : packet.length - 14 < packet.length + 1 := by omega
    exact Loop.run_terminates (fun s : ℕ × ℕ => packet.length - s.2) (vlanRound_total packet)
      hrounds
  all_goals exact ⟨_, rfl⟩

lemma udpDatagram_total (ipPacket : List UInt8) :
    ∃ datagram, udpDatagram ipPacket = some datagram := by
  rw [udpDatagram]
  by_cases hshort : ipPacket.length < 20
  · exact ⟨_, if_pos hshort⟩
  have hfirst : 0 < ipPacket.length := by omega
  have hprotocol : 9 < ipPacket.length := by omega
  rw [if_neg hshort, List.getElem?_eq_getElem hfirst, List.getElem?_eq_getElem hprotocol]
  simp only [Option.bind_eq_bind, Option.bind_some, Option.pure_def]
  split_ifs <;> exact ⟨_, rfl⟩

end Total

/-! ## The conclusion -/

/-- The packet carries a datagram of the source with a message of the writer. -/
structure SentBy (gid : WriterGid) (packet : PcapPacket) (ipPacket : List UInt8)
    (datagram : UdpDatagram) (writers : List (List UInt8)) : Prop where
  ipv4 : ipv4Payload packet.linkType packet.captured = some (some ipPacket)
  udp : udpDatagram ipPacket = some (some datagram)
  header : 20 ≤ datagram.payload.length ∧ datagram.payload.take 4 = rtpsMagic
  participant : slice datagram.payload 8 20 = gid.guidPrefix
  ids : rtpsDataWriterIds datagram.payload = some writers
  writer : gid.entityId ∈ writers

/-- A packet proves that the writer has this source address. -/
def Proves (gid : WriterGid) (packet : PcapPacket) (source : String) : Prop :=
  ∃ ipPacket datagram writers, SentBy gid packet ipPacket datagram writers ∧
    datagram.sourceIp = source

section Conclusion

variable {gid : WriterGid} {packet : PcapPacket} {c c' : Correlation} {key source : String}
  {counter : Counter}

lemma mem_keys_bump : key ∈ (counter.bump source).keys ↔ key = source ∨ key ∈ counter.keys := by
  induction counter with
  | nil => simp [Counter.bump, Counter.keys]
  | cons entry rest ih =>
    obtain ⟨other, count⟩ := entry
    rw [Counter.bump]
    split_ifs with hsame
    · subst hsame
      simp [Counter.keys]
    · simp only [Counter.keys, List.map_cons, List.mem_cons] at ih ⊢
      rw [ih]
      tauto

lemma nodup_keys_bump (h : counter.keys.Nodup) : (counter.bump source).keys.Nodup := by
  induction counter with
  | nil => simp [Counter.bump, Counter.keys]
  | cons entry rest ih =>
    obtain ⟨other, count⟩ := entry
    obtain ⟨hother, hrest⟩ := List.nodup_cons.mp h
    rw [Counter.bump]
    split_ifs with hsame
    · exact h
    · refine List.nodup_cons.mpr ⟨fun hmem => ?_, ih hrest⟩
      rcases mem_keys_bump.mp hmem with heq | hmem
      · exact hsame heq
      · exact hother hmem

/-- What a packet does to the sources of the writer: it proves one more, or none. -/
structure Observed (gid : WriterGid) (packet : PcapPacket) (c c' : Correlation) : Prop where
  sources : ∀ source, source ∈ c'.writerSources.keys ↔
    source ∈ c.writerSources.keys ∨ Proves gid packet source
  nodup : c.writerSources.keys.Nodup → c'.writerSources.keys.Nodup

/-- A packet that proves nothing leaves the sources. -/
lemma Observed.of_silent (hsources : c'.writerSources = c.writerSources)
    (hsilent : ∀ source, ¬ Proves gid packet source) : Observed gid packet c c' where
  sources source := by simp [hsources, hsilent]
  nodup h := hsources ▸ h

/-- What is known of a packet with a datagram. -/
lemma proves_iff {ipPacket : List UInt8} {datagram : UdpDatagram} {writers : List (List UInt8)}
    (hipv4 : ipv4Payload packet.linkType packet.captured = some (some ipPacket))
    (hudp : udpDatagram ipPacket = some (some datagram))
    (hids : rtpsDataWriterIds datagram.payload = some writers) (gid : WriterGid)
    (source : String) :
    Proves gid packet source ↔
      (20 ≤ datagram.payload.length ∧ datagram.payload.take 4 = rtpsMagic) ∧
      slice datagram.payload 8 20 = gid.guidPrefix ∧ gid.entityId ∈ writers ∧
      datagram.sourceIp = source := by
  constructor
  · rintro ⟨ipPacket', datagram', writers', hsent, hsource⟩
    obtain rfl : ipPacket = ipPacket' := by
      have h := hipv4.symm.trans hsent.ipv4
      simpa using h
    obtain rfl : datagram = datagram' := by
      have h := hudp.symm.trans hsent.udp
      simpa using h
    obtain rfl : writers = writers' := by
      have h := hids.symm.trans hsent.ids
      simpa using h
    exact ⟨hsent.header, hsent.participant, hsent.writer, hsource⟩
  · rintro ⟨hheader, hparticipant, hwriter, hsource⟩
    exact ⟨ipPacket, datagram, writers, ⟨hipv4, hudp, hheader, hparticipant, hids, hwriter⟩,
      hsource⟩

/-- A datagram is observed without a fault, for what it proves. -/
lemma observeDatagram_total {ipPacket : List UInt8} {datagram : UdpDatagram}
    (hipv4 : ipv4Payload packet.linkType packet.captured = some (some ipPacket))
    (hudp : udpDatagram ipPacket = some (some datagram))
    (hc : c'.writerSources = c.writerSources) :
    ∃ c'', c'.observeDatagram gid packet.packetNumber datagram = some c'' ∧
      Observed gid packet c c'' := by
  obtain ⟨writers, hids⟩ := rtpsDataWriterIds_total datagram.payload
  have hproves := proves_iff hipv4 hudp hids gid
  rw [Correlation.observeDatagram, hids]
  simp only [Option.bind_eq_bind, Option.bind_some, Option.pure_def]
  split_ifs with hheader hparticipant hwriter
  · -- no RTPS header
    refine ⟨_, rfl, .of_silent hc fun source h => ?_⟩
    obtain ⟨⟨hlength, hmagic⟩, -⟩ := (hproves source).mp h
    rcases hheader with hshort | hother
    · omega
    · exact hother hmagic
  · -- another participant
    refine ⟨_, rfl, .of_silent hc fun source h => ?_⟩
    exact hparticipant ((hproves source).mp h).2.1
  · -- the writer
    rw [not_or, Nat.not_lt, not_not] at hheader
    refine ⟨_, rfl, ⟨fun source => ?_, fun hnodup => ?_⟩⟩
    · rw [mem_keys_bump, hc, hproves source, or_comm]
      refine or_congr_right ⟨fun h => ⟨hheader, not_not.mp hparticipant, hwriter, h.symm⟩,
        fun h => h.2.2.2.symm⟩
    · rw [← hc] at hnodup
      exact nodup_keys_bump hnodup
  · -- other writers of the participant
    refine ⟨_, rfl, .of_silent hc fun source h => ?_⟩
    exact hwriter ((hproves source).mp h).2.2.1

/-- A packet is observed without a fault, for what it proves. -/
lemma observe_total (gid : WriterGid) (c : Correlation) (packet : PcapPacket) :
    ∃ c', c.observe gid packet = some c' ∧ Observed gid packet c c' := by
  obtain ⟨payload, hipv4⟩ := ipv4Payload_total packet.linkType packet.captured
  rw [Correlation.observe, hipv4]
  cases payload with
  | none =>
    refine ⟨_, rfl, .of_silent rfl fun source => ?_⟩
    rintro ⟨ipPacket, datagram, writers, hsent, -⟩
    cases hipv4.symm.trans hsent.ipv4
  | some ipPacket =>
    obtain ⟨datagram, hudp⟩ := udpDatagram_total ipPacket
    simp only [Option.bind_eq_bind, Option.bind_some, hudp]
    cases datagram with
    | none =>
      refine ⟨_, rfl, .of_silent rfl fun source => ?_⟩
      rintro ⟨ipPacket', datagram, writers, hsent, -⟩
      cases hipv4.symm.trans hsent.ipv4
      cases hudp.symm.trans hsent.udp
    | some datagram => exact observeDatagram_total hipv4 hudp rfl

/-- After a list of packets the sources are those that they prove. -/
lemma foldlM_observe_total (gid : WriterGid) (packets : List PcapPacket) (c : Correlation)
    (hnodup : c.writerSources.keys.Nodup) :
    ∃ c', packets.foldlM (Correlation.observe gid) c = some c' ∧ c'.writerSources.keys.Nodup ∧
      ∀ source, source ∈ c'.writerSources.keys ↔
        source ∈ c.writerSources.keys ∨ ∃ packet ∈ packets, Proves gid packet source := by
  induction packets generalizing c with
  | nil => exact ⟨c, rfl, hnodup, fun source => by simp⟩
  | cons packet packets ih =>
    obtain ⟨c₁, hc₁, hobserved⟩ := observe_total gid c packet
    obtain ⟨c', hc', hnodup', hsources⟩ := ih c₁ (hobserved.nodup hnodup)
    refine ⟨c', ?_, hnodup', fun source => ?_⟩
    · rw [List.foldlM_cons, hc₁]
      exact hc'
    · rw [hsources, hobserved.sources, or_assoc]
      refine or_congr_right ?_
      simp only [List.mem_cons, exists_eq_or_imp]

lemma length_eq_one_iff_existsUnique {l : List String} (h : l.Nodup) :
    l.length = 1 ↔ ∃! x, x ∈ l := by
  constructor
  · intro hone
    obtain ⟨x, rfl⟩ := List.length_eq_one_iff.mp hone
    exact ⟨x, List.mem_singleton_self x, fun y hy => List.mem_singleton.mp hy⟩
  · rintro ⟨x, hx, hunique⟩
    have hall : l = List.replicate l.length x := List.eq_replicate_of_mem hunique
    have hle : l.length ≤ 1 := by
      rw [hall] at h
      exact List.nodup_replicate.mp h
    have hpos : 0 < l.length := List.length_pos_of_mem hx
    omega

/-- One source is proven when there is one in the counter. -/
lemma conclusion_iff (h : c.writerSources.keys.Nodup) :
    c.conclusion = .singleSourceProven ↔ ∃! source, source ∈ c.writerSources.keys := by
  have hlength : c.writerSources.sorted.keys.length = c.writerSources.keys.length := by
    simp [Counter.sorted, Counter.keys]
  rw [← length_eq_one_iff_existsUnique h, ← hlength, Correlation.conclusion]
  split_ifs with hone <;> simp_all

end Conclusion

/-! ## What the locator guarantees -/

/-- The file, the payload of a captured message and the correlation are read as they should be. -/
structure Correlates (path : String) (data : List UInt8) (writerGid : String)
    (message : RtpsMessage) (captured : ℕ) : Prop where
  /-- The bytes of a file give packets, and at most a `ValueError`. -/
  packets : ∃ packets, iterPcapPackets data = some packets
  /-- The bytes of any payload give writers. -/
  writers : ∃ writers, rtpsDataWriterIds data = some writers
  /-- The first bytes of a message give the writers that lie within them. -/
  exact : rtpsDataWriterIds (message.encode.take captured) = some (message.writerIds captured)
  answer : ∃ result, correlate path data writerGid = some result
  /-- One source is concluded exactly when one source has sent a message of the writer. -/
  conclusion : ∀ gid packets report, parseWriterGid writerGid = .ok gid →
    iterPcapPackets data = some packets → correlate path data writerGid = some (.ok report) →
    (report.conclusion = .singleSourceProven ↔
      ∃! source, ∃ packet ∈ packets.packets, Proves gid packet source)

/-- The correlation answers on every file, and concludes from the packets in it. -/
lemma correlate_total (path : String) (data : List UInt8) (writerGid : String) :
    ∃ result, correlate path data writerGid = some result ∧
      ∀ gid packets report, parseWriterGid writerGid = .ok gid →
        iterPcapPackets data = some packets → result = .ok report →
        (report.conclusion = .singleSourceProven ↔
          ∃! source, ∃ packet ∈ packets.packets, Proves gid packet source) := by
  rw [correlate]
  cases hgid : parseWriterGid writerGid with
  | error error => exact ⟨_, rfl, fun gid packets report h => by cases h⟩
  | ok gid =>
    obtain ⟨packets, hpackets⟩ := iterPcapPackets_total data
    obtain ⟨c, hc, hnodup, hsources⟩ :=
      foldlM_observe_total gid packets.packets {} List.nodup_nil
    rw [hpackets]
    simp only [Option.bind_eq_bind, Option.bind_some, hc, Option.pure_def]
    cases herror : packets.error with
    | some error => exact ⟨_, rfl, fun gid packets report _ _ h => by cases h⟩
    | none =>
      refine ⟨_, rfl, ?_⟩
      rintro gid' packets' report ⟨⟩ ⟨⟩ ⟨⟩
      refine (conclusion_iff hnodup).trans (existsUnique_congr fun source => ?_)
      rw [hsources]
      simp [Counter.keys]

/-- **The locator is sound and complete, except for writers behind an empty filler**: it answers on
every file, its conclusion is that of the packets, and of a captured message it reads exactly the
writers, as long as none of them follows a `PAD` or an `INFO_TS` of length zero. -/
theorem correlates_iff_unbroken (path : String) (data : List UInt8) (writerGid : String)
    (message : RtpsMessage) (captured : ℕ) (hcaptured : 20 ≤ captured) :
    Correlates path data writerGid message captured ↔ message.Unbroken captured := by
  rw [← rtpsDataWriterIds_iff message hcaptured]
  refine ⟨fun h => h.exact, fun hexact => ?_⟩
  obtain ⟨result, hresult, hconclusion⟩ := correlate_total path data writerGid
  refine ⟨iterPcapPackets_total data, rtpsDataWriterIds_total data, hexact, ⟨result, hresult⟩, ?_⟩
  intro gid packets report hgid hpackets hreport
  rw [hresult] at hreport
  exact hconclusion gid packets report hgid hpackets (Option.some.inj hreport)

/-- A time stamp and a writer behind it, cut off right behind the writer. -/
theorem correlates_validTimestamp : Correlates "capture.pcap" [] "" validTimestampMessage 48 :=
  (correlates_iff_unbroken "capture.pcap" [] "" validTimestampMessage 48 (by decide)).mpr
    (by decide +kernel)

/-- The writer behind an invalid time stamp is lost. -/
theorem not_correlates_invalidTimestamp : ¬ Correlates "capture.pcap" [] ""
    invalidTimestampMessage invalidTimestampMessage.encode.length := by
  intro h
  have hlost : rtpsDataWriterIds (invalidTimestampMessage.encode.take
      invalidTimestampMessage.encode.length) = some [] := by decide +kernel
  have hthere : invalidTimestampMessage.writerIds invalidTimestampMessage.encode.length =
      [[0, 0, 10, 3]] := by decide +kernel
  have hexact := h.exact
  rw [hlost, hthere] at hexact
  cases hexact

end UnitreeGo2.WriterLocator
