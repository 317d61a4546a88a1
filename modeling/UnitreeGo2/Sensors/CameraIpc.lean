import UnitreeGo2.Lib.LittleEndian

/-!
# The frame header of the camera socket

The camera daemon sends every frame behind a header of 104 bytes.  The header is decoded
into an output parameter together with an error, and all counters are machine words, so
that the checks of the decoder are written here on words and compared with their meaning
on numbers.
-/

namespace UnitreeGo2.Sensors

open LittleEndian

/-- `"G2C2"` in little-endian bytes. -/
def kMagic : UInt32 := 0x32433247

def kVersion : UInt16 := 2

def kHeaderBytes : ℕ := 104

def kDefaultMaxJpegBytes : UInt32 := 4 * 1024 * 1024

def kAbsoluteMaxJpegBytes : UInt32 := 16 * 1024 * 1024

def kStatusOnly : UInt32 := 1

def kKnownFlags : UInt32 := kStatusOnly

structure FrameHeader where
  sequence : UInt64 := 0
  captureRealtimeNs : UInt64 := 0
  captureMonotonicNs : UInt64 := 0
  payloadBytes : UInt32 := 0
  flags : UInt32 := 0
  widthHint : UInt16 := 0
  heightHint : UInt16 := 0
  apiRequestCount : UInt64 := 0
  apiAcceptedCount : UInt64 := 0
  sourceRejectedCount : UInt64 := 0
  apiErrorCount : UInt64 := 0
  ipcConnectionCount : UInt64 := 0
  ipcDisconnectCount : UInt64 := 0
  lastApiCode : Int32 := 0
  deriving DecidableEq

inductive HeaderError where
  | ok
  | badMagic
  | badVersion
  | badHeaderSize
  | emptyPayload
  | unexpectedPayload
  | payloadTooLarge
  | missingRealtimeStamp
  | missingMonotonicStamp
  | reservedBitsSet
  | invalidStatusRecord
  | inconsistentCounters
  deriving DecidableEq, Repr

/-! ## Words in a buffer -/

/-- What `put_u16` stores. -/
def u16 (value : UInt16) : List UInt8 := toBytes 2 value.toNat

/-- What `put_u32` stores. -/
def u32 (value : UInt32) : List UInt8 := toBytes 4 value.toNat

/-- What `put_u64` stores. -/
def u64 (value : UInt64) : List UInt8 := toBytes 8 value.toNat

def getU16 (bytes : List UInt8) (offset : ℕ) : UInt16 := .ofNat (ofBytes (field bytes offset 2))

def getU32 (bytes : List UInt8) (offset : ℕ) : UInt32 := .ofNat (ofBytes (field bytes offset 4))

def getU64 (bytes : List UInt8) (offset : ℕ) : UInt64 := .ofNat (ofBytes (field bytes offset 8))

section Words

variable {bytes : List UInt8} {offset : ℕ}

@[simp] lemma length_u16 (value : UInt16) : (u16 value).length = 2 := length_toBytes _ _

@[simp] lemma length_u32 (value : UInt32) : (u32 value).length = 4 := length_toBytes _ _

@[simp] lemma length_u64 (value : UInt64) : (u64 value).length = 8 := length_toBytes _ _

lemma getU16_of_field {value : UInt16} (h : field bytes offset 2 = u16 value) :
    getU16 bytes offset = value := by
  rw [getU16, h, u16, ofBytes_toBytes value.toNat_lt]
  exact UInt16.ofNat_toNat

lemma getU32_of_field {value : UInt32} (h : field bytes offset 4 = u32 value) :
    getU32 bytes offset = value := by
  rw [getU32, h, u32, ofBytes_toBytes value.toNat_lt]
  exact UInt32.ofNat_toNat

lemma getU64_of_field {value : UInt64} (h : field bytes offset 8 = u64 value) :
    getU64 bytes offset = value := by
  rw [getU64, h, u64, ofBytes_toBytes value.toNat_lt]
  exact UInt64.ofNat_toNat

lemma u16_getU16 (h : offset + 2 ≤ bytes.length) :
    u16 (getU16 bytes offset) = field bytes offset 2 := by
  have hlength := length_field h
  have hlt := ofBytes_lt (field bytes offset 2)
  rw [hlength] at hlt
  have hbytes := toBytes_ofBytes (field bytes offset 2)
  rw [hlength] at hbytes
  rw [u16, getU16, UInt16.toNat_ofNat_of_lt' hlt, hbytes]

lemma u32_getU32 (h : offset + 4 ≤ bytes.length) :
    u32 (getU32 bytes offset) = field bytes offset 4 := by
  have hlength := length_field h
  have hlt := ofBytes_lt (field bytes offset 4)
  rw [hlength] at hlt
  have hbytes := toBytes_ofBytes (field bytes offset 4)
  rw [hlength] at hbytes
  rw [u32, getU32, UInt32.toNat_ofNat_of_lt' hlt, hbytes]

lemma u64_getU64 (h : offset + 8 ≤ bytes.length) :
    u64 (getU64 bytes offset) = field bytes offset 8 := by
  have hlength := length_field h
  have hlt := ofBytes_lt (field bytes offset 8)
  rw [hlength] at hlt
  have hbytes := toBytes_ofBytes (field bytes offset 8)
  rw [hlength] at hbytes
  rw [u64, getU64, UInt64.toNat_ofNat_of_lt' hlt, hbytes]

end Words

/-! ## The header -/

/-- `std::array<std::uint8_t, kHeaderBytes>`. -/
def HeaderBytes : Type := { bytes : List UInt8 // bytes.length = kHeaderBytes }

namespace FrameHeader

/-- What `encode_header` stores, and where. -/
def stores (header : FrameHeader) : List (ℕ × List UInt8) :=
  [(0, u32 kMagic),
    (4, u16 kVersion),
    (6, u16 (.ofNat kHeaderBytes)),
    (8, u64 header.sequence),
    (16, u64 header.captureRealtimeNs),
    (24, u64 header.captureMonotonicNs),
    (32, u32 header.payloadBytes),
    (36, u32 header.flags),
    (40, u16 header.widthHint),
    (42, u16 header.heightHint),
    (44, u32 0),
    (48, u64 header.apiRequestCount),
    (56, u64 header.apiAcceptedCount),
    (64, u64 header.sourceRejectedCount),
    (72, u64 header.apiErrorCount),
    (80, u64 header.ipcConnectionCount),
    (88, u64 header.ipcDisconnectCount),
    (96, u32 header.lastApiCode.toUInt32),
    (100, u32 0)]

lemma consecutive_stores (header : FrameHeader) :
    Consecutive 0 header.stores kHeaderBytes := by
  simp [stores, Consecutive, kHeaderBytes]

/-- The counters are inconsistent, as the decoder checks it on words. -/
def inconsistentCounters (header : FrameHeader) : Bool :=
  header.apiAcceptedCount > header.apiRequestCount ||
    header.sourceRejectedCount > header.apiRequestCount ||
    header.apiErrorCount > header.apiRequestCount ||
    header.apiAcceptedCount > header.apiRequestCount - header.sourceRejectedCount ||
    header.apiErrorCount !=
      header.apiRequestCount - header.sourceRejectedCount - header.apiAcceptedCount

end FrameHeader

def encodeHeader (header : FrameHeader) : HeaderBytes :=
  ⟨putAll (List.replicate kHeaderBytes 0) header.stores, by
    have hlength : (List.replicate kHeaderBytes (0 : UInt8)).length = kHeaderBytes := by simp
    rw [length_putAll header.consecutive_stores hlength.ge, hlength]⟩

/-- The fields that `decode_header` reads into its output. -/
def readHeader (bytes : List UInt8) : FrameHeader where
  sequence := getU64 bytes 8
  captureRealtimeNs := getU64 bytes 16
  captureMonotonicNs := getU64 bytes 24
  payloadBytes := getU32 bytes 32
  flags := getU32 bytes 36
  widthHint := getU16 bytes 40
  heightHint := getU16 bytes 42
  apiRequestCount := getU64 bytes 48
  apiAcceptedCount := getU64 bytes 56
  sourceRejectedCount := getU64 bytes 64
  apiErrorCount := getU64 bytes 72
  ipcConnectionCount := getU64 bytes 80
  ipcDisconnectCount := getU64 bytes 88
  lastApiCode := (getU32 bytes 96).toInt32

/-- The checks of `decode_header` on the fields that it has read; the reserved words are
those at the offsets 44 and 100. -/
def checkHeader (configuredMaxPayload reserved44 reserved100 : UInt32) (output : FrameHeader) :
    HeaderError :=
  let statusOnly := output.flags &&& kStatusOnly != 0
  let effectiveMax :=
    if configuredMaxPayload = 0 then kDefaultMaxJpegBytes else configuredMaxPayload
  if output.flags &&& ~~~kKnownFlags ≠ 0 ∨ reserved44 ≠ 0 ∨ reserved100 ≠ 0 then
    .reservedBitsSet
  else if statusOnly ∧ output.payloadBytes ≠ 0 then .unexpectedPayload
  else if !statusOnly ∧ output.payloadBytes = 0 then .emptyPayload
  else if effectiveMax > kAbsoluteMaxJpegBytes ∨ output.payloadBytes > effectiveMax then
    .payloadTooLarge
  else if output.captureRealtimeNs = 0 then .missingRealtimeStamp
  else if output.captureMonotonicNs = 0 then .missingMonotonicStamp
  else if statusOnly ∧ (output.widthHint ≠ 0 ∨ output.heightHint ≠ 0) then .invalidStatusRecord
  else if output.inconsistentCounters then .inconsistentCounters
  else .ok

/-- `decode_header`, with the error that it returns and what it leaves in `output`. -/
def decodeHeader (bytes : HeaderBytes) (configuredMaxPayload : UInt32) (output : FrameHeader) :
    HeaderError × FrameHeader :=
  if getU32 bytes.1 0 ≠ kMagic then (.badMagic, output)
  else if getU16 bytes.1 4 ≠ kVersion then (.badVersion, output)
  else if (getU16 bytes.1 6).toNat ≠ kHeaderBytes then (.badHeaderSize, output)
  else
    let output := readHeader bytes.1
    (checkHeader configuredMaxPayload (getU32 bytes.1 44) (getU32 bytes.1 100) output, output)

/-! ## Validity -/

/-- The headers that a receiver with a payload limit accepts, on numbers. -/
structure ValidHeader (configuredMaxPayload : UInt32) (header : FrameHeader) : Prop where
  /-- The only flag is the one of a status record. -/
  flags : header.flags = 0 ∨ header.flags = kStatusOnly
  /-- A status record has neither a payload nor hints. -/
  status : header.flags = kStatusOnly →
    header.payloadBytes = 0 ∧ header.widthHint = 0 ∧ header.heightHint = 0
  frame : header.flags = 0 → 0 < header.payloadBytes.toNat
  limit : header.payloadBytes.toNat ≤
    if configuredMaxPayload = 0 then kDefaultMaxJpegBytes.toNat else configuredMaxPayload.toNat
  absolute : configuredMaxPayload.toNat ≤ kAbsoluteMaxJpegBytes.toNat
  realtime : 0 < header.captureRealtimeNs.toNat
  monotonic : 0 < header.captureMonotonicNs.toNat
  /-- Every request was accepted, rejected at its source, or answered with an error. -/
  counters : header.apiAcceptedCount.toNat + header.sourceRejectedCount.toNat +
    header.apiErrorCount.toNat = header.apiRequestCount.toNat

lemma split_kStatusOnly (flags : UInt32) :
    (flags &&& ~~~kStatusOnly) ||| (flags &&& kStatusOnly) = flags := by
  apply UInt32.toBitVec_inj.mp
  rw [UInt32.toBitVec_or, UInt32.toBitVec_and, UInt32.toBitVec_and, UInt32.toBitVec_not,
    ← BitVec.and_or_distrib_left, BitVec.or_comm, BitVec.or_not_self, BitVec.and_allOnes]

/-- Only the bit of a status record may be set. -/
lemma and_not_kKnownFlags_eq_zero {flags : UInt32} :
    flags &&& ~~~kKnownFlags = 0 ↔ flags = 0 ∨ flags = kStatusOnly := by
  constructor
  · intro h
    have hbit : flags &&& kStatusOnly = flags := by
      have hsplit := split_kStatusOnly flags
      rwa [show flags &&& ~~~kStatusOnly = 0 from h, UInt32.zero_or] at hsplit
    have hmod : flags.toNat % 2 = flags.toNat := by
      have htoNat := congrArg UInt32.toNat hbit
      rwa [UInt32.toNat_and, show kStatusOnly.toNat = 1 from rfl, Nat.and_one_is_mod] at htoNat
    have hle : flags.toNat = 0 ∨ flags.toNat = 1 := by omega
    exact hle.imp (fun h => UInt32.toNat_inj.mp h) fun h => UInt32.toNat_inj.mp h
  · rintro (rfl | rfl) <;> decide

/-- On words the decoder finds exactly the counters inconsistent that do not add up. -/
lemma inconsistentCounters_eq_false {header : FrameHeader} :
    header.inconsistentCounters = false ↔
      header.apiAcceptedCount.toNat + header.sourceRejectedCount.toNat +
        header.apiErrorCount.toNat = header.apiRequestCount.toNat := by
  simp only [FrameHeader.inconsistentCounters, gt_iff_lt, Bool.or_eq_false_iff,
    decide_eq_false_iff_not, UInt64.not_lt, UInt64.le_iff_toNat_le, bne_eq_false_iff_eq,
    ← UInt64.toNat_inj]
  constructor
  · rintro ⟨⟨⟨⟨haccepted, hrejected⟩, herror⟩, hroom⟩, hsum⟩
    have hsub := UInt64.toNat_sub_of_le _ _ (UInt64.le_iff_toNat_le.mpr hrejected)
    have hsub' := UInt64.toNat_sub_of_le _ _ (UInt64.le_iff_toNat_le.mpr hroom)
    omega
  · intro hsum
    have hrejected : header.sourceRejectedCount ≤ header.apiRequestCount := by
      rw [UInt64.le_iff_toNat_le]
      omega
    have hsub := UInt64.toNat_sub_of_le _ _ hrejected
    have hroom : header.apiAcceptedCount ≤
        header.apiRequestCount - header.sourceRejectedCount := by
      rw [UInt64.le_iff_toNat_le]
      omega
    have hsub' := UInt64.toNat_sub_of_le _ _ hroom
    omega

lemma ite_eq_ok_iff {c : Prop} [Decidable c] {error rest : HeaderError} (herror : error ≠ .ok) :
    (if c then error else rest) = .ok ↔ ¬ c ∧ rest = .ok := by
  split
  · rename_i hc
    exact ⟨fun h => absurd h herror, fun h => absurd hc h.1⟩
  · rename_i hc
    exact ⟨fun h => ⟨hc, h⟩, fun h => h.2⟩

/-- The payload is within the limit that the receiver configured, or the default. -/
lemma effectiveMax_iff {configuredMaxPayload payload : UInt32} :
    ¬ ((if configuredMaxPayload = 0 then kDefaultMaxJpegBytes else configuredMaxPayload) >
        kAbsoluteMaxJpegBytes ∨
      payload > if configuredMaxPayload = 0 then kDefaultMaxJpegBytes
        else configuredMaxPayload) ↔
      (payload.toNat ≤ if configuredMaxPayload = 0 then kDefaultMaxJpegBytes.toNat
        else configuredMaxPayload.toNat) ∧
      configuredMaxPayload.toNat ≤ kAbsoluteMaxJpegBytes.toNat := by
  rw [not_or, gt_iff_lt, gt_iff_lt, UInt32.not_lt, UInt32.not_lt, UInt32.le_iff_toNat_le,
    UInt32.le_iff_toNat_le, and_comm]
  split
  · rename_i hzero
    rw [hzero]
    exact and_congr_right fun _ => ⟨fun _ => by decide, fun _ => by decide⟩
  · rfl

/-- The checks of the decoder are the validity conditions. -/
lemma checkHeader_eq_ok_iff {configuredMaxPayload reserved44 reserved100 : UInt32}
    {header : FrameHeader} :
    checkHeader configuredMaxPayload reserved44 reserved100 header = .ok ↔
      ValidHeader configuredMaxPayload header ∧ reserved44 = 0 ∧ reserved100 = 0 := by
  unfold checkHeader
  simp only
  rw [ite_eq_ok_iff (by decide), ite_eq_ok_iff (by decide), ite_eq_ok_iff (by decide),
    ite_eq_ok_iff (by decide), ite_eq_ok_iff (by decide), ite_eq_ok_iff (by decide),
    ite_eq_ok_iff (by decide), ite_eq_ok_iff (by decide), not_or, not_or, not_not, not_not,
    not_not, and_not_kKnownFlags_eq_zero, effectiveMax_iff, Bool.not_eq_true,
    inconsistentCounters_eq_false]
  constructor
  · rintro ⟨⟨hflags, h44, h100⟩, hunexpected, hempty, ⟨hlimit, habsolute⟩, hrealtime, hmonotonic,
      hstatus, hcounters, -⟩
    refine ⟨⟨hflags, fun hstatusOnly => ?_, fun hframe => ?_, hlimit, habsolute, ?_, ?_,
      hcounters⟩, h44, h100⟩
    · rw [hstatusOnly] at hunexpected hstatus
      simpa [kStatusOnly] using And.intro hunexpected hstatus
    · rw [hframe] at hempty
      simp only [UInt32.zero_and] at hempty
      rw [Nat.pos_iff_ne_zero]
      intro hzero
      exact hempty ⟨by decide, UInt32.toNat_inj.mp hzero⟩
    · rw [Nat.pos_iff_ne_zero]
      exact fun hzero => hrealtime (UInt64.toNat_inj.mp hzero)
    · rw [Nat.pos_iff_ne_zero]
      exact fun hzero => hmonotonic (UInt64.toNat_inj.mp hzero)
  · rintro ⟨h, h44, h100⟩
    refine ⟨⟨h.flags, h44, h100⟩, ?_, ?_, ⟨h.limit, h.absolute⟩, ?_, ?_, ?_, h.counters, rfl⟩
    · rintro ⟨hstatusOnly, hpayload⟩
      rcases h.flags with hflags | hflags
      · rw [hflags] at hstatusOnly
        exact absurd hstatusOnly (by decide)
      · exact hpayload (h.status hflags).1
    · rintro ⟨hstatusOnly, hpayload⟩
      rcases h.flags with hflags | hflags
      · have hpos := h.frame hflags
        rw [hpayload] at hpos
        exact absurd hpos (by decide)
      · rw [hflags] at hstatusOnly
        exact absurd hstatusOnly (by decide)
    · intro hzero
      have hpos := h.realtime
      rw [hzero] at hpos
      exact absurd hpos (by decide)
    · intro hzero
      have hpos := h.monotonic
      rw [hzero] at hpos
      exact absurd hpos (by decide)
    · rintro ⟨hstatusOnly, hhints⟩
      rcases h.flags with hflags | hflags
      · rw [hflags] at hstatusOnly
        exact absurd hstatusOnly (by decide)
      · obtain ⟨-, hwidth, hheight⟩ := h.status hflags
        exact hhints.elim (fun h => h hwidth) fun h => h hheight

/-! ## The round trip -/

section RoundTrip

variable {header : FrameHeader}

/-- Every field that the encoder stores is read back. -/
lemma field_encodeHeader {offset : ℕ} {bytes : List UInt8} (h : (offset, bytes) ∈ header.stores) :
    field (encodeHeader header).1 offset bytes.length = bytes :=
  field_putAll (List.replicate kHeaderBytes 0) header.consecutive_stores (by simp) h

lemma getU16_encodeHeader {offset : ℕ} {value : UInt16}
    (h : (offset, u16 value) ∈ header.stores) : getU16 (encodeHeader header).1 offset = value := by
  have hfield := field_encodeHeader h
  rw [length_u16] at hfield
  exact getU16_of_field hfield

lemma getU32_encodeHeader {offset : ℕ} {value : UInt32}
    (h : (offset, u32 value) ∈ header.stores) : getU32 (encodeHeader header).1 offset = value := by
  have hfield := field_encodeHeader h
  rw [length_u32] at hfield
  exact getU32_of_field hfield

lemma getU64_encodeHeader {offset : ℕ} {value : UInt64}
    (h : (offset, u64 value) ∈ header.stores) : getU64 (encodeHeader header).1 offset = value := by
  have hfield := field_encodeHeader h
  rw [length_u64] at hfield
  exact getU64_of_field hfield

lemma readHeader_encodeHeader : readHeader (encodeHeader header).1 = header := by
  have hcode : getU32 (encodeHeader header).1 96 = header.lastApiCode.toUInt32 :=
    getU32_encodeHeader (by simp [FrameHeader.stores])
  have hhints : getU16 (encodeHeader header).1 40 = header.widthHint ∧
      getU16 (encodeHeader header).1 42 = header.heightHint :=
    ⟨getU16_encodeHeader (by simp [FrameHeader.stores]),
      getU16_encodeHeader (by simp [FrameHeader.stores])⟩
  have hpayload : getU32 (encodeHeader header).1 32 = header.payloadBytes ∧
      getU32 (encodeHeader header).1 36 = header.flags :=
    ⟨getU32_encodeHeader (by simp [FrameHeader.stores]),
      getU32_encodeHeader (by simp [FrameHeader.stores])⟩
  have hstamps : getU64 (encodeHeader header).1 8 = header.sequence ∧
      getU64 (encodeHeader header).1 16 = header.captureRealtimeNs ∧
      getU64 (encodeHeader header).1 24 = header.captureMonotonicNs :=
    ⟨getU64_encodeHeader (by simp [FrameHeader.stores]),
      getU64_encodeHeader (by simp [FrameHeader.stores]),
      getU64_encodeHeader (by simp [FrameHeader.stores])⟩
  have hcounters : getU64 (encodeHeader header).1 48 = header.apiRequestCount ∧
      getU64 (encodeHeader header).1 56 = header.apiAcceptedCount ∧
      getU64 (encodeHeader header).1 64 = header.sourceRejectedCount ∧
      getU64 (encodeHeader header).1 72 = header.apiErrorCount ∧
      getU64 (encodeHeader header).1 80 = header.ipcConnectionCount ∧
      getU64 (encodeHeader header).1 88 = header.ipcDisconnectCount :=
    ⟨getU64_encodeHeader (by simp [FrameHeader.stores]),
      getU64_encodeHeader (by simp [FrameHeader.stores]),
      getU64_encodeHeader (by simp [FrameHeader.stores]),
      getU64_encodeHeader (by simp [FrameHeader.stores]),
      getU64_encodeHeader (by simp [FrameHeader.stores]),
      getU64_encodeHeader (by simp [FrameHeader.stores])⟩
  simp only [readHeader, hstamps, hpayload, hhints, hcounters, hcode]
  rfl

/-- **A valid header is decoded from its encoding.** -/
theorem decodeHeader_encodeHeader {configuredMaxPayload : UInt32}
    (h : ValidHeader configuredMaxPayload header) (output : FrameHeader) :
    decodeHeader (encodeHeader header) configuredMaxPayload output = (.ok, header) := by
  have hmagic : getU32 (encodeHeader header).1 0 = kMagic :=
    getU32_encodeHeader (by simp [FrameHeader.stores])
  have hversion : getU16 (encodeHeader header).1 4 = kVersion :=
    getU16_encodeHeader (by simp [FrameHeader.stores])
  have hsize : getU16 (encodeHeader header).1 6 = .ofNat kHeaderBytes :=
    getU16_encodeHeader (by simp [FrameHeader.stores])
  have h44 : getU32 (encodeHeader header).1 44 = 0 :=
    getU32_encodeHeader (by simp [FrameHeader.stores])
  have h100 : getU32 (encodeHeader header).1 100 = 0 :=
    getU32_encodeHeader (by simp [FrameHeader.stores])
  unfold decodeHeader
  rw [if_neg (not_not.mpr hmagic), if_neg (not_not.mpr hversion), hsize, if_neg (by decide),
    readHeader_encodeHeader, h44, h100]
  simp only [checkHeader_eq_ok_iff.mpr ⟨h, rfl, rfl⟩]

/-- What is read from a buffer with the fixed words of a header would be stored as it is. -/
lemma stores_readHeader {bytes : List UInt8} (hlength : bytes.length = kHeaderBytes)
    (hmagic : getU32 bytes 0 = kMagic) (hversion : getU16 bytes 4 = kVersion)
    (hsize : getU16 bytes 6 = .ofNat kHeaderBytes) (h44 : getU32 bytes 44 = 0)
    (h100 : getU32 bytes 100 = 0) :
    ∀ entry ∈ (readHeader bytes).stores, entry.2 = field bytes entry.1 entry.2.length := by
  have h16 : ∀ {value offset}, getU16 bytes offset = value → offset + 2 ≤ kHeaderBytes →
      u16 value = field bytes offset (u16 value).length := by
    rintro _ offset rfl h
    rw [length_u16]
    exact u16_getU16 (hlength ▸ h)
  have h32 : ∀ {value offset}, getU32 bytes offset = value → offset + 4 ≤ kHeaderBytes →
      u32 value = field bytes offset (u32 value).length := by
    rintro _ offset rfl h
    rw [length_u32]
    exact u32_getU32 (hlength ▸ h)
  have h64 : ∀ offset, offset + 8 ≤ kHeaderBytes →
      u64 (getU64 bytes offset) = field bytes offset (u64 (getU64 bytes offset)).length := by
    intro offset h
    rw [length_u64]
    exact u64_getU64 (hlength ▸ h)
  have hcode : (readHeader bytes).lastApiCode.toUInt32 = getU32 bytes 96 := rfl
  simp only [FrameHeader.stores, hcode, List.forall_mem_cons]
  exact ⟨h32 hmagic (by decide), h16 hversion (by decide), h16 hsize (by decide),
    h64 8 (by decide), h64 16 (by decide), h64 24 (by decide), h32 rfl (by decide),
    h32 rfl (by decide), h16 rfl (by decide), h16 rfl (by decide), h32 h44 (by decide),
    h64 48 (by decide), h64 56 (by decide), h64 64 (by decide), h64 72 (by decide),
    h64 80 (by decide), h64 88 (by decide), h32 rfl (by decide), h32 h100 (by decide),
    fun _ h => absurd h List.not_mem_nil⟩

/-- **What is decoded is valid, and is encoded as the bytes it came from.** -/
theorem valid_of_decodeHeader {configuredMaxPayload : UInt32} {bytes : HeaderBytes}
    {output : FrameHeader} (h : decodeHeader bytes configuredMaxPayload output = (.ok, header)) :
    ValidHeader configuredMaxPayload header ∧ encodeHeader header = bytes := by
  unfold decodeHeader at h
  split at h
  · cases congrArg Prod.fst h
  rename_i hmagic
  split at h
  · cases congrArg Prod.fst h
  rename_i hversion
  split at h
  · cases congrArg Prod.fst h
  rename_i hsize
  rw [not_not] at hmagic hversion hsize
  obtain ⟨hcheck, rfl⟩ := Prod.mk.inj h
  obtain ⟨hvalid, h44, h100⟩ := checkHeader_eq_ok_iff.mp hcheck
  refine ⟨hvalid, Subtype.ext ?_⟩
  have hsize' : getU16 bytes.1 6 = .ofNat kHeaderBytes := by
    apply UInt16.toNat_inj.mp
    rw [hsize]
    rfl
  have hzeros : (List.replicate kHeaderBytes (0 : UInt8)).length = bytes.1.length := by
    rw [List.length_replicate, bytes.2]
  have htake := take_putAll (readHeader bytes.1).consecutive_stores hzeros bytes.2.ge
    (stores_readHeader bytes.2 hmagic hversion hsize' h44 h100) (by simp)
  calc (encodeHeader (readHeader bytes.1)).1
      = (encodeHeader (readHeader bytes.1)).1.take kHeaderBytes :=
        (List.take_of_length_le (encodeHeader (readHeader bytes.1)).2.le).symm
    _ = bytes.1.take kHeaderBytes := htake
    _ = bytes.1 := List.take_of_length_le bytes.2.le

end RoundTrip

/-! ## The arithmetic of the checks -/

/-- A subtraction of words that does not wrap around. -/
def checkedSub (a b : UInt64) : Option UInt64 := if b ≤ a then some (a - b) else none

namespace FrameHeader

/-- `inconsistentCounters` with its short circuits written out, undefined as soon as it
evaluates a subtraction that wraps around. -/
def inconsistentCountersChecked (header : FrameHeader) : Option Bool :=
  if header.apiAcceptedCount > header.apiRequestCount then some true
  else if header.sourceRejectedCount > header.apiRequestCount then some true
  else if header.apiErrorCount > header.apiRequestCount then some true
  else do
    let room ← checkedSub header.apiRequestCount header.sourceRejectedCount
    if header.apiAcceptedCount > room then some true
    else
      let room ← checkedSub header.apiRequestCount header.sourceRejectedCount
      let errors ← checkedSub room header.apiAcceptedCount
      some (header.apiErrorCount != errors)

/-- No subtraction that the decoder evaluates wraps around. -/
lemma inconsistentCountersChecked_eq (header : FrameHeader) :
    header.inconsistentCountersChecked = some header.inconsistentCounters := by
  unfold inconsistentCountersChecked inconsistentCounters
  split
  · rename_i haccepted
    simp [haccepted]
  rename_i haccepted
  split
  · rename_i hrejected
    simp [hrejected]
  rename_i hrejected
  split
  · rename_i herror
    simp [herror]
  rename_i herror
  have hroom : checkedSub header.apiRequestCount header.sourceRejectedCount =
      some (header.apiRequestCount - header.sourceRejectedCount) :=
    if_pos (UInt64.not_lt.mp hrejected)
  simp only [hroom, Option.bind_eq_bind, Option.bind_some]
  split
  · rename_i h
    simp [h]
  · rename_i h
    have herrors : checkedSub (header.apiRequestCount - header.sourceRejectedCount)
        header.apiAcceptedCount = some
          (header.apiRequestCount - header.sourceRejectedCount - header.apiAcceptedCount) :=
      if_pos (UInt64.not_lt.mp h)
    simp only [herrors, Option.bind_some, haccepted, hrejected, herror, h, decide_false,
      Bool.or_false, Bool.false_or]

end FrameHeader

/-- The codec of the frame header under a payload limit. -/
structure HeaderCodec (configuredMaxPayload : UInt32) : Prop where
  /-- A valid header survives the round trip. -/
  decode_encode : ∀ header, ValidHeader configuredMaxPayload header → ∀ output,
    decodeHeader (encodeHeader header) configuredMaxPayload output = (.ok, header)
  /-- Of all buffers, whatever their length, exactly the encodings of valid headers are
  decoded, and each to the header that it encodes. -/
  decode_iff : ∀ (buffer : List UInt8) (header output : FrameHeader),
    (∃ hlength : buffer.length = kHeaderBytes,
      decodeHeader ⟨buffer, hlength⟩ configuredMaxPayload output = (.ok, header)) ↔
      ValidHeader configuredMaxPayload header ∧ (encodeHeader header).1 = buffer
  /-- Every other buffer is rejected. -/
  reject : ∀ bytes : HeaderBytes,
    (∀ header, ValidHeader configuredMaxPayload header → encodeHeader header ≠ bytes) →
      ∀ output, (decodeHeader bytes configuredMaxPayload output).1 ≠ .ok
  /-- The counters that are compared are those of the buffer, without wrap-around. -/
  counters : ∀ bytes : HeaderBytes, (readHeader bytes.1).inconsistentCountersChecked =
    some (readHeader bytes.1).inconsistentCounters

/-- **The header codec of the camera socket.** -/
theorem headerCodec (configuredMaxPayload : UInt32) : HeaderCodec configuredMaxPayload where
  decode_encode _ h output := decodeHeader_encodeHeader h output
  decode_iff buffer header output := by
    constructor
    · rintro ⟨hlength, h⟩
      obtain ⟨hvalid, hbytes⟩ := valid_of_decodeHeader h
      exact ⟨hvalid, congrArg Subtype.val hbytes⟩
    · rintro ⟨hvalid, rfl⟩
      exact ⟨(encodeHeader header).2, decodeHeader_encodeHeader hvalid output⟩
  reject bytes h output hok := by
    obtain ⟨hvalid, hbytes⟩ := valid_of_decodeHeader
      (Prod.ext hok rfl : decodeHeader bytes configuredMaxPayload output = (.ok, _))
    exact h _ hvalid hbytes
  counters bytes := (readHeader bytes.1).inconsistentCountersChecked_eq

end UnitreeGo2.Sensors
