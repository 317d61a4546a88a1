import UnitreeGo2.Chassis.Protocol
import UnitreeGo2.Sensors.CameraIpc

/-!
# Packets as they lie in memory

A packet is received into its packed structure: on a little-endian host every field holds the
number that its bytes store.
-/

namespace UnitreeGo2.Chassis

open LittleEndian Sensors

/-! ## Words -/

lemma le16_eq (x : UInt16) : le16 x = toBytes 2 x.toNat := by
  rw [toBytes_succ, toBytes_succ]
  have hlow : x.toUInt8 = UInt8.ofNat x.toNat := rfl
  have hhigh : (x >>> 8).toUInt8 = UInt8.ofNat (x.toNat / 256) := by
    apply UInt8.toNat_inj.mp
    rw [UInt16.toNat_toUInt8, UInt16.toNat_shiftRight, UInt8.toNat_ofNat',
      show UInt16.toNat 8 % 16 = 8 from rfl, Nat.shiftRight_eq_div_pow]
  rw [le16, hlow, hhigh]
  rfl

lemma le32_eq (x : UInt32) : le32 x = toBytes 4 x.toNat := by
  have hlow : x.toUInt16.toNat = x.toNat % 256 ^ 2 := UInt32.toNat_toUInt16 x
  have hhigh : (x >>> 16).toUInt16.toNat = x.toNat / 256 ^ 2 % 256 ^ 2 := by
    rw [UInt32.toNat_toUInt16, UInt32.toNat_shiftRight]
    rw [Nat.shiftRight_eq_div_pow]
    rfl
  rw [le32, le16_eq, le16_eq, hlow, hhigh, toBytes_mod, toBytes_mod, ← toBytes_add]

lemma le64_eq (x : UInt64) : le64 x = toBytes 8 x.toNat := by
  have hlow : x.toUInt32.toNat = x.toNat % 256 ^ 4 := UInt64.toNat_toUInt32 x
  have hhigh : (x >>> 32).toUInt32.toNat = x.toNat / 256 ^ 4 % 256 ^ 4 := by
    rw [UInt64.toNat_toUInt32, UInt64.toNat_shiftRight]
    rw [Nat.shiftRight_eq_div_pow]
    rfl
  rw [le64, le32_eq, le32_eq, hlow, hhigh, toBytes_mod, toBytes_mod, ← toBytes_add]

/-! ## Packets -/

/-- The byte at an offset of a buffer. -/
def getU8 (bytes : List UInt8) (offset : ℕ) : UInt8 := bytes.getD offset 0

/-- The command that lies in a buffer. -/
def CommandPacket.ofBytes (bytes : List UInt8) : CommandPacket where
  magic := getU32 bytes 0
  version := getU16 bytes 4
  size := getU16 bytes 6
  sequence := getU64 bytes 8
  sentMonotonicNs := getU64 bytes 16
  deadlineMonotonicNs := getU64 bytes 24
  operation := getU8 bytes 32
  reserved8 := getU8 bytes 33
  reserved16 := getU16 bytes 34
  vxBits := getU32 bytes 36
  vyBits := getU32 bytes 40
  wzBits := getU32 bytes 44
  checksum := getU32 bytes 48

/-- The reply that lies in a buffer. -/
def ReplyPacket.ofBytes (bytes : List UInt8) : ReplyPacket where
  magic := getU32 bytes 0
  version := getU16 bytes 4
  size := getU16 bytes 6
  sequence := getU64 bytes 8
  code := (getU32 bytes 16).toInt32
  armed := getU8 bytes 20
  faulted := getU8 bytes 21
  reserved16 := getU16 bytes 22
  checksum := getU32 bytes 24

section Words

variable {bytes : List UInt8} {offset : ℕ}

lemma getU16_of_le16 {value : UInt16} (h : field bytes offset 2 = le16 value) :
    getU16 bytes offset = value :=
  getU16_of_field (h.trans (le16_eq value))

lemma getU32_of_le32 {value : UInt32} (h : field bytes offset 4 = le32 value) :
    getU32 bytes offset = value :=
  getU32_of_field (h.trans (le32_eq value))

lemma getU64_of_le64 {value : UInt64} (h : field bytes offset 8 = le64 value) :
    getU64 bytes offset = value :=
  getU64_of_field (h.trans (le64_eq value))

lemma le16_getU16 (h : offset + 2 ≤ bytes.length) :
    le16 (getU16 bytes offset) = field bytes offset 2 :=
  (le16_eq _).trans (u16_getU16 h)

lemma le32_getU32 (h : offset + 4 ≤ bytes.length) :
    le32 (getU32 bytes offset) = field bytes offset 4 :=
  (le32_eq _).trans (u32_getU32 h)

lemma le64_getU64 (h : offset + 8 ≤ bytes.length) :
    le64 (getU64 bytes offset) = field bytes offset 8 :=
  (le64_eq _).trans (u64_getU64 h)

lemma getU8_eq_field (h : offset + 1 ≤ bytes.length) :
    [getU8 bytes offset] = field bytes offset 1 := by
  have hlt : offset < bytes.length := h
  rw [getU8, field, List.getD_eq_getElem?_getD, List.getElem?_eq_getElem hlt,
    List.drop_eq_getElem_cons hlt]
  rfl

end Words

/-- The fields of a command in memory, in their order. -/
def CommandPacket.parts (p : CommandPacket) : List (List UInt8) :=
  [le32 p.magic, le16 p.version, le16 p.size, le64 p.sequence, le64 p.sentMonotonicNs,
    le64 p.deadlineMonotonicNs, [p.operation], [p.reserved8], le16 p.reserved16, le32 p.vxBits,
    le32 p.vyBits, le32 p.wzBits, le32 p.checksum]

/-- The fields of a reply in memory, in their order. -/
def ReplyPacket.parts (p : ReplyPacket) : List (List UInt8) :=
  [le32 p.magic, le16 p.version, le16 p.size, le64 p.sequence, le32 p.code.toUInt32, [p.armed],
    [p.faulted], le16 p.reserved16, le32 p.checksum]

lemma CommandPacket.bytes_eq (p : CommandPacket) : p.bytes = p.parts.flatten := by
  simp [bytes, parts]

lemma ReplyPacket.bytes_eq (p : ReplyPacket) : p.bytes = p.parts.flatten := by
  simp [bytes, parts]

lemma getU8_of_field {bytes : List UInt8} {offset : ℕ} {value : UInt8}
    (h : field bytes offset 1 = [value]) : getU8 bytes offset = value := by
  have hfirst : (field bytes offset 1)[0]? = some value := by
    rw [h]
    rfl
  rw [getElem?_field, if_pos (by decide), Nat.add_zero] at hfirst
  rw [getU8, List.getD_eq_getElem?_getD, hfirst]
  rfl

/-- **A command is read back from its memory.** -/
theorem CommandPacket.ofBytes_bytes (p : CommandPacket) : ofBytes p.bytes = p := by
  rw [bytes_eq]
  have hmagic : getU32 p.parts.flatten 0 = p.magic :=
    getU32_of_le32 (field_flatten 0 rfl rfl rfl)
  have hversion : getU16 p.parts.flatten 4 = p.version :=
    getU16_of_le16 (field_flatten 1 rfl rfl rfl)
  have hsize : getU16 p.parts.flatten 6 = p.size :=
    getU16_of_le16 (field_flatten 2 rfl rfl rfl)
  have hsequence : getU64 p.parts.flatten 8 = p.sequence :=
    getU64_of_le64 (field_flatten 3 rfl rfl rfl)
  have hsent : getU64 p.parts.flatten 16 = p.sentMonotonicNs :=
    getU64_of_le64 (field_flatten 4 rfl rfl rfl)
  have hdeadline : getU64 p.parts.flatten 24 = p.deadlineMonotonicNs :=
    getU64_of_le64 (field_flatten 5 rfl rfl rfl)
  have hoperation : getU8 p.parts.flatten 32 = p.operation :=
    getU8_of_field (field_flatten 6 rfl rfl rfl)
  have hreserved8 : getU8 p.parts.flatten 33 = p.reserved8 :=
    getU8_of_field (field_flatten 7 rfl rfl rfl)
  have hreserved16 : getU16 p.parts.flatten 34 = p.reserved16 :=
    getU16_of_le16 (field_flatten 8 rfl rfl rfl)
  have hvx : getU32 p.parts.flatten 36 = p.vxBits :=
    getU32_of_le32 (field_flatten 9 rfl rfl rfl)
  have hvy : getU32 p.parts.flatten 40 = p.vyBits :=
    getU32_of_le32 (field_flatten 10 rfl rfl rfl)
  have hwz : getU32 p.parts.flatten 44 = p.wzBits :=
    getU32_of_le32 (field_flatten 11 rfl rfl rfl)
  have hchecksum : getU32 p.parts.flatten 48 = p.checksum :=
    getU32_of_le32 (field_flatten 12 rfl rfl rfl)
  rw [ofBytes, hmagic, hversion, hsize, hsequence, hsent, hdeadline, hoperation, hreserved8,
    hreserved16, hvx, hvy, hwz, hchecksum]

/-- **A reply is read back from its memory.** -/
theorem ReplyPacket.ofBytes_bytes (p : ReplyPacket) : ofBytes p.bytes = p := by
  rw [bytes_eq]
  have hmagic : getU32 p.parts.flatten 0 = p.magic :=
    getU32_of_le32 (field_flatten 0 rfl rfl rfl)
  have hversion : getU16 p.parts.flatten 4 = p.version :=
    getU16_of_le16 (field_flatten 1 rfl rfl rfl)
  have hsize : getU16 p.parts.flatten 6 = p.size :=
    getU16_of_le16 (field_flatten 2 rfl rfl rfl)
  have hsequence : getU64 p.parts.flatten 8 = p.sequence :=
    getU64_of_le64 (field_flatten 3 rfl rfl rfl)
  have hcode : getU32 p.parts.flatten 16 = p.code.toUInt32 :=
    getU32_of_le32 (field_flatten 4 rfl rfl rfl)
  have harmed : getU8 p.parts.flatten 20 = p.armed :=
    getU8_of_field (field_flatten 5 rfl rfl rfl)
  have hfaulted : getU8 p.parts.flatten 21 = p.faulted :=
    getU8_of_field (field_flatten 6 rfl rfl rfl)
  have hreserved16 : getU16 p.parts.flatten 22 = p.reserved16 :=
    getU16_of_le16 (field_flatten 7 rfl rfl rfl)
  have hchecksum : getU32 p.parts.flatten 24 = p.checksum :=
    getU32_of_le32 (field_flatten 8 rfl rfl rfl)
  rw [ofBytes, hmagic, hversion, hsize, hsequence, hcode, harmed, hfaulted, hreserved16,
    hchecksum]
  rfl

/-- The memory of a reply whose checksum is not looked at is that of the buffer before it. -/
lemma ReplyPacket.bytes_ofBytes_checksum {bytes : List UInt8}
    (h : bytes.length = sizeofReplyPacket.toNat) (checksum : UInt32) :
    ReplyPacket.bytes { ofBytes bytes with checksum := checksum } =
      field bytes 0 24 ++ le32 checksum := by
  have hlength : bytes.length = 28 := h
  have hcode : (ofBytes bytes).code.toUInt32 = getU32 bytes 16 := rfl
  have hbytes : [(ofBytes bytes).armed, (ofBytes bytes).faulted] = field bytes 20 2 := by
    rw [← field_append_field bytes 20 1 1, ← getU8_eq_field (by omega),
      ← getU8_eq_field (by omega)]
    rfl
  show le32 (getU32 bytes 0) ++ le16 (getU16 bytes 4) ++ le16 (getU16 bytes 6) ++
    le64 (getU64 bytes 8) ++ le32 (ofBytes bytes).code.toUInt32 ++
    [(ofBytes bytes).armed, (ofBytes bytes).faulted] ++ le16 (getU16 bytes 22) ++
    le32 checksum = _
  rw [hcode, hbytes, le32_getU32 (by omega), le16_getU16 (by omega), le16_getU16 (by omega),
    le64_getU64 (by omega), le32_getU32 (by omega), le16_getU16 (by omega),
    field_append_field bytes 0 4 2, field_append_field bytes 0 6 2, field_append_field bytes 0 8 8,
    field_append_field bytes 0 16 4, field_append_field bytes 0 20 2,
    field_append_field bytes 0 22 2]

end UnitreeGo2.Chassis
