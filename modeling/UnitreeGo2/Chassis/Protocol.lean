import Mathlib.Tactic.Lemma
import Mathlib.Tactic.Push
import Mathlib.Tactic.SplitIfs
import Mathlib.Order.Basic
import Mathlib.Data.UInt
import UnitreeGo2.Lib.Float32Order

/-!
# The command protocol of the chassis daemon

The adapter and the SDK daemon exchange packed little-endian packets whose last field is a
checksum of all the others.  A packet is kept here field by field; its float fields are
kept as their 32 bits, since the checksum sees the payload of a NaN.
-/

namespace UnitreeGo2.Chassis

/-- `"G2CH"`. -/
def kProtocolMagic : UInt32 := 0x47324348

def kProtocolVersion : UInt16 := 1

def kMaximumPacketLifetimeNs : UInt64 := 1000000000

def kMaximumClockLeadNs : UInt64 := 100000000

/-- `sizeof(CommandPacket)`. -/
def sizeofCommandPacket : UInt16 := 52

/-- `sizeof(ReplyPacket)`. -/
def sizeofReplyPacket : UInt16 := 28

/-! ## Operations, actions and reply codes -/

inductive CommandOp where
  | arm
  | disarm
  | move
  | stop
  | ping
  | restoreClassicWalk
  | sportAction
  deriving DecidableEq, Repr

namespace CommandOp

def toUInt8 : CommandOp → UInt8
  | arm => 1
  | disarm => 2
  | move => 3
  | stop => 4
  | ping => 5
  | restoreClassicWalk => 6
  | sportAction => 7

/-- The operation that a byte names, if any. -/
def ofUInt8? (value : UInt8) : Option CommandOp :=
  if value = 1 then some arm
  else if value = 2 then some disarm
  else if value = 3 then some move
  else if value = 4 then some stop
  else if value = 5 then some ping
  else if value = 6 then some restoreClassicWalk
  else if value = 7 then some sportAction
  else none

@[simp] lemma ofUInt8?_toUInt8 (op : CommandOp) : ofUInt8? op.toUInt8 = some op := by
  cases op <;> rfl

end CommandOp

/-- The named sport actions; the identifiers 7 to 13 and 16 are unassigned. -/
inductive SportAction where
  | hello
  | stretch
  | dance1
  | dance2
  | handstandEnter
  | handstandExit
  | standDown
  | standUp
  | newYearScrape
  /-- A value that no enumerator names. -/
  | unassigned (value : UInt8)
  deriving DecidableEq, Repr

namespace SportAction

def toUInt8 : SportAction → UInt8
  | hello => 1
  | stretch => 2
  | dance1 => 3
  | dance2 => 4
  | handstandEnter => 5
  | handstandExit => 6
  | standDown => 14
  | standUp => 15
  | newYearScrape => 17
  | unassigned value => value

/-- The cast from the action byte of a packet. -/
def ofUInt8 (value : UInt8) : SportAction :=
  if value = 1 then hello
  else if value = 2 then stretch
  else if value = 3 then dance1
  else if value = 4 then dance2
  else if value = 5 then handstandEnter
  else if value = 6 then handstandExit
  else if value = 14 then standDown
  else if value = 15 then standUp
  else if value = 17 then newYearScrape
  else unassigned value

@[simp] lemma toUInt8_ofUInt8 (value : UInt8) : (ofUInt8 value).toUInt8 = value := by
  unfold ofUInt8
  split_ifs <;> simp_all [toUInt8]

end SportAction

def isKnownSportAction (value : UInt8) : Bool :=
  (value ≥ 1 && value ≤ 6) || value == 14 || value == 15 || value == 17

inductive ReplyCode where
  | ok
  | malformed
  | expired
  | replay
  | motionDisabled
  | notArmed
  | limitExceeded
  | sdkError
  | peerRejected
  | internalError
  | faultLatched
  deriving DecidableEq, Repr

namespace ReplyCode

def toInt32 : ReplyCode → Int32
  | ok => 0
  | malformed => -1
  | expired => -2
  | replay => -3
  | motionDisabled => -4
  | notArmed => -5
  | limitExceeded => -6
  | sdkError => -7
  | peerRejected => -8
  | internalError => -9
  | faultLatched => -10

lemma toInt32_injective {c c' : ReplyCode} (h : c.toInt32 = c'.toInt32) : c = c' := by
  cases c <;> cases c' <;> first | rfl | exact absurd h (by decide)

@[simp] lemma toInt32_eq_zero {c : ReplyCode} : c.toInt32 = 0 ↔ c = ok :=
  ⟨fun h => toInt32_injective (h : c.toInt32 = ok.toInt32), fun h => h ▸ rfl⟩

end ReplyCode

/-! ## Packets -/

structure CommandPacket where
  magic : UInt32 := kProtocolMagic
  version : UInt16 := kProtocolVersion
  size : UInt16 := sizeofCommandPacket
  sequence : UInt64 := 0
  sentMonotonicNs : UInt64 := 0
  deadlineMonotonicNs : UInt64 := 0
  operation : UInt8 := CommandOp.ping.toUInt8
  reserved8 : UInt8 := 0
  reserved16 : UInt16 := 0
  /-- The bits of `vx`. -/
  vxBits : UInt32 := 0
  /-- The bits of `vy`. -/
  vyBits : UInt32 := 0
  /-- The bits of `wz`. -/
  wzBits : UInt32 := 0
  checksum : UInt32 := 0
  deriving DecidableEq, Repr

namespace CommandPacket

def vx (packet : CommandPacket) : Float32 := .ofBits packet.vxBits

def vy (packet : CommandPacket) : Float32 := .ofBits packet.vyBits

def wz (packet : CommandPacket) : Float32 := .ofBits packet.wzBits

end CommandPacket

structure ReplyPacket where
  magic : UInt32 := kProtocolMagic
  version : UInt16 := kProtocolVersion
  size : UInt16 := sizeofReplyPacket
  sequence : UInt64 := 0
  code : Int32 := ReplyCode.internalError.toInt32
  armed : UInt8 := 0
  faulted : UInt8 := 0
  reserved16 : UInt16 := 0
  checksum : UInt32 := 0
  deriving DecidableEq

def le16 (x : UInt16) : List UInt8 := [x.toUInt8, (x >>> 8).toUInt8]

def le32 (x : UInt32) : List UInt8 := le16 x.toUInt16 ++ le16 (x >>> 16).toUInt16

def le64 (x : UInt64) : List UInt8 := le32 x.toUInt32 ++ le32 (x >>> 32).toUInt32

/-- The packed memory of a command, in the order of its fields. -/
def CommandPacket.bytes (p : CommandPacket) : List UInt8 :=
  le32 p.magic ++ le16 p.version ++ le16 p.size ++ le64 p.sequence ++
    le64 p.sentMonotonicNs ++ le64 p.deadlineMonotonicNs ++ [p.operation, p.reserved8] ++
    le16 p.reserved16 ++ le32 p.vxBits ++ le32 p.vyBits ++ le32 p.wzBits ++ le32 p.checksum

/-- The packed memory of a reply, in the order of its fields. -/
def ReplyPacket.bytes (p : ReplyPacket) : List UInt8 :=
  le32 p.magic ++ le16 p.version ++ le16 p.size ++ le64 p.sequence ++
    le32 p.code.toUInt32 ++ [p.armed, p.faulted] ++ le16 p.reserved16 ++ le32 p.checksum

/-- The layout that the source asserts statically. -/
lemma CommandPacket.length_bytes (p : CommandPacket) :
    p.bytes.length = sizeofCommandPacket.toNat := rfl

lemma ReplyPacket.length_bytes (p : ReplyPacket) :
    p.bytes.length = sizeofReplyPacket.toNat := rfl

/-! ## Checksums -/

def fnv1a32 (data : List UInt8) : UInt32 :=
  data.foldl (fun hash byte => (hash ^^^ byte.toUInt32) * 16777619) 2166136261

/-- `PacketChecksum` at a command: the hash of the packet without its checksum. -/
def CommandPacket.packetChecksum (p : CommandPacket) : UInt32 :=
  fnv1a32 { p with checksum := 0 }.bytes

/-- `PacketChecksum` at a reply. -/
def ReplyPacket.packetChecksum (p : ReplyPacket) : UInt32 :=
  fnv1a32 { p with checksum := 0 }.bytes

def CommandPacket.seal (p : CommandPacket) : CommandPacket :=
  { p with checksum := p.packetChecksum }

def ReplyPacket.seal (p : ReplyPacket) : ReplyPacket :=
  { p with checksum := p.packetChecksum }

def CommandPacket.hasValidChecksum (p : CommandPacket) : Bool :=
  p.checksum == p.packetChecksum

def ReplyPacket.hasValidChecksum (p : ReplyPacket) : Bool :=
  p.checksum == p.packetChecksum

@[simp] lemma CommandPacket.seal_sentMonotonicNs (p : CommandPacket) :
    p.seal.sentMonotonicNs = p.sentMonotonicNs := by
  rw [CommandPacket.seal]

@[simp] lemma CommandPacket.seal_deadlineMonotonicNs (p : CommandPacket) :
    p.seal.deadlineMonotonicNs = p.deadlineMonotonicNs := by
  rw [CommandPacket.seal]

@[simp] lemma CommandPacket.seal_operation (p : CommandPacket) :
    p.seal.operation = p.operation := by
  rw [CommandPacket.seal]

@[simp] lemma CommandPacket.seal_vx (p : CommandPacket) : p.seal.vx = p.vx := by
  rw [CommandPacket.vx, CommandPacket.vx, CommandPacket.seal]

@[simp] lemma CommandPacket.seal_vy (p : CommandPacket) : p.seal.vy = p.vy := by
  rw [CommandPacket.vy, CommandPacket.vy, CommandPacket.seal]

@[simp] lemma CommandPacket.seal_wz (p : CommandPacket) : p.seal.wz = p.wz := by
  rw [CommandPacket.wz, CommandPacket.wz, CommandPacket.seal]

@[simp] lemma CommandPacket.seal_reserved8 (p : CommandPacket) :
    p.seal.reserved8 = p.reserved8 := by
  rw [CommandPacket.seal]

/-- The checksum is the last word of a command. -/
lemma CommandPacket.bytes_with_checksum (p : CommandPacket) (sum : UInt32) :
    { p with checksum := sum }.bytes = p.bytes.take 48 ++ le32 sum := by
  have hbody : (le32 p.magic ++ le16 p.version ++ le16 p.size ++ le64 p.sequence ++
      le64 p.sentMonotonicNs ++ le64 p.deadlineMonotonicNs ++ [p.operation, p.reserved8] ++
      le16 p.reserved16 ++ le32 p.vxBits ++ le32 p.vyBits ++ le32 p.wzBits).length = 48 := rfl
  rw [CommandPacket.bytes, CommandPacket.bytes, List.take_left' hbody]

@[simp] lemma CommandPacket.seal_checksum (p : CommandPacket) :
    p.seal.checksum = p.packetChecksum := by
  rw [CommandPacket.seal]

lemma CommandPacket.packetChecksum_seal (p : CommandPacket) :
    p.seal.packetChecksum = p.packetChecksum := by
  have h : { p.seal with checksum := 0 } = { p with checksum := 0 } := by
    cases p
    rfl
  rw [packetChecksum, h, packetChecksum]

@[simp] lemma CommandPacket.hasValidChecksum_seal (p : CommandPacket) :
    p.seal.hasValidChecksum = true := by
  rw [hasValidChecksum, packetChecksum_seal, seal_checksum, beq_self_eq_true]

@[simp] lemma ReplyPacket.seal_checksum (p : ReplyPacket) :
    p.seal.checksum = p.packetChecksum := by
  rw [ReplyPacket.seal]

lemma ReplyPacket.packetChecksum_seal (p : ReplyPacket) :
    p.seal.packetChecksum = p.packetChecksum := by
  have h : { p.seal with checksum := 0 } = { p with checksum := 0 } := by
    cases p
    rfl
  rw [packetChecksum, h, packetChecksum]

@[simp] lemma ReplyPacket.hasValidChecksum_seal (p : ReplyPacket) :
    p.seal.hasValidChecksum = true := by
  rw [hasValidChecksum, packetChecksum_seal, seal_checksum, beq_self_eq_true]

/-! ## Validation -/

def isKnownOperation (value : UInt8) : Bool := (CommandOp.ofUInt8? value).isSome

def isZeroVelocity (packet : CommandPacket) (epsilon : Float32 := 1.0e-5) : Bool :=
  packet.vx.abs ≤ epsilon && packet.vy.abs ≤ epsilon && packet.wz.abs ≤ epsilon

/-- A packet without zero velocity has a component that does not compare equal to zero. -/
lemma not_zero_of_not_isZeroVelocity {packet : CommandPacket} (h : isZeroVelocity packet = false) :
    ¬ ((packet.vx == 0) = true ∧ (packet.vy == 0) = true ∧ (packet.wz == 0) = true) := by
  have hzero : (0 : Float32) ≤ (1.0e-5 : Float32) := by decide +kernel
  rintro ⟨hx, hy, hz⟩
  simp [isZeroVelocity, Float32.abs_eq_zero_of_beq hx, Float32.abs_eq_zero_of_beq hy,
    Float32.abs_eq_zero_of_beq hz, hzero] at h

/-- The action byte is a known action of a sport action, and otherwise every reserved field
is zero. -/
def hasCanonicalReserved (packet : CommandPacket) : Bool :=
  packet.reserved16 == 0 &&
    if CommandOp.ofUInt8? packet.operation = some .sportAction then
      isKnownSportAction packet.reserved8
    else packet.reserved8 == 0

/-- `ValidateCommand`, with the text it stores in `*reason`. -/
def validateCommand (packet : CommandPacket) (nowMonotonicNs : UInt64) :
    ReplyCode × Option String :=
  if packet.magic ≠ kProtocolMagic ∨ packet.version ≠ kProtocolVersion ∨
      packet.size ≠ sizeofCommandPacket ∨ packet.hasValidChecksum = false ∨
      isKnownOperation packet.operation = false then
    (.malformed, some "invalid header, operation, or checksum")
  else if packet.vx.isFinite = false ∨ packet.vy.isFinite = false ∨
      packet.wz.isFinite = false then
    (.malformed, some "velocity contains NaN or infinity")
  else if packet.sentMonotonicNs > nowMonotonicNs + kMaximumClockLeadNs then
    (.malformed, some "packet timestamp is in the future")
  else if packet.deadlineMonotonicNs < nowMonotonicNs then
    (.expired, some "packet deadline has expired")
  else if packet.deadlineMonotonicNs < packet.sentMonotonicNs ∨
      packet.deadlineMonotonicNs - packet.sentMonotonicNs > kMaximumPacketLifetimeNs then
    (.malformed, some "packet lifetime is invalid")
  else if hasCanonicalReserved packet = false then
    (.malformed, some "invalid action ID or reserved field")
  else if CommandOp.ofUInt8? packet.operation ≠ some .move ∧
      isZeroVelocity packet = false then
    (.malformed, some "non-move packet carries velocity")
  else (.ok, none)

/-- What a packet satisfies when it passes validation at a time: the header and the
checksum, finite velocities, a deadline window around that time, and the canonical payload
of its operation. -/
structure ValidCommand (packet : CommandPacket) (nowNs : UInt64) : Prop where
  magic : packet.magic = kProtocolMagic
  version : packet.version = kProtocolVersion
  size : packet.size = sizeofCommandPacket
  checksum : packet.checksum = packet.packetChecksum
  operation : ∃ op, CommandOp.ofUInt8? packet.operation = some op
  finite : packet.vx.isFinite = true ∧ packet.vy.isFinite = true ∧ packet.wz.isFinite = true
  sent : packet.sentMonotonicNs ≤ nowNs + kMaximumClockLeadNs
  deadline : nowNs ≤ packet.deadlineMonotonicNs
  ordered : packet.sentMonotonicNs ≤ packet.deadlineMonotonicNs
  lifetime : packet.deadlineMonotonicNs - packet.sentMonotonicNs ≤ kMaximumPacketLifetimeNs
  reserved : hasCanonicalReserved packet = true
  velocity : CommandOp.ofUInt8? packet.operation = some .move ∨ isZeroVelocity packet = true

/-- The validation accepts exactly the valid commands. -/
theorem validateCommand_eq_ok_iff {packet : CommandPacket} {nowNs : UInt64} :
    (validateCommand packet nowNs).1 = .ok ↔ ValidCommand packet nowNs := by
  constructor
  · intro h
    unfold validateCommand at h
    split_ifs at h with hhead hfin hsent hdead hlife hres hvel
    simp only [not_or, ne_eq, not_not, Bool.not_eq_false, CommandPacket.hasValidChecksum,
      isKnownOperation, beq_iff_eq, Option.isSome_iff_exists] at hhead hfin
    simp only [not_or, gt_iff_lt, UInt64.not_lt, Bool.not_eq_false] at hsent hdead hlife hres
    rw [not_and_or, ne_eq, not_not, Bool.not_eq_false] at hvel
    obtain ⟨hmagic, hversion, hsize, hsum, hop⟩ := hhead
    exact ⟨hmagic, hversion, hsize, hsum, hop, hfin, hsent, hdead, hlife.1, hlife.2, hres,
      hvel⟩
  · rintro ⟨hmagic, hversion, hsize, hsum, hop, hfin, hsent, hdead, hord, hlife, hres, hvel⟩
    have hknown : isKnownOperation packet.operation = true :=
      Option.isSome_iff_exists.mpr hop
    have hvalid : packet.hasValidChecksum = true := beq_iff_eq.mpr hsum
    have hmove : ¬ (CommandOp.ofUInt8? packet.operation ≠ some .move ∧
        isZeroVelocity packet = false) := by
      rintro ⟨hop, hzero⟩
      rcases hvel with h | h
      · exact hop h
      · simp [h] at hzero
    unfold validateCommand
    rw [if_neg (by simp [hmagic, hversion, hsize, hvalid, hknown]), if_neg (by simp [hfin]),
      if_neg (by simpa using hsent), if_neg (by simpa using hdead),
      if_neg (by simpa using ⟨hord, hlife⟩), if_neg (by simp [hres]), if_neg hmove]

/-! ## Building packets -/

def makeCommand (operation : CommandOp) (sequence nowMonotonicNs lifetimeNs : UInt64)
    (vx vy wz : Float32 := 0) : CommandPacket :=
  CommandPacket.seal {
    sequence := sequence
    sentMonotonicNs := nowMonotonicNs
    deadlineMonotonicNs := nowMonotonicNs + lifetimeNs
    operation := operation.toUInt8
    vxBits := vx.toBits
    vyBits := vy.toBits
    wzBits := wz.toBits }

def makeSportActionCommand (action : SportAction)
    (sequence nowMonotonicNs lifetimeNs : UInt64) : CommandPacket :=
  CommandPacket.seal
    { makeCommand .sportAction sequence nowMonotonicNs lifetimeNs with
      reserved8 := action.toUInt8 }

def makeReply (sequence : UInt64) (code : ReplyCode) (armed faulted : Bool) : ReplyPacket :=
  ReplyPacket.seal {
    sequence := sequence
    code := code.toInt32
    armed := if armed then 1 else 0
    faulted := if faulted then 1 else 0 }

def validateReply (reply : ReplyPacket) (expectedSequence : UInt64) : Bool :=
  reply.magic == kProtocolMagic && reply.version == kProtocolVersion &&
    reply.size == sizeofReplyPacket && reply.sequence == expectedSequence &&
    reply.hasValidChecksum

section Reply

variable (sequence : UInt64) (code : ReplyCode) (armed faulted : Bool)

@[simp] lemma makeReply_code : (makeReply sequence code armed faulted).code = code.toInt32 :=
  rfl

@[simp] lemma makeReply_sequence : (makeReply sequence code armed faulted).sequence = sequence :=
  rfl

/-- The adapter accepts every reply of the daemon to its own sequence number. -/
lemma validateReply_makeReply :
    validateReply (makeReply sequence code armed faulted) sequence = true := by
  have hsum := ReplyPacket.hasValidChecksum_seal {
    sequence := sequence
    code := code.toInt32
    armed := if armed then 1 else 0
    faulted := if faulted then 1 else 0 }
  simp [validateReply, makeReply, hsum]
  simp [ReplyPacket.seal]

end Reply

end UnitreeGo2.Chassis
