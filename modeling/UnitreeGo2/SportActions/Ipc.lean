import UnitreeGo2.Chassis.PacketMemory

/-!
# The Python client of the chassis daemon

The action runtime builds the packets of the daemon with `struct`, on integers of any size, and
checks its replies with a validator of its own.
-/

namespace UnitreeGo2.SportActions

open LittleEndian

def magic : ℕ := 0x47324348
def version : ℕ := 1

/-- `COMMAND.size`. -/
def commandSize : ℕ := 52

/-- `REPLY.size`. -/
def replySize : ℕ := 28

def arm : ℤ := 1
def disarm : ℤ := 2
def move : ℤ := 3
def stop : ℤ := 4
def ping : ℤ := 5
def restoreClassic : ℤ := 6
def sportAction : ℤ := 7

def ok : ℤ := 0

/-- `_checksum`. -/
def checksum (packet : List UInt8) : ℕ :=
  packet.foldl (fun value byte => (value ^^^ byte.toNat) * 16777619 &&& 0xFFFFFFFF) 2166136261

/-! ## Commands -/

inductive CommandError where
  | valueError (text : String)
  | structError
  deriving DecidableEq, Repr

/-- An unsigned field of `struct.pack`, for the numbers that fit. -/
def packUnsigned (width : ℕ) (value : ℤ) : Option (List UInt8) :=
  if 0 ≤ value ∧ value < 256 ^ width then some (toBytes width value.toNat) else none

/-- `COMMAND.pack`, for the header of a command and a zero checksum; a velocity is given by
the bits of its float. -/
def packCommand (sequence stamp deadline operation actionId : ℤ) (vx vy wz : UInt32) :
    Option (List UInt8) := do
  let sequence ← packUnsigned 8 sequence
  let stamp ← packUnsigned 8 stamp
  let deadline ← packUnsigned 8 deadline
  let operation ← packUnsigned 1 operation
  let actionId ← packUnsigned 1 actionId
  return toBytes 4 magic ++ toBytes 2 version ++ toBytes 2 commandSize ++ sequence ++ stamp ++
    deadline ++ operation ++ actionId ++ toBytes 2 0 ++ toBytes 4 vx.toNat ++
    toBytes 4 vy.toNat ++ toBytes 4 wz.toNat ++ toBytes 4 0

/-- `vx != 0.0 or vy != 0.0 or wz != 0.0`. -/
def carriesVelocity (vx vy wz : UInt32) : Bool :=
  Float32.ofBits vx != 0 || Float32.ofBits vy != 0 || Float32.ofBits wz != 0

def makeCommand (operation sequence actionId : ℤ) (vx vy wz : UInt32) (nowNs : ℤ) :
    Except CommandError (List UInt8) :=
  if operation ∉ [arm, disarm, move, stop, ping, restoreClassic, sportAction] then
    .error (.valueError "unknown daemon operation")
  else if operation = sportAction ∧ actionId ∉ [1, 2, 3, 4, 5, 6, 14, 15, 17] then
    .error (.valueError "unknown sport action ID")
  else if operation ≠ sportAction ∧ actionId ≠ 0 then
    .error (.valueError "action ID only belongs to sport actions")
  else if operation ≠ move ∧ carriesVelocity vx vy wz then
    .error (.valueError "non-move command cannot carry velocity")
  else
    match packCommand sequence nowNs (nowNs + 500000000) operation actionId vx vy wz with
    | none => .error .structError
    | some packet => .ok (packet.take (packet.length - 4) ++ toBytes 4 (checksum packet))

/-! ## Replies -/

structure Reply where
  sequence : ℕ
  code : ℤ
  armed : Bool
  faulted : Bool
  deriving DecidableEq, Repr

/-- A signed field of four bytes. -/
def unpackSigned (bytes : List UInt8) : ℤ :=
  if ofBytes bytes < 2 ^ 31 then ofBytes bytes else ofBytes bytes - 2 ^ 32

/-- `parse_reply`, with the text of its error. -/
def parseReply (packet : List UInt8) (expectedSequence : ℕ) : Except String Reply :=
  if packet.length ≠ replySize then .error "daemon reply has incorrect length"
  else
    let sequence := ofBytes (field packet 8 8)
    if ofBytes (field packet 0 4) ≠ magic ∨ ofBytes (field packet 4 2) ≠ version ∨
        ofBytes (field packet 6 2) ≠ replySize ∨ sequence ≠ expectedSequence ∨
        ofBytes (field packet 22 2) ≠ 0 ∨
        ofBytes (field packet 24 4) ≠
          checksum (packet.take (packet.length - 4) ++ [0, 0, 0, 0]) then
      .error "daemon reply failed protocol validation"
    else
      .ok {
        sequence := sequence
        code := unpackSigned (field packet 16 4)
        armed := ofBytes (field packet 20 1) ≠ 0
        faulted := ofBytes (field packet 21 1) ≠ 0 }

/-! ## The two checksums -/

/-- The hash of the client is the one of the daemon. -/
lemma checksum_eq (packet : List UInt8) : checksum packet = (Chassis.fnv1a32 packet).toNat := by
  have hfold : ∀ hash : UInt32,
      packet.foldl (fun value byte => (value ^^^ byte.toNat) * 16777619 &&& 0xFFFFFFFF)
        hash.toNat =
      (packet.foldl (fun hash byte => (hash ^^^ byte.toUInt32) * 16777619) hash).toNat := by
    induction packet with
    | nil => exact fun hash => rfl
    | cons byte packet ih =>
      intro hash
      have hstep : (hash.toNat ^^^ byte.toNat) * 16777619 &&& 0xFFFFFFFF =
          ((hash ^^^ byte.toUInt32) * 16777619).toNat := by
        rw [UInt32.toNat_mul, UInt32.toNat_xor, UInt8.toNat_toUInt32]
        exact Nat.and_two_pow_sub_one_eq_mod _ 32
      rw [List.foldl_cons, List.foldl_cons, hstep, ih]
  exact hfold 2166136261

/-! ## The daemon's replies -/

section Replies

open Chassis Sensors

variable {bytes : List UInt8} {offset : ℕ}

lemma toNat_getU8 (h : offset + 1 ≤ bytes.length) :
    (getU8 bytes offset).toNat = ofBytes (field bytes offset 1) := by
  rw [← getU8_eq_field h, ofBytes_cons]
  rfl

lemma toNat_getU16 (h : offset + 2 ≤ bytes.length) :
    (getU16 bytes offset).toNat = ofBytes (field bytes offset 2) := by
  have hlt := ofBytes_lt (field bytes offset 2)
  rw [length_field h] at hlt
  exact UInt16.toNat_ofNat_of_lt' hlt

lemma toNat_getU32 (h : offset + 4 ≤ bytes.length) :
    (getU32 bytes offset).toNat = ofBytes (field bytes offset 4) := by
  have hlt := ofBytes_lt (field bytes offset 4)
  rw [length_field h] at hlt
  exact UInt32.toNat_ofNat_of_lt' hlt

lemma toNat_getU64 (h : offset + 8 ≤ bytes.length) :
    (getU64 bytes offset).toNat = ofBytes (field bytes offset 8) := by
  have hlt := ofBytes_lt (field bytes offset 8)
  rw [length_field h] at hlt
  exact UInt64.toNat_ofNat_of_lt' hlt

lemma unpackSigned_field (h : offset + 4 ≤ bytes.length) :
    unpackSigned (field bytes offset 4) = (getU32 bytes offset).toInt32.toInt := by
  rw [unpackSigned, ← toNat_getU32 h]
  show _ = (getU32 bytes offset).toBitVec.toInt
  rw [BitVec.toInt_eq_toNat_cond]
  have hlt : (getU32 bytes offset).toNat < 2 ^ 32 := UInt32.toNat_lt _
  split
  · rw [if_pos (by show 2 * (getU32 bytes offset).toNat < 2 ^ 32; omega)]
    rfl
  · rw [if_neg (by show ¬ 2 * (getU32 bytes offset).toNat < 2 ^ 32; omega)]
    rfl

/-- What the client makes of a reply that lies in memory. -/
def replyOf (r : ReplyPacket) : Reply where
  sequence := r.sequence.toNat
  code := r.code.toInt
  armed := r.armed ≠ 0
  faulted := r.faulted ≠ 0

/-- The two validators see the same checksum. -/
lemma hasValidChecksum_ofBytes (h : bytes.length = 28) :
    (ReplyPacket.ofBytes bytes).hasValidChecksum = true ↔
      ofBytes (field bytes 24 4) = checksum (bytes.take (bytes.length - 4) ++ [0, 0, 0, 0]) := by
  have hsum : (ReplyPacket.ofBytes bytes).packetChecksum =
      fnv1a32 (bytes.take (bytes.length - 4) ++ [0, 0, 0, 0]) := by
    rw [ReplyPacket.packetChecksum, ReplyPacket.bytes_ofBytes_checksum h, h]
    rfl
  rw [ReplyPacket.hasValidChecksum, beq_iff_eq, hsum, checksum_eq, ← toNat_getU32 (by omega)]
  exact UInt32.toNat_inj.symm

/-- **The client accepts a reply of the right length exactly when the adapter does and the
reserved field is zero, and reads the same fields.** -/
theorem parseReply_eq (h : bytes.length = 28) (expectedSequence : UInt64) :
    parseReply bytes expectedSequence.toNat =
      if validateReply (ReplyPacket.ofBytes bytes) expectedSequence = true ∧
          (ReplyPacket.ofBytes bytes).reserved16 = 0 then
        .ok (replyOf (ReplyPacket.ofBytes bytes))
      else .error "daemon reply failed protocol validation" := by
  have hmagic : (ReplyPacket.ofBytes bytes).magic = kProtocolMagic ↔
      ofBytes (field bytes 0 4) = magic := by
    rw [← toNat_getU32 (by omega), ← UInt32.toNat_inj]
    rfl
  have hversion : (ReplyPacket.ofBytes bytes).version = kProtocolVersion ↔
      ofBytes (field bytes 4 2) = version := by
    rw [← toNat_getU16 (by omega), ← UInt16.toNat_inj]
    rfl
  have hsize : (ReplyPacket.ofBytes bytes).size = sizeofReplyPacket ↔
      ofBytes (field bytes 6 2) = replySize := by
    rw [← toNat_getU16 (by omega), ← UInt16.toNat_inj]
    rfl
  have hsequence : (ReplyPacket.ofBytes bytes).sequence = expectedSequence ↔
      ofBytes (field bytes 8 8) = expectedSequence.toNat := by
    rw [← toNat_getU64 (by omega), ← UInt64.toNat_inj]
    rfl
  have hreserved : (ReplyPacket.ofBytes bytes).reserved16 = 0 ↔
      ofBytes (field bytes 22 2) = 0 := by
    rw [← toNat_getU16 (by omega), ← UInt16.toNat_inj]
    rfl
  have hvalid : (validateReply (ReplyPacket.ofBytes bytes) expectedSequence = true ∧
      (ReplyPacket.ofBytes bytes).reserved16 = 0) ↔
      ofBytes (field bytes 0 4) = magic ∧ ofBytes (field bytes 4 2) = version ∧
      ofBytes (field bytes 6 2) = replySize ∧
      ofBytes (field bytes 8 8) = expectedSequence.toNat ∧ ofBytes (field bytes 22 2) = 0 ∧
      ofBytes (field bytes 24 4) = checksum (bytes.take (bytes.length - 4) ++ [0, 0, 0, 0]) := by
    simp only [validateReply, Bool.and_eq_true, beq_iff_eq, hmagic, hversion, hsize, hsequence,
      hreserved, hasValidChecksum_ofBytes h]
    tauto
  have hreply : replyOf (ReplyPacket.ofBytes bytes) = {
      sequence := ofBytes (field bytes 8 8)
      code := unpackSigned (field bytes 16 4)
      armed := ofBytes (field bytes 20 1) ≠ 0
      faulted := ofBytes (field bytes 21 1) ≠ 0 } := by
    rw [← toNat_getU64 (by omega), unpackSigned_field (by omega), ← toNat_getU8 (by omega),
      ← toNat_getU8 (by omega)]
    have hzero : ∀ x : UInt8, decide (x ≠ 0) = decide (x.toNat ≠ 0) := fun x => by
      rw [decide_eq_decide, not_iff_not, ← UInt8.toNat_inj]
      rfl
    rw [← hzero, ← hzero]
    rfl
  unfold parseReply
  rw [if_neg (show ¬ bytes.length ≠ replySize from not_not.mpr h)]
  dsimp only
  by_cases hall : validateReply (ReplyPacket.ofBytes bytes) expectedSequence = true ∧
      (ReplyPacket.ofBytes bytes).reserved16 = 0
  · obtain ⟨h0, h4, h6, h8, h22, h24⟩ := hvalid.mp hall
    rw [if_neg (by simp only [h0, h4, h6, h8, h22, h24, ne_eq, not_true_eq_false, or_self,
      not_false_eq_true]), if_pos hall, hreply]
  · have hsome : ¬ (_ ∧ _ ∧ _ ∧ _ ∧ _ ∧ _) := fun hfields => hall (hvalid.mpr hfields)
    rw [if_pos (by simpa only [not_and_or] using hsome), if_neg hall]

/-- **The client reads from a reply of the daemon what the daemon put into it.** -/
theorem parseReply_makeReply (sequence : UInt64) (code : ReplyCode) (armed faulted : Bool) :
    parseReply (makeReply sequence code armed faulted).bytes sequence.toNat =
      .ok ⟨sequence.toNat, code.toInt32.toInt, armed, faulted⟩ := by
  rw [parseReply_eq rfl, ReplyPacket.ofBytes_bytes,
    if_pos ⟨validateReply_makeReply sequence code armed faulted, rfl⟩]
  cases armed <;> cases faulted <;> rfl

end Replies

/-! ## The daemon's view of a command -/

section Commands

open Chassis

variable {operation sequence actionId stamp : ℤ} {vx vy wz : UInt32} {packet : List UInt8}

/-- The command of the daemon with the arguments of the client. -/
def commandOf (operation sequence actionId stamp : ℤ) (vx vy wz : UInt32) : CommandPacket where
  sequence := .ofNat sequence.toNat
  sentMonotonicNs := .ofNat stamp.toNat
  deadlineMonotonicNs := .ofNat (stamp + 500000000).toNat
  operation := .ofNat operation.toNat
  reserved8 := .ofNat actionId.toNat
  vxBits := vx
  vyBits := vy
  wzBits := wz

lemma packUnsigned_eq_some {width : ℕ} {value : ℤ} {bytes : List UInt8}
    (h : packUnsigned width value = some bytes) :
    0 ≤ value ∧ value < 256 ^ width ∧ bytes = toBytes width value.toNat := by
  unfold packUnsigned at h
  split at h
  · rename_i hrange
    exact ⟨hrange.1, hrange.2, (Option.some.inj h).symm⟩
  · cases h

/-- The ranges that `COMMAND.pack` accepts. -/
structure Packable (operation sequence actionId stamp : ℤ) : Prop where
  operation_range : 0 ≤ operation ∧ operation < 256
  sequence_range : 0 ≤ sequence ∧ sequence < 2 ^ 64
  actionId_range : 0 ≤ actionId ∧ actionId < 256
  stamp_range : 0 ≤ stamp ∧ stamp + 500000000 < 2 ^ 64

lemma le64_ofNat {value : ℤ} (hrange : 0 ≤ value ∧ value < 2 ^ 64) :
    le64 (.ofNat value.toNat) = toBytes 8 value.toNat := by
  rw [le64_eq, UInt64.toNat_ofNat_of_lt' (by show value.toNat < 2 ^ 64; omega)]

lemma toBytes_one (value : ℕ) : toBytes 1 value = [UInt8.ofNat value] := rfl

/-- **What the client packs is the memory of the daemon's command.** -/
theorem packCommand_eq_some
    (h : packCommand sequence stamp (stamp + 500000000) operation actionId vx vy wz =
      some packet) :
    Packable operation sequence actionId stamp ∧
      packet = (commandOf operation sequence actionId stamp vx vy wz).bytes := by
  simp only [packCommand, Option.bind_eq_bind, Option.bind_eq_some_iff, Option.pure_def,
    Option.some.injEq] at h
  obtain ⟨_, hsequence, _, hstamp, _, hdeadline, _, hoperation, _, haction, rfl⟩ := h
  obtain ⟨hs0, hs1, rfl⟩ := packUnsigned_eq_some hsequence
  obtain ⟨ht0, ht1, rfl⟩ := packUnsigned_eq_some hstamp
  obtain ⟨hd0, hd1, rfl⟩ := packUnsigned_eq_some hdeadline
  obtain ⟨ho0, ho1, rfl⟩ := packUnsigned_eq_some hoperation
  obtain ⟨ha0, ha1, rfl⟩ := packUnsigned_eq_some haction
  refine ⟨⟨⟨ho0, ho1⟩, ⟨hs0, hs1⟩, ⟨ha0, ha1⟩, ⟨ht0, hd1⟩⟩, ?_⟩
  rw [CommandPacket.bytes, commandOf]
  dsimp only
  rw [le64_ofNat ⟨hs0, hs1⟩, le64_ofNat ⟨ht0, ht1⟩, le64_ofNat ⟨hd0, hd1⟩, le32_eq, le32_eq,
    le32_eq, le32_eq, le32_eq, le16_eq, le16_eq, le16_eq, toBytes_one, toBytes_one]
  simp only [List.append_assoc, List.cons_append, List.nil_append]
  rfl

/-- What `make_command` checks before it packs its arguments. -/
structure Sendable (operation actionId : ℤ) (vx vy wz : UInt32) : Prop where
  known : operation ∈ [arm, disarm, move, stop, ping, restoreClassic, sportAction]
  action : if operation = sportAction then actionId ∈ [1, 2, 3, 4, 5, 6, 14, 15, 17]
    else actionId = 0
  velocity : operation = move ∨ carriesVelocity vx vy wz = false

theorem makeCommand_eq_ok
    (h : makeCommand operation sequence actionId vx vy wz stamp = .ok packet) :
    Sendable operation actionId vx vy wz ∧ Packable operation sequence actionId stamp ∧
      packet = (commandOf operation sequence actionId stamp vx vy wz).seal.bytes := by
  unfold makeCommand at h
  split at h
  · cases h
  rename_i hoperation
  split at h
  · cases h
  rename_i hsport
  split at h
  · cases h
  rename_i hother
  split at h
  · cases h
  rename_i hvelocity
  split at h
  · cases h
  rename_i unsealed hpack
  obtain ⟨hrange, rfl⟩ := packCommand_eq_some hpack
  refine ⟨⟨not_not.mp hoperation, ?_, ?_⟩, hrange, ?_⟩
  · split
    · rename_i hop
      exact not_not.mp fun hid => hsport ⟨hop, hid⟩
    · rename_i hop
      exact not_not.mp fun hid => hother ⟨hop, hid⟩
  · rw [not_and_or, not_not, Bool.not_eq_true] at hvelocity
    exact hvelocity
  · have hsum : checksum (commandOf operation sequence actionId stamp vx vy wz).bytes =
        (commandOf operation sequence actionId stamp vx vy wz).packetChecksum.toNat :=
      checksum_eq _
    rw [← Except.ok.inj h, hsum, ← le32_eq, CommandPacket.length_bytes]
    exact (CommandPacket.bytes_with_checksum _ _).symm

/-- What the daemon sees of a command of the client. -/
structure CommandAgreement (operation sequence actionId stamp : ℤ) (vx vy wz : UInt32)
    (packet : List UInt8) : Prop where
  length : packet.length = sizeofCommandPacket.toNat
  operation_eq : ((CommandPacket.ofBytes packet).operation.toNat : ℤ) = operation
  sequence_eq : ((CommandPacket.ofBytes packet).sequence.toNat : ℤ) = sequence
  actionId_eq : ((CommandPacket.ofBytes packet).reserved8.toNat : ℤ) = actionId
  stamp_eq : ((CommandPacket.ofBytes packet).sentMonotonicNs.toNat : ℤ) = stamp
  deadline_eq : ((CommandPacket.ofBytes packet).deadlineMonotonicNs.toNat : ℤ) = stamp + 500000000
  velocity : (CommandPacket.ofBytes packet).vxBits = vx ∧
    (CommandPacket.ofBytes packet).vyBits = vy ∧ (CommandPacket.ofBytes packet).wzBits = wz
  accepted : ∀ now : UInt64, stamp - 100000000 ≤ now.toNat → now.toNat ≤ stamp + 500000000 →
    (validateCommand (CommandPacket.ofBytes packet) now).1 = .ok
  rejected : ∀ now : UInt64,
    ¬ (stamp - 100000000 ≤ now.toNat ∧ now.toNat ≤ stamp + 500000000) →
      (validateCommand (CommandPacket.ofBytes packet) now).1 = .expired ∨
        (validateCommand (CommandPacket.ofBytes packet) now).1 = .malformed

lemma validateCommand_cases (p : CommandPacket) (now : UInt64) :
    (validateCommand p now).1 = .ok ∨ (validateCommand p now).1 = .expired ∨
      (validateCommand p now).1 = .malformed := by
  unfold validateCommand
  split_ifs <;> simp

/-- The operations of the client are those of the daemon. -/
lemma Sendable.ofUInt8? (h : Sendable operation actionId vx vy wz) :
    ∃ op, CommandOp.ofUInt8? (.ofNat operation.toNat) = some op ∧
      (op = .move ↔ operation = move) ∧ (op = .sportAction ↔ operation = sportAction) := by
  have hknown := h.known
  simp only [List.mem_cons, List.not_mem_nil, or_false] at hknown
  rcases hknown with rfl | rfl | rfl | rfl | rfl | rfl | rfl
  · exact ⟨.arm, by decide, by decide, by decide⟩
  · exact ⟨.disarm, by decide, by decide, by decide⟩
  · exact ⟨.move, by decide, by decide, by decide⟩
  · exact ⟨.stop, by decide, by decide, by decide⟩
  · exact ⟨.ping, by decide, by decide, by decide⟩
  · exact ⟨.restoreClassicWalk, by decide, by decide, by decide⟩
  · exact ⟨.sportAction, by decide, by decide, by decide⟩

/-- The payload of a command of the client is canonical for the daemon. -/
lemma Sendable.hasCanonicalReserved (h : Sendable operation actionId vx vy wz)
    (sequence stamp : ℤ) :
    hasCanonicalReserved (commandOf operation sequence actionId stamp vx vy wz).seal = true := by
  obtain ⟨op, hop, -, hsport⟩ := h.ofUInt8?
  have hoperation : CommandOp.ofUInt8?
      (commandOf operation sequence actionId stamp vx vy wz).seal.operation = some op :=
    (CommandPacket.seal_operation _).symm ▸ hop
  have hreserved : (commandOf operation sequence actionId stamp vx vy wz).seal.reserved8 =
      .ofNat actionId.toNat :=
    CommandPacket.seal_reserved8 _
  have haction := h.action
  unfold Chassis.hasCanonicalReserved
  rw [hoperation, hreserved]
  refine Bool.and_eq_true_iff.mpr ⟨rfl, ?_⟩
  by_cases hs : operation = sportAction
  · rw [if_pos hs] at haction
    rw [if_pos (congrArg some (hsport.mpr hs))]
    simp only [List.mem_cons, List.not_mem_nil, or_false] at haction
    rcases haction with rfl | rfl | rfl | rfl | rfl | rfl | rfl | rfl | rfl <;> decide
  · rw [if_neg hs] at haction
    rw [if_neg fun heq => hs (hsport.mp (Option.some.inj heq)), haction]
    rfl

/-- A command of the client other than a move has zero velocity for the daemon. -/
lemma isZeroVelocity_of_not_carriesVelocity (h : carriesVelocity vx vy wz = false)
    (operation sequence actionId stamp : ℤ) :
    isZeroVelocity (commandOf operation sequence actionId stamp vx vy wz).seal = true := by
  by_contra hnot
  apply not_zero_of_not_isZeroVelocity (Bool.not_eq_true _ ▸ hnot)
  simp only [carriesVelocity, Bool.or_eq_false_iff, bne, Bool.not_eq_false'] at h
  exact ⟨h.1.1, h.1.2, h.2⟩

/-- The stamps of a command of the client, as the daemon reads them. -/
lemma Packable.toNat_stamps (h : Packable operation sequence actionId stamp) (vx vy wz : UInt32) :
    ((commandOf operation sequence actionId stamp vx vy wz).sentMonotonicNs.toNat : ℤ) = stamp ∧
      ((commandOf operation sequence actionId stamp vx vy wz).deadlineMonotonicNs.toNat : ℤ) =
        stamp + 500000000 := by
  obtain ⟨hlow, hhigh⟩ := h.stamp_range
  have hsent : (UInt64.ofNat stamp.toNat).toNat = stamp.toNat :=
    UInt64.toNat_ofNat_of_lt' (by show stamp.toNat < 2 ^ 64; omega)
  have hdeadline : (UInt64.ofNat (stamp + 500000000).toNat).toNat = (stamp + 500000000).toNat :=
    UInt64.toNat_ofNat_of_lt' (by show (stamp + 500000000).toNat < 2 ^ 64; omega)
  rw [commandOf, hsent, hdeadline]
  omega

/-- A command of the client is valid for the daemon around its stamp. -/
lemma validCommand_commandOf (h : Sendable operation actionId vx vy wz)
    (hrange : Packable operation sequence actionId stamp)
    (hfinite : (Float32.ofBits vx).isFinite = true ∧ (Float32.ofBits vy).isFinite = true ∧
      (Float32.ofBits wz).isFinite = true) {now : UInt64}
    (hafter : stamp ≤ (now + kMaximumClockLeadNs).toNat)
    (hbefore : now.toNat ≤ stamp + 500000000) :
    ValidCommand (commandOf operation sequence actionId stamp vx vy wz).seal now := by
  obtain ⟨hsent, hdeadline⟩ := hrange.toNat_stamps vx vy wz
  obtain ⟨op, hop, hmove, -⟩ := h.ofUInt8?
  have hordered : (commandOf operation sequence actionId stamp vx vy wz).sentMonotonicNs ≤
      (commandOf operation sequence actionId stamp vx vy wz).deadlineMonotonicNs :=
    UInt64.le_iff_toNat_le.mpr (by omega)
  have hlifetime : kMaximumPacketLifetimeNs.toNat = 1000000000 := rfl
  constructor
  · rfl
  · rfl
  · rfl
  · rw [CommandPacket.seal_checksum, CommandPacket.packetChecksum_seal]
  · exact ⟨op, (CommandPacket.seal_operation _).symm ▸ hop⟩
  · rw [CommandPacket.seal_vx, CommandPacket.seal_vy, CommandPacket.seal_wz]
    exact hfinite
  · rw [CommandPacket.seal_sentMonotonicNs]
    exact UInt64.le_iff_toNat_le.mpr (by omega)
  · rw [CommandPacket.seal_deadlineMonotonicNs]
    exact UInt64.le_iff_toNat_le.mpr (by omega)
  · rw [CommandPacket.seal_sentMonotonicNs, CommandPacket.seal_deadlineMonotonicNs]
    exact hordered
  · rw [CommandPacket.seal_sentMonotonicNs, CommandPacket.seal_deadlineMonotonicNs]
    refine UInt64.le_iff_toNat_le.mpr ?_
    have hsub := UInt64.toNat_sub_of_le _ _ hordered
    omega
  · exact h.hasCanonicalReserved sequence stamp
  · rcases h.velocity with hmoves | hzero
    · exact Or.inl ((CommandPacket.seal_operation _).symm ▸
        hop.trans (congrArg some (hmove.mpr hmoves)))
    · exact Or.inr (isZeroVelocity_of_not_carriesVelocity hzero operation sequence actionId stamp)

/-- The daemon finds a command of the client valid in a window around its stamp. -/
lemma validateCommand_commandOf (h : Sendable operation actionId vx vy wz)
    (hrange : Packable operation sequence actionId stamp)
    (hfinite : (Float32.ofBits vx).isFinite = true ∧ (Float32.ofBits vy).isFinite = true ∧
      (Float32.ofBits wz).isFinite = true)
    (hstamp : stamp < 2 ^ 64 - 2 ^ 30) (now : UInt64) :
    (validateCommand (commandOf operation sequence actionId stamp vx vy wz).seal now).1 = .ok ↔
      stamp - 100000000 ≤ now.toNat ∧ now.toNat ≤ stamp + 500000000 := by
  obtain ⟨hsent, hdeadline⟩ := hrange.toNat_stamps vx vy wz
  have hlow := hrange.stamp_range.1
  have hlead : (now + kMaximumClockLeadNs).toNat = (now.toNat + 100000000) % 2 ^ 64 :=
    UInt64.toNat_add now kMaximumClockLeadNs
  refine validateCommand_eq_ok_iff.trans ⟨fun hvalid => ?_, ?_⟩
  · have hle := UInt64.le_iff_toNat_le.mp hvalid.sent
    have hle' := UInt64.le_iff_toNat_le.mp hvalid.deadline
    rw [CommandPacket.seal_sentMonotonicNs, hlead] at hle
    rw [CommandPacket.seal_deadlineMonotonicNs] at hle'
    omega
  · rintro ⟨hafter, hbefore⟩
    exact validCommand_commandOf h hrange hfinite (by omega) (by omega)

/-- **The daemon reads from a command of the client its arguments, and accepts it in a window
around its stamp.** -/
theorem commandAgreement_makeCommand
    (hfinite : (Float32.ofBits vx).isFinite = true ∧ (Float32.ofBits vy).isFinite = true ∧
      (Float32.ofBits wz).isFinite = true)
    (hstamp : stamp < 2 ^ 64 - 2 ^ 30)
    (h : makeCommand operation sequence actionId vx vy wz stamp = .ok packet) :
    CommandAgreement operation sequence actionId stamp vx vy wz packet := by
  obtain ⟨hsend, hrange, rfl⟩ := makeCommand_eq_ok h
  obtain ⟨hsent, hdeadline⟩ := hrange.toNat_stamps vx vy wz
  obtain ⟨ho0, ho1⟩ := hrange.operation_range
  obtain ⟨ha0, ha1⟩ := hrange.actionId_range
  obtain ⟨hs0, hs1⟩ := hrange.sequence_range
  have hoperation : (UInt8.ofNat operation.toNat).toNat = operation.toNat :=
    UInt8.toNat_ofNat_of_lt' (by show operation.toNat < 2 ^ 8; omega)
  have haction : (UInt8.ofNat actionId.toNat).toNat = actionId.toNat :=
    UInt8.toNat_ofNat_of_lt' (by show actionId.toNat < 2 ^ 8; omega)
  have hsequence : (UInt64.ofNat sequence.toNat).toNat = sequence.toNat :=
    UInt64.toNat_ofNat_of_lt' (by show sequence.toNat < 2 ^ 64; omega)
  have hvalid := validateCommand_commandOf hsend hrange hfinite hstamp
  constructor
  · exact CommandPacket.length_bytes _
  all_goals rw [CommandPacket.ofBytes_bytes]
  · show ((UInt8.ofNat operation.toNat).toNat : ℤ) = operation
    omega
  · show ((UInt64.ofNat sequence.toNat).toNat : ℤ) = sequence
    omega
  · show ((UInt8.ofNat actionId.toNat).toNat : ℤ) = actionId
    omega
  · exact hsent
  · exact hdeadline
  · exact ⟨rfl, rfl, rfl⟩
  · exact fun now hafter hbefore => (hvalid now).mpr ⟨hafter, hbefore⟩
  · exact fun now hnot =>
      (validateCommand_cases _ now).resolve_left fun hok => hnot ((hvalid now).mp hok)

end Commands

/-! ## Agreement -/

/-- The client and the daemon agree on their packets. -/
structure IpcAgreement : Prop where
  commands : ∀ (operation sequence actionId stamp : ℤ) (vx vy wz : UInt32) (packet : List UInt8),
    (Float32.ofBits vx).isFinite = true → (Float32.ofBits vy).isFinite = true →
    (Float32.ofBits wz).isFinite = true → sequence < 2 ^ 64 - 2 ^ 30 → stamp < 2 ^ 64 - 2 ^ 30 →
    makeCommand operation sequence actionId vx vy wz stamp = .ok packet →
    CommandAgreement operation sequence actionId stamp vx vy wz packet
  replies : ∀ (sequence : UInt64) (code : Chassis.ReplyCode) (armed faulted : Bool),
    parseReply (Chassis.makeReply sequence code armed faulted).bytes sequence.toNat =
      .ok ⟨sequence.toNat, code.toInt32.toInt, armed, faulted⟩
  validators : ∀ (bytes : List UInt8) (expectedSequence : UInt64), bytes.length = 28 →
    ((∃ reply, parseReply bytes expectedSequence.toNat = .ok reply) ↔
      Chassis.validateReply (Chassis.ReplyPacket.ofBytes bytes) expectedSequence = true ∧
        (Chassis.ReplyPacket.ofBytes bytes).reserved16 = 0)

/-- **The packets of the client and of the daemon are the same bytes, and both sides accept
the same ones.** -/
theorem ipcAgreement : IpcAgreement where
  commands _ _ _ _ _ _ _ _ hvx hvy hwz _ hstamp h :=
    commandAgreement_makeCommand ⟨hvx, hvy, hwz⟩ hstamp h
  replies := parseReply_makeReply
  validators bytes expectedSequence h := by
    rw [parseReply_eq h]
    split
    · rename_i hvalid
      exact ⟨fun _ => hvalid, fun _ => ⟨_, rfl⟩⟩
    · rename_i hvalid
      constructor
      · rintro ⟨_, hreply⟩
        cases hreply
      · exact fun hyes => absurd hyes hvalid

end UnitreeGo2.SportActions
