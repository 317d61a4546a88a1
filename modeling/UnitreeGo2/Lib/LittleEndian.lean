import Mathlib.Data.List.Basic
import Mathlib.Data.UInt
import Mathlib.Tactic.Lemma
import Mathlib.Tactic.Ring

/-!
# Little-endian fields of a buffer

A buffer is a list of bytes.  A number is stored in it as a field of some width at some
offset, least significant byte first.  A field that was stored is read back as it was until
something overlaps it, and a buffer whose fields are all stored again is unchanged.
-/

namespace LittleEndian

/-! ## Numbers as bytes -/

/-- The bytes of a number: byte `index` is `(value >> (8 * index)) & 0xff`. -/
def toBytes (width value : ℕ) : List UInt8 :=
  (List.range width).map fun index => UInt8.ofNat (value >>> (8 * index))

/-- The loop `value |= byte << (8 * index)` from an index on. -/
def orBytes : ℕ → ℕ → List UInt8 → ℕ
  | _, value, [] => value
  | index, value, byte :: bytes =>
    orBytes (index + 1) (value ||| byte.toNat <<< (8 * index)) bytes

/-- The number that bytes store. -/
def ofBytes (bytes : List UInt8) : ℕ := orBytes 0 0 bytes

@[simp] lemma length_toBytes (width value : ℕ) : (toBytes width value).length = width := by
  simp [toBytes]

lemma toBytes_succ (width value : ℕ) :
    toBytes (width + 1) value = UInt8.ofNat value :: toBytes width (value / 256) := by
  simp only [toBytes, List.range_succ_eq_map, List.map_cons, List.map_map, Nat.mul_zero,
    Nat.shiftRight_zero, List.cons.injEq, true_and]
  refine List.map_congr_left fun index _ => ?_
  simp only [Function.comp_apply, Nat.succ_eq_add_one]
  congr 1
  rw [Nat.mul_add, Nat.mul_one, Nat.add_comm, Nat.shiftRight_add, Nat.shiftRight_eq_div_pow _ 8]

/-- The value of a loop that runs from an index on. -/
lemma orBytes_eq (bytes : List UInt8) :
    ∀ index value, value < 2 ^ (8 * index) →
      orBytes index value bytes = value + 2 ^ (8 * index) * ofBytes bytes := by
  induction bytes with
  | nil =>
    intro index value _
    simp [orBytes, ofBytes]
  | cons byte bytes ih =>
    intro index value hvalue
    have hbyte : byte.toNat < 2 ^ 8 := byte.toNat_lt
    have hor : value ||| byte.toNat <<< (8 * index) = value + 2 ^ (8 * index) * byte.toNat := by
      rw [Nat.or_comm, ← Nat.shiftLeft_add_eq_or_of_lt hvalue, Nat.shiftLeft_eq, Nat.add_comm,
        Nat.mul_comm]
    have hnext : value + 2 ^ (8 * index) * byte.toNat < 2 ^ (8 * (index + 1)) := by
      calc value + 2 ^ (8 * index) * byte.toNat
          < 2 ^ (8 * index) + 2 ^ (8 * index) * byte.toNat := by omega
        _ = 2 ^ (8 * index) * (byte.toNat + 1) := by ring
        _ ≤ 2 ^ (8 * index) * 2 ^ 8 := Nat.mul_le_mul_left _ hbyte
        _ = 2 ^ (8 * (index + 1)) := by rw [← pow_add, Nat.mul_add, Nat.mul_one]
    have hfirst : ofBytes (byte :: bytes) = byte.toNat + 2 ^ 8 * ofBytes bytes := by
      have hzero : orBytes 1 byte.toNat bytes = byte.toNat + 2 ^ (8 * 1) * ofBytes bytes :=
        ih 1 byte.toNat (by simpa using hbyte)
      simpa [ofBytes, orBytes] using hzero
    rw [orBytes, hor, ih (index + 1) _ hnext, hfirst, Nat.mul_add, Nat.mul_one, pow_add]
    ring

lemma ofBytes_cons (byte : UInt8) (bytes : List UInt8) :
    ofBytes (byte :: bytes) = byte.toNat + 256 * ofBytes bytes := by
  have h := orBytes_eq bytes 1 byte.toNat (by simpa using byte.toNat_lt)
  simpa [ofBytes, orBytes] using h

lemma ofBytes_lt (bytes : List UInt8) : ofBytes bytes < 256 ^ bytes.length := by
  induction bytes with
  | nil => simp [ofBytes, orBytes]
  | cons byte bytes ih =>
    have hbyte : byte.toNat < 256 := byte.toNat_lt
    rw [ofBytes_cons, List.length_cons, pow_succ]
    omega

/-- **Reading back a number.** -/
theorem ofBytes_toBytes {width value : ℕ} (h : value < 256 ^ width) :
    ofBytes (toBytes width value) = value := by
  induction width generalizing value with
  | zero =>
    rw [pow_zero, Nat.lt_one_iff] at h
    rw [h]
    rfl
  | succ width ih =>
    have hrest : value / 256 < 256 ^ width := by
      rw [Nat.div_lt_iff_lt_mul (by decide), ← pow_succ]
      exact h
    rw [toBytes_succ, ofBytes_cons, ih hrest, UInt8.toNat_ofNat']
    omega

/-- **Storing a number that was read.** -/
theorem toBytes_ofBytes (bytes : List UInt8) : toBytes bytes.length (ofBytes bytes) = bytes := by
  induction bytes with
  | nil => rfl
  | cons byte bytes ih =>
    have hbyte : byte.toNat < 256 := byte.toNat_lt
    have hrest : (byte.toNat + 256 * ofBytes bytes) / 256 = ofBytes bytes := by omega
    have hfirst : UInt8.ofNat (byte.toNat + 256 * ofBytes bytes) = byte := by
      apply UInt8.toNat_inj.mp
      rw [UInt8.toNat_ofNat']
      omega
    rw [List.length_cons, ofBytes_cons, toBytes_succ, hrest, hfirst, ih]

/-- The bytes of a number are those of its low part, and then those of the rest. -/
lemma toBytes_add (width width' value : ℕ) :
    toBytes (width + width') value =
      toBytes width value ++ toBytes width' (value / 256 ^ width) := by
  induction width generalizing value with
  | zero => simp [toBytes]
  | succ width ih =>
    rw [Nat.succ_add, toBytes_succ, toBytes_succ, ih, List.cons_append, Nat.div_div_eq_div_mul,
      ← pow_succ']

/-- Only the low part of a number is stored. -/
lemma toBytes_mod (width value : ℕ) :
    toBytes width (value % 256 ^ width) = toBytes width value := by
  induction width generalizing value with
  | zero => rfl
  | succ width ih =>
    have hfirst : UInt8.ofNat (value % 256 ^ (width + 1)) = UInt8.ofNat value := by
      apply UInt8.toNat_inj.mp
      rw [UInt8.toNat_ofNat', UInt8.toNat_ofNat']
      exact Nat.mod_mod_of_dvd value (dvd_pow_self 256 (Nat.succ_ne_zero width))
    have hrest : value % 256 ^ (width + 1) / 256 = value / 256 % 256 ^ width := by
      rw [pow_succ', Nat.mod_mul_right_div_self]
    rw [toBytes_succ, toBytes_succ, hfirst, hrest, ih]

/-! ## Fields of a buffer -/

/-- The bytes of a field. -/
def field (buffer : List UInt8) (offset width : ℕ) : List UInt8 :=
  (buffer.drop offset).take width

/-- A buffer with bytes stored at an offset. -/
def put (buffer : List UInt8) (offset : ℕ) (bytes : List UInt8) : List UInt8 :=
  buffer.take offset ++ bytes ++ buffer.drop (offset + bytes.length)

variable {buffer bytes : List UInt8} {offset width : ℕ}

lemma length_field (h : offset + width ≤ buffer.length) :
    (field buffer offset width).length = width := by
  simp only [field, List.length_take, List.length_drop]
  omega

lemma length_put (h : offset + bytes.length ≤ buffer.length) :
    (put buffer offset bytes).length = buffer.length := by
  simp only [put, List.length_append, List.length_take, List.length_drop]
  omega

lemma getElem?_put (h : offset + bytes.length ≤ buffer.length) (i : ℕ) :
    (put buffer offset bytes)[i]? =
      if i < offset then buffer[i]?
      else if i < offset + bytes.length then bytes[i - offset]?
      else buffer[i]? := by
  have htake : (buffer.take offset).length = offset := by
    rw [List.length_take]
    omega
  unfold put
  rw [List.append_assoc]
  split
  · rename_i hi
    rw [List.getElem?_append_left (by omega), List.getElem?_take_of_lt hi]
  · rename_i hi
    rw [List.getElem?_append_right (by omega), htake]
    split
    · rw [List.getElem?_append_left (by omega)]
    · rw [List.getElem?_append_right (by omega), List.getElem?_drop]
      congr 1
      omega

lemma getElem?_field (i : ℕ) :
    (field buffer offset width)[i]? = if i < width then buffer[offset + i]? else none := by
  unfold field
  split
  · rename_i hi
    rw [List.getElem?_take_of_lt hi, List.getElem?_drop]
  · rename_i hi
    rw [List.getElem?_take_eq_none (by omega)]

/-- A field that was just stored. -/
lemma field_put_same (h : offset + bytes.length ≤ buffer.length) :
    field (put buffer offset bytes) offset bytes.length = bytes := by
  apply List.ext_getElem?
  intro i
  rw [getElem?_field, getElem?_put h]
  split
  · rw [if_neg (by omega), if_pos (by omega), Nat.add_sub_cancel_left]
  · rw [List.getElem?_eq_none (by omega)]

/-- A field apart from the one that was stored. -/
lemma field_put_apart {offset' width' : ℕ} (h : offset + bytes.length ≤ buffer.length)
    (hapart : offset' + width' ≤ offset ∨ offset + bytes.length ≤ offset') :
    field (put buffer offset bytes) offset' width' = field buffer offset' width' := by
  apply List.ext_getElem?
  intro i
  rw [getElem?_field, getElem?_field]
  split
  · rw [getElem?_put h]
    split
    · rfl
    · rw [if_neg (by omega)]
  · rfl

/-- Two fields that follow each other are one. -/
lemma field_append_field (buffer : List UInt8) (offset width width' : ℕ) :
    field buffer offset width ++ field buffer (offset + width) width' =
      field buffer offset (width + width') := by
  rw [field, field, field, List.take_add, List.drop_drop]

/-- A part of a buffer that is made of consecutive parts. -/
lemma field_flatten {parts : List (List UInt8)} {part : List UInt8} (index : ℕ)
    (hpart : parts[index]? = some part) (hoffset : (parts.take index).flatten.length = offset)
    (hwidth : part.length = width) : field parts.flatten offset width = part := by
  obtain ⟨hindex, rfl⟩ := List.getElem?_eq_some_iff.mp hpart
  have hsplit : parts.flatten =
      (parts.take index).flatten ++ (parts[index] ++ (parts.drop (index + 1)).flatten) := by
    rw [← List.flatten_cons, ← List.flatten_append, List.cons_getElem_drop_succ,
      List.take_append_drop]
  rw [hsplit, field, ← hoffset, List.drop_left, ← hwidth, List.take_left]

/-- Storing the next field of another buffer extends the part on which the two agree. -/
lemma take_put_field {other : List UInt8} (hlength : buffer.length = other.length)
    (h : offset + width ≤ other.length) (hagree : buffer.take offset = other.take offset) :
    (put buffer offset (field other offset width)).take (offset + width) =
      other.take (offset + width) := by
  have hwidth : (field other offset width).length = width := length_field h
  have htake : (buffer.take offset ++ field other offset width).length = offset + width := by
    rw [List.length_append, hwidth, List.length_take]
    omega
  calc (put buffer offset (field other offset width)).take (offset + width)
      = buffer.take offset ++ field other offset width := by
        rw [put, ← htake, List.take_left]
    _ = other.take (offset + width) := by
        rw [hagree, field, List.take_add]

/-! ## Buffers made of consecutive fields -/

/-- A buffer with all fields of a list stored, each at its offset. -/
def putAll : List UInt8 → List (ℕ × List UInt8) → List UInt8
  | buffer, [] => buffer
  | buffer, (offset, bytes) :: fields => putAll (put buffer offset bytes) fields

/-- The fields of a list follow each other from one offset to another. -/
def Consecutive : ℕ → List (ℕ × List UInt8) → ℕ → Prop
  | start, [], stop => start = stop
  | start, (offset, bytes) :: fields, stop =>
    offset = start ∧ Consecutive (start + bytes.length) fields stop

section Consecutive

variable {fields : List (ℕ × List UInt8)} {start stop : ℕ}

lemma Consecutive.le (h : Consecutive start fields stop) : start ≤ stop := by
  induction fields generalizing start with
  | nil => exact h.le
  | cons entry fields ih =>
    have hnext := ih h.2
    omega

lemma length_putAll (h : Consecutive start fields stop) (hstop : stop ≤ buffer.length) :
    (putAll buffer fields).length = buffer.length := by
  induction fields generalizing buffer start with
  | nil => rfl
  | cons entry fields ih =>
    obtain ⟨rfl, hnext⟩ := h
    have hput : (put buffer entry.1 entry.2).length = buffer.length :=
      length_put (hnext.le.trans hstop)
    rw [putAll, ih hnext (hput ▸ hstop), hput]

/-- Later fields leave what lies before them. -/
lemma field_putAll_before (h : Consecutive start fields stop) (hstop : stop ≤ buffer.length)
    (hbefore : offset + width ≤ start) :
    field (putAll buffer fields) offset width = field buffer offset width := by
  induction fields generalizing buffer start with
  | nil => rfl
  | cons entry fields ih =>
    obtain ⟨rfl, hnext⟩ := h
    have hfits := hnext.le.trans hstop
    rw [putAll, ih hnext (length_put hfits ▸ hstop) (by omega),
      field_put_apart hfits (.inl hbefore)]

variable (buffer) in
/-- **Every field of a buffer is read back.** -/
theorem field_putAll (h : Consecutive start fields stop) (hstop : stop ≤ buffer.length)
    (hmem : (offset, bytes) ∈ fields) :
    field (putAll buffer fields) offset bytes.length = bytes := by
  induction fields generalizing buffer start with
  | nil => cases hmem
  | cons entry fields ih =>
    obtain ⟨rfl, hnext⟩ := h
    have hfits := hnext.le.trans hstop
    have hstop' : stop ≤ (put buffer entry.1 entry.2).length := by
      rw [length_put hfits]
      exact hstop
    rw [putAll]
    rcases List.mem_cons.mp hmem with rfl | hmem
    · rw [field_putAll_before hnext hstop' (le_refl _), field_put_same hfits]
    · exact ih _ hnext hstop' hmem

/-- **A buffer whose fields are stored again is unchanged.** -/
theorem take_putAll {other : List UInt8} (h : Consecutive start fields stop)
    (hlength : buffer.length = other.length) (hstop : stop ≤ other.length)
    (hfields : ∀ entry ∈ fields, entry.2 = field other entry.1 entry.2.length)
    (hagree : buffer.take start = other.take start) :
    (putAll buffer fields).take stop = other.take stop := by
  induction fields generalizing buffer start with
  | nil =>
    obtain rfl : start = stop := h
    exact hagree
  | cons entry fields ih =>
    obtain ⟨rfl, hnext⟩ := h
    have hfits := hnext.le.trans hstop
    have hentry := hfields entry (by simp)
    refine ih hnext ?_ (fun entry' h' => hfields entry' (by simp [h'])) ?_
    · rw [length_put (by omega), hlength]
    · have htake := take_put_field hlength hfits hagree
      rw [← hentry] at htake
      exact htake

end Consecutive

end LittleEndian
