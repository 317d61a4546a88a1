import UnitreeGo2.Lib.BoundedLoop
import Mathlib.Data.List.Basic
import Mathlib.Tactic.Lemma
import Mathlib.Tactic.Cases

/-!
# The writers of an RTPS message

An RTPS message is a header and a sequence of submessages, each with its own byte order.  The
locator reads from a payload the entity ids of the writers in it.  A capture may have cut the
payload off anywhere.
-/

namespace UnitreeGo2.WriterLocator

/-! ## Bytes -/

/-- `data[start:stop]`. -/
def slice (data : List UInt8) (start stop : ℕ) : List UInt8 := (data.drop start).take (stop - start)

inductive ByteOrder where
  | little
  | big
  deriving DecidableEq, Repr

/-- `int.from_bytes`. -/
def fromBytes (byteOrder : ByteOrder) (bytes : List UInt8) : ℕ :=
  match byteOrder with
  | .little => bytes.foldr (fun byte value => byte.toNat + 256 * value) 0
  | .big => bytes.foldl (fun value byte => 256 * value + byte.toNat) 0

/-! ## The scanner -/

def RTPS_DATA : UInt8 := 0x15

def RTPS_DATA_FRAG : UInt8 := 0x16

/-- `b"RTPS"`. -/
def rtpsMagic : List UInt8 := [0x52, 0x54, 0x50, 0x53]

/-- The byte order that the flags of a submessage choose. -/
def byteOrderOf (flags : UInt8) : ByteOrder := if flags &&& 0x01 ≠ 0 then .little else .big

/-- The local variables of `_rtps_data_writer_ids`. -/
structure WriterScan where
  offset : ℕ
  writers : List (List UInt8)

/-- The writers after a submessage of that id and length. -/
def WriterScan.collect (payload : List UInt8) (s : WriterScan) (submessageId : UInt8)
    (octetsToNext : ℕ) : List (List UInt8) :=
  let bodyStart := s.offset + 4
  let isData := submessageId = RTPS_DATA ∨ submessageId = RTPS_DATA_FRAG
  let declaredWriterPresent := octetsToNext = 0 ∨ 12 ≤ octetsToNext
  let capturedWriterPresent := bodyStart + 12 ≤ payload.length
  if isData ∧ declaredWriterPresent ∧ capturedWriterPresent then
    s.writers ++ [slice payload (bodyStart + 8) (bodyStart + 12)] else s.writers

/-- The end of a round, where no boundary behind an incomplete body is trusted. -/
def WriterScan.goOn (payload : List UInt8) (s : WriterScan) (octetsToNext : ℕ)
    (writers : List (List UInt8)) : Round WriterScan (List (List UInt8)) :=
  let bodyStart := s.offset + 4
  let bodyEnd := if octetsToNext = 0 then payload.length else bodyStart + octetsToNext
  if payload.length < bodyEnd then .leave writers
  else if octetsToNext = 0 then .leave writers
  else .next ⟨bodyEnd, writers⟩

/-- A round of the loop in `_rtps_data_writer_ids`; an index beyond the payload is a fault. -/
def writerRound (payload : List UInt8) (s : WriterScan) :
    Option (Round WriterScan (List (List UInt8))) := do
  if ¬ s.offset + 4 ≤ payload.length then return .leave s.writers
  let submessageId ← payload[s.offset]?
  let flags ← payload[s.offset + 1]?
  let octetsToNext :=
    fromBytes (byteOrderOf flags) (slice payload (s.offset + 2) (s.offset + 4))
  return s.goOn payload octetsToNext (s.collect payload submessageId octetsToNext)

/-- `_rtps_data_writer_ids`. -/
def rtpsDataWriterIds (payload : List UInt8) : Option (List (List UInt8)) :=
  if payload.length < 20 ∨ payload.take 4 ≠ rtpsMagic then some []
  else Loop.run (writerRound payload) (payload.length + 1) ⟨20, []⟩

/-! ## Messages -/

/-- `PAD` and `INFO_TS`, whose body is empty where the length field is zero. -/
def IsFiller (id : UInt8) : Prop := id = 0x01 ∨ id = 0x09

instance (id : UInt8) : Decidable (IsFiller id) := by
  unfold IsFiller
  infer_instance

/-- A submessage, where a length field of zero says that the body is empty, or for most kinds of
submessages that it extends to the end of the message. -/
structure Submessage where
  id : UInt8
  flags : UInt8
  lengthFirst : UInt8
  lengthSecond : UInt8
  body : List UInt8
  body_length : fromBytes (byteOrderOf flags) [lengthFirst, lengthSecond] ≠ 0 →
    body.length = fromBytes (byteOrderOf flags) [lengthFirst, lengthSecond]
  body_filler : fromBytes (byteOrderOf flags) [lengthFirst, lengthSecond] = 0 → IsFiller id →
    body = []

namespace Submessage

def octetsToNextHeader (sub : Submessage) : ℕ :=
  fromBytes (byteOrderOf sub.flags) [sub.lengthFirst, sub.lengthSecond]

def encode (sub : Submessage) : List UInt8 :=
  sub.id :: sub.flags :: sub.lengthFirst :: sub.lengthSecond :: sub.body

/-- A filler without a body. -/
def EmptyFiller (sub : Submessage) : Prop := sub.octetsToNextHeader = 0 ∧ IsFiller sub.id

instance (sub : Submessage) : Decidable sub.EmptyFiller := by
  unfold EmptyFiller
  infer_instance

/-- The body extends to the end of the message. -/
def ToEnd (sub : Submessage) : Prop := sub.octetsToNextHeader = 0 ∧ ¬ IsFiller sub.id

end Submessage

structure RtpsMessage where
  header : List UInt8
  submessages : List Submessage
  header_length : header.length = 20
  header_magic : header.take 4 = rtpsMagic
  /-- Nothing comes behind a submessage that extends to the end. -/
  toEnd_last : submessages.Pairwise fun sub _ => ¬ sub.ToEnd

def RtpsMessage.encode (message : RtpsMessage) : List UInt8 :=
  message.header ++ message.submessages.flatMap Submessage.encode

/-- A submessage with the offset at which it starts. -/
structure Placed where
  start : ℕ
  submessage : Submessage

/-- The submessages that stand one behind the other from an offset on. -/
def placedFrom : ℕ → List Submessage → List Placed
  | _, [] => []
  | start, sub :: subs => ⟨start, sub⟩ :: placedFrom (start + 4 + sub.body.length) subs

/-- The writer of a `DATA` or `DATA_FRAG`, if the first twelve bytes of its body lie within the
first bytes of the message. -/
def Placed.writerId? (captured : ℕ) (p : Placed) : Option (List UInt8) :=
  if (p.submessage.id = RTPS_DATA ∨ p.submessage.id = RTPS_DATA_FRAG) ∧
      12 ≤ p.submessage.body.length ∧ p.start + 4 + 12 ≤ captured then
    some (slice p.submessage.body 8 12)
  else none

namespace RtpsMessage

variable (message : RtpsMessage)

def placed : List Placed := placedFrom 20 message.submessages

/-- The writers in the first bytes of a message, in order. -/
def writerIds (captured : ℕ) : List (List UInt8) :=
  message.placed.filterMap (Placed.writerId? captured)

/-- No writer within the first bytes comes behind an empty filler. -/
def Unbroken (captured : ℕ) : Prop :=
  message.placed.Pairwise fun p q => p.submessage.EmptyFiller → q.writerId? captured = none

instance (captured : ℕ) : Decidable (message.Unbroken captured) := by
  unfold Unbroken
  infer_instance

end RtpsMessage

/-! ## Every payload -/

section Total

variable {payload : List UInt8} {s : WriterScan}

/-- A round goes on further behind, and not behind the payload. -/
lemma goOn_meets (octetsToNext : ℕ) (writers : List (List UInt8))
    (hinside : s.offset + 4 ≤ payload.length) :
    (s.goOn payload octetsToNext writers).Meets
      (fun s' => payload.length - s'.offset < payload.length - s.offset) fun _ => True := by
  rw [WriterScan.goOn]
  by_cases hzero : octetsToNext = 0
  · rw [if_pos hzero, if_neg (Nat.lt_irrefl _), if_pos hzero]
    trivial
  rw [if_neg hzero, if_neg hzero]
  split_ifs with hbody
  · trivial
  · show payload.length - (s.offset + 4 + octetsToNext) < payload.length - s.offset
    omega

/-- A round reads within the payload. -/
lemma writerRound_total (payload : List UInt8) (s : WriterScan) :
    ∃ round, writerRound payload s = some round ∧
      round.Meets (fun s' => payload.length - s'.offset < payload.length - s.offset)
        fun _ => True := by
  by_cases hend : s.offset + 4 ≤ payload.length
  · have hid : s.offset < payload.length := by omega
    have hflags : s.offset + 1 < payload.length := by omega
    rw [writerRound, if_neg (not_not.mpr hend), List.getElem?_eq_getElem hid,
      List.getElem?_eq_getElem hflags]
    exact ⟨_, rfl, goOn_meets _ _ hend⟩
  · exact ⟨_, if_pos hend, trivial⟩

/-- The scanner comes to an end on every payload, without an index beyond it. -/
lemma rtpsDataWriterIds_total (payload : List UInt8) :
    ∃ writers, rtpsDataWriterIds payload = some writers := by
  rw [rtpsDataWriterIds]
  split_ifs with hheader
  · exact ⟨_, rfl⟩
  have hrounds : payload.length - 20 < payload.length + 1 := by omega
  exact Loop.run_terminates (fun s : WriterScan => payload.length - s.offset)
    (writerRound_total payload) hrounds

end Total

/-! ## Captured messages -/

section Captured

variable {whole rest : List UInt8} {captured start : ℕ} {sub : Submessage}
  {writers : List (List UInt8)}

/-- A slice within the captured bytes is one of the whole message. -/
lemma slice_take {a b : ℕ} (h : b ≤ captured) :
    slice (whole.take captured) a b = slice whole a b := by
  rw [slice, slice, List.drop_take, List.take_take, Nat.min_eq_left (by omega)]

lemma slice_of_drop {a b : ℕ} (h : whole.drop start = rest) :
    slice whole (start + a) (start + b) = slice rest a b := by
  rw [slice, slice, ← h, List.drop_drop, Nat.add_sub_add_left]

/-- The first bytes of a submessage, where they are captured. -/
lemma header_captured (h : whole.drop start = sub.encode ++ rest) (hheader : start + 4 ≤ captured) :
    (whole.take captured)[start]? = some sub.id ∧
    (whole.take captured)[start + 1]? = some sub.flags ∧
    slice (whole.take captured) (start + 2) (start + 4) = [sub.lengthFirst, sub.lengthSecond] := by
  have hindex : ∀ i < 4, (whole.take captured)[start + i]? = (sub.encode ++ rest)[i]? := by
    intro i hi
    rw [List.getElem?_take_of_lt (by omega), ← h, List.getElem?_drop]
  refine ⟨hindex 0 (by omega), hindex 1 (by omega), ?_⟩
  rw [slice_take hheader, slice_of_drop h]
  rfl

/-- What the scanner has of a message that was cut off. -/
lemma length_captured (captured : ℕ) (h : whole.drop start = sub.encode ++ rest) :
    whole.length = start + 4 + sub.body.length + rest.length ∧
      (whole.take captured).length = min captured whole.length := by
  have hdrop := congrArg List.length h
  have hencode : sub.encode.length = sub.body.length + 4 := rfl
  rw [List.length_drop, List.length_append, hencode] at hdrop
  exact ⟨by omega, List.length_take⟩

/-- The writer of a submessage is collected where its first twelve bytes are there. -/
lemma collect_submessage (h : whole.drop start = sub.encode ++ rest)
    (hlast : sub.ToEnd → rest = []) (hheader : start + 4 ≤ captured) :
    WriterScan.collect (whole.take captured) ⟨start, writers⟩ sub.id sub.octetsToNextHeader =
      writers ++ (Placed.writerId? captured ⟨start, sub⟩).toList := by
  obtain ⟨hwhole, hpayload⟩ := length_captured captured h
  by_cases hdata : sub.id = RTPS_DATA ∨ sub.id = RTPS_DATA_FRAG
  · -- a writer is no filler, so its body is as long as the length field says, or to the end
    have hfiller : ¬ IsFiller sub.id := by
      rcases hdata with hid | hid <;> rw [hid] <;> decide
    have hpresent : (sub.octetsToNextHeader = 0 ∨ 12 ≤ sub.octetsToNextHeader) ∧
        start + 4 + 12 ≤ (whole.take captured).length ↔
        12 ≤ sub.body.length ∧ start + 4 + 12 ≤ captured := by
      by_cases hzero : sub.octetsToNextHeader = 0
      · have hrest : rest.length = 0 := by rw [hlast ⟨hzero, hfiller⟩]; rfl
        omega
      · have hbody : sub.body.length = sub.octetsToNextHeader := sub.body_length hzero
        omega
    by_cases hthere : 12 ≤ sub.body.length ∧ start + 4 + 12 ≤ captured
    · have hslice : slice (whole.take captured) (start + 4 + 8) (start + 4 + 12) =
          slice sub.body 8 12 := by
        rw [slice_take hthere.2, Nat.add_assoc, Nat.add_assoc, slice_of_drop h, slice, slice]
        show List.take 4 (List.drop 8 (sub.body ++ rest)) = List.take 4 (List.drop 8 sub.body)
        rw [List.drop_append_of_le_length (by omega),
          List.take_append_of_le_length (by rw [List.length_drop]; omega)]
      rw [WriterScan.collect, if_pos ⟨hdata, hpresent.mpr hthere⟩, Placed.writerId?,
        if_pos ⟨hdata, hthere⟩, hslice]
      rfl
    · rw [WriterScan.collect, if_neg fun hall => hthere (hpresent.mp hall.2), Placed.writerId?,
        if_neg fun hall => hthere hall.2]
      exact (List.append_nil _).symm
  · rw [WriterScan.collect, if_neg fun hall => hdata hall.1, Placed.writerId?,
      if_neg fun hall => hdata hall.1]
    exact (List.append_nil _).symm

/-- What a round does with a submessage of the message. -/
lemma writerRound_submessage (h : whole.drop start = sub.encode ++ rest)
    (hlast : sub.ToEnd → rest = []) (hheader : start + 4 ≤ captured)
    (writers : List (List UInt8)) :
    writerRound (whole.take captured) ⟨start, writers⟩ =
      some (if sub.octetsToNextHeader = 0 ∨ captured < start + 4 + sub.body.length then
        .leave (writers ++ (Placed.writerId? captured ⟨start, sub⟩).toList)
      else .next ⟨start + 4 + sub.body.length,
        writers ++ (Placed.writerId? captured ⟨start, sub⟩).toList⟩) := by
  obtain ⟨hwhole, hpayload⟩ := length_captured captured h
  obtain ⟨hid, hflags, hlength⟩ := header_captured h hheader
  have hinside : start + 4 ≤ (whole.take captured).length := by omega
  rw [writerRound, if_neg (not_not.mpr hinside), hid, hflags, hlength]
  show some (WriterScan.goOn (whole.take captured) ⟨start, writers⟩ sub.octetsToNextHeader
    (WriterScan.collect (whole.take captured) ⟨start, writers⟩ sub.id sub.octetsToNextHeader)) = _
  rw [collect_submessage h hlast hheader, WriterScan.goOn]
  by_cases hzero : sub.octetsToNextHeader = 0
  · rw [if_pos hzero, if_neg (Nat.lt_irrefl _), if_pos hzero, if_pos (.inl hzero)]
  · have hbody : sub.body.length = sub.octetsToNextHeader := sub.body_length hzero
    by_cases hcut : captured < start + 4 + sub.body.length
    · have hlt : (whole.take captured).length < start + 4 + sub.octetsToNextHeader := by omega
      rw [if_neg hzero, if_pos hlt, if_pos (.inr hcut)]
    · have hle : ¬ (whole.take captured).length < start + 4 + sub.octetsToNextHeader := by omega
      rw [if_neg hzero, if_neg hle, if_neg hzero, if_neg (not_or.mpr ⟨hzero, hcut⟩), hbody]

lemma filterMap_cons_toList {α β : Type} (f : α → Option β) (a : α) (l : List α) :
    (a :: l).filterMap f = (f a).toList ++ l.filterMap f := by
  rw [List.filterMap_cons]
  cases f a <;> rfl

/-- The submessages that the scanner comes to: none behind a length field of zero. -/
def reached : List Placed → List Placed
  | [] => []
  | p :: ps => if p.submessage.octetsToNextHeader = 0 then [p] else p :: reached ps

lemma reached_sublist (ps : List Placed) : (reached ps).Sublist ps := by
  induction ps with
  | nil => exact List.Sublist.slnil
  | cons p ps ih =>
    rw [reached]
    split_ifs
    · exact (List.nil_sublist ps).cons_cons p
    · exact ih.cons_cons p

/-- No writer stands behind the captured bytes. -/
lemma writerIds_behind {subs : List Submessage} (h : captured < start + 16) :
    (placedFrom start subs).filterMap (Placed.writerId? captured) = [] := by
  induction subs generalizing start with
  | nil => rfl
  | cons sub subs ih =>
    have hnone : Placed.writerId? captured ⟨start, sub⟩ = none :=
      if_neg fun hall => absurd hall.2.2 (by show ¬ start + 4 + 12 ≤ captured; omega)
    rw [placedFrom, List.filterMap_cons_none hnone]
    exact ih (by omega)

/-- Behind the captured bytes it makes no difference where the scanner stops. -/
lemma reached_behind {subs : List Submessage} (h : captured < start + 16) :
    (reached (placedFrom start subs)).filterMap (Placed.writerId? captured) = [] := by
  have hsublist := (reached_sublist (placedFrom start subs)).filterMap (Placed.writerId? captured)
  rw [writerIds_behind h] at hsublist
  exact List.sublist_nil.mp hsublist

/-- The scanner collects the writers of the submessages that it comes to. -/
lemma run_submessages {subs : List Submessage} {rounds : ℕ}
    (hdrop : whole.drop start = subs.flatMap Submessage.encode)
    (hlast : subs.Pairwise fun sub _ => ¬ sub.ToEnd)
    (hrounds : (whole.take captured).length - start < rounds) :
    Loop.run (writerRound (whole.take captured)) rounds ⟨start, writers⟩ =
      some (writers ++ (reached (placedFrom start subs)).filterMap
        (Placed.writerId? captured)) := by
  have hend : ¬ start + 4 ≤ (whole.take captured).length →
      Loop.run (writerRound (whole.take captured)) rounds ⟨start, writers⟩ = some writers :=
    fun h => Loop.run_leave (by omega) (if_pos h)
  induction subs generalizing start writers rounds with
  | nil =>
    have hwhole : whole.length ≤ start := List.drop_eq_nil_iff.mp hdrop
    have hpayload : (whole.take captured).length ≤ whole.length := List.length_take_le' ..
    rw [hend (by omega)]
    exact congrArg some (List.append_nil _).symm
  | cons sub subs ih =>
    rw [List.flatMap_cons] at hdrop
    obtain ⟨hfirst, htail⟩ := List.pairwise_cons.mp hlast
    obtain ⟨hwhole, hpayload⟩ := length_captured captured hdrop
    by_cases hheader : start + 4 ≤ captured
    · -- the header is captured, so the round reads this submessage
      have hrest : sub.ToEnd → subs.flatMap Submessage.encode = [] := by
        intro hto
        cases subs with
        | nil => rfl
        | cons next subs => exact absurd hto (hfirst next List.mem_cons_self)
      have hround := writerRound_submessage hdrop hrest hheader writers
      rw [placedFrom, reached]
      by_cases hzero : sub.octetsToNextHeader = 0
      · rw [if_pos (.inl hzero)] at hround
        rw [Loop.run_leave (by omega) hround, if_pos hzero, filterMap_cons_toList]
        simp only [List.filterMap_nil, List.append_nil]
      by_cases hcut : captured < start + 4 + sub.body.length
      · rw [if_pos (.inr hcut)] at hround
        rw [Loop.run_leave (by omega) hround, if_neg hzero, filterMap_cons_toList,
          reached_behind (by omega), List.append_nil]
      · rw [if_neg (not_or.mpr ⟨hzero, hcut⟩)] at hround
        have hafter : whole.drop (start + 4 + sub.body.length) =
            subs.flatMap Submessage.encode := by
          rw [Nat.add_assoc, ← List.drop_drop, hdrop, Nat.add_comm 4]
          exact List.drop_left
        rw [Loop.run_next (by omega) hround, if_neg hzero, filterMap_cons_toList,
          ih hafter htail (by omega) (fun h => Loop.run_leave (by omega) (if_pos h)),
          List.append_assoc]
    · rw [hend (by omega), reached_behind (by omega), List.append_nil]

/-- The scanner has all writers exactly when none stands behind an empty filler. -/
lemma reached_eq_iff {subs : List Submessage} (hlast : subs.Pairwise fun sub _ => ¬ sub.ToEnd) :
    (reached (placedFrom start subs)).filterMap (Placed.writerId? captured) =
        (placedFrom start subs).filterMap (Placed.writerId? captured) ↔
      (placedFrom start subs).Pairwise fun p q =>
        p.submessage.EmptyFiller → q.writerId? captured = none := by
  induction subs generalizing start with
  | nil => simp [placedFrom, reached]
  | cons sub subs ih =>
    obtain ⟨hfirst, htail⟩ := List.pairwise_cons.mp hlast
    rw [placedFrom, reached, List.pairwise_cons]
    by_cases hzero : sub.octetsToNextHeader = 0
    · rw [if_pos hzero]
      by_cases hfiller : IsFiller sub.id
      · -- the scanner stops here, so no writer may follow
        have hempty : sub.EmptyFiller := ⟨hzero, hfiller⟩
        rw [filterMap_cons_toList, filterMap_cons_toList, List.append_cancel_left_eq,
          List.filterMap_nil, eq_comm, List.filterMap_eq_nil_iff]
        constructor
        · intro hnone
          refine ⟨fun q hq _ => hnone q hq, ?_⟩
          exact List.Pairwise.imp_of_mem (fun _ hq _ _ => hnone _ hq)
            (List.pairwise_of_forall fun _ _ => trivial)
        · exact fun hall q hq => hall.1 q hq hempty
      · cases subs with
        | nil => simp [placedFrom]
        | cons next subs => exact absurd ⟨hzero, hfiller⟩ (hfirst next List.mem_cons_self)
    · rw [if_neg hzero]
      have hnot : ¬ sub.EmptyFiller := fun h => hzero h.1
      rw [filterMap_cons_toList, filterMap_cons_toList, List.append_cancel_left_eq, ih htail]
      exact ⟨fun h => ⟨fun _ _ hempty => absurd hempty hnot, h⟩, fun h => h.2⟩

/-- Of a captured message the scanner has exactly the writers when none of them stands behind an
empty filler. -/
lemma rtpsDataWriterIds_iff (message : RtpsMessage) (hcaptured : 20 ≤ captured) :
    rtpsDataWriterIds (message.encode.take captured) = some (message.writerIds captured) ↔
      message.Unbroken captured := by
  have hheader : (message.encode.take captured).take 4 = rtpsMagic := by
    rw [List.take_take, Nat.min_eq_left (by omega), RtpsMessage.encode,
      List.take_append_of_le_length (by rw [message.header_length]; omega), message.header_magic]
  have hlength : 20 ≤ (message.encode.take captured).length := by
    rw [List.length_take, RtpsMessage.encode, List.length_append, message.header_length]
    omega
  have hdrop : message.encode.drop 20 = message.submessages.flatMap Submessage.encode := by
    rw [RtpsMessage.encode, ← message.header_length, List.drop_left]
  have hrun : rtpsDataWriterIds (message.encode.take captured) =
      some ((reached message.placed).filterMap (Placed.writerId? captured)) := by
    rw [rtpsDataWriterIds, if_neg (not_or.mpr ⟨by omega, not_not.mpr hheader⟩),
      run_submessages hdrop message.toEnd_last (by omega)]
    rfl
  rw [hrun, Option.some_inj]
  exact reached_eq_iff message.toEnd_last

end Captured

/-! ## Two messages -/

/-- `INFO_TS` with a time stamp, and the first twelve bytes of a `DATA` behind it. -/
def validTimestampMessage : RtpsMessage where
  header := rtpsMagic ++ [2, 3, 1, 15] ++ List.replicate 12 7
  submessages :=
    [⟨0x09, 0x01, 8, 0, [1, 0, 0, 0, 2, 0, 0, 0], by decide, by decide⟩,
      ⟨0x15, 0x01, 12, 0, [0, 0, 16, 0, 0, 0, 0, 0, 0, 0, 10, 3], by decide, by decide⟩]
  header_length := rfl
  header_magic := rfl
  toEnd_last := by simp [Submessage.ToEnd, Submessage.octetsToNextHeader, IsFiller]

/-- `INFO_TS` without a time stamp, and the same `DATA` behind it. -/
def invalidTimestampMessage : RtpsMessage where
  header := rtpsMagic ++ [2, 3, 1, 15] ++ List.replicate 12 7
  submessages :=
    [⟨0x09, 0x03, 0, 0, [], by decide, by decide⟩,
      ⟨0x15, 0x01, 12, 0, [0, 0, 16, 0, 0, 0, 0, 0, 0, 0, 10, 3], by decide, by decide⟩]
  header_length := rfl
  header_magic := rfl
  toEnd_last := by simp [Submessage.ToEnd, Submessage.octetsToNextHeader, IsFiller]

end UnitreeGo2.WriterLocator
