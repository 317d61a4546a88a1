import UnitreeGo2.Sensors.JpegScanner
import Mathlib.Tactic.Lemma
import Mathlib.Tactic.Cases

/-!
# What the JPEG scanners accept

The structure scanner always comes to an answer without an access beyond the bytes, and it
accepts exactly the images of the grammar.  On those the dimension scanner answers the same.
-/

namespace UnitreeGo2.Sensors

variable {data rest : List UInt8} {offset fill : ℕ} {b marker : UInt8}

/-! ## Reading at an offset -/

section Reads

lemma getElem?_of_drop (h : data.drop offset = b :: rest) : data[offset]? = some b := by
  have hhead : (data.drop offset)[0]? = some b := by rw [h]; rfl
  rwa [List.getElem?_drop, Nat.add_zero] at hhead

lemma drop_add_of_drop {front : List UInt8} (h : data.drop offset = front ++ rest) :
    data.drop (offset + front.length) = rest := by
  rw [← List.drop_drop, h, List.drop_left]

lemma drop_succ_of_drop (h : data.drop offset = b :: rest) : data.drop (offset + 1) = rest := by
  rw [← List.drop_drop, h]
  rfl

lemma take_add_of_drop {front : List UInt8} (h : data.drop offset = front ++ rest) :
    data.take (offset + front.length) = data.take offset ++ front := by
  rw [List.take_add, h, List.take_left]

lemma length_of_drop (h : data.drop offset = rest) (hoffset : offset ≤ data.length) :
    data.length = offset + rest.length := by
  rw [← h, List.length_drop]
  omega

lemma lt_length_of_drop (h : data.drop offset = b :: rest) : offset < data.length := by
  have hlength := congrArg List.length h
  rw [List.length_drop, List.length_cons] at hlength
  omega

lemma length_le_of_drop (h : data.drop offset = []) : data.length ≤ offset :=
  List.drop_eq_nil_iff.mp h

/-- The bytes from an offset on start with some `0xff`, and then comes something else. -/
lemma exists_fill (bytes : List UInt8) :
    ∃ fill rest, bytes = List.replicate fill 0xff ++ rest ∧ rest.head? ≠ some 0xff := by
  induction bytes with
  | nil => exact ⟨0, [], rfl, by simp⟩
  | cons b bytes ih =>
    by_cases hb : b = 0xff
    · obtain ⟨fill, rest, rfl, hrest⟩ := ih
      exact ⟨fill + 1, rest, by rw [hb]; rfl, hrest⟩
    · exact ⟨0, b :: bytes, rfl, by simpa using hb⟩

lemma skipFill_eq (h : data.drop offset = List.replicate fill 0xff ++ rest)
    (hrest : rest.head? ≠ some 0xff) : skipFill data offset = some (offset + fill) := by
  have hlength : fill < data.length + 1 := by
    have := congrArg List.length h
    rw [List.length_drop, List.length_append, List.length_replicate] at this
    omega
  unfold skipFill
  generalize data.length + 1 = rounds at hlength
  induction fill generalizing offset rounds with
  | zero =>
    refine Loop.run_leave (by omega) ?_
    cases rest with
    | nil =>
      rw [if_pos (Nat.not_lt.mpr (length_le_of_drop h))]
      rfl
    | cons b rest =>
      have hb : b ≠ 0xff := by simpa using hrest
      rw [if_neg (not_not.mpr (lt_length_of_drop h)), getElem?_of_drop h]
      exact if_pos hb
  | succ fill ih =>
    rw [List.replicate_succ, List.cons_append] at h
    have hnext := drop_succ_of_drop h
    rw [show offset + (fill + 1) = offset + 1 + fill by omega]
    refine (Loop.run_next (by omega) ?_).trans (ih hnext _ (by omega))
    rw [if_neg (not_not.mpr (lt_length_of_drop h)), getElem?_of_drop h]
    rfl

/-- What the scanners read where a marker stands. -/
structure MarkerAt (data : List UInt8) (offset fill : ℕ) (marker : UInt8) (rest : List UInt8) :
    Prop where
  lt : offset < data.length
  first : data[offset]? = some 0xff
  skip : skipFill data offset = some (offset + (fill + 1))
  lt_marker : offset + (fill + 1) < data.length
  marker : data[offset + (fill + 1)]? = some marker
  rest : data.drop (offset + (fill + 1) + 1) = rest

lemma markerAt_of_drop (h : data.drop offset = markerBytes fill marker ++ rest)
    (hmarker : marker ≠ 0xff) : MarkerAt data offset fill marker rest := by
  rw [markerBytes, List.append_assoc, List.singleton_append] at h
  have hfirst : data.drop offset = 0xff :: (List.replicate fill 0xff ++ marker :: rest) := by
    rw [h, List.replicate_succ, List.cons_append]
  have hafter : data.drop (offset + (fill + 1)) = marker :: rest := by
    have := drop_add_of_drop h
    rwa [List.length_replicate] at this
  exact ⟨lt_length_of_drop hfirst, getElem?_of_drop hfirst, skipFill_eq h (by simpa using hmarker),
    lt_length_of_drop hafter, getElem?_of_drop hafter, drop_succ_of_drop hafter⟩

/-- What may stand at an offset: nothing, another byte than `0xff`, `0xff` up to the end, or a
marker. -/
lemma suffix_cases (data : List UInt8) (offset : ℕ) :
    data.length ≤ offset ∨
    (∃ b rest, data.drop offset = b :: rest ∧ b ≠ 0xff) ∨
    (∃ fill, data.drop offset = List.replicate (fill + 1) 0xff) ∨
    ∃ fill marker rest, data.drop offset = markerBytes fill marker ++ rest ∧ marker ≠ 0xff := by
  obtain ⟨fill, rest, h, hrest⟩ := exists_fill (data.drop offset)
  cases fill with
  | zero =>
    cases rest with
    | nil => exact .inl (length_le_of_drop h)
    | cons b rest => exact .inr (.inl ⟨b, rest, h, by simpa using hrest⟩)
  | succ fill =>
    cases rest with
    | nil => exact .inr (.inr (.inl ⟨fill, by rw [h, List.append_nil]⟩))
    | cons marker rest =>
      refine .inr (.inr (.inr ⟨fill, marker, rest, ?_, by simpa using hrest⟩))
      rw [h, markerBytes, List.append_assoc, List.singleton_append]

/-- Where only `0xff` is left, the loop over them runs to the end. -/
lemma skipFill_replicate (h : data.drop offset = List.replicate (fill + 1) 0xff) :
    offset < data.length ∧ data[offset]? = some 0xff ∧ skipFill data offset = some data.length := by
  have hfirst : data.drop offset = 0xff :: List.replicate fill 0xff := by
    rw [h, List.replicate_succ]
  have hlt := lt_length_of_drop hfirst
  refine ⟨hlt, getElem?_of_drop hfirst, ?_⟩
  have hlength := length_of_drop h (Nat.le_of_lt hlt)
  rw [List.length_replicate] at hlength
  have hall : data.drop offset = List.replicate (fill + 1) 0xff ++ [] := by
    rw [h, List.append_nil]
  rw [skipFill_eq hall (by simp), hlength]

end Reads

/-! ## Entropy-coded data -/

section Entropy

lemma entropyRound_end (h : data.length ≤ offset) :
    entropyRound data offset = some (.leave none) :=
  if_pos (Nat.not_lt.mpr h)

lemma entropyRound_byte (h : data.drop offset = b :: rest) (hb : b ≠ 0xff) :
    entropyRound data offset = some (.next (offset + 1)) := by
  unfold entropyRound
  rw [if_neg (not_not.mpr (lt_length_of_drop h)), getElem?_of_drop h]
  exact if_pos hb

lemma entropyRound_fill (h : data.drop offset = List.replicate (fill + 1) 0xff) :
    entropyRound data offset = some (.leave none) := by
  obtain ⟨hlt, hfirst, hskip⟩ := skipFill_replicate h
  unfold entropyRound
  rw [if_neg (not_not.mpr hlt), hfirst, hskip]
  exact if_pos (Nat.le_refl _)

lemma entropyRound_marker (h : MarkerAt data offset fill marker rest) :
    entropyRound data offset =
      some (if marker = 0x00 ∨ isRestartMarker marker = true then .next (offset + (fill + 1) + 1)
        else .leave (some offset)) := by
  unfold entropyRound
  rw [if_neg (not_not.mpr h.lt), h.first, h.skip]
  simp only [Option.bind_eq_bind, Option.bind_some, ne_eq, not_true_eq_false, ↓reduceIte,
    if_neg (Nat.not_le.mpr h.lt_marker), h.marker]
  split_ifs <;> rfl

/-- A marker that ends entropy-coded data. -/
def EndsEntropy (marker : UInt8) : Prop :=
  marker ≠ 0x00 ∧ isRestartMarker marker = false ∧ marker ≠ 0xff

lemma EndsEntropy.not_escape (h : EndsEntropy marker) :
    ¬ (marker = 0x00 ∨ isRestartMarker marker = true) := by
  rintro (hzero | hrestart)
  · exact h.1 hzero
  · exact Bool.false_ne_true (h.2.1.symm.trans hrestart)

lemma escape_ne_fill {code : UInt8} (h : code = 0x00 ∨ isRestartMarker code = true) :
    code ≠ 0xff := by
  rintro rfl
  revert h
  decide

/-- The bytes from an offset up to a place are entropy-coded data, and a marker follows. -/
structure EntropyUpTo (data : List UInt8) (offset stop : ℕ) : Prop where
  le : offset ≤ stop
  units : ∃ units : List EntropyUnit,
    data.take stop = data.take offset ++ units.flatMap EntropyUnit.encode
  marker : ∃ fill marker rest, data.drop stop = markerBytes fill marker ++ rest ∧
    EndsEntropy marker

/-- The loop comes to an end, and leaves with the place of a marker behind the data. -/
lemma skipEntropy_sound (hoffset : offset ≤ data.length) :
    ∃ found, skipEntropy data offset = some found ∧
      ∀ stop, found = some stop → EntropyUpTo data offset stop := by
  refine Loop.run_total
    (I := fun o => offset ≤ o ∧ o ≤ data.length ∧ ∃ units : List EntropyUnit,
      data.take o = data.take offset ++ units.flatMap EntropyUnit.encode)
    (Q := fun found => ∀ stop, found = some stop → EntropyUpTo data offset stop)
    (fun o => data.length - o) ?_ ⟨Nat.le_refl _, hoffset, [], by simp⟩ (by omega)
  rintro o ⟨hle, hlength, units, htake⟩
  rcases suffix_cases data o with h | ⟨b, rest, h, hb⟩ | ⟨fill, h⟩ | ⟨fill, marker, rest, h, hm⟩
  · exact ⟨_, entropyRound_end h, fun stop hstop => by cases hstop⟩
  · have hlt := lt_length_of_drop h
    refine ⟨_, entropyRound_byte h hb, ⟨by omega, hlt, units ++ [.byte b hb], ?_⟩, by omega⟩
    have hnext : data.take (o + [b].length) = data.take o ++ [b] := take_add_of_drop h
    rw [List.length_singleton] at hnext
    rw [hnext, htake, List.flatMap_append, List.append_assoc]
    rfl
  · exact ⟨_, entropyRound_fill h, fun stop hstop => by cases hstop⟩
  · have hat := markerAt_of_drop h hm
    refine ⟨_, entropyRound_marker hat, ?_⟩
    split_ifs with hescape
    · have hlt := hat.lt_marker
      refine ⟨⟨by omega, by omega, units ++ [.escape fill marker hescape], ?_⟩, by omega⟩
      have hnext := take_add_of_drop h
      rw [show (markerBytes fill marker).length = fill + 1 + 1 by simp [markerBytes],
        ← Nat.add_assoc] at hnext
      rw [hnext, htake, List.flatMap_append, List.append_assoc, List.flatMap_singleton]
      rfl
    · rintro stop ⟨⟩
      refine ⟨hle, ⟨units, htake⟩, fill, marker, rest, h, ?_, ?_, hm⟩
      · exact fun hzero => hescape (.inl hzero)
      · exact Bool.eq_false_iff.mpr fun hrestart => hescape (.inr hrestart)

/-- The loop walks over entropy-coded data up to the marker behind it. -/
lemma skipEntropy_complete {units : List EntropyUnit}
    (h : data.drop offset = units.flatMap EntropyUnit.encode ++ (markerBytes fill marker ++ rest))
    (hmarker : EndsEntropy marker) :
    skipEntropy data offset =
      some (some (offset + (units.flatMap EntropyUnit.encode).length)) := by
  have hlength : (units.flatMap EntropyUnit.encode).length < data.length + 1 := by
    have := congrArg List.length h
    rw [List.length_drop, List.length_append] at this
    omega
  unfold skipEntropy
  generalize data.length + 1 = rounds at hlength
  induction units generalizing offset rounds with
  | nil =>
    refine Loop.run_leave (by omega) ?_
    rw [entropyRound_marker (markerAt_of_drop h hmarker.2.2), if_neg hmarker.not_escape]
    rfl
  | cons unit units ih =>
    rw [List.flatMap_cons, List.append_assoc] at h
    have hafter := drop_add_of_drop h
    rw [List.flatMap_cons, List.length_append] at hlength ⊢
    rw [← Nat.add_assoc]
    have hround : entropyRound data offset = some (.next (offset + unit.encode.length)) := by
      cases unit with
      | byte value hvalue => exact entropyRound_byte h hvalue
      | escape escapeFill code hcode =>
        rw [entropyRound_marker (markerAt_of_drop h (escape_ne_fill hcode)), if_pos hcode]
        simp [EntropyUnit.encode, markerBytes, Nat.add_assoc]
    have hpos : 0 < unit.encode.length := by
      cases unit <;> simp [EntropyUnit.encode, markerBytes]
    exact (Loop.run_next (by omega) hround).trans (ih hafter _ (by omega))

end Entropy

/-! ## Marker segments -/

section Segments

variable {s : JpegScan} {segment : JpegSegment} {high low : UInt8} {tail : List UInt8}

lemma be16_toNat (high low : UInt8) : (be16 high low).toNat = 256 * high.toNat + low.toNat := by
  have hhigh := high.toNat_lt
  have hlow := low.toNat_lt
  have hshift : (high.toUInt16 <<< 8).toNat = high.toNat <<< 8 := by
    rw [UInt16.toNat_shiftLeft, UInt8.toNat_toUInt16]
    refine Nat.mod_eq_of_lt ?_
    rw [show (8 : UInt16).toNat % 16 = 8 from rfl, Nat.shiftLeft_eq]
    omega
  rw [be16, UInt16.toNat_or, hshift, UInt8.toNat_toUInt16,
    ← Nat.shiftLeft_add_eq_or_of_lt (by omega : low.toNat < 2 ^ 8), Nat.shiftLeft_eq]
  omega

lemma segmentSizeAt_eq (h : data.drop offset = high :: low :: rest) :
    segmentSizeAt data offset = some (be16 high low) := by
  unfold segmentSizeAt
  rw [getElem?_of_drop h, getElem?_of_drop (drop_succ_of_drop h)]
  rfl

lemma two_le_of_drop (h : data.drop offset = high :: low :: rest) : offset + 2 ≤ data.length :=
  lt_length_of_drop (drop_succ_of_drop h)

/-- The dimensions are read from within the payload. -/
lemma dimensionsAt_eq {width height : UInt16}
    (h : data.drop offset = high :: low :: (segment.payload ++ tail))
    (hdimensions : segment.dimensions? = some (width, height)) :
    dimensionsAt data offset = some (width, height) := by
  unfold JpegSegment.dimensions? at hdimensions
  split at hdimensions
  · rename_i precision heightHigh heightLow widthHigh widthLow components payload hpayload
    rw [hpayload] at h
    cases hdimensions
    have h₃ := drop_succ_of_drop (drop_succ_of_drop (drop_succ_of_drop h))
    have h₄ := drop_succ_of_drop h₃
    have h₅ := drop_succ_of_drop h₄
    have h₆ := drop_succ_of_drop h₅
    unfold dimensionsAt
    rw [getElem?_of_drop h₃, getElem?_of_drop h₄, getElem?_of_drop h₅, getElem?_of_drop h₆]
    rfl
  · cases hdimensions

lemma dimensions?_isSome_iff : segment.dimensions?.isSome = true ↔ 6 ≤ segment.payload.length := by
  unfold JpegSegment.dimensions?
  split
  · rename_i hpayload
    simp [hpayload]
  · rename_i hshort
    have hlt : segment.payload.length < 6 := by
      by_contra hge
      match hpayload : segment.payload with
      | [] | [_] | [_, _] | [_, _, _] | [_, _, _, _] | [_, _, _, _, _] =>
        rw [hpayload] at hge
        simp at hge
      | _ :: _ :: _ :: _ :: _ :: _ :: _ => exact hshort _ _ _ _ _ _ _ hpayload
    simp [hlt]

/-- The marker is none of those that stand alone. -/
lemma SegmentMarker.not_lone (h : SegmentMarker marker) :
    ¬ (marker = 0x01 ∨ isRestartMarker marker = true) := by
  rintro (hlone | hlone)
  · exact h.not_temporary hlone
  · exact Bool.false_ne_true (h.not_restart.symm.trans hlone)

/-- What the scanners read where a segment stands. -/
structure SegmentAt (data : List UInt8) (offset : ℕ) (segment : JpegSegment) (tail : List UInt8) :
    Prop where
  marker : MarkerAt data offset segment.fill segment.marker
    (segment.lengthHigh :: segment.lengthLow :: (segment.payload ++ tail))
  header_length : segment.header.length = segment.fill + 1 + 1 + (segment.payload.length + 2)
  size : segmentSizeAt data (offset + (segment.fill + 1) + 1) =
    some (be16 segment.lengthHigh segment.lengthLow)
  size_toNat : (be16 segment.lengthHigh segment.lengthLow).toNat = segment.payload.length + 2
  inside : offset + segment.header.length ≤ data.length

lemma segmentAt_of_drop (h : data.drop offset = segment.header ++ tail) :
    SegmentAt data offset segment tail := by
  have hlength : segment.header.length = segment.fill + 1 + 1 + (segment.payload.length + 2) := by
    simp only [JpegSegment.header, markerBytes, List.length_append, List.length_replicate,
      List.length_cons, List.length_nil]
  have hmarker : MarkerAt data offset segment.fill segment.marker
      (segment.lengthHigh :: segment.lengthLow :: (segment.payload ++ tail)) := by
    refine markerAt_of_drop ?_ segment.marker_ok.not_fill
    rw [h, JpegSegment.header, List.append_assoc]
    rfl
  refine ⟨hmarker, hlength, segmentSizeAt_eq hmarker.rest, ?_, ?_⟩
  · rw [be16_toNat, segment.length_eq]
  · have hdrop := congrArg List.length h
    rw [List.length_drop, List.length_append] at hdrop
    omega

namespace SegmentAt

/-- The checks of the length pass. -/
lemma inBounds (h : SegmentAt data offset segment tail) :
    ¬ (be16 segment.lengthHigh segment.lengthLow < 2 ∨
      data.length - (offset + (segment.fill + 1) + 1) <
        (be16 segment.lengthHigh segment.lengthLow).toNat) := by
  have hinside := h.inside
  have hlength := h.header_length
  have htwo : (2 : UInt16).toNat = 2 := rfl
  rw [UInt16.lt_iff_toNat_lt, h.size_toNat]
  omega

lemma next (h : SegmentAt data offset segment tail) :
    offset + (segment.fill + 1) + 1 + (be16 segment.lengthHigh segment.lengthLow).toNat =
      offset + segment.header.length := by
  have hlength := h.header_length
  rw [h.size_toNat]
  omega

/-- A frame that is too short has no dimensions. -/
lemma short_iff (h : SegmentAt data offset segment tail) :
    be16 segment.lengthHigh segment.lengthLow < 8 ↔ segment.dimensions? = none := by
  rw [← Option.not_isSome_iff_eq_none, dimensions?_isSome_iff, UInt16.lt_iff_toNat_lt,
    h.size_toNat]
  have height : (8 : UInt16).toNat = 8 := rfl
  omega

lemma two_le (h : SegmentAt data offset segment tail) :
    ¬ data.length < offset + (segment.fill + 1) + 1 + 2 :=
  Nat.not_lt.mpr (two_le_of_drop h.marker.rest)

end SegmentAt

/-- What `structureRound` does with a segment. -/
def JpegScan.readSegment (data : List UInt8) (s : JpegScan) (segment : JpegSegment) :
    Option (Round JpegScan JpegResult) :=
  let s' := { s with offset := s.offset + segment.header.length }
  if isStartOfFrameMarker segment.marker = true then
    match segment.dimensions? with
    | none => some s.invalid
    | some (width, height) =>
      if s.sawStartOfFrame = true then some s.invalid
      else if width = 0 ∨ height = 0 then some (.leave ⟨false, width, height⟩)
      else JpegScan.finishSegment data { s' with sawStartOfFrame := true, width, height }
        segment.marker
  else JpegScan.finishSegment data s' segment.marker

lemma structureRound_marker (h : MarkerAt data s.offset fill marker rest) :
    structureRound data s = s.afterMarker data marker (s.offset + (fill + 1) + 1) := by
  unfold structureRound
  rw [if_neg (not_not.mpr h.lt), h.first, h.skip]
  simp only [Option.bind_eq_bind, Option.bind_some, ne_eq, not_true_eq_false, ↓reduceIte,
    if_neg (Nat.not_le.mpr h.lt_marker), h.marker]

lemma structureRound_segment (h : SegmentAt data s.offset segment tail) :
    structureRound data s = s.readSegment data segment := by
  have hmarker := segment.marker_ok
  have hwide : ¬ (segment.marker = 0x00 ∨ segment.marker = 0xd8) := by
    rintro (hwide | hwide)
    · exact hmarker.not_stuffing hwide
    · exact hmarker.not_start hwide
  rw [structureRound_marker h.marker]
  unfold JpegScan.afterMarker
  simp only [Option.bind_eq_bind, Option.bind_some, if_neg hwide, if_neg hmarker.not_end,
    if_neg segment.marker_ok.not_lone, if_neg h.two_le, h.size, if_neg h.inBounds, h.next]
  unfold JpegScan.readSegment
  by_cases hframe : isStartOfFrameMarker segment.marker = true
  · rw [if_pos hframe, if_pos hframe]
    cases hdimensions : segment.dimensions? with
    | none => exact if_pos (.inr (h.short_iff.mpr hdimensions))
    | some dimensions =>
      obtain ⟨width, height⟩ := dimensions
      have hlarge : ¬ be16 segment.lengthHigh segment.lengthLow < 8 := by
        rw [h.short_iff, hdimensions]
        exact Option.some_ne_none _
      rw [dimensionsAt_eq h.marker.rest hdimensions]
      by_cases hsaw : s.sawStartOfFrame = true
      · simp only [hsaw, true_or, ↓reduceIte, Option.pure_def]
      · simp only [hsaw, hlarge, or_self, ↓reduceIte, Option.bind_some, Option.pure_def,
          Bool.false_eq_true]
  · rw [if_neg hframe, if_neg hframe]

/-- The bytes of an end of image. -/
lemma structureRound_end (h : MarkerAt data s.offset fill 0xd9 rest) :
    structureRound data s = some (.leave ⟨s.sawStartOfFrame && s.sawStartOfScan &&
      decide (s.offset + (fill + 1) + 1 = data.length), s.width, s.height⟩) := by
  rw [structureRound_marker h]
  rfl

/-- The bytes of a segment, from a marker and a length that fits. -/
lemma exists_segment (h : MarkerAt data offset fill marker (high :: low :: rest))
    (hdrop : data.drop offset = markerBytes fill marker ++ high :: low :: rest)
    (hmarker : SegmentMarker marker) (htwo : 2 ≤ (be16 high low).toNat)
    (hfits : (be16 high low).toNat ≤ data.length - (offset + (fill + 1) + 1)) :
    ∃ segment tail, data.drop offset = JpegSegment.header segment ++ tail ∧
      segment.entropy = [] ∧ SegmentAt data offset segment tail := by
  have hrest := length_of_drop h.rest h.lt_marker
  rw [List.length_cons, List.length_cons] at hrest
  have hlength : (rest.take ((be16 high low).toNat - 2)).length + 2 = (be16 high low).toNat := by
    rw [List.length_take]
    omega
  let segment : JpegSegment :=
    { fill, marker, lengthHigh := high, lengthLow := low
      payload := rest.take ((be16 high low).toNat - 2)
      entropy := []
      marker_ok := hmarker
      length_eq := by rw [hlength, be16_toNat]
      entropy_eq := fun _ => rfl }
  have hheader : data.drop offset =
      segment.header ++ rest.drop ((be16 high low).toNat - 2) := by
    rw [hdrop, JpegSegment.header, List.append_assoc, List.cons_append, List.cons_append,
      List.take_append_drop]
  exact ⟨segment, _, hheader, rfl, segmentAt_of_drop hheader⟩

/-- What a round of the structure scanner comes to: it turns the bytes away, or it has found the
end of the image, or a segment. -/
lemma structureRound_cases (data : List UInt8) (s : JpegScan) :
    structureRound data s = some s.invalid ∨
    (∃ fill rest, data.drop s.offset = markerBytes fill 0xd9 ++ rest ∧
      MarkerAt data s.offset fill 0xd9 rest) ∨
    ∃ segment tail, data.drop s.offset = JpegSegment.header segment ++ tail ∧
      segment.entropy = [] ∧ SegmentAt data s.offset segment tail := by
  rcases suffix_cases data s.offset with h | ⟨b, rest, h, hb⟩ | ⟨fill, h⟩ |
    ⟨fill, marker, rest, h, hm⟩
  · exact .inl (if_pos (Nat.not_lt.mpr h))
  · refine .inl ?_
    unfold structureRound
    rw [if_neg (not_not.mpr (lt_length_of_drop h)), getElem?_of_drop h]
    exact if_pos hb
  · refine .inl ?_
    obtain ⟨hlt, hfirst, hskip⟩ := skipFill_replicate h
    unfold structureRound
    rw [if_neg (not_not.mpr hlt), hfirst, hskip]
    exact if_pos (Nat.le_refl _)
  have hat := markerAt_of_drop h hm
  by_cases hend : marker = 0xd9
  · subst hend
    exact .inr (.inl ⟨fill, rest, h, hat⟩)
  rw [structureRound_marker hat]
  unfold JpegScan.afterMarker
  by_cases hwide : marker = 0x00 ∨ marker = 0xd8
  · exact .inl (if_pos hwide)
  by_cases hlone : marker = 0x01 ∨ isRestartMarker marker = true
  · rw [if_neg hwide, if_neg hend]
    exact .inl (if_pos hlone)
  rw [if_neg hwide, if_neg hend, if_neg hlone]
  have hmarker : SegmentMarker marker :=
    ⟨fun h => hwide (.inl h), fun h => hlone (.inl h),
      Bool.eq_false_iff.mpr fun h => hlone (.inr h), fun h => hwide (.inr h), hend, hm⟩
  have hrest := length_of_drop hat.rest hat.lt_marker
  match rest with
  | [] | [_] =>
    refine .inl (if_pos ?_)
    simp only [List.length_nil, List.length_singleton] at hrest
    omega
  | high :: low :: rest =>
    rw [if_neg (Nat.not_lt.mpr (two_le_of_drop hat.rest)), segmentSizeAt_eq hat.rest]
    by_cases hbounds : be16 high low < 2 ∨
        data.length - (s.offset + (fill + 1) + 1) < (be16 high low).toNat
    · exact .inl (if_pos hbounds)
    · rw [not_or, UInt16.lt_iff_toNat_lt, Nat.not_lt, Nat.not_lt] at hbounds
      exact .inr (.inr (exists_segment hat h hmarker hbounds.1 hbounds.2))

end Segments

/-! ## What is accepted -/

section Soundness

variable {s : JpegScan} {segment : JpegSegment} {tail : List UInt8}

lemma not_scan_of_frame (h : isStartOfFrameMarker segment.marker = true) :
    segment.marker ≠ 0xda := by
  intro hscan
  rw [hscan] at h
  revert h
  decide

/-- What a segment comes to behind its header: it is turned away, or it is read together with the
entropy-coded data of a scan. -/
lemma finishSegment_cases (hdrop : data.drop offset = segment.header ++ tail)
    (hempty : segment.entropy = []) (hat : SegmentAt data offset segment tail)
    (hs : s.offset = offset + segment.header.length) :
    s.finishSegment data segment.marker = some s.invalid ∨
    ∃ read : JpegSegment, ∃ stop, read.marker = segment.marker ∧ read.payload = segment.payload ∧
      offset < stop ∧ stop ≤ data.length ∧ data.take stop = data.take offset ++ read.encode ∧
      (segment.marker = 0xda → s.sawStartOfFrame = true) ∧
      s.finishSegment data segment.marker = some (.next { s with
        offset := stop
        sawStartOfScan := s.sawStartOfScan || decide (segment.marker = 0xda) }) := by
  have hpos := hat.header_length
  have htake := take_add_of_drop hdrop
  rw [← hs] at htake
  unfold JpegScan.finishSegment
  by_cases hscan : segment.marker = 0xda
  · rw [if_neg (not_not.mpr hscan)]
    by_cases hsaw : s.sawStartOfFrame = true
    · have hinside : s.offset ≤ data.length := hs ▸ hat.inside
      obtain ⟨found, hfound, hentropy⟩ := skipEntropy_sound hinside
      rw [hfound]
      cases found with
      | none =>
        refine .inl ?_
        simp only [hsaw, Bool.true_eq_false, ↓reduceIte, Option.bind_eq_bind, Option.bind_some,
          Option.pure_def]
      | some stop =>
        obtain ⟨hle, ⟨units, hunits⟩, fill, marker, rest, hmarker, -⟩ := hentropy stop rfl
        have hstop : stop < data.length := by
          rw [markerBytes, List.replicate_succ] at hmarker
          exact lt_length_of_drop hmarker
        refine .inr ⟨{ segment with entropy := units, entropy_eq := fun h => absurd hscan h }, stop,
          rfl, rfl, by omega, Nat.le_of_lt hstop, ?_, fun _ => hsaw, ?_⟩
        · rw [hunits, htake, JpegSegment.encode, List.append_assoc]
          rfl
        · simp only [hsaw, Bool.true_eq_false, ↓reduceIte, Option.bind_eq_bind, Option.bind_some,
            Option.pure_def, hscan, decide_true, Bool.or_true]
    · exact .inl (if_pos (Bool.eq_false_iff.mpr hsaw))
  · refine .inr ⟨segment, s.offset, rfl, rfl, by omega, ?_, ?_, fun h => absurd h hscan, ?_⟩
    · rw [hs]
      exact hat.inside
    · rw [htake, JpegSegment.encode, hempty, List.flatMap_nil, List.append_nil]
    · rw [if_pos hscan, decide_eq_false hscan, Bool.or_false]
      rfl

/-- The bytes before the offset are the beginning of an image, as far as the scanner says. -/
inductive Parsed (data : List UInt8) : JpegScan → Prop
  | tables (offset : ℕ) (tables : List JpegSegment) (hlength : offset ≤ data.length)
      (htake : data.take offset = [0xff, 0xd8] ++ tables.flatMap JpegSegment.encode)
      (htables : ∀ segment ∈ tables, ¬ segment.IsFrame ∧ ¬ segment.IsScan) :
      Parsed data { offset }
  | frame (offset : ℕ) (tables : List JpegSegment) (frame : JpegSegment) (rest : List JpegSegment)
      (width height : UInt16) (scan : Bool) (hlength : offset ≤ data.length)
      (htake : data.take offset =
        [0xff, 0xd8] ++ (tables ++ frame :: rest).flatMap JpegSegment.encode)
      (htables : ∀ segment ∈ tables, ¬ segment.IsFrame ∧ ¬ segment.IsScan)
      (hframe : frame.IsFrame) (hdimensions : frame.dimensions? = some (width, height))
      (hwidth : width ≠ 0) (hheight : height ≠ 0)
      (hrest : ∀ segment ∈ rest, ¬ segment.IsFrame)
      (hscan : scan = true → ∃ segment ∈ rest, segment.IsScan) :
      Parsed data { offset, sawStartOfFrame := true, sawStartOfScan := scan, width, height }

/-- The answer stands for an image of the grammar, if it is a valid one. -/
def JpegResult.Sound (data : List UInt8) (result : JpegResult) : Prop :=
  result.valid = true → ∃ image : JpegImage, image.encode = data ∧ image.width = result.width ∧
    image.height = result.height

lemma invalid_sound (s : JpegScan) (P : JpegScan → Prop) :
    s.invalid.Meets P (JpegResult.Sound data) := fun h => by cases h

/-- The end of the image leaves with the image that was read. -/
lemma end_sound (hs : Parsed data s) (hdrop : data.drop s.offset = markerBytes fill 0xd9 ++ rest)
    (hat : MarkerAt data s.offset fill 0xd9 rest) :
    JpegResult.Sound data ⟨s.sawStartOfFrame && s.sawStartOfScan &&
      decide (s.offset + (fill + 1) + 1 = data.length), s.width, s.height⟩ := by
  intro hvalid
  rw [Bool.and_eq_true, Bool.and_eq_true, decide_eq_true_eq] at hvalid
  obtain ⟨⟨hsaw, hscanned⟩, hend⟩ := hvalid
  have hrest : rest = [] := by
    rw [← hat.rest, hend, List.drop_length]
  cases hs with
  | tables => cases hsaw
  | frame offset tables frame rest' width height scan hlength htake htables hframe hdimensions
      hwidth hheight hrest' hscan =>
    refine ⟨⟨tables, frame, rest', fill, width, height, htables, hframe, hdimensions, hwidth,
      hheight, hrest', hscan hscanned⟩, ?_, rfl, rfl⟩
    rw [JpegImage.encode, ← htake, ← List.append_nil (markerBytes fill 0xd9), ← hrest, ← hdrop]
    exact List.take_append_drop _ _

/-- What was read stays read with another segment. -/
lemma flatMap_concat_encode (segments : List JpegSegment) (read : JpegSegment) :
    (segments ++ [read]).flatMap JpegSegment.encode =
      segments.flatMap JpegSegment.encode ++ read.encode := by
  rw [List.flatMap_append, List.flatMap_singleton]

lemma dimensions?_congr {read : JpegSegment} (h : read.payload = segment.payload) :
    read.dimensions? = segment.dimensions? := by
  unfold JpegSegment.dimensions?
  rw [h]

/-- A round goes on behind a longer beginning of an image, or leaves with a sound answer. -/
lemma structureRound_sound (hs : Parsed data s) : ∃ round, structureRound data s = some round ∧
    round.Meets (fun s' => Parsed data s' ∧ data.length - s'.offset < data.length - s.offset)
      (JpegResult.Sound data) := by
  rcases structureRound_cases data s with h | ⟨fill, rest, hdrop, hat⟩ |
    ⟨segment, tail, hdrop, hempty, hat⟩
  · exact ⟨_, h, invalid_sound s _⟩
  · exact ⟨_, structureRound_end hat, end_sound hs hdrop hat⟩
  rw [structureRound_segment hat]
  unfold JpegScan.readSegment
  by_cases hframe : isStartOfFrameMarker segment.marker = true
  · rw [if_pos hframe]
    cases hdimensions : segment.dimensions? with
    | none => exact ⟨_, rfl, invalid_sound s _⟩
    | some dimensions =>
      obtain ⟨width, height⟩ := dimensions
      dsimp only
      by_cases hsaw : s.sawStartOfFrame = true
      · rw [if_pos hsaw]
        exact ⟨_, rfl, invalid_sound s _⟩
      rw [if_neg hsaw]
      by_cases hzero : width = 0 ∨ height = 0
      · rw [if_pos hzero]
        exact ⟨_, rfl, fun h => by cases h⟩
      rw [if_neg hzero]
      rcases finishSegment_cases (s := { s with
          offset := s.offset + segment.header.length, sawStartOfFrame := true, width, height })
          hdrop hempty hat rfl with h | ⟨read, stop, hread, hpayload, hlt, hle, htake', -, h⟩
      · exact ⟨_, h, invalid_sound _ _⟩
      have hless : data.length - stop < data.length - s.offset := by omega
      refine ⟨_, h, ?_, hless⟩
      cases hs with
      | tables offset tables hlength htake htables =>
        rw [decide_eq_false (not_scan_of_frame hframe)]
        refine .frame stop tables read [] width height false hle ?_ htables ?_ ?_
          (fun h => hzero (.inl h)) (fun h => hzero (.inr h)) (fun _ h => absurd h List.not_mem_nil)
          (fun h => by cases h)
        · rw [htake', htake, flatMap_concat_encode, List.append_assoc]
        · rw [JpegSegment.IsFrame, hread]
          exact hframe
        · rw [dimensions?_congr hpayload]
          exact hdimensions
      | frame => exact absurd rfl hsaw
  · rw [if_neg hframe]
    rcases finishSegment_cases (s := { s with offset := s.offset + segment.header.length })
        hdrop hempty hat rfl with h | ⟨read, stop, hread, hpayload, hlt, hle, htake', hscan, h⟩
    · exact ⟨_, h, invalid_sound _ _⟩
    have hless : data.length - stop < data.length - s.offset := by omega
    refine ⟨_, h, ?_, hless⟩
    have hreadFrame : ¬ read.IsFrame := by
      rw [JpegSegment.IsFrame, hread]
      exact hframe
    cases hs with
    | tables offset tables hlength htake htables =>
      have hnone : segment.marker ≠ 0xda := fun h => Bool.false_ne_true (hscan h)
      rw [decide_eq_false hnone]
      refine .tables stop (tables ++ [read]) hle ?_ ?_
      · rw [htake', htake, flatMap_concat_encode, List.append_assoc]
      · intro other hother
        rcases List.mem_append.mp hother with hother | hother
        · exact htables other hother
        · rw [List.mem_singleton.mp hother]
          refine ⟨hreadFrame, fun h => hnone ?_⟩
          rwa [JpegSegment.IsScan, hread] at h
    | frame offset tables frame rest width height scan hlength htake htables hframe' hdimensions
        hwidth hheight hrest hscanned =>
      refine .frame stop tables frame (rest ++ [read]) width height _ hle ?_ htables hframe'
        hdimensions hwidth hheight ?_ ?_
      · rw [htake', htake, ← List.cons_append, ← List.append_assoc, flatMap_concat_encode,
          List.append_assoc]
      · intro other hother
        rcases List.mem_append.mp hother with hother | hother
        · exact hrest other hother
        · rw [List.mem_singleton.mp hother]
          exact hreadFrame
      · intro h
        rcases Bool.or_eq_true_iff.mp h with h | h
        · obtain ⟨other, hother, hotherScan⟩ := hscanned h
          exact ⟨other, List.mem_append_left _ hother, hotherScan⟩
        · refine ⟨read, List.mem_append_right _ (List.mem_singleton_self _), ?_⟩
          rw [JpegSegment.IsScan, hread]
          exact of_decide_eq_true h

end Soundness

section Completeness

variable {s : JpegScan} {segment : JpegSegment} {tail : List UInt8}

lemma SegmentMarker.endsEntropy (h : SegmentMarker marker) : EndsEntropy marker :=
  ⟨h.not_stuffing, h.not_restart, h.not_fill⟩

/-- Behind a segment comes a marker that ends its entropy-coded data. -/
def MarkerFollows (tail : List UInt8) : Prop :=
  ∃ fill marker rest, tail = markerBytes fill marker ++ rest ∧ EndsEntropy marker

lemma markerFollows_segments (segments : List JpegSegment) (endFill : ℕ) :
    MarkerFollows (segments.flatMap JpegSegment.encode ++ markerBytes endFill 0xd9) := by
  cases segments with
  | nil => exact ⟨endFill, 0xd9, [], by rw [List.append_nil]; rfl, by decide, by decide, by decide⟩
  | cons segment segments =>
    refine ⟨segment.fill, segment.marker, segment.lengthHigh :: segment.lengthLow ::
      (segment.payload ++ segment.entropy.flatMap EntropyUnit.encode ++
        segments.flatMap JpegSegment.encode ++ markerBytes endFill 0xd9), ?_,
      segment.marker_ok.endsEntropy⟩
    simp [JpegSegment.encode, JpegSegment.header]

/-- A segment is read together with its entropy-coded data. -/
lemma finishSegment_complete (hdrop : data.drop offset = segment.encode ++ tail)
    (htail : MarkerFollows tail) (hs : s.offset = offset + segment.header.length)
    (hsaw : segment.marker = 0xda → s.sawStartOfFrame = true) :
    s.finishSegment data segment.marker = some (.next { s with
      offset := offset + segment.encode.length
      sawStartOfScan := s.sawStartOfScan || decide (segment.marker = 0xda) }) := by
  unfold JpegScan.finishSegment
  by_cases hscan : segment.marker = 0xda
  · obtain ⟨fill, marker, rest, rfl, hmarker⟩ := htail
    rw [JpegSegment.encode, List.append_assoc] at hdrop
    have hentropy := drop_add_of_drop hdrop
    rw [← hs] at hentropy
    rw [if_neg (not_not.mpr hscan), skipEntropy_complete hentropy hmarker]
    simp only [hsaw hscan, Bool.true_eq_false, ↓reduceIte, Option.bind_eq_bind, Option.bind_some,
      Option.pure_def, hscan, decide_true, Bool.or_true, JpegSegment.encode, List.length_append, hs,
      Nat.add_assoc]
  · have hlength : s.offset = offset + segment.encode.length := by
      rw [hs, JpegSegment.encode, segment.entropy_eq hscan, List.flatMap_nil, List.append_nil]
    rw [if_pos hscan, decide_eq_false hscan, Bool.or_false, ← hlength]
    rfl

lemma segmentAt_of_encode (hdrop : data.drop offset = segment.encode ++ tail) :
    SegmentAt data offset segment (segment.entropy.flatMap EntropyUnit.encode ++ tail) := by
  refine segmentAt_of_drop ?_
  rw [hdrop, JpegSegment.encode, List.append_assoc]

/-- A segment that is no frame is read, and changes only what was seen of scans. -/
lemma structureRound_read (hdrop : data.drop s.offset = segment.encode ++ tail)
    (htail : MarkerFollows tail) (hframe : ¬ isStartOfFrameMarker segment.marker = true)
    (hsaw : segment.marker = 0xda → s.sawStartOfFrame = true) :
    structureRound data s = some (.next { s with
      offset := s.offset + segment.encode.length
      sawStartOfScan := s.sawStartOfScan || decide (segment.marker = 0xda) }) := by
  rw [structureRound_segment (segmentAt_of_encode hdrop)]
  unfold JpegScan.readSegment
  rw [if_neg hframe]
  exact finishSegment_complete hdrop htail rfl hsaw

lemma structureRound_frame {width height : UInt16}
    (hdrop : data.drop s.offset = segment.encode ++ tail) (htail : MarkerFollows tail)
    (hframe : isStartOfFrameMarker segment.marker = true)
    (hdimensions : segment.dimensions? = some (width, height)) (hwidth : width ≠ 0)
    (hheight : height ≠ 0) (hsaw : s.sawStartOfFrame = false) :
    structureRound data s = some (.next { s with
      offset := s.offset + segment.encode.length, sawStartOfFrame := true, width, height }) := by
  rw [structureRound_segment (segmentAt_of_encode hdrop)]
  unfold JpegScan.readSegment
  rw [if_pos hframe, hdimensions]
  have hzero : ¬ (width = 0 ∨ height = 0) := by
    rintro (h | h)
    · exact hwidth h
    · exact hheight h
  dsimp only
  rw [if_neg (by rw [hsaw]; exact Bool.false_ne_true), if_neg hzero]
  refine (finishSegment_complete hdrop htail rfl fun _ => rfl).trans ?_
  rw [decide_eq_false (not_scan_of_frame hframe), Bool.or_false]

lemma encode_length_pos (segment : JpegSegment) : 0 < segment.encode.length := by
  simp only [JpegSegment.encode, JpegSegment.header, markerBytes, List.length_append,
    List.length_replicate, List.length_singleton]
  omega

/-- Behind the frame the scanner reads up to the end of the image. -/
lemma run_rest {segments : List JpegSegment} {endFill rounds : ℕ}
    (hdrop : data.drop s.offset =
      segments.flatMap JpegSegment.encode ++ markerBytes endFill 0xd9)
    (hsegments : ∀ segment ∈ segments, ¬ segment.IsFrame) (hsaw : s.sawStartOfFrame = true)
    (hscan : s.sawStartOfScan = true ∨ ∃ segment ∈ segments, segment.IsScan)
    (hrounds : (segments.flatMap JpegSegment.encode).length < rounds) :
    Loop.run (structureRound data) rounds s = some ⟨true, s.width, s.height⟩ := by
  induction segments generalizing s rounds with
  | nil =>
    have hat : MarkerAt data s.offset endFill 0xd9 [] :=
      markerAt_of_drop (by rw [hdrop, List.append_nil]; rfl) (by decide)
    have hscanned : s.sawStartOfScan = true := by
      rcases hscan with h | ⟨segment, h, -⟩
      · exact h
      · cases h
    have hend : s.offset + (endFill + 1) + 1 = data.length :=
      (length_of_drop hat.rest hat.lt_marker).symm
    refine Loop.run_leave (by omega) ?_
    rw [structureRound_end hat, hsaw, hscanned, decide_eq_true hend]
    rfl
  | cons segment segments ih =>
    rw [List.flatMap_cons, List.append_assoc] at hdrop
    rw [List.flatMap_cons, List.length_append] at hrounds
    have hround := structureRound_read hdrop (markerFollows_segments segments endFill)
      (hsegments segment List.mem_cons_self) fun _ => hsaw
    have hpos := encode_length_pos segment
    refine (Loop.run_next (by omega) hround).trans (ih (drop_add_of_drop hdrop)
      (fun other hother => hsegments other (List.mem_cons_of_mem _ hother)) hsaw ?_ (by omega))
    rcases hscan with h | ⟨other, hother, h⟩
    · exact .inl (by rw [h]; rfl)
    · rcases List.mem_cons.mp hother with rfl | hother
      · exact .inl (by rw [decide_eq_true (show other.marker = 0xda from h), Bool.or_true])
      · exact .inr ⟨other, hother, h⟩

/-- Before the frame the scanner reads the tables, and then the frame. -/
lemma run_image {image : JpegImage} {tables : List JpegSegment} {rounds : ℕ}
    (hdrop : data.drop offset = (tables ++ image.frame :: image.rest).flatMap JpegSegment.encode ++
      markerBytes image.endFill 0xd9)
    (htables : ∀ segment ∈ tables, ¬ segment.IsFrame ∧ ¬ segment.IsScan)
    (hrounds :
      ((tables ++ image.frame :: image.rest).flatMap JpegSegment.encode).length < rounds) :
    Loop.run (structureRound data) rounds { offset } = some ⟨true, image.width, image.height⟩ := by
  induction tables generalizing offset rounds with
  | nil =>
    rw [List.nil_append, List.flatMap_cons, List.append_assoc] at hdrop
    rw [List.nil_append, List.flatMap_cons, List.length_append] at hrounds
    have hround := structureRound_frame (s := { offset }) hdrop
      (markerFollows_segments image.rest image.endFill) image.frame_ok image.dimensions_eq
      image.width_ne image.height_ne rfl
    have hpos := encode_length_pos image.frame
    exact (Loop.run_next (by omega) hround).trans
      (run_rest (drop_add_of_drop hdrop) image.rest_ok rfl (.inr image.scan) (by omega))
  | cons segment tables ih =>
    rw [List.cons_append, List.flatMap_cons, List.append_assoc] at hdrop
    rw [List.cons_append, List.flatMap_cons, List.length_append] at hrounds
    obtain ⟨hframe, hscan⟩ := htables segment List.mem_cons_self
    have hround := structureRound_read (s := { offset }) hdrop
      (markerFollows_segments _ image.endFill) hframe fun h => absurd h hscan
    rw [decide_eq_false (show segment.marker ≠ 0xda from hscan)] at hround
    have hpos := encode_length_pos segment
    exact (Loop.run_next (by omega) hround).trans (ih (drop_add_of_drop hdrop)
      (fun other hother => htables other (List.mem_cons_of_mem _ hother)) (by omega))

end Completeness

/-! ## The dimension scanner -/

section Dimensions

variable {segment : JpegSegment} {tail : List UInt8}

lemma dimensionsRound_marker (h : MarkerAt data offset fill marker rest) :
    dimensionsRound data offset =
      dimensionsAfterMarker data marker (offset + (fill + 1) + 1) := by
  have hlt := h.lt_marker
  unfold dimensionsRound
  rw [if_neg (not_not.mpr (by omega)), h.first, h.skip]
  simp only [Option.bind_eq_bind, Option.bind_some, ne_eq, not_true_eq_false, ↓reduceIte,
    if_neg (Nat.not_le.mpr h.lt_marker), h.marker]

lemma dimensionsAt_total (h : offset + 6 < data.length) :
    ∃ dimensions, dimensionsAt data offset = some dimensions := by
  unfold dimensionsAt
  rw [List.getElem?_eq_getElem (by omega : offset + 3 < data.length),
    List.getElem?_eq_getElem (by omega : offset + 4 < data.length),
    List.getElem?_eq_getElem (by omega : offset + 5 < data.length), List.getElem?_eq_getElem h]
  exact ⟨_, rfl⟩

lemma segmentSizeAt_total (h : offset + 2 ≤ data.length) :
    ∃ size, segmentSizeAt data offset = some size := by
  unfold segmentSizeAt
  rw [List.getElem?_eq_getElem (by omega : offset < data.length),
    List.getElem?_eq_getElem (by omega : offset + 1 < data.length)]
  exact ⟨_, rfl⟩

/-- Behind a marker a round leaves, or goes on no further than the end of the bytes. -/
lemma dimensionsAfterMarker_total (marker : UInt8) (hoffset : offset ≤ data.length) :
    ∃ round, dimensionsAfterMarker data marker offset = some round ∧
      round.Meets (fun o => offset ≤ o ∧ o ≤ data.length) fun _ => True := by
  unfold dimensionsAfterMarker
  by_cases hend : marker = 0xd9 ∨ marker = 0xda
  · exact ⟨_, if_pos hend, trivial⟩
  by_cases hlone : marker = 0x01 ∨ isRestartMarker marker = true
  · rw [if_neg hend]
    exact ⟨_, if_pos hlone, Nat.le_refl _, hoffset⟩
  by_cases hshort : data.length < offset + 2
  · rw [if_neg hend, if_neg hlone]
    exact ⟨_, if_pos hshort, trivial⟩
  rw [if_neg hend, if_neg hlone, if_neg hshort]
  obtain ⟨size, hsize⟩ := segmentSizeAt_total (Nat.not_lt.mp hshort)
  rw [hsize, Option.bind_eq_bind, Option.bind_some]
  by_cases hbounds : size < 2 ∨ data.length - offset < size.toNat
  · exact ⟨_, if_pos hbounds, trivial⟩
  rw [if_neg hbounds]
  have hfits : size.toNat ≤ data.length - offset := Nat.not_lt.mp fun h => hbounds (.inr h)
  by_cases hframe : isStartOfFrameMarker marker = true
  · rw [if_pos hframe]
    by_cases hsmall : size < 8
    · exact ⟨_, if_pos hsmall, trivial⟩
    · rw [UInt16.lt_iff_toNat_lt, Nat.not_lt] at hsmall
      have height : (8 : UInt16).toNat = 8 := rfl
      have hinside : offset + 6 < data.length := by omega
      obtain ⟨dimensions, hdimensions⟩ := dimensionsAt_total hinside
      rw [if_neg (by rw [UInt16.lt_iff_toNat_lt]; omega), hdimensions]
      exact ⟨_, rfl, trivial⟩
  · rw [if_neg hframe]
    exact ⟨_, rfl, by omega, by omega⟩

lemma dimensionsRound_total (data : List UInt8) (offset : ℕ) :
    ∃ round, dimensionsRound data offset = some round ∧
    round.Meets (fun o => data.length - o < data.length - offset) fun _ => True := by
  rcases suffix_cases data offset with h | ⟨b, rest, h, hb⟩ | ⟨fill, h⟩ |
    ⟨fill, marker, rest, h, hm⟩
  · exact ⟨_, if_pos (by omega), trivial⟩
  · by_cases hlast : offset + 1 < data.length
    · unfold dimensionsRound
      rw [if_neg (not_not.mpr hlast), getElem?_of_drop h]
      exact ⟨_, if_pos hb, trivial⟩
    · exact ⟨_, if_pos hlast, trivial⟩
  · by_cases hlast : offset + 1 < data.length
    · obtain ⟨-, hfirst, hskip⟩ := skipFill_replicate h
      unfold dimensionsRound
      rw [if_neg (not_not.mpr hlast), hfirst, hskip]
      exact ⟨_, if_pos (Nat.le_refl _), trivial⟩
    · exact ⟨_, if_pos hlast, trivial⟩
  · have hat := markerAt_of_drop h hm
    have hlt := hat.lt_marker
    rw [dimensionsRound_marker hat]
    have hinside : offset + (fill + 1) + 1 ≤ data.length := hlt
    obtain ⟨round, hround, hmeets⟩ := dimensionsAfterMarker_total marker hinside
    refine ⟨round, hround, ?_⟩
    cases round with
    | next o =>
      obtain ⟨hle, hinside⟩ := hmeets
      show data.length - o < data.length - offset
      omega
    | leave result => trivial

/-- What a round does with a segment of the grammar. -/
lemma dimensionsRound_segment (h : SegmentAt data offset segment tail)
    (hscan : segment.marker ≠ 0xda) :
    dimensionsRound data offset =
      if isStartOfFrameMarker segment.marker = true then
        match segment.dimensions? with
        | none => some (.leave ⟨false, 0, 0⟩)
        | some (width, height) => some (.leave ⟨0 < width && 0 < height, width, height⟩)
      else some (.next (offset + segment.header.length)) := by
  have hend : ¬ (segment.marker = 0xd9 ∨ segment.marker = 0xda) := by
    rintro (hend | hend)
    · exact segment.marker_ok.not_end hend
    · exact hscan hend
  rw [dimensionsRound_marker h.marker]
  unfold dimensionsAfterMarker
  simp only [Option.bind_eq_bind, Option.bind_some, if_neg hend, if_neg segment.marker_ok.not_lone,
    if_neg h.two_le, h.size, if_neg h.inBounds, h.next]
  by_cases hframe : isStartOfFrameMarker segment.marker = true
  · rw [if_pos hframe, if_pos hframe]
    cases hdimensions : segment.dimensions? with
    | none => exact if_pos (h.short_iff.mpr hdimensions)
    | some dimensions =>
      have hlarge : ¬ be16 segment.lengthHigh segment.lengthLow < 8 := by
        rw [h.short_iff, hdimensions]
        exact Option.some_ne_none _
      rw [dimensionsAt_eq h.marker.rest hdimensions, if_neg hlarge]
      rfl
  · rw [if_neg hframe, if_neg hframe]
    rfl

/-- The dimension scanner passes over the tables of an image, and finds its frame. -/
lemma run_dimensions {image : JpegImage} {tables : List JpegSegment} {rounds : ℕ}
    (hdrop : data.drop offset = tables.flatMap JpegSegment.encode ++ (image.frame.encode ++ tail))
    (htables : ∀ segment ∈ tables, ¬ segment.IsFrame ∧ ¬ segment.IsScan)
    (hrounds : (tables.flatMap JpegSegment.encode).length < rounds) :
    Loop.run (dimensionsRound data) rounds offset =
      some ⟨true, image.width, image.height⟩ := by
  induction tables generalizing offset rounds with
  | nil =>
    refine Loop.run_leave (by omega) ?_
    rw [dimensionsRound_segment (segmentAt_of_encode hdrop) (not_scan_of_frame image.frame_ok),
      if_pos (show isStartOfFrameMarker image.frame.marker = true from image.frame_ok),
      image.dimensions_eq]
    have hwidth : 0 < image.width := UInt16.pos_iff_ne_zero.mpr image.width_ne
    have hheight : 0 < image.height := UInt16.pos_iff_ne_zero.mpr image.height_ne
    simp only [hwidth, hheight, decide_true, Bool.and_self]
  | cons segment tables ih =>
    rw [List.flatMap_cons, List.append_assoc] at hdrop
    rw [List.flatMap_cons, List.length_append] at hrounds
    obtain ⟨hframe, hscan⟩ := htables segment List.mem_cons_self
    have hpos := encode_length_pos segment
    have hencode : segment.encode.length = segment.header.length := by
      rw [JpegSegment.encode, segment.entropy_eq hscan, List.flatMap_nil, List.append_nil]
    refine (Loop.run_next (by omega)
      ((dimensionsRound_segment (segmentAt_of_encode hdrop) hscan).trans (if_neg hframe))).trans ?_
    rw [← hencode]
    exact ih (drop_add_of_drop hdrop)
      (fun other hother => htables other (List.mem_cons_of_mem _ hother)) (by omega)

end Dimensions

/-! ## The scanners -/

section Scanners

/-- The scanners read the first and the last bytes one after the other. -/
lemma looksLikeJpeg_eq {first second third fourth : UInt8} (hlength : 4 ≤ data.length)
    (hfirst : data[0]? = some first) (hsecond : data[1]? = some second)
    (hthird : data[data.length - 2]? = some third)
    (hfourth : data[data.length - 1]? = some fourth) :
    looksLikeJpeg data =
      some (decide (first = 0xff ∧ second = 0xd8 ∧ third = 0xff ∧ fourth = 0xd9)) := by
  unfold looksLikeJpeg
  rw [if_neg (Nat.not_lt.mpr hlength), hfirst, hsecond, hthird, hfourth]
  simp only [Option.bind_eq_bind, Option.bind_some, Option.pure_def]
  by_cases h₁ : first = 0xff
  · by_cases h₂ : second = 0xd8
    · by_cases h₃ : third = 0xff
      · simp [h₁, h₂, h₃]
      · simp [h₁, h₂, h₃]
    · simp [h₁, h₂]
  · simp [h₁]

lemma looksLikeJpeg_total (data : List UInt8) : ∃ looks, looksLikeJpeg data = some looks ∧
    (looks = true → 2 ≤ data.length ∧ data.take 2 = [0xff, 0xd8]) := by
  by_cases hlength : 4 ≤ data.length
  · refine ⟨_, looksLikeJpeg_eq hlength (List.getElem?_eq_getElem (by omega))
      (List.getElem?_eq_getElem (by omega)) (List.getElem?_eq_getElem (by omega))
      (List.getElem?_eq_getElem (by omega)), fun h => ⟨by omega, ?_⟩⟩
    obtain ⟨hfirst, hsecond, -⟩ := of_decide_eq_true h
    rw [List.take_succ_eq_append_getElem (by omega), List.take_succ_eq_append_getElem (by omega),
      hfirst, hsecond]
    rfl
  · exact ⟨false, if_pos (Nat.not_le.mp hlength), fun h => by cases h⟩

lemma looksLikeJpeg_encode (image : JpegImage) : looksLikeJpeg image.encode = some true := by
  have hends : ∃ middle, image.encode = 0xff :: 0xd8 :: middle ++ [0xff, 0xd9] := by
    refine ⟨(image.tables ++ image.frame :: image.rest).flatMap JpegSegment.encode ++
      List.replicate image.endFill 0xff, ?_⟩
    rw [JpegImage.encode, markerBytes, List.replicate_succ']
    simp only [List.append_assoc, List.cons_append, List.nil_append]
  obtain ⟨middle, hencode⟩ := hends
  have hlength : image.encode.length = middle.length + 4 := by
    rw [hencode]
    simp only [List.length_append, List.length_cons, List.length_nil]
  have hfirst : image.encode[0]? = some 0xff := by rw [hencode]; rfl
  have hsecond : image.encode[1]? = some 0xd8 := by rw [hencode]; rfl
  have hthird : image.encode[image.encode.length - 2]? = some 0xff := by
    rw [hlength, hencode, List.getElem?_append_right (by simp)]
    simp
  have hfourth : image.encode[image.encode.length - 1]? = some 0xd9 := by
    rw [hlength, hencode, List.getElem?_append_right (by simp)]
    simp
  exact (looksLikeJpeg_eq (by omega) hfirst hsecond hthird hfourth).trans rfl

/-- **The structure scanner is a total recogniser of its grammar, and the dimension scanner agrees
with it**: neither reads beyond the bytes, whatever they are. -/
theorem jpegStructure_recognises (data : List UInt8) :
    (∃ result, jpegStructureIsValid data = some result) ∧
    (∃ result, jpegDimensions data = some result) ∧
    (∀ width height, jpegStructureIsValid data = some ⟨true, width, height⟩ ↔
      ∃ image : JpegImage, image.encode = data ∧ image.width = width ∧ image.height = height) ∧
    ∀ width height, jpegStructureIsValid data = some ⟨true, width, height⟩ →
      jpegDimensions data = some ⟨true, width, height⟩ := by
  have hcomplete : ∀ image : JpegImage, image.encode = data →
      jpegStructureIsValid data = some ⟨true, image.width, image.height⟩ ∧
      jpegDimensions data = some ⟨true, image.width, image.height⟩ := by
    rintro image rfl
    have hlooks := looksLikeJpeg_encode image
    have hdrop : image.encode.drop 2 =
        (image.tables ++ image.frame :: image.rest).flatMap JpegSegment.encode ++
          markerBytes image.endFill 0xd9 := by
      rw [JpegImage.encode, List.append_assoc]
      rfl
    have hlength := congrArg List.length hdrop
    rw [List.length_drop, List.length_append] at hlength
    constructor
    · unfold jpegStructureIsValid
      rw [hlooks]
      exact run_image hdrop image.tables_ok (by omega)
    · unfold jpegDimensions
      rw [hlooks]
      rw [List.flatMap_append, List.flatMap_cons, List.append_assoc, List.append_assoc] at hdrop
      rw [List.flatMap_append, List.length_append] at hlength
      exact run_dimensions hdrop image.tables_ok (by omega)
  obtain ⟨looks, hlooks, hstart⟩ := looksLikeJpeg_total data
  -- the structure scanner ends, with a sound answer
  have hsound : ∃ result, jpegStructureIsValid data = some result ∧
      JpegResult.Sound data result := by
    unfold jpegStructureIsValid
    rw [hlooks]
    cases looks with
    | false => exact ⟨_, rfl, fun h => by cases h⟩
    | true =>
      obtain ⟨hlength, htake⟩ := hstart rfl
      exact Loop.run_total (I := Parsed data) (Q := JpegResult.Sound data)
        (fun s => data.length - s.offset) (fun s hs => structureRound_sound hs)
        (.tables 2 [] hlength (by rw [htake]; rfl) (fun _ h => absurd h List.not_mem_nil))
        (by dsimp only; omega)
  have htotal : ∃ result, jpegDimensions data = some result := by
    unfold jpegDimensions
    rw [hlooks]
    cases looks with
    | false => exact ⟨_, rfl⟩
    | true =>
      have hinside : data.length - 2 < data.length + 1 := by omega
      exact Loop.run_terminates (fun offset => data.length - offset) (dimensionsRound_total data)
        hinside
  obtain ⟨result, hresult, himage⟩ := hsound
  have haccepts : ∀ width height, jpegStructureIsValid data = some ⟨true, width, height⟩ →
      ∃ image : JpegImage, image.encode = data ∧ image.width = width ∧ image.height = height := by
    intro width height h
    cases hresult.symm.trans h
    exact himage rfl
  refine ⟨⟨result, hresult⟩, htotal, fun width height => ⟨haccepts width height, ?_⟩, ?_⟩
  · rintro ⟨image, hencode, rfl, rfl⟩
    exact (hcomplete image hencode).1
  · intro width height h
    obtain ⟨image, hencode, rfl, rfl⟩ := haccepts width height h
    exact (hcomplete image hencode).2

end Scanners

end UnitreeGo2.Sensors
