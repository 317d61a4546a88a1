import UnitreeGo2.Lib.BoundedLoop
import Mathlib.Data.List.Basic

/-!
# The JPEG scanners of the camera

Two functions of the camera protocol walk over the bytes of a JPEG image: one reads its
dimensions, and one checks its whole marker stream.  Every access to the bytes is checked here,
and an access beyond them is a fault.  Against them stands the grammar of an image.  An object
in memory is so small that no sum of an offset and a length wraps.
-/

namespace UnitreeGo2.Sensors

/-! ## Markers -/

def isStartOfFrameMarker (marker : UInt8) : Bool :=
  (0xc0 ≤ marker && marker ≤ 0xc3) || (0xc5 ≤ marker && marker ≤ 0xc7) ||
    (0xc9 ≤ marker && marker ≤ 0xcb) || (0xcd ≤ marker && marker ≤ 0xcf)

def isRestartMarker (marker : UInt8) : Bool := 0xd0 ≤ marker && marker ≤ 0xd7

/-- Two bytes as a number in network order. -/
def be16 (high low : UInt8) : UInt16 := (high.toUInt16 <<< 8) ||| low.toUInt16

/-! ## The scanners -/

/-- The answer of a scanner with its output parameters. -/
structure JpegResult where
  valid : Bool
  width : UInt16
  height : UInt16
  deriving DecidableEq

/-- `looks_like_jpeg` of bytes that are there; a null pointer is turned away. -/
def looksLikeJpeg (data : List UInt8) : Option Bool := do
  if data.length < 4 then return false
  if (← data[0]?) ≠ 0xff then return false
  if (← data[1]?) ≠ 0xd8 then return false
  if (← data[data.length - 2]?) ≠ 0xff then return false
  return (← data[data.length - 1]?) = 0xd9

/-- The loop over the bytes `0xff` before a marker. -/
def skipFill (data : List UInt8) (offset : ℕ) : Option ℕ :=
  Loop.run (fun offset => do
    if ¬ offset < data.length then return .leave offset
    if (← data[offset]?) ≠ 0xff then return .leave offset
    return .next (offset + 1)) (data.length + 1) offset

/-- The length of the segment whose length field is at an offset. -/
def segmentSizeAt (data : List UInt8) (offset : ℕ) : Option UInt16 := do
  return be16 (← data[offset]?) (← data[offset + 1]?)

/-- The dimensions in the start of frame whose length field is at an offset. -/
def dimensionsAt (data : List UInt8) (offset : ℕ) : Option (UInt16 × UInt16) := do
  let height := be16 (← data[offset + 3]?) (← data[offset + 4]?)
  let width := be16 (← data[offset + 5]?) (← data[offset + 6]?)
  return (width, height)

/-- A round of the loop in `jpeg_dimensions`, after it has read a marker. -/
def dimensionsAfterMarker (data : List UInt8) (marker : UInt8) (offset : ℕ) :
    Option (Round ℕ JpegResult) := do
  let invalid : Round ℕ JpegResult := .leave ⟨false, 0, 0⟩
  if marker = 0xd9 ∨ marker = 0xda then return invalid
  if marker = 0x01 ∨ isRestartMarker marker then return .next offset
  if data.length < offset + 2 then return invalid
  let segmentSize ← segmentSizeAt data offset
  if segmentSize < 2 ∨ data.length - offset < segmentSize.toNat then return invalid
  if isStartOfFrameMarker marker then
    if segmentSize < 8 then return invalid
    let (width, height) ← dimensionsAt data offset
    return .leave ⟨0 < width && 0 < height, width, height⟩
  return .next (offset + segmentSize.toNat)

/-- A round of the loop in `jpeg_dimensions`. -/
def dimensionsRound (data : List UInt8) (offset : ℕ) : Option (Round ℕ JpegResult) := do
  let invalid : Round ℕ JpegResult := .leave ⟨false, 0, 0⟩
  if ¬ offset + 1 < data.length then return invalid
  if (← data[offset]?) ≠ 0xff then return invalid
  let offset ← skipFill data offset
  if data.length ≤ offset then return invalid
  let marker ← data[offset]?
  dimensionsAfterMarker data marker (offset + 1)

def jpegDimensions (data : List UInt8) : Option JpegResult := do
  if (← looksLikeJpeg data) = false then return ⟨false, 0, 0⟩
  Loop.run (dimensionsRound data) (data.length + 1) 2

/-- A round of the loop over entropy-coded data, which leaves with the place of the first
marker that is no part of it. -/
def entropyRound (data : List UInt8) (offset : ℕ) : Option (Round ℕ (Option ℕ)) := do
  if ¬ offset < data.length then return .leave none
  if (← data[offset]?) ≠ 0xff then return .next (offset + 1)
  let markerStart := offset
  let offset ← skipFill data offset
  if data.length ≤ offset then return .leave none
  let scanMarker ← data[offset]?
  let offset := offset + 1
  if scanMarker = 0x00 ∨ isRestartMarker scanMarker then return .next offset
  return .leave (some markerStart)

def skipEntropy (data : List UInt8) (offset : ℕ) : Option (Option ℕ) :=
  Loop.run (entropyRound data) (data.length + 1) offset

/-- The local variables of `jpeg_structure_is_valid`. -/
structure JpegScan where
  offset : ℕ
  sawStartOfFrame : Bool := false
  sawStartOfScan : Bool := false
  width : UInt16 := 0
  height : UInt16 := 0

/-- `return false`. -/
def JpegScan.invalid (s : JpegScan) : Round JpegScan JpegResult := .leave ⟨false, s.width, s.height⟩

/-- The end of a round, after a segment of the marker. -/
def JpegScan.finishSegment (data : List UInt8) (s : JpegScan) (marker : UInt8) :
    Option (Round JpegScan JpegResult) := do
  if marker ≠ 0xda then return .next s
  if s.sawStartOfFrame = false then return s.invalid
  match ← skipEntropy data s.offset with
  | none => return s.invalid
  | some markerStart => return .next { s with offset := markerStart, sawStartOfScan := true }

/-- A round of the loop in `jpeg_structure_is_valid`, after it has read a marker. -/
def JpegScan.afterMarker (data : List UInt8) (s : JpegScan) (marker : UInt8) (offset : ℕ) :
    Option (Round JpegScan JpegResult) := do
  if marker = 0x00 ∨ marker = 0xd8 then return s.invalid
  if marker = 0xd9 then
    return .leave ⟨s.sawStartOfFrame && s.sawStartOfScan && offset = data.length,
      s.width, s.height⟩
  if marker = 0x01 ∨ isRestartMarker marker then return s.invalid
  if data.length < offset + 2 then return s.invalid
  let segmentSize ← segmentSizeAt data offset
  if segmentSize < 2 ∨ data.length - offset < segmentSize.toNat then return s.invalid
  if isStartOfFrameMarker marker then
    if s.sawStartOfFrame = true ∨ segmentSize < 8 then return s.invalid
    let (width, height) ← dimensionsAt data offset
    if width = 0 ∨ height = 0 then return .leave ⟨false, width, height⟩
    JpegScan.finishSegment data
      { s with offset := offset + segmentSize.toNat, sawStartOfFrame := true, width, height } marker
  else
    JpegScan.finishSegment data { s with offset := offset + segmentSize.toNat } marker

/-- A round of the loop in `jpeg_structure_is_valid`. -/
def structureRound (data : List UInt8) (s : JpegScan) : Option (Round JpegScan JpegResult) := do
  if ¬ s.offset < data.length then return s.invalid
  if (← data[s.offset]?) ≠ 0xff then return s.invalid
  let offset ← skipFill data s.offset
  if data.length ≤ offset then return s.invalid
  let marker ← data[offset]?
  s.afterMarker data marker (offset + 1)

def jpegStructureIsValid (data : List UInt8) : Option JpegResult := do
  if (← looksLikeJpeg data) = false then return ⟨false, 0, 0⟩
  Loop.run (structureRound data) (data.length + 1) { offset := 2 }

/-- A frame of two by one pixels, and a scan with a stuffed byte. -/
example : jpegStructureIsValid [0xff, 0xd8, 0xff, 0xc0, 0, 8, 8, 0, 1, 0, 2, 0, 0xff, 0xda, 0, 2,
    0x11, 0xff, 0, 0xff, 0xd9] = some ⟨true, 2, 1⟩ := by decide +kernel

/-! ## The grammar -/

/-- A marker with `fill` more bytes `0xff` before it than it needs. -/
def markerBytes (fill : ℕ) (marker : UInt8) : List UInt8 :=
  List.replicate (fill + 1) 0xff ++ [marker]

/-- The markers of the segments that have a length. -/
structure SegmentMarker (marker : UInt8) : Prop where
  not_stuffing : marker ≠ 0x00
  not_temporary : marker ≠ 0x01
  not_restart : isRestartMarker marker = false
  not_start : marker ≠ 0xd8
  not_end : marker ≠ 0xd9
  not_fill : marker ≠ 0xff

/-- A piece of entropy-coded data: a byte, or an escaped `0xff` that stands for a stuffed byte or
for a restart marker. -/
inductive EntropyUnit where
  | byte (value : UInt8) (h : value ≠ 0xff)
  | escape (fill : ℕ) (code : UInt8) (h : code = 0x00 ∨ isRestartMarker code = true)

def EntropyUnit.encode : EntropyUnit → List UInt8
  | byte value _ => [value]
  | escape fill code _ => markerBytes fill code

/-- A marker segment, and the entropy-coded data after it if it starts a scan. -/
structure JpegSegment where
  fill : ℕ
  marker : UInt8
  lengthHigh : UInt8
  lengthLow : UInt8
  payload : List UInt8
  entropy : List EntropyUnit
  marker_ok : SegmentMarker marker
  /-- The length counts its own two bytes. -/
  length_eq : 256 * lengthHigh.toNat + lengthLow.toNat = payload.length + 2
  entropy_eq : marker ≠ 0xda → entropy = []

namespace JpegSegment

/-- The bytes up to the entropy-coded data. -/
def header (segment : JpegSegment) : List UInt8 :=
  markerBytes segment.fill segment.marker ++
    segment.lengthHigh :: segment.lengthLow :: segment.payload

def encode (segment : JpegSegment) : List UInt8 :=
  segment.header ++ segment.entropy.flatMap EntropyUnit.encode

def IsFrame (segment : JpegSegment) : Prop := isStartOfFrameMarker segment.marker = true

def IsScan (segment : JpegSegment) : Prop := segment.marker = 0xda

/-- The width and the height in the payload of a frame. -/
def dimensions? (segment : JpegSegment) : Option (UInt16 × UInt16) :=
  match segment.payload with
  | _ :: heightHigh :: heightLow :: widthHigh :: widthLow :: _ :: _ =>
    some (be16 widthHigh widthLow, be16 heightHigh heightLow)
  | _ => none

end JpegSegment

/-- An image: tables, one frame with its dimensions, and more segments with a scan among them. -/
structure JpegImage where
  tables : List JpegSegment
  frame : JpegSegment
  rest : List JpegSegment
  endFill : ℕ
  width : UInt16
  height : UInt16
  tables_ok : ∀ segment ∈ tables, ¬ segment.IsFrame ∧ ¬ segment.IsScan
  frame_ok : frame.IsFrame
  dimensions_eq : frame.dimensions? = some (width, height)
  width_ne : width ≠ 0
  height_ne : height ≠ 0
  rest_ok : ∀ segment ∈ rest, ¬ segment.IsFrame
  scan : ∃ segment ∈ rest, segment.IsScan

def JpegImage.encode (image : JpegImage) : List UInt8 :=
  [0xff, 0xd8] ++ (image.tables ++ image.frame :: image.rest).flatMap JpegSegment.encode ++
    markerBytes image.endFill 0xd9

end UnitreeGo2.Sensors
