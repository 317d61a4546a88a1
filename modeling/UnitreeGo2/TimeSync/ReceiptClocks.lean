import Mathlib.Algebra.Group.Int.Defs
import Mathlib.Data.Int.Notation
import Mathlib.Data.Nat.Notation
import Mathlib.Tactic.Lemma

/-!
# Receipt clocks and source stamps

A receipt time is a realtime clock reading between two monotonic ones.  It is used only when
the three reads are close together and the last of them is recent.
-/

namespace UnitreeGo2.TimeSync

/-- The exceptions of the time discipline, with their texts. -/
inductive Raised where
  | relayError (text : String)
  /-- A cloud that is too old, but not so old that the relay gives up. -/
  | transientCloudStale (correctedAgeNs publishLimitNs recoveryCeilingNs : ℤ)
  | valueError (text : String)
  | runtimeError (text : String)
  /-- An exception of the middleware, the message classes or the file system. -/
  | other (typeName text : String)
  deriving DecidableEq, Repr

namespace Raised

/-- `type(error).__name__`. -/
def typeName : Raised → String
  | relayError _ => "RelayError"
  | transientCloudStale _ _ _ => "TransientCloudStale"
  | valueError _ => "ValueError"
  | runtimeError _ => "RuntimeError"
  | other typeName _ => typeName

/-- `str(error)`. -/
def text : Raised → String
  | relayError text => text
  | transientCloudStale correctedAgeNs publishLimitNs recoveryCeilingNs =>
    "corrected cloud timestamp is transiently stale:" ++
      s!"corrected_age_ns={correctedAgeNs}:" ++ s!"publish_limit_ns={publishLimitNs}:" ++
      s!"recovery_ceiling_ns={recoveryCeilingNs}"
  | valueError text => text
  | runtimeError text => text
  | other _ text => text

end Raised

/-! ## Clock pairs -/

def CLOCK_PAIR_HARD_LIMIT_NS : ℤ := 1000000

def MOTION_CLOCK_PAIR_AGE_ACQUISITION_ATTEMPTS : ℕ := 3

def NOMOTION_CLOCK_PAIR_AGE_ACQUISITION_ATTEMPTS : ℕ := 3

/-- One paired realtime/monotonic sample plus return-time freshness. -/
structure ReceiptClockPair where
  realtimeNs : ℤ
  monotonicNs : ℤ
  readSpanNs : ℤ
  selectedPairAgeNs : ℤ
  deriving DecidableEq, Repr

/-- The three clock reads of one attempt. -/
structure ClockReads where
  beforeNs : ℤ
  realtimeNs : ℤ
  afterNs : ℤ

/-- All clock reads of one acquisition of a pair. -/
structure Acquisition where
  /-- The reads of the attempts, in order. -/
  attempt : ℕ → ClockReads
  returnGuardNs : ℤ
  useGuardNs : ℤ

/-- The sample of one attempt, before its age is known. -/
def ClockReads.sample (reads : ClockReads) : ReceiptClockPair where
  realtimeNs := reads.realtimeNs
  monotonicNs := (reads.beforeNs + reads.afterNs) / 2
  readSpanNs := reads.afterNs - reads.beforeNs
  selectedPairAgeNs := 0

/-- The last sample with a bounded span, and the last sample where there is none. -/
def selectedSample (attempt : ℕ → ClockReads) (attempts : ℕ) : ReceiptClockPair :=
  let latest := (attempt (attempts - 1)).sample
  (((List.range attempts).map fun index => (attempt index).sample).reverse.find? fun sample =>
    0 ≤ sample.readSpanNs ∧ sample.readSpanNs ≤ CLOCK_PAIR_HARD_LIMIT_NS).getD latest

/-- The pair of an acquisition; the callers here leave `attempts` at 3. -/
def pairedReceiptClocks (reads : Acquisition) (attempts : ℕ) : ReceiptClockPair :=
  let selected := selectedSample reads.attempt attempts
  { selected with selectedPairAgeNs := reads.returnGuardNs - selected.monotonicNs }

/-- The loop of `fresh_paired_receipt_clocks`: over-limit pairs are acquired again. -/
def acquireFreshPair (maxClockReadSpanNs maxPairAgeNs : ℤ) (attempts : ℕ) :
    List Acquisition → String → Except Raised ReceiptClockPair
  | [], lastRetryableError => .error (.runtimeError lastRetryableError)
  | reads :: rest, _ =>
    let pair := pairedReceiptClocks reads attempts
    let pairAgeNs := reads.useGuardNs - pair.monotonicNs
    let returnAgeNs := pair.selectedPairAgeNs
    let ageError := "clock_pair_age_exceeded:" ++
      s!"age_ns={pairAgeNs}:return_age_ns={returnAgeNs}:" ++ s!"limit_ns={maxPairAgeNs}"
    let spanNs := pair.readSpanNs
    let readSpanError :=
      "clock_pair_read_span_exceeded:" ++ s!"span_ns={spanNs}:limit_ns={maxClockReadSpanNs}"
    if returnAgeNs < 0 ∨ pairAgeNs < returnAgeNs then .error (.runtimeError ageError)
    else if spanNs < 0 then .error (.runtimeError readSpanError)
    else if spanNs > maxClockReadSpanNs then
      acquireFreshPair maxClockReadSpanNs maxPairAgeNs attempts rest readSpanError
    else if pairAgeNs > maxPairAgeNs then
      acquireFreshPair maxClockReadSpanNs maxPairAgeNs attempts rest ageError
    else .ok { pair with selectedPairAgeNs := pairAgeNs }

/-- A pair that is fresh when it is used, where `reads` are the acquisitions in order. -/
def freshPairedReceiptClocks (maxClockReadSpanNs : ℤ) (ageAcquisitionAttempts : ℕ)
    (reads : ℕ → Acquisition) : Except Raised ReceiptClockPair :=
  let maxPairAgeNs := CLOCK_PAIR_HARD_LIMIT_NS
  if ¬ (0 < maxClockReadSpanNs ∧ maxClockReadSpanNs ≤ CLOCK_PAIR_HARD_LIMIT_NS) then
    .error (.valueError "clock-pair freshness limits must be positive and <= 1 ms")
  else if ¬ (1 ≤ ageAcquisitionAttempts ∧
      ageAcquisitionAttempts ≤ NOMOTION_CLOCK_PAIR_AGE_ACQUISITION_ATTEMPTS) then
    .error (.valueError "clock-pair age acquisition attempts must be an integer from 1 to 3")
  else
    acquireFreshPair maxClockReadSpanNs maxPairAgeNs 3
      ((List.range ageAcquisitionAttempts).map reads) ""

/-! ## Stamps -/

/-- A `builtin_interfaces/Time`. -/
structure Time where
  sec : ℤ
  nanosec : ℤ
  deriving DecidableEq, Repr

def sourceStampNs (stamp : Time) : Except Raised ℤ :=
  if stamp.sec < 0 ∨ ¬ (0 ≤ stamp.nanosec ∧ stamp.nanosec < 1000000000) then
    .error (.valueError "source stamp is not a valid ROS time")
  else
    let value := stamp.sec * 1000000000 + stamp.nanosec
    if value ≤ 0 ∨ 2 ^ 63 ≤ value then
      .error (.valueError "source stamp is outside the supported positive int64 range")
    else .ok value

/-- Apply only the immutable approved offset and return ROS stamp fields. -/
def correctedStampParts (sourceNs fixedOffsetNs : ℤ) : Except Raised Time :=
  let correctedNs := sourceNs + fixedOffsetNs
  if correctedNs ≤ 0 ∨ 2 ^ 63 ≤ correctedNs then
    .error (.valueError "corrected stamp is outside the positive int64 range")
  else .ok ⟨correctedNs / 1000000000, correctedNs % 1000000000⟩

/-- The stamp of a corrected time is read back as that time. -/
lemma sourceStampNs_of_correctedStampParts {correctedNs : ℤ} {stamp : Time}
    (h : correctedStampParts correctedNs 0 = .ok stamp) :
    sourceStampNs stamp = .ok correctedNs := by
  unfold correctedStampParts at h
  dsimp only at h
  split at h
  · cases h
  · rename_i hrange
    cases h
    have hvalue : correctedNs / 1000000000 * 1000000000 + correctedNs % 1000000000 =
        correctedNs := Int.ediv_mul_add_emod correctedNs 1000000000
    unfold sourceStampNs
    simp only [Int.add_zero] at hrange ⊢
    rw [if_neg (by omega), hvalue, if_neg hrange]

end UnitreeGo2.TimeSync
