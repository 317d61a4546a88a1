import UnitreeGo2.Lib.Binary64
import UnitreeGo2.Lib.Median
import UnitreeGo2.StampDiscipline.Config

/-!
# Estimating an affine clock

The estimators over receipt samples: quantiles, lower envelopes, the Theil–Sen slope of the age,
and the affine model that is built from them.  The float operations are rounded one by one.
-/

namespace UnitreeGo2.StampDiscipline

open TimeSync (Raised)
open Binary64 (nearest roundHalfEven)
open Median (median)

/-- A retained observation. -/
structure Sample where
  sourceNs : ℤ
  receiptMonotonicNs : ℤ
  ageNs : ℤ
  deriving DecidableEq, Repr

/-! ## Order statistics -/

/-- `_quantile`, for values that are not empty. -/
def quantile (values : List ℤ) (fraction : ℚ) : ℤ :=
  let index := max 0 (min ((values.length : ℤ) - 1) (⌈nearest (fraction * values.length)⌉ - 1))
  (values.insertionSort (· ≤ ·)).getD index.toNat 0

/-! ## Lower envelopes -/

/-- The order in which the samples of a bin compete: the least age first. -/
def Sample.better (candidate incumbent : Sample) : Bool :=
  candidate.ageNs < incumbent.ageNs ∨ candidate.ageNs = incumbent.ageNs ∧
    (candidate.receiptMonotonicNs < incumbent.receiptMonotonicNs ∨
      candidate.receiptMonotonicNs = incumbent.receiptMonotonicNs ∧
        candidate.sourceNs < incumbent.sourceNs)

/-- The best sample of each bin, the bins in ascending order. -/
def insertBin (key : ℤ) (candidate : Sample) : List (ℤ × Sample) → List (ℤ × Sample)
  | [] => [(key, candidate)]
  | (bin, incumbent) :: bins =>
    if key < bin then (key, candidate) :: (bin, incumbent) :: bins
    else if key = bin then
      (bin, if candidate.better incumbent then candidate else incumbent) :: bins
    else (bin, incumbent) :: insertBin key candidate bins

/-- The bin of a sample. -/
def Sample.bin (sample : Sample) (binNs anchorMonotonicNs : ℤ) : ℤ :=
  (sample.receiptMonotonicNs - anchorMonotonicNs) / binNs

/-- `_lower_envelope_points`, for an anchor that is not negative. -/
def lowerEnvelopePoints (samples : List Sample) (binNs anchorMonotonicNs : ℤ) : List Sample :=
  (samples.foldl (fun bins sample =>
    insertBin (sample.bin binNs anchorMonotonicNs) sample bins) []).map Prod.snd

/-- The pairs of a list, each in the order of the list. -/
def orderedPairs {α : Type*} : List α → List (α × α)
  | [] => []
  | left :: rest => rest.map (left, ·) ++ orderedPairs rest

/-- The age slopes of the pairs of points, in ppm; the float operations are rounded. -/
def ageSlopesPpm (round : ℚ → ℚ) (points : List Sample) : List ℚ :=
  ((orderedPairs points).filter fun pair =>
    0 < pair.2.receiptMonotonicNs - pair.1.receiptMonotonicNs).map fun pair =>
      round (round (((pair.2.ageNs - pair.1.ageNs : ℤ) : ℚ) /
        ((pair.2.receiptMonotonicNs - pair.1.receiptMonotonicNs : ℤ) : ℚ)) * 1000000)

/-- `_theil_sen_age_drift_ppm`; the float operations are rounded. -/
def theilSenAgeDriftPpm (round : ℚ → ℚ) (points : List Sample) : Option ℚ :=
  if points.length < 4 then none
  else if ageSlopesPpm round points = [] then none
  else some (median round (ageSlopesPpm round points))

/-- `_pairwise_drift_disagreements`. -/
def pairwiseDriftDisagreements (drifts : List (String × ℚ)) (limitPpm : ℚ) : List String :=
  (drifts.filter fun drift =>
    drifts.any fun other => other.1 ≠ drift.1 ∧ limitPpm < |nearest (drift.2 - other.2)|).map
      Prod.fst

/-- The median drift, when there is one for every core stream. -/
def commonDrift (drifts : List (String × Option ℚ)) : Option ℚ :=
  let finiteDrifts := drifts.filterMap Prod.snd
  if finiteDrifts.length = drifts.length then some (median nearest finiteDrifts) else none

/-! ## The affine model -/

/-- `_source_to_local_scale`. -/
def sourceToLocalScale (driftPpm : ℚ) : Except Raised ℚ :=
  let denominator := nearest (1 - nearest (driftPpm * nearest (1 / 1000000)))
  if denominator ≤ 0 then
    .error (.valueError "affine drift produces a non-positive clock rate")
  else .ok (nearest (1 / denominator))

/-- One frozen mapping from the source clock to local realtime. -/
structure AffineClockModel where
  anchorSourceNs : ℤ
  anchorLocalNs : ℤ
  driftPpm : ℚ
  sourceToLocalScale : ℚ
  coreStreamDriftsPpm : List (String × ℚ)
  streamBaselineCorrectedAgeNs : List (String × ℤ)
  deriving DecidableEq

namespace AffineClockModel

def correctedStampNs (model : AffineClockModel) (sourceStampNs : ℤ) : Except Raised ℤ :=
  if sourceStampNs ≤ 0 then .error (.valueError "source stamp must be a positive integer")
  else
    let corrected := model.anchorLocalNs + roundHalfEven (nearest
      (nearest ((sourceStampNs - model.anchorSourceNs : ℤ) : ℚ) * model.sourceToLocalScale))
    if corrected ≤ 0 ∨ 2 ^ 63 ≤ corrected then
      .error (.valueError "affine-corrected stamp is outside positive int64")
    else .ok corrected

def offsetAtSourceNs (model : AffineClockModel) (sourceStampNs : ℤ) : Except Raised ℤ := do
  return (← model.correctedStampNs sourceStampNs) - sourceStampNs

/-- The corrected ages of samples. -/
def correctedAges (model : AffineClockModel) (samples : List Sample) : Except Raised (List ℤ) :=
  samples.mapM fun sample => return sample.ageNs - (← model.offsetAtSourceNs sample.sourceNs)

end AffineClockModel

/-- The age of a sample at the anchor, had it drifted there. -/
def Sample.anchorAge (sample : Sample) (anchorSourceNs : ℤ) (ageSlopePerSource : ℚ) : ℚ :=
  nearest (nearest sample.ageNs -
    nearest (nearest ((sample.sourceNs - anchorSourceNs : ℤ) : ℚ) * ageSlopePerSource))

end UnitreeGo2.StampDiscipline
