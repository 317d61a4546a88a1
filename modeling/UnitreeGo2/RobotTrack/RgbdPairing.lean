import UnitreeGo2.RobotTrack.DistanceControl
import UnitreeGo2.Lib.Machine

/-!
# Pairing of RGB and depth frames

Both camera streams of the tracker come in callbacks of their own.  The pairer keeps the latest
frame of either stream and puts out a pair as soon as the two fit together, with every frame in
one pair at most.
-/

namespace UnitreeGo2.RobotTrack

/-- The format `.3f`. -/
def fixed3 (x : ℚ) : String :=
  let mills := (roundHalfEven (1000 * |x|)).toNat
  let digits := toString (mills % 1000)
  (if x < 0 then "-" else "") ++ s!"{mills / 1000}." ++
    String.ofList (List.replicate (3 - digits.length) '0') ++ digits

/-! ## The pairer -/

/-- An image with its times on the clock of its source and on that of its receiver. -/
structure TimedRgbdFrame (I : Type) where
  image : I
  sourceTimestampS : ℚ
  receivedMonotonic : ℚ
  sequence : ℕ
  deriving DecidableEq

structure RgbdFramePair (I : Type) where
  rgb : TimedRgbdFrame I
  depth : TimedRgbdFrame I
  sourceDeltaS : ℚ
  deriving DecidableEq

/-- When the older frame of the pair came. -/
def RgbdFramePair.receivedMonotonic {I : Type} (pair : RgbdFramePair I) : ℚ :=
  min pair.rgb.receivedMonotonic pair.depth.receivedMonotonic

structure RgbdPairDecision (I : Type) where
  pair : Option (RgbdFramePair I) := none
  status : String
  detail : String
  invalidateMeasurement : Bool
  deriving DecidableEq

/-- The bounds of a pairer, as its constructor has checked them. -/
structure PairerBounds where
  maxSourceDeltaS : ℚ
  maxFrameAgeS : ℚ
  delta_nonneg : 0 ≤ maxSourceDeltaS
  age_pos : 0 < maxFrameAgeS

/-- The constructor. -/
def PairerBounds.init (maxSourceDeltaS maxFrameAgeS : FloatInput) : Except String PairerBounds := do
  let sourceDelta ← finiteFloat maxSourceDeltaS "max_source_delta_s"
  let maxAge ← finiteFloat maxFrameAgeS "max_frame_age_s"
  if hdelta : 0 ≤ sourceDelta then
    if hage : 0 < maxAge then return ⟨sourceDelta, maxAge, hdelta, hage⟩
    else throw "max_frame_age_s must be positive"
  else throw "max_source_delta_s must be non-negative"

/-- The two streams, whose frames are treated alike. -/
inductive RgbdStream where
  | rgb
  | depth
  deriving DecidableEq, Repr

def RgbdFramePair.frame {I : Type} (pair : RgbdFramePair I) : RgbdStream → TimedRgbdFrame I
  | .rgb => pair.rgb
  | .depth => pair.depth

structure LatestRgbdPairer (I : Type) where
  latest : RgbdStream → Option (TimedRgbdFrame I) := fun _ => none
  sequence : RgbdStream → ℕ := fun _ => 0
  emitted : RgbdStream → ℕ := fun _ => 0

namespace LatestRgbdPairer

variable {I : Type}

/-- The decision on the latest frames, if both of them are new. -/
def judge (bounds : PairerBounds) (rgb depth : TimedRgbdFrame I) (nowMonotonic : ℚ) :
    RgbdPairDecision I :=
  let rgbAge := nowMonotonic - rgb.receivedMonotonic
  let depthAge := nowMonotonic - depth.receivedMonotonic
  let sourceDelta := |rgb.sourceTimestampS - depth.sourceTimestampS|
  if rgbAge < 0 ∨ depthAge < 0 then
    { status := "future_receive_time"
      detail := "RGB-D receive timestamps are ahead of the pairing clock"
      invalidateMeasurement := true }
  else if bounds.maxFrameAgeS < rgbAge ∨ bounds.maxFrameAgeS < depthAge then
    { status := "stale_rgbd_pair"
      detail := s!"RGB/depth receive ages are {fixed3 rgbAge}s/{fixed3 depthAge}s"
      invalidateMeasurement := true }
  else if bounds.maxSourceDeltaS < sourceDelta ∧
      ¬ isclose sourceDelta bounds.maxSourceDeltaS edgeTolerance then
    let waitingForDepth := depth.sourceTimestampS < rgb.sourceTimestampS
    { status := if waitingForDepth then "awaiting_matching_depth" else "awaiting_matching_rgb"
      detail := s!"RGB/depth source stamp delta {fixed3 sourceDelta}s exceeds " ++
        s!"{fixed3 bounds.maxSourceDeltaS}s; waiting for matching " ++
        (if waitingForDepth then "depth" else "RGB") ++ " frame"
      invalidateMeasurement := false }
  else
    { pair := some ⟨rgb, depth, sourceDelta⟩
      status := "paired"
      detail := s!"RGB/depth source stamp delta {fixed3 sourceDelta}s"
      invalidateMeasurement := false }

/-- The decision of `_match_locked`. -/
def decision (bounds : PairerBounds) (p : LatestRgbdPairer I) (nowMonotonic : ℚ) :
    RgbdPairDecision I :=
  match p.latest .rgb with
  | none =>
    { status := "missing_rgb"
      detail := "no RGB frame is available for the latest depth frame"
      invalidateMeasurement := true }
  | some rgb =>
    if rgb.sequence ≤ p.emitted .rgb then
      { status := "awaiting_new_rgb"
        detail := "the latest RGB frame was already processed"
        invalidateMeasurement := false }
    else
      match p.latest .depth with
      | none =>
        { status := "missing_depth"
          detail := "no aligned depth frame is available"
          invalidateMeasurement := true }
      | some depth =>
        if depth.sequence ≤ p.emitted .depth then
          { status := "awaiting_new_depth"
            detail := "the latest aligned depth frame was already processed"
            invalidateMeasurement := false }
        else judge bounds rgb depth nowMonotonic

/-- `_match_locked`, which remembers the frames of the pair that it puts out. -/
def matchLocked (bounds : PairerBounds) (p : LatestRgbdPairer I) (nowMonotonic : ℚ) :
    RgbdPairDecision I × LatestRgbdPairer I :=
  let decision := p.decision bounds nowMonotonic
  (decision,
    match decision.pair with
    | none => p
    | some pair => { p with emitted := fun stream => (pair.frame stream).sequence })

/-- The latest frame of a stream is another one. -/
def store (p : LatestRgbdPairer I) (stream : RgbdStream) (image : I) (source received : ℚ) :
    LatestRgbdPairer I :=
  { p with
    sequence := fun other => if other = stream then p.sequence stream + 1 else p.sequence other
    latest := fun other =>
      if other = stream then some ⟨image, source, received, p.sequence stream + 1⟩
      else p.latest other }

/-- `offer_rgb` and `offer_depth` under their lock. -/
def offer (bounds : PairerBounds) (p : LatestRgbdPairer I) (stream : RgbdStream) (image : I)
    (source received : ℚ) : RgbdPairDecision I × LatestRgbdPairer I :=
  (p.store stream image source received).matchLocked bounds received

def offerRgb (bounds : PairerBounds) (p : LatestRgbdPairer I) (image : I) (source received : ℚ) :
    RgbdPairDecision I × LatestRgbdPairer I :=
  p.offer bounds .rgb image source received

def offerDepth (bounds : PairerBounds) (p : LatestRgbdPairer I) (image : I)
    (source received : ℚ) : RgbdPairDecision I × LatestRgbdPairer I :=
  p.offer bounds .depth image source received

end LatestRgbdPairer

/-- `fresh_rgbd_measurement_timestamp`, for finite times. -/
def freshRgbdMeasurementTimestamp {I : Type} (pair : RgbdFramePair I) (nowMonotonic maxAgeS : ℚ) :
    Option ℚ :=
  let age := nowMonotonic - pair.receivedMonotonic
  if age < 0 ∨ (maxAgeS < age ∧ ¬ isclose age maxAgeS edgeTolerance) then none
  else some pair.receivedMonotonic

/-! ## Its runs -/

/-- The methods of the pairer.  A frame brings the time that its thread has read. -/
inductive PairerEvent (I : Type) where
  | offer (stream : RgbdStream) (image : I) (source received : ℚ)
  | clear

/-- The pairer, whose methods run under its lock on any thread. -/
def rgbdPairer (I : Type) (bounds : PairerBounds) :
    Machine (LatestRgbdPairer I) (PairerEvent I) (Option (RgbdPairDecision I)) where
  step p event :=
    match event with
    | .offer stream image source received =>
      let (decision, p') := p.offer bounds stream image source received
      (some decision, p')
    | .clear => (none, {})

abbrev PairerStep (I : Type) :=
  Machine.Step (LatestRgbdPairer I) (PairerEvent I) (Option (RgbdPairDecision I))

variable {I : Type}

/-- The step brings the frame, which is then the latest of its stream. -/
def Offers (stream : RgbdStream) (frame : TimedRgbdFrame I) (x : PairerStep I) : Prop :=
  x.event = .offer stream frame.image frame.sourceTimestampS frame.receivedMonotonic ∧
    x.post.latest stream = some frame

/-- The step puts out the pair. -/
def Emits (pair : RgbdFramePair I) (x : PairerStep I) : Prop :=
  ∃ decision, x.output = some decision ∧ decision.pair = some pair

/-- The event leaves the latest frame of the stream in place. -/
def PairerEvent.Spares (stream : RgbdStream) : PairerEvent I → Prop
  | .offer other _ _ _ => other ≠ stream
  | .clear => False

/-- The frame is the last one of its stream that the history brings. -/
def LatestOffer (stream : RgbdStream) (frame : TimedRgbdFrame I) (tr : List (PairerStep I)) :
    Prop :=
  ∃ l x r, tr = l ++ x :: r ∧ Offers stream frame x ∧ ∀ y ∈ r, y.event.Spares stream

/-- The pair fits together at the time at which it is put out. -/
structure Fits (bounds : PairerBounds) (pair : RgbdFramePair I) (now : ℚ) : Prop where
  arrived : ∀ stream, (pair.frame stream).receivedMonotonic ≤ now
  young : ∀ stream, now - (pair.frame stream).receivedMonotonic ≤ bounds.maxFrameAgeS
  delta : pair.sourceDeltaS = |pair.rgb.sourceTimestampS - pair.depth.sourceTimestampS|
  close : pair.sourceDeltaS ≤ bounds.maxSourceDeltaS + edgeTolerance

/-- What holds of the pairs of a run. -/
structure PairsOnce (bounds : PairerBounds) (tr : List (PairerStep I)) : Prop where
  /-- A pair consists of the latest frames of both streams. -/
  latest : ∀ l x r pair, tr = l ++ x :: r → Emits pair x →
    ∀ stream, LatestOffer stream (pair.frame stream) (l ++ [x])
  /-- It fits together when its second frame comes. -/
  fits : ∀ x ∈ tr, ∀ pair, Emits pair x → ∃ stream image source received,
    x.event = .offer stream image source received ∧ Fits bounds pair received
  /-- Both frames have come since the pair before it was put out. -/
  once : ∀ l x m y r pair pair', tr = l ++ x :: (m ++ y :: r) → Emits pair x → Emits pair' y →
    ∀ stream, ∃ z ∈ m ++ [y], Offers stream (pair'.frame stream) z

/-! ## A step -/

section Steps

variable {bounds : PairerBounds} {p : LatestRgbdPairer I} {pair : RgbdFramePair I} {now : ℚ}
  {tr : List (PairerStep I)} {x : PairerStep I} {stream : RgbdStream}
  {frame : TimedRgbdFrame I}

lemma LatestRgbdPairer.judge_pair {rgb depth : TimedRgbdFrame I}
    (h : (judge bounds rgb depth now).pair = some pair) :
    pair.rgb = rgb ∧ pair.depth = depth ∧ Fits bounds pair now := by
  rw [judge] at h
  dsimp only at h
  split at h
  · cases h
  rename_i harrived
  split at h
  · cases h
  rename_i hyoung
  split at h
  · cases h
  rename_i hclose
  obtain rfl := Option.some.inj h
  rw [not_or, not_lt, not_lt] at harrived hyoung
  refine ⟨rfl, rfl, ?_, ?_, rfl, ?_⟩
  · rintro (_ | _)
    · exact sub_nonneg.mp harrived.1
    · exact sub_nonneg.mp harrived.2
  · rintro (_ | _)
    · exact hyoung.1
    · exact hyoung.2
  · have htol := FixedDistanceController.edgeTolerance_pos
    show |rgb.sourceTimestampS - depth.sourceTimestampS| ≤ _
    by_cases hlt : bounds.maxSourceDeltaS < |rgb.sourceTimestampS - depth.sourceTimestampS|
    · have hisclose : isclose |rgb.sourceTimestampS - depth.sourceTimestampS|
          bounds.maxSourceDeltaS edgeTolerance = true := by
        by_contra hnot
        exact hclose ⟨hlt, hnot⟩
      rw [isclose, decide_eq_true_eq] at hisclose
      rcases hisclose with heq | habs
      · linarith
      · linarith [neg_le_of_abs_le habs]
    · linarith

/-- A pair is put out of the latest frames, which are both new. -/
lemma LatestRgbdPairer.decision_pair (h : (p.decision bounds now).pair = some pair) :
    (∀ stream, p.latest stream = some (pair.frame stream) ∧
      p.emitted stream < (pair.frame stream).sequence) ∧ Fits bounds pair now := by
  rw [decision] at h
  split at h
  · cases h
  rename_i rgb hrgb
  split at h
  · cases h
  rename_i hnewRgb
  split at h
  · cases h
  rename_i depth hdepth
  split at h
  · cases h
  rename_i hnewDepth
  obtain ⟨rfl, rfl, hfits⟩ := judge_pair h
  refine ⟨?_, hfits⟩
  rintro (_ | _)
  · exact ⟨hrgb, not_le.mp hnewRgb⟩
  · exact ⟨hdepth, not_le.mp hnewDepth⟩

@[simp] lemma LatestRgbdPairer.matchLocked_latest :
    (p.matchLocked bounds now).2.latest = p.latest := by
  rw [matchLocked]
  dsimp only
  split <;> rfl

@[simp] lemma LatestRgbdPairer.matchLocked_sequence :
    (p.matchLocked bounds now).2.sequence = p.sequence := by
  rw [matchLocked]
  dsimp only
  split <;> rfl

lemma LatestRgbdPairer.matchLocked_emitted :
    (p.matchLocked bounds now).2.emitted =
      (p.decision bounds now).pair.elim p.emitted fun pair stream =>
        (pair.frame stream).sequence := by
  rw [matchLocked]
  dsimp only
  cases (p.decision bounds now).pair <;> rfl

lemma LatestOffer.concat (h : LatestOffer stream frame tr) (hx : x.event.Spares stream) :
    LatestOffer stream frame (tr ++ [x]) := by
  obtain ⟨l, y, r, rfl, hoffers, hspares⟩ := h
  refine ⟨l, y, r ++ [x], by simp, hoffers, fun z hz => ?_⟩
  rcases List.mem_append.mp hz with hz | hz
  · exact hspares z hz
  · rw [List.mem_singleton.mp hz]
    exact hx

lemma latestOffer_concat (h : Offers stream frame x) : LatestOffer stream frame (tr ++ [x]) :=
  ⟨tr, x, [], rfl, h, by simp⟩

/-! ## Runs -/

/-- What holds of the frames that the pairer keeps. -/
structure PairerInv (tr : List (PairerStep I)) (p : LatestRgbdPairer I) : Prop where
  offered : ∀ stream frame, p.latest stream = some frame →
    frame.sequence = p.sequence stream ∧ LatestOffer stream frame tr
  emitted : ∀ stream, p.emitted stream ≤ p.sequence stream
  /-- A frame that was not put out has come since every pair. -/
  since : ∀ l x r pair, tr = l ++ x :: r → Emits pair x → ∀ stream frame,
    p.latest stream = some frame → p.emitted stream < frame.sequence →
      ∃ z ∈ r, Offers stream frame z

/-- What the pairer holds when it looks for a pair. -/
structure Stored (tr : List (PairerStep I)) (x : PairerStep I) (p : LatestRgbdPairer I) :
    Prop where
  offered : ∀ stream frame, p.latest stream = some frame →
    frame.sequence = p.sequence stream ∧ LatestOffer stream frame (tr ++ [x])
  emitted : ∀ stream, p.emitted stream ≤ p.sequence stream
  since : ∀ l y r pair, tr = l ++ y :: r → Emits pair y → ∀ stream frame,
    p.latest stream = some frame → p.emitted stream < frame.sequence →
      ∃ z ∈ r ++ [x], Offers stream frame z

lemma PairerInv.stored (h : PairerInv tr p) {image : I} {source received : ℚ}
    (hevent : x.event = .offer stream image source received)
    (hpost : x.post.latest = (p.store stream image source received).latest) :
    Stored tr x (p.store stream image source received) := by
  have hself : Offers stream ⟨image, source, received, p.sequence stream + 1⟩ x := by
    refine ⟨hevent, ?_⟩
    rw [hpost]
    exact if_pos rfl
  constructor
  · intro other frame hframe
    rw [LatestRgbdPairer.store] at hframe ⊢
    dsimp only at hframe ⊢
    by_cases hother : other = stream
    · subst hother
      rw [if_pos rfl] at hframe ⊢
      obtain rfl := Option.some.inj hframe
      exact ⟨rfl, latestOffer_concat hself⟩
    · rw [if_neg hother] at hframe ⊢
      obtain ⟨hsequence, hlatest⟩ := h.offered other frame hframe
      refine ⟨hsequence, hlatest.concat ?_⟩
      rw [hevent]
      exact Ne.symm hother
  · intro other
    have hle := h.emitted other
    rw [LatestRgbdPairer.store]
    dsimp only
    split
    · subst_vars
      omega
    · exact hle
  · intro l y r pair htr hemits other frame hframe hnew
    rw [LatestRgbdPairer.store] at hframe hnew
    dsimp only at hframe hnew
    by_cases hother : other = stream
    · subst hother
      rw [if_pos rfl] at hframe
      obtain rfl := Option.some.inj hframe
      exact ⟨x, by simp, hself⟩
    · rw [if_neg hother] at hframe
      obtain ⟨z, hz, hoffers⟩ := h.since l y r pair htr hemits other frame hframe hnew
      exact ⟨z, List.mem_append_left _ hz, hoffers⟩

/-- The frames of a pair that was put out are not new any more. -/
lemma Stored.matched (h : Stored tr x p) (houtput : x.output = some (p.decision bounds now)) :
    PairerInv (tr ++ [x]) (p.matchLocked bounds now).2 := by
  have hspent : ∀ pair, (p.decision bounds now).pair = some pair → ∀ stream frame,
      p.latest stream = some frame →
        ¬ (p.matchLocked bounds now).2.emitted stream < frame.sequence := by
    intro pair hpair stream frame hframe
    rw [LatestRgbdPairer.matchLocked_emitted, hpair]
    have hsame := ((LatestRgbdPairer.decision_pair hpair).1 stream).1
    obtain rfl := Option.some.inj (hframe.symm.trans hsame)
    exact lt_irrefl _
  constructor
  · intro stream frame hframe
    rw [LatestRgbdPairer.matchLocked_latest] at hframe
    rw [LatestRgbdPairer.matchLocked_sequence]
    exact h.offered stream frame hframe
  · intro stream
    rw [LatestRgbdPairer.matchLocked_emitted, LatestRgbdPairer.matchLocked_sequence]
    cases hpair : (p.decision bounds now).pair with
    | none => exact h.emitted stream
    | some pair =>
      have hframe := ((LatestRgbdPairer.decision_pair hpair).1 stream).1
      exact (h.offered stream _ hframe).1.le
  · intro l y r pair htr hemits stream frame hframe hnew
    rw [LatestRgbdPairer.matchLocked_latest] at hframe
    cases hpair : (p.decision bounds now).pair with
    | some pair' => exact absurd hnew (hspent pair' hpair stream frame hframe)
    | none =>
      rcases Machine.concat_eq_append_cons_iff.mp htr with ⟨-, rfl, -⟩ | ⟨r', hbefore, rfl⟩
      · obtain ⟨decision, hdecision, hsome⟩ := hemits
        obtain rfl := Option.some.inj (houtput.symm.trans hdecision)
        cases hpair.symm.trans hsome
      · rw [LatestRgbdPairer.matchLocked_emitted, hpair] at hnew
        exact h.since l y r' pair hbefore hemits stream frame hframe hnew

end Steps

lemma pairerInv_run (bounds : PairerBounds) (events : List (PairerEvent I)) :
    PairerInv ((rgbdPairer I bounds).trace {} events) ((rgbdPairer I bounds).final {} events) := by
  refine (rgbdPairer I bounds).history_induction (motive := PairerInv) ?_ ?_ events
  · exact ⟨(fun _ _ h => by cases h), fun _ => Nat.le_refl 0, fun l x r _ h => absurd h (by simp)⟩
  · intro tr p event h
    cases event with
    | offer stream image source received =>
      have hpost : ((rgbdPairer I bounds).stepAt p (.offer stream image source received)).post =
        ((p.store stream image source received).matchLocked bounds received).2 := rfl
      refine (h.stored rfl ?_).matched rfl
      rw [hpost, LatestRgbdPairer.matchLocked_latest]
    | clear =>
      exact ⟨(fun _ _ h => by cases h), fun _ => Nat.le_refl 0, fun _ _ _ _ _ _ _ _ h => by cases h⟩

/-- The pair of a step, and what the pairer held. -/
lemma emits_cases {bounds : PairerBounds} {p : LatestRgbdPairer I} {event : PairerEvent I}
    {pair : RgbdFramePair I} (h : Emits pair ((rgbdPairer I bounds).stepAt p event)) :
    ∃ stream image source received, event = .offer stream image source received ∧
      ((p.store stream image source received).decision bounds received).pair = some pair := by
  obtain ⟨decision, houtput, hpair⟩ := h
  cases event with
  | offer stream image source received =>
    obtain rfl := Option.some.inj houtput
    exact ⟨stream, image, source, received, rfl, hpair⟩
  | clear => cases houtput

/-- **The pairer puts out every frame once**, in pairs of the latest frames that fit together. -/
theorem pairsOnce (bounds : PairerBounds) (events : List (PairerEvent I)) :
    PairsOnce bounds ((rgbdPairer I bounds).trace {} events) := by
  have hstored : ∀ {l x r pair}, (rgbdPairer I bounds).trace {} events = l ++ x :: r →
      Emits pair x → ∃ p stream image source received,
        x.event = .offer stream image source received ∧
        (p.decision bounds received).pair = some pair ∧ Stored l x p := by
    intro l x r pair htr hemits
    obtain ⟨es₁, es₂, -, rfl, hx, -⟩ := (rgbdPairer I bounds).trace_eq_append_cons htr
    have hinv := pairerInv_run bounds es₁
    rw [hx] at hemits
    obtain ⟨stream, image, source, received, hevent, hpair⟩ := emits_cases hemits
    refine ⟨_, stream, image, source, received, hevent, hpair, hinv.stored hevent ?_⟩
    rw [hx, hevent]
    exact LatestRgbdPairer.matchLocked_latest
  constructor
  · intro l x r pair htr hemits stream
    obtain ⟨p, -, -, -, received, -, hpair, hp⟩ := hstored htr hemits
    exact (hp.offered stream _ ((LatestRgbdPairer.decision_pair hpair).1 stream).1).2
  · intro x hx pair hemits
    obtain ⟨l, r, htr⟩ := List.append_of_mem hx
    obtain ⟨p, stream, image, source, received, hevent, hpair, -⟩ := hstored htr hemits
    exact ⟨stream, image, source, received, hevent, (LatestRgbdPairer.decision_pair hpair).2⟩
  · intro l x m y r pair pair' htr hemits hemits' stream
    rw [← List.cons_append, ← List.append_assoc] at htr
    obtain ⟨p, -, -, -, received, -, hpair, hp⟩ := hstored htr hemits'
    obtain ⟨hframe, hnew⟩ := (LatestRgbdPairer.decision_pair hpair).1 stream
    exact hp.since l x m pair rfl hemits stream _ hframe hnew

end UnitreeGo2.RobotTrack
