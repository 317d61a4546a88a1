import UnitreeGo2.Lib.Machine
import Mathlib.Algebra.Order.Field.Basic
import Mathlib.Algebra.Order.Field.Rat
import Mathlib.Algebra.Order.Ring.Abs
import Mathlib.Algebra.BigOperators.Group.List.Basic
import Mathlib.Data.List.GetD
import Mathlib.Data.List.Sort
import Mathlib.Tactic.Linarith
import Mathlib.Tactic.FieldSimp
import Mathlib.Tactic.Ring

/-!
# The jump gate of the RGB-D distance

A raw distance far from the accepted one is only accepted once enough of its successors agree
with it, and then their mean is accepted.  The accepted values are smoothed by a median.  What
the detector and the depth image give is a sequence of raw distances and misses.
-/

namespace UnitreeGo2.RobotTrack

/-- What `RgbdDistanceConfig` has for the gate, with what `__post_init__` requires. -/
structure JumpGateConfig where
  maxDistanceJumpM : ℚ
  jumpConfirmationFrames : ℕ
  jumpConsistencyM : ℚ
  smoothingWindow : ℕ
  maxDistanceJumpM_pos : 0 < maxDistanceJumpM
  jumpConfirmationFrames_pos : 1 ≤ jumpConfirmationFrames
  jumpConsistencyM_pos : 0 < jumpConsistencyM
  smoothingWindow_pos : 1 ≤ smoothingWindow

inductive GateStatus where
  | ok
  | jumpConfirmed
  | distanceJump
  deriving DecidableEq, Repr

/-- The fields of a `DistanceEstimate` that the gate decides. -/
structure GateEstimate where
  valid : Bool
  status : GateStatus
  confidence : ℚ
  distanceM : Option ℚ := none
  rawDistanceM : Option ℚ := none
  deriving DecidableEq

/-- The state of the estimator that the gate reads and writes. -/
structure JumpGate where
  lastAcceptedRawM : Option ℚ := none
  distanceHistory : List ℚ := []
  pendingJumpM : Option ℚ := none
  pendingJumpCount : ℕ := 0

/-- `np.median` of exact values. -/
def median (values : List ℚ) : ℚ :=
  let sorted := values.mergeSort (· ≤ ·)
  (sorted.getD ((values.length - 1) / 2) 0 + sorted.getD (values.length / 2) 0) / 2

/-- `append` of a deque with a bound. -/
def appendBounded (bound : ℕ) (values : List ℚ) (value : ℚ) : List ℚ :=
  (values ++ [value]).drop (values.length + 1 - bound)

/-- The clamp of `_result`. -/
def clampConfidence (confidence : ℚ) : ℚ := max 0 (min 1 confidence)

namespace JumpGate

variable (config : JumpGateConfig) (gate : JumpGate)

/-- The raw distance is too far from the accepted one. -/
def jumps (rawDistance : ℚ) : Bool :=
  gate.lastAcceptedRawM.any fun last => config.maxDistanceJumpM < |rawDistance - last|

/-- The pending jump after another raw distance, and its count. -/
def pend (rawDistance : ℚ) : ℚ × ℕ :=
  match gate.pendingJumpM with
  | some pending =>
    if |rawDistance - pending| ≤ config.jumpConsistencyM then
      let count := gate.pendingJumpCount + 1
      ((pending * ((count : ℚ) - 1) + rawDistance) / count, count)
    else (rawDistance, 1)
  | none => (rawDistance, 1)

/-- A distance is accepted and smoothed. -/
def accept (history : List ℚ) (distance confidence : ℚ) (status : GateStatus) :
    GateEstimate × JumpGate :=
  let distanceHistory := appendBounded config.smoothingWindow history distance
  ({  valid := true
      status
      confidence := clampConfidence confidence
      distanceM := some (median distanceHistory)
      rawDistanceM := some distance },
    { lastAcceptedRawM := some distance
      distanceHistory })

/-- The gate and the smoothing of `estimate`. -/
def estimate (rawDistance confidence : ℚ) : GateEstimate × JumpGate :=
  if gate.jumps config rawDistance then
    let (pending, count) := gate.pend config rawDistance
    if count < config.jumpConfirmationFrames then
      ({  valid := false
          status := .distanceJump
          confidence := clampConfidence (confidence * (1 / 2))
          rawDistanceM := some rawDistance },
        { gate with pendingJumpM := some pending, pendingJumpCount := count })
    else accept config [] pending confidence .jumpConfirmed
  else accept config gate.distanceHistory rawDistance confidence .ok

end JumpGate

inductive GateEvent where
  /-- A raw distance reaches the gate. -/
  | raw (distance confidence : ℚ)
  /-- A frame that gives no raw distance. -/
  | miss
  | reset
  deriving DecidableEq

/-- The gate as a machine, whose answer to a raw distance is an estimate. -/
def jumpGate (config : JumpGateConfig) : Machine JumpGate GateEvent (Option GateEstimate) where
  step gate
    | .raw distance confidence =>
      ((gate.estimate config distance confidence).1, (gate.estimate config distance confidence).2)
    | .miss => (none, gate)
    | .reset => (none, {})

/-! ## What the gate guarantees -/

abbrev GateStep := Machine.Step JumpGate GateEvent (Option GateEstimate)

/-- The value that a step accepts. -/
def acceptedBy (x : GateStep) : Option ℚ :=
  x.output.bind fun estimate => if estimate.valid then estimate.rawDistanceM else none

/-- A step that confirms a jump. -/
def Confirms (x : GateStep) : Prop := ∃ estimate, x.output = some estimate ∧
  estimate.valid = true ∧ estimate.status = .jumpConfirmed

instance (x : GateStep) : Decidable (Confirms x) :=
  decidable_of_iff (x.output.any fun estimate => estimate.valid ∧ estimate.status = .jumpConfirmed)
    (by simp [Confirms, Option.any_eq_true])

/-- The previous accepted value, since the last reset. -/
def lastAccepted (log : List GateStep) : Option ℚ :=
  log.foldl (fun last x => if x.event = .reset then none else (acceptedBy x).or last) none

/-- The values accepted since the last confirmed jump or reset. -/
def acceptedSince (log : List GateStep) : List ℚ :=
  log.foldl (fun values x =>
    if x.event = .reset then []
    else if Confirms x then (acceptedBy x).toList
    else values ++ (acceptedBy x).toList) []

/-- The raw distances of some steps. -/
def rawsOf (log : List GateStep) : List ℚ :=
  log.filterMap fun x => match x.event with
    | .raw distance _ => some distance
    | _ => none

def mean (values : List ℚ) : ℚ := values.sum / values.length

/-- Raw distances that all jump from `last` and agree with each other. -/
structure Candidates (config : JumpGateConfig) (last : ℚ) (values : List ℚ) : Prop where
  far : ∀ value ∈ values, config.maxDistanceJumpM < |value - last|
  consistent : ∀ before value after, values = before ++ value :: after → before ≠ [] →
    |value - mean before| ≤ config.jumpConsistencyM

/-- A step that neither accepts a value nor resets. -/
def Idle (x : GateStep) : Prop := acceptedBy x = none ∧ x.event ≠ .reset

/-- The value `value` is accepted after the steps `l`, at a raw distance. -/
structure Accepts (config : JumpGateConfig) (l : List GateStep) (rawDistance value : ℚ) :
    Prop where
  first : lastAccepted l = none → value = rawDistance
  later : ∀ last, lastAccepted l = some last →
    value = rawDistance ∧ |value - last| ≤ config.maxDistanceJumpM ∨
    ∃ l₁ seg, l = l₁ ++ seg ∧ (∀ x ∈ seg, Idle x) ∧
      (rawsOf seg ++ [rawDistance]).length = config.jumpConfirmationFrames ∧
      Candidates config last (rawsOf seg ++ [rawDistance]) ∧
      value = mean (rawsOf seg ++ [rawDistance])

/-- **What the jump gate guarantees** of a run. -/
structure JumpGated (config : JumpGateConfig) (log : List GateStep) : Prop where
  /-- Only raw distances give valid estimates, and each of those is accepted for a reason. -/
  accepted : ∀ l x r estimate, log = l ++ x :: r → x.output = some estimate →
    estimate.valid = true → ∃ rawDistance confidence value,
      x.event = .raw rawDistance confidence ∧ estimate.rawDistanceM = some value ∧
        Accepts config l rawDistance value
  smoothed : ∀ l x r estimate, log = l ++ x :: r → x.output = some estimate →
    estimate.valid = true → ∃ distance, estimate.distanceM = some distance ∧
      ∃ low ∈ acceptedSince (l ++ [x]), ∃ high ∈ acceptedSince (l ++ [x]),
        low ≤ distance ∧ distance ≤ high
  /-- Enough raw distances at one level confirm a jump to it. -/
  confirmed : ∀ l seg r last level, log = l ++ seg ++ r → lastAccepted l = some last →
    config.maxDistanceJumpM < |level - last| → (∀ x ∈ seg, x.event ≠ .reset) →
    rawsOf seg = List.replicate config.jumpConfirmationFrames level →
    ∃ x ∈ seg, Confirms x ∧ ∃ value, acceptedBy x = some value ∧
      |value - level| ≤ config.jumpConsistencyM

/-! ## Means and medians -/

lemma mean_singleton (value : ℚ) : mean [value] = value := by
  unfold mean
  rw [List.sum_singleton, List.length_singleton, Nat.cast_one, div_one]

/-- The mean goes on with one more value. -/
lemma mean_concat {values : List ℚ} (hvalues : values ≠ []) (value : ℚ) :
    (mean values * (((values.length + 1 : ℕ) : ℚ) - 1) + value) / ((values.length + 1 : ℕ) : ℚ) =
      mean (values ++ [value]) := by
  have hlength : (values.length : ℚ) ≠ 0 :=
    Nat.cast_ne_zero.mpr (List.length_pos_iff.mpr hvalues).ne'
  unfold mean
  rw [List.sum_append, List.sum_singleton, List.length_append, List.length_singleton,
    Nat.cast_add, Nat.cast_one, add_sub_cancel_right, div_mul_cancel₀ _ hlength]

lemma getD_mem {values : List ℚ} {index : ℕ} (h : index < values.length) :
    values.getD index 0 ∈ values := by
  rw [List.getD_eq_getElem _ _ h]
  exact List.getElem_mem h

/-- A median lies between two of the values. -/
lemma median_between {values : List ℚ} (hvalues : values ≠ []) :
    ∃ low ∈ values, ∃ high ∈ values, low ≤ median values ∧ median values ≤ high := by
  have hpos := List.length_pos_iff.mpr hvalues
  have hmem : ∀ index, index < values.length →
      (values.mergeSort (· ≤ ·)).getD index 0 ∈ values := by
    intro index hindex
    have hsorted : (values.mergeSort (· ≤ ·)).length = values.length := List.length_mergeSort values
    exact List.mem_mergeSort.mp (getD_mem (by rw [hsorted]; exact hindex))
  have hleft := hmem ((values.length - 1) / 2) (by omega)
  have hright := hmem (values.length / 2) (by omega)
  unfold median
  dsimp only
  generalize (values.mergeSort (· ≤ ·)).getD ((values.length - 1) / 2) 0 = left at hleft
  generalize (values.mergeSort (· ≤ ·)).getD (values.length / 2) 0 = right at hright
  rcases le_total left right with h | h
  · exact ⟨left, hleft, right, hright, by linarith, by linarith⟩
  · exact ⟨right, hright, left, hleft, by linarith, by linarith⟩

/-! ## The state follows the run -/

/-- The pending jump is the mean of the raw distances of the last steps. -/
structure PendsOn (config : JumpGateConfig) (last : ℚ) (seg : List GateStep) (extra : List ℚ)
    (pending : ℚ) (count : ℕ) : Prop where
  idle : ∀ x ∈ seg, Idle x
  candidates : Candidates config last (rawsOf seg ++ extra)
  mean : pending = mean (rawsOf seg ++ extra)
  count : count = (rawsOf seg ++ extra).length
  nonempty : rawsOf seg ++ extra ≠ []

/-- What a run knows of the gate. -/
structure Tracks (config : JumpGateConfig) (tr : List GateStep) (gate : JumpGate) : Prop where
  last : gate.lastAcceptedRawM = lastAccepted tr
  history : gate.distanceHistory <:+ acceptedSince tr
  pending : ∀ pending, gate.pendingJumpM = some pending → ∃ l₁ seg last, tr = l₁ ++ seg ∧
    lastAccepted tr = some last ∧ PendsOn config last seg [] pending gate.pendingJumpCount ∧
      gate.pendingJumpCount < config.jumpConfirmationFrames

section Steps

variable {config : JumpGateConfig} {gate : JumpGate} {tr : List GateStep} {x : GateStep}
  {rawDistance confidence last : ℚ}

lemma lastAccepted_concat : lastAccepted (tr ++ [x]) =
    if x.event = .reset then none else (acceptedBy x).or (lastAccepted tr) := by
  unfold lastAccepted
  rw [List.foldl_append]
  rfl

lemma acceptedSince_concat : acceptedSince (tr ++ [x]) =
    if x.event = .reset then []
    else if Confirms x then (acceptedBy x).toList
    else acceptedSince tr ++ (acceptedBy x).toList := by
  unfold acceptedSince
  rw [List.foldl_append]
  rfl

lemma rawsOf_append (l r : List GateStep) : rawsOf (l ++ r) = rawsOf l ++ rawsOf r :=
  List.filterMap_append ..

lemma rawsOf_concat_raw (hevent : x.event = .raw rawDistance confidence) :
    rawsOf (tr ++ [x]) = rawsOf tr ++ [rawDistance] := by
  rw [rawsOf_append]
  simp [rawsOf, hevent]

lemma rawsOf_concat_miss (hevent : x.event = .miss) : rawsOf (tr ++ [x]) = rawsOf tr := by
  rw [rawsOf_append]
  simp [rawsOf, hevent]

/-- A raw distance far from the accepted one is pending, alone or with those before it. -/
lemma Tracks.pend (h : Tracks config tr gate) (hlast : lastAccepted tr = some last)
    (hfar : config.maxDistanceJumpM < |rawDistance - last|) :
    ∃ l₁ seg, tr = l₁ ++ seg ∧ PendsOn config last seg [rawDistance]
      (gate.pend config rawDistance).1 (gate.pend config rawDistance).2 ∧
      (gate.pend config rawDistance).2 ≤ config.jumpConfirmationFrames := by
  have halone : ∃ l₁ seg, tr = l₁ ++ seg ∧
      PendsOn config last seg [rawDistance] rawDistance 1 ∧ 1 ≤ config.jumpConfirmationFrames := by
    refine ⟨tr, [], (List.append_nil _).symm, ⟨by simp, ⟨?_, ?_⟩, (mean_singleton _).symm, rfl, ?_⟩,
      config.jumpConfirmationFrames_pos⟩
    · intro value hvalue
      rw [List.mem_singleton.mp hvalue]
      exact hfar
    · intro before value after hsplit hbefore
      cases before with
      | nil => exact absurd rfl hbefore
      | cons first before =>
        have hlength := congrArg List.length hsplit
        simp [rawsOf] at hlength
    · exact List.cons_ne_nil _ _
  unfold JumpGate.pend
  split
  · rename_i pending hpending
    split
    · rename_i hconsistent
      obtain ⟨l₁, seg, last', htr, hlast', hpends, hless⟩ := h.pending pending hpending
      rw [hlast] at hlast'
      cases hlast'
      obtain ⟨hidle, hcandidates, hmean, hcount, hnonempty⟩ := hpends
      rw [List.append_nil] at hcandidates hmean hcount hnonempty
      refine ⟨l₁, seg, htr, ⟨hidle, ⟨?_, ?_⟩, ?_, ?_, by simp⟩, hless⟩
      · intro value hvalue
        rcases List.mem_append.mp hvalue with hvalue | hvalue
        · exact hcandidates.far value hvalue
        · rw [List.mem_singleton.mp hvalue]
          exact hfar
      · intro before value after hsplit hbefore
        rcases Machine.concat_eq_append_cons_iff.mp hsplit with ⟨rfl, rfl, _⟩ | ⟨r', hl, _⟩
        · rw [← hmean]
          exact hconsistent
        · exact hcandidates.consistent before value r' hl hbefore
      · rw [hmean, hcount]
        exact mean_concat hnonempty rawDistance
      · rw [hcount, List.length_append, List.length_singleton]
    · exact halone
  · exact halone

/-- The kept values are the last of those accepted. -/
lemma appendBounded_suffix {bound : ℕ} {history values : List ℚ} (h : history <:+ values)
    (value : ℚ) : appendBounded bound history value <:+ values ++ [value] := by
  refine (List.drop_suffix _ _).trans ?_
  obtain ⟨front, rfl⟩ := h
  exact ⟨front, by rw [List.append_assoc]⟩

lemma appendBounded_ne_nil {history : List ℚ} (value : ℚ) :
    appendBounded config.smoothingWindow history value ≠ [] := by
  have hwindow := config.smoothingWindow_pos
  intro h
  have hlength := congrArg List.length h
  unfold appendBounded at hlength
  rw [List.length_drop, List.length_append, List.length_singleton, List.length_nil] at hlength
  omega

/-- What the gate says of a valid estimate. -/
structure Justified (config : JumpGateConfig) (tr : List GateStep) (x : GateStep)
    (estimate : GateEstimate) : Prop where
  accepted : ∃ rawDistance confidence value, x.event = .raw rawDistance confidence ∧
    estimate.rawDistanceM = some value ∧ Accepts config tr rawDistance value
  smoothed : ∃ distance, estimate.distanceM = some distance ∧
    ∃ low ∈ acceptedSince (tr ++ [x]), ∃ high ∈ acceptedSince (tr ++ [x]),
      low ≤ distance ∧ distance ≤ high

/-- A step that accepts a value, with the kept values that it starts from. -/
lemma tracks_accept {history : List ℚ} {value : ℚ} {status : GateStatus}
    (hevent : x.event = .raw rawDistance confidence)
    (houtput : x.output = some (JumpGate.accept config history value confidence status).1)
    (hpost : x.post = (JumpGate.accept config history value confidence status).2)
    (hstatus : status = .ok ∧ history <:+ acceptedSince tr ∨
      status = .jumpConfirmed ∧ history = [])
    (haccepts : Accepts config tr rawDistance value) :
    Tracks config (tr ++ [x]) x.post ∧ ∀ estimate, x.output = some estimate →
      Justified config tr x estimate := by
  have hreset : x.event ≠ .reset := by
    rw [hevent]
    exact GateEvent.noConfusion
  have hacceptedBy : acceptedBy x = some value := by
    unfold acceptedBy
    rw [houtput]
    rfl
  have hsuffix : appendBounded config.smoothingWindow history value <:+
      acceptedSince (tr ++ [x]) := by
    rw [acceptedSince_concat, if_neg hreset, hacceptedBy]
    rcases hstatus with ⟨rfl, hhistory⟩ | ⟨rfl, rfl⟩
    · have hnot : ¬ Confirms x := by
        rintro ⟨estimate, hestimate, _, hconfirmed⟩
        rw [houtput] at hestimate
        rw [← Option.some_inj.mp hestimate] at hconfirmed
        cases hconfirmed
      rw [if_neg hnot]
      exact appendBounded_suffix hhistory value
    · have hconfirms : Confirms x := ⟨_, houtput, rfl, rfl⟩
      rw [if_pos hconfirms]
      exact appendBounded_suffix List.suffix_rfl value
  refine ⟨⟨?_, ?_, ?_⟩, ?_⟩
  · rw [hpost, lastAccepted_concat, if_neg hreset, hacceptedBy]
    rfl
  · rw [hpost]
    exact hsuffix
  · intro pending hpending
    rw [hpost] at hpending
    cases hpending
  · intro estimate hestimate
    rw [houtput] at hestimate
    cases hestimate
    refine ⟨⟨rawDistance, confidence, value, hevent, rfl, haccepts⟩, _, rfl, ?_⟩
    obtain ⟨low, hlow, high, hhigh, hbetween⟩ :=
      median_between (@appendBounded_ne_nil config history value)
    exact ⟨low, hsuffix.subset hlow, high, hsuffix.subset hhigh, hbetween⟩

/-- A raw distance that is pending. -/
lemma tracks_pend {l₁ seg : List GateStep} (h : Tracks config tr gate)
    (hlast : lastAccepted tr = some last) (htr : tr = l₁ ++ seg)
    (hpends : PendsOn config last seg [rawDistance] (gate.pend config rawDistance).1
      (gate.pend config rawDistance).2)
    (hless : (gate.pend config rawDistance).2 < config.jumpConfirmationFrames)
    (hevent : x.event = .raw rawDistance confidence) (hnone : acceptedBy x = none)
    (hpost : x.post = { gate with
      pendingJumpM := some (gate.pend config rawDistance).1
      pendingJumpCount := (gate.pend config rawDistance).2 })
    (hconfirms : ¬ Confirms x) : Tracks config (tr ++ [x]) x.post := by
  have hreset : x.event ≠ .reset := by
    rw [hevent]
    exact GateEvent.noConfusion
  have hsame : lastAccepted (tr ++ [x]) = lastAccepted tr := by
    rw [lastAccepted_concat, if_neg hreset, hnone]
    rfl
  have hraws : rawsOf (seg ++ [x]) = rawsOf seg ++ [rawDistance] := rawsOf_concat_raw hevent
  refine ⟨?_, ?_, ?_⟩
  · rw [hpost, hsame]
    exact h.last
  · rw [hpost, acceptedSince_concat, if_neg hreset, if_neg hconfirms, hnone]
    exact h.history.trans (by simp)
  · intro pending hpending
    rw [hpost] at hpending ⊢
    cases hpending
    refine ⟨l₁, seg ++ [x], last, by rw [htr, List.append_assoc], hsame.trans hlast, ⟨?_, ?_, ?_,
      ?_, ?_⟩, hless⟩
    · intro y hy
      rcases List.mem_append.mp hy with hy | hy
      · exact hpends.idle y hy
      · rw [List.mem_singleton.mp hy]
        exact ⟨hnone, hreset⟩
    · rw [List.append_nil, hraws]
      exact hpends.candidates
    · rw [List.append_nil, hraws]
      exact hpends.mean
    · rw [List.append_nil, hraws]
      exact hpends.count
    · rw [List.append_nil, hraws]
      exact hpends.nonempty

/-- A step without a raw distance. -/
lemma tracks_miss (h : Tracks config tr gate) (hevent : x.event = .miss)
    (houtput : x.output = none) (hpost : x.post = gate) : Tracks config (tr ++ [x]) x.post := by
  have hreset : x.event ≠ .reset := by
    rw [hevent]
    exact GateEvent.noConfusion
  have hnone : acceptedBy x = none := by
    unfold acceptedBy
    rw [houtput]
    rfl
  have hconfirms : ¬ Confirms x := by
    rintro ⟨estimate, hestimate, _⟩
    rw [houtput] at hestimate
    cases hestimate
  have hsame : lastAccepted (tr ++ [x]) = lastAccepted tr := by
    rw [lastAccepted_concat, if_neg hreset, hnone]
    rfl
  refine ⟨?_, ?_, ?_⟩
  · rw [hpost, hsame]
    exact h.last
  · rw [hpost, acceptedSince_concat, if_neg hreset, if_neg hconfirms, hnone]
    exact h.history.trans (by simp)
  · intro pending hpending
    rw [hpost] at hpending ⊢
    obtain ⟨l₁, seg, last, htr, hlast, hpends, hless⟩ := h.pending pending hpending
    refine ⟨l₁, seg ++ [x], last, by rw [htr, List.append_assoc], hsame.trans hlast,
      ⟨?_, ?_, ?_, ?_, ?_⟩, hless⟩
    · intro y hy
      rcases List.mem_append.mp hy with hy | hy
      · exact hpends.idle y hy
      · rw [List.mem_singleton.mp hy]
        exact ⟨hnone, hreset⟩
    · rw [rawsOf_concat_miss hevent]
      exact hpends.candidates
    · rw [rawsOf_concat_miss hevent]
      exact hpends.mean
    · rw [rawsOf_concat_miss hevent]
      exact hpends.count
    · rw [rawsOf_concat_miss hevent]
      exact hpends.nonempty

/-- The gate with one more pending raw distance. -/
def JumpGate.waiting (config : JumpGateConfig) (gate : JumpGate) (rawDistance : ℚ) : JumpGate :=
  { gate with
    pendingJumpM := some (gate.pend config rawDistance).1
    pendingJumpCount := (gate.pend config rawDistance).2 }

/-- What the gate does with a raw distance. -/
inductive Gated (config : JumpGateConfig) (gate : JumpGate) (rawDistance confidence : ℚ) :
    GateEstimate × JumpGate → Prop where
  | near (hnear : gate.jumps config rawDistance = false) : Gated config gate rawDistance confidence
      (JumpGate.accept config gate.distanceHistory rawDistance confidence .ok)
  | waits (estimate : GateEstimate) (hinvalid : estimate.valid = false)
      (hjumps : gate.jumps config rawDistance = true)
      (hless : (gate.pend config rawDistance).2 < config.jumpConfirmationFrames) :
      Gated config gate rawDistance confidence (estimate, gate.waiting config rawDistance)
  | confirms (hjumps : gate.jumps config rawDistance = true)
      (henough : config.jumpConfirmationFrames ≤ (gate.pend config rawDistance).2) :
      Gated config gate rawDistance confidence
        (JumpGate.accept config [] (gate.pend config rawDistance).1 confidence .jumpConfirmed)

lemma gated_estimate : Gated config gate rawDistance confidence
    (gate.estimate config rawDistance confidence) := by
  unfold JumpGate.estimate
  split
  · rename_i hjumps
    dsimp only
    split
    · rename_i hless
      exact .waits _ rfl hjumps hless
    · rename_i henough
      exact .confirms hjumps (Nat.le_of_not_lt henough)
  · rename_i hnear
    exact .near (Bool.eq_false_iff.mpr hnear)

lemma jumps_eq_true_iff : gate.jumps config rawDistance = true ↔
    ∃ last, gate.lastAcceptedRawM = some last ∧
      config.maxDistanceJumpM < |rawDistance - last| := by
  unfold JumpGate.jumps
  rw [Option.any_eq_true]
  simp only [decide_eq_true_eq]

/-- One step of the gate. -/
lemma Tracks.step (h : Tracks config tr gate) (event : GateEvent) :
    Tracks config (tr ++ [(jumpGate config).stepAt gate event])
      ((jumpGate config).step gate event).2 ∧
    ∀ estimate, ((jumpGate config).stepAt gate event).output = some estimate →
      estimate.valid = true →
        Justified config tr ((jumpGate config).stepAt gate event) estimate := by
  cases event with
  | reset =>
    have hreset : ((jumpGate config).stepAt gate .reset).event = .reset := rfl
    refine ⟨⟨?_, ?_, ?_⟩, fun estimate hestimate => by cases hestimate⟩
    · rw [lastAccepted_concat, if_pos hreset]
      rfl
    · rw [acceptedSince_concat, if_pos hreset]
      exact List.suffix_rfl
    · intro pending hpending
      cases hpending
  | miss => exact ⟨tracks_miss h rfl rfl rfl, fun estimate hestimate => by cases hestimate⟩
  | raw rawDistance confidence =>
    have hgated : Gated config gate rawDistance confidence
      (gate.estimate config rawDistance confidence) := gated_estimate
    have houtput : ((jumpGate config).stepAt gate (.raw rawDistance confidence)).output =
        some (gate.estimate config rawDistance confidence).1 := rfl
    have hpost : ((jumpGate config).stepAt gate (.raw rawDistance confidence)).post =
        (gate.estimate config rawDistance confidence).2 := rfl
    show Tracks config _ ((jumpGate config).stepAt gate (.raw rawDistance confidence)).post ∧ _
    revert houtput hpost hgated
    generalize hx : (jumpGate config).stepAt gate (.raw rawDistance confidence) = x
    have hevent : x.event = .raw rawDistance confidence := by rw [← hx]; rfl
    generalize gate.estimate config rawDistance confidence = outcome
    intro hgated houtput hpost
    cases hgated with
    | near hnear =>
      have haccepts : Accepts config tr rawDistance rawDistance := by
        refine ⟨fun _ => rfl, fun last hlast => Or.inl ⟨rfl, ?_⟩⟩
        by_contra hfar
        have hjumps := jumps_eq_true_iff.mpr ⟨last, h.last.trans hlast, not_le.mp hfar⟩
        rw [hnear] at hjumps
        cases hjumps
      obtain ⟨htracks, hjustified⟩ :=
        tracks_accept hevent houtput hpost (Or.inl ⟨rfl, h.history⟩) haccepts
      exact ⟨htracks, fun estimate hestimate _ => hjustified estimate hestimate⟩
    | waits estimate hinvalid hjumps hless =>
      obtain ⟨last, hlast, hfar⟩ := jumps_eq_true_iff.mp hjumps
      have hlast := h.last.symm.trans hlast
      obtain ⟨l₁, seg, htr, hpends, _⟩ := h.pend hlast hfar
      refine ⟨tracks_pend h hlast htr hpends hless hevent ?_ hpost ?_, ?_⟩
      · unfold acceptedBy
        rw [houtput]
        exact if_neg (by rw [hinvalid]; decide)
      · rintro ⟨estimate', hestimate, hvalid, _⟩
        rw [houtput] at hestimate
        rw [← Option.some_inj.mp hestimate, hinvalid] at hvalid
        cases hvalid
      · intro estimate' hestimate hvalid
        rw [houtput] at hestimate
        rw [← Option.some_inj.mp hestimate, hinvalid] at hvalid
        cases hvalid
    | confirms hjumps henough =>
      obtain ⟨last, hlast, hfar⟩ := jumps_eq_true_iff.mp hjumps
      have hlast := h.last.symm.trans hlast
      obtain ⟨l₁, seg, htr, hpends, hle⟩ := h.pend hlast hfar
      have haccepts : Accepts config tr rawDistance (gate.pend config rawDistance).1 := by
        refine ⟨fun hnone => ?_, fun last' hlast' => Or.inr ⟨l₁, seg, htr, hpends.idle, ?_, ?_,
          hpends.mean⟩⟩
        · rw [hlast] at hnone
          cases hnone
        · rw [← hpends.count]
          omega
        · rw [hlast] at hlast'
          cases hlast'
          exact hpends.candidates
      obtain ⟨htracks, hjustified⟩ :=
        tracks_accept hevent houtput hpost (Or.inr ⟨rfl, rfl⟩) haccepts
      exact ⟨htracks, fun estimate hestimate _ => hjustified estimate hestimate⟩

end Steps

/-! ## A jump to one level -/

section Level

variable {config : JumpGateConfig} {gate : JumpGate} {level last : ℚ}

/-- How many of the pending raw distances already agree with a level. -/
def JumpGate.agreeing (config : JumpGateConfig) (gate : JumpGate) (level : ℚ) : ℕ :=
  match gate.pendingJumpM with
  | some pending =>
    if |level - pending| ≤ config.jumpConsistencyM then gate.pendingJumpCount else 0
  | none => 0

/-- The pending mean comes closer to the level. -/
lemma abs_sub_step_le {pending bound : ℚ} (count : ℕ) (h : |level - pending| ≤ bound) :
    |level - (pending * (((count + 1 : ℕ) : ℚ) - 1) + level) / ((count + 1 : ℕ) : ℚ)| ≤ bound := by
  have hcount : (0 : ℚ) < ((count + 1 : ℕ) : ℚ) := Nat.cast_pos.mpr (Nat.succ_pos count)
  have hstep : level - (pending * (((count + 1 : ℕ) : ℚ) - 1) + level) / ((count + 1 : ℕ) : ℚ) =
      (level - pending) * ((count : ℚ) / ((count + 1 : ℕ) : ℚ)) := by
    field_simp
    push_cast
    ring
  have hshare : (count : ℚ) / ((count + 1 : ℕ) : ℚ) ≤ 1 := by
    rw [div_le_one hcount]
    exact_mod_cast Nat.le_succ count
  have hpos : (0 : ℚ) ≤ (count : ℚ) / ((count + 1 : ℕ) : ℚ) :=
    div_nonneg (Nat.cast_nonneg count) hcount.le
  rw [hstep, abs_mul, abs_of_nonneg hpos]
  calc |level - pending| * ((count : ℚ) / ((count + 1 : ℕ) : ℚ))
      ≤ |level - pending| * 1 := mul_le_mul_of_nonneg_left hshare (abs_nonneg _)
    _ = |level - pending| := mul_one _
    _ ≤ bound := h

lemma pend_level : (gate.pend config level).2 = gate.agreeing config level + 1 ∧
    |level - (gate.pend config level).1| ≤ config.jumpConsistencyM := by
  have halone : |level - level| ≤ config.jumpConsistencyM := by
    rw [sub_self, abs_zero]
    exact config.jumpConsistencyM_pos.le
  unfold JumpGate.pend JumpGate.agreeing
  split
  · split
    · rename_i hconsistent
      exact ⟨rfl, abs_sub_step_le _ hconsistent⟩
    · exact ⟨rfl, halone⟩
  · exact ⟨rfl, halone⟩

/-- The raw distances of some events. -/
def rawDistances (events : List GateEvent) : List ℚ :=
  events.filterMap fun event => match event with
    | .raw distance _ => some distance
    | _ => none

/-- Raw distances at one far level confirm a jump, once enough of them agree. -/
lemma confirms_level {events : List GateEvent} {missing : ℕ}
    (hlast : gate.lastAcceptedRawM = some last)
    (hfar : config.maxDistanceJumpM < |level - last|)
    (hless : gate.agreeing config level < config.jumpConfirmationFrames)
    (hreset : GateEvent.reset ∉ events)
    (hraws : rawDistances events = List.replicate missing level)
    (henough : config.jumpConfirmationFrames ≤ gate.agreeing config level + missing) :
    ∃ x ∈ (jumpGate config).trace gate events, Confirms x ∧ ∃ value, acceptedBy x = some value ∧
      |value - level| ≤ config.jumpConsistencyM := by
  induction events generalizing gate missing with
  | nil =>
    have hmissing : missing = 0 := by
      have hlength := congrArg List.length hraws
      rw [List.length_replicate] at hlength
      exact hlength.symm
    omega
  | cons event events ih =>
    have htail := fun h => hreset (List.mem_cons_of_mem event h)
    cases event with
    | reset => exact absurd List.mem_cons_self hreset
    | miss =>
      obtain ⟨x, hx, h⟩ := ih hlast hless htail hraws henough
      exact ⟨x, List.mem_cons_of_mem _ hx, h⟩
    | raw distance confidence =>
      have hcons : distance :: rawDistances events = List.replicate missing level := hraws
      cases missing with
      | zero => cases hcons
      | succ missing =>
        rw [List.replicate_succ, List.cons.injEq] at hcons
        obtain ⟨rfl, hraws⟩ := hcons
        obtain ⟨hcount, hclose⟩ := @pend_level config gate distance
        have hgated : Gated config gate distance confidence
          (gate.estimate config distance confidence) := gated_estimate
        have houtput : ((jumpGate config).stepAt gate (.raw distance confidence)).output =
            some (gate.estimate config distance confidence).1 := rfl
        show ∃ x ∈ (jumpGate config).stepAt gate (.raw distance confidence) ::
          (jumpGate config).trace (gate.estimate config distance confidence).2 events, _
        generalize gate.estimate config distance confidence = outcome at hgated houtput
        cases hgated with
        | near hnear =>
          rw [jumps_eq_true_iff.mpr ⟨last, hlast, hfar⟩] at hnear
          cases hnear
        | waits estimate _ _ hless' =>
          rw [hcount] at hless'
          have hagree : (gate.waiting config distance).agreeing config distance =
              gate.agreeing config distance + 1 := by
            rw [← hcount]
            exact if_pos hclose
          obtain ⟨x, hx, h⟩ := @ih (gate.waiting config distance) missing hlast
            (by rw [hagree]; exact hless') htail hraws (by rw [hagree]; omega)
          exact ⟨x, List.mem_cons_of_mem _ hx, h⟩
        | confirms _ _ =>
          refine ⟨_, List.mem_cons_self, ⟨_, houtput, rfl, rfl⟩, (gate.pend config distance).1, ?_,
            ?_⟩
          · unfold acceptedBy
            rw [houtput]
            rfl
          · rw [abs_sub_comm]
            exact hclose

end Level

lemma tracks_run (config : JumpGateConfig) (events : List GateEvent) :
    Tracks config ((jumpGate config).trace {} events) ((jumpGate config).final {} events) := by
  refine (jumpGate config).history_induction (motive := Tracks config) ?_ ?_ events
  · exact ⟨rfl, List.nil_suffix, fun _ h => by cases h⟩
  · intro tr gate event h
    exact (h.step event).1

lemma justified_run {config : JumpGateConfig} {events : List GateEvent} {l r : List GateStep}
    {x : GateStep} {estimate : GateEstimate}
    (hrun : (jumpGate config).trace {} events = l ++ x :: r) (houtput : x.output = some estimate)
    (hvalid : estimate.valid = true) : Justified config l x estimate := by
  obtain ⟨es₁, es₂, -, rfl, hx, -⟩ := (jumpGate config).trace_eq_append_cons hrun
  rw [hx] at houtput ⊢
  exact ((tracks_run config es₁).step x.event).2 estimate houtput hvalid

lemma rawsOf_trace (config : JumpGateConfig) (gate : JumpGate) (events : List GateEvent) :
    rawsOf ((jumpGate config).trace gate events) = rawDistances events := by
  unfold rawsOf rawDistances
  conv_rhs => rw [← Machine.map_event_trace (jumpGate config) gate events, List.filterMap_map]
  rfl

/-- **The jump gate keeps its guarantees**, for every sequence of raw distances, misses and
resets. -/
theorem jumpGated_run (config : JumpGateConfig) (events : List GateEvent) :
    JumpGated config ((jumpGate config).trace {} events) where
  accepted _ _ _ _ hrun houtput hvalid := (justified_run hrun houtput hvalid).accepted
  smoothed _ _ _ _ hrun houtput hvalid := (justified_run hrun houtput hvalid).smoothed
  confirmed l seg r last level hrun hlast hfar hreset hraws := by
    rw [List.append_assoc] at hrun
    obtain ⟨es₁, es, -, rfl, hrest⟩ := (jumpGate config).trace_eq_append hrun
    obtain ⟨es₂, es₃, -, rfl, -⟩ := (jumpGate config).trace_eq_append hrest.symm
    have htracks := tracks_run config es₁
    rw [rawsOf_trace] at hraws
    refine confirms_level (htracks.last.trans hlast) hfar ?_ ?_ hraws (Nat.le_add_left _ _)
    · unfold JumpGate.agreeing
      split
      · rename_i pending hpending
        obtain ⟨_, _, _, _, _, _, hless⟩ := htracks.pending pending hpending
        split
        · exact hless
        · exact config.jumpConfirmationFrames_pos
      · exact config.jumpConfirmationFrames_pos
    · intro hmem
      rw [← Machine.map_event_trace (jumpGate config) _ es₂] at hmem
      obtain ⟨x, hx, hevent⟩ := List.mem_map.mp hmem
      exact hreset x hx hevent

end UnitreeGo2.RobotTrack
