import UnitreeGo2.Lib.Machine

/-!
# The distance worker

A thread estimates the distance of the tracked person from pairs of camera frames.  The
estimator keeps state between pairs and runs outside the lock, so that a new target, which
invalidates what was estimated so far, may come while an estimate is under way.  Epochs tell
the work of one target from that of another.
-/

namespace UnitreeGo2.RobotTrack

/-! ## The worker -/

/-- The methods of a `DistanceEstimator` on its state `σ`, and the result callback of the node.
They may depend on what they read from outside, such as a clock. -/
structure DistanceEstimator (σ P R ι : Type) where
  /-- Whether a reset succeeds, and the state after it. -/
  reset : ι → σ → Bool × σ
  /-- The result of an estimate, if it does not raise, and the state after it. -/
  estimate : ι → σ → P → Option R × σ
  /-- Whether the callback raises on a result. -/
  resultRaises : ι → P → R → Bool

/-- Where the thread is in `_run`. -/
inductive Thread (P R : Type) where
  | unstarted
  /-- At the top of the loop. -/
  | waiting
  | resetting (epoch : ℕ) (pair : P)
  | resetFailed (epoch : ℕ) (pair : P)
  /-- Before the check that precedes an estimate. -/
  | ready (epoch : ℕ) (pair : P)
  | estimating (epoch : ℕ) (pair : P)
  | estimateFailed (epoch : ℕ) (pair : P)
  | estimated (epoch : ℕ) (pair : P) (result : R)
  /-- In `_on_result`. -/
  | reporting (epoch : ℕ) (pair : P) (result : R)
  /-- In `_on_error`. -/
  | reportingError (epoch : ℕ) (pair : P)
  | stopped

/-- The worker, with the state of its estimator, and whether its node is closed. -/
structure RgbdDistanceWorker (σ P R : Type) where
  estimator : σ
  latest : Option (ℕ × P) := none
  resetBeforeEstimate : Bool := false
  epoch : ℕ := 0
  stop : Bool := false
  thread : Thread P R := .unstarted
  closed : Bool := false

inductive WorkerEvent (P ι : Type) where
  | start
  | submit (pair : P)
  | invalidate
  | requestStop
  /-- The node closes. -/
  | close
  /-- The thread is scheduled for one of its steps. -/
  | work (input : ι)

inductive WorkerOutput (P R : Type) where
  | done
  | answered (accepted : Bool)
  /-- The node commits a result. -/
  | committed (epoch : ℕ) (pair : P) (result : R)
  /-- The node clears its measurement after an error. -/
  | cleared (epoch : ℕ)

namespace RgbdDistanceWorker

variable {σ P R ι : Type}

def start (w : RgbdDistanceWorker σ P R) : RgbdDistanceWorker σ P R :=
  match w.thread with
  | .unstarted => if w.stop then w else { w with thread := .waiting }
  | _ => w

def submit (pair : P) (w : RgbdDistanceWorker σ P R) : Bool × RgbdDistanceWorker σ P R :=
  if w.stop then (false, w) else (true, { w with latest := some (w.epoch, pair) })

def invalidate (w : RgbdDistanceWorker σ P R) : Bool × RgbdDistanceWorker σ P R :=
  if w.stop then (false, w)
  else
    (true, { w with epoch := w.epoch + 1, latest := none, resetBeforeEstimate := true })

def requestStop (w : RgbdDistanceWorker σ P R) : RgbdDistanceWorker σ P R :=
  { w with stop := true, epoch := w.epoch + 1, latest := none, resetBeforeEstimate := false }

/-- Whether `commit_if_current` commits. -/
def commits (epoch : ℕ) (w : RgbdDistanceWorker σ P R) : Bool :=
  !w.stop && epoch = w.epoch

/-- The check of the epoch between two parts of `_run`. -/
def goOn (epoch : ℕ) (next : Thread P R) (w : RgbdDistanceWorker σ P R) :
    RgbdDistanceWorker σ P R :=
  if w.stop then { w with thread := .stopped }
  else if epoch ≠ w.epoch then { w with thread := .waiting }
  else { w with thread := next }

/-- The top of the loop. -/
def take (w : RgbdDistanceWorker σ P R) : RgbdDistanceWorker σ P R :=
  if w.stop then { w with thread := .stopped }
  else
    match w.latest with
    | none => w
    | some (epoch, pair) =>
      { w with
        latest := none
        resetBeforeEstimate := false
        thread := if w.resetBeforeEstimate then .resetting epoch pair else .ready epoch pair }

/-- `_on_distance_estimate`, the result callback of the node. -/
def onDistanceEstimate (raises : Bool) (epoch : ℕ) (pair : P) (result : R)
    (w : RgbdDistanceWorker σ P R) : WorkerOutput P R × RgbdDistanceWorker σ P R :=
  if raises then (.done, { w with thread := .reportingError epoch pair })
  else if !w.closed && w.commits epoch then
    (.committed epoch pair result, { w with thread := .waiting })
  else (.done, { w with thread := .waiting })

/-- `_on_distance_estimation_error`, the error callback of the node. -/
def onDistanceEstimationError (epoch : ℕ) (w : RgbdDistanceWorker σ P R) :
    WorkerOutput P R × RgbdDistanceWorker σ P R :=
  if !w.closed && w.commits epoch then (.cleared epoch, { w with thread := .waiting })
  else (.done, { w with thread := .waiting })

variable (est : DistanceEstimator σ P R ι)

/-- One step of the thread. -/
def work (input : ι) (w : RgbdDistanceWorker σ P R) :
    WorkerOutput P R × RgbdDistanceWorker σ P R :=
  match w.thread with
  | .unstarted => (.done, w)
  | .waiting => (.done, w.take)
  | .resetting epoch pair =>
    let (success, estimator) := est.reset input w.estimator
    (.done, { w with
      estimator := estimator
      thread := if success then .ready epoch pair else .resetFailed epoch pair })
  | .resetFailed epoch pair =>
    if w.stop then (.done, { w with thread := .stopped })
    else
      (.done, { w with resetBeforeEstimate := true, thread := .reportingError epoch pair })
  | .ready epoch pair => (.done, w.goOn epoch (.estimating epoch pair))
  | .estimating epoch pair =>
    let (result, estimator) := est.estimate input w.estimator pair
    (.done, { w with
      estimator := estimator
      thread := match result with
        | some result => .estimated epoch pair result
        | none => .estimateFailed epoch pair })
  | .estimateFailed epoch pair => (.done, w.goOn epoch (.reportingError epoch pair))
  | .estimated epoch pair result => (.done, w.goOn epoch (.reporting epoch pair result))
  | .reporting epoch pair result =>
    w.onDistanceEstimate (est.resultRaises input pair result) epoch pair result
  | .reportingError epoch _ => w.onDistanceEstimationError epoch
  | .stopped => (.done, w)

end RgbdDistanceWorker

/-- The machine of a worker and the threads around it. -/
def distanceWorker {σ P R ι : Type} (est : DistanceEstimator σ P R ι) :
    Machine (RgbdDistanceWorker σ P R) (WorkerEvent P ι) (WorkerOutput P R) where
  step w event :=
    match event with
    | .start => (.done, w.start)
    | .submit pair =>
      let (accepted, w) := w.submit pair
      (.answered accepted, w)
    | .invalidate =>
      let (accepted, w) := w.invalidate
      (.answered accepted, w)
    | .requestStop => (.done, w.requestStop)
    | .close => (.done, { w with closed := true })
    | .work input => w.work est input

/-! ## The histories of a worker -/

section Histories

variable {σ P R ι : Type}

abbrev WorkerStep (σ P R ι : Type) :=
  Machine.Step (RgbdDistanceWorker σ P R) (WorkerEvent P ι) (WorkerOutput P R)

/-- The pair was submitted in the epoch. -/
def Submitted (tr : List (WorkerStep σ P R ι)) (epoch : ℕ) (pair : P) : Prop :=
  ∃ x ∈ tr, x.event = .submit pair ∧ x.pre.epoch = epoch ∧ x.pre.stop = false

/-- The step resets the estimator in the epoch, and succeeds. -/
def ResetsIn (epoch : ℕ) (x : WorkerStep σ P R ι) : Prop :=
  (∃ input, x.event = .work input) ∧ x.pre.epoch = epoch ∧
    ∃ pair, x.pre.thread = .resetting epoch pair ∧ x.post.thread = .ready epoch pair

/-- The step leaves the estimator alone, or runs it on a pair of the epoch. -/
def KeepsEpoch (tr : List (WorkerStep σ P R ι)) (epoch : ℕ) (x : WorkerStep σ P R ι) : Prop :=
  x.post.estimator = x.pre.estimator ∨
    (∃ input, x.event = .work input) ∧
      ∃ pair, x.pre.thread = .estimating epoch pair ∧ Submitted tr epoch pair

/-- The estimator was reset in the epoch, or is still that of the first epoch, and has only
seen pairs of the epoch since. -/
def OfEpoch (epoch : ℕ) (tr : List (WorkerStep σ P R ι)) : Prop :=
  (∃ a z b, tr = a ++ z :: b ∧ ResetsIn epoch z ∧ ∀ x ∈ b, KeepsEpoch tr epoch x) ∨
    epoch = 0 ∧ ∀ x ∈ tr, KeepsEpoch tr 0 x

/-- The result was estimated from the pair by an estimator of the epoch. -/
def EstimatedIn (est : DistanceEstimator σ P R ι) (tr : List (WorkerStep σ P R ι)) (epoch : ℕ)
    (pair : P) (result : R) : Prop :=
  ∃ l x r input, tr = l ++ x :: r ∧ x.event = .work input ∧
    x.pre.thread = .estimating epoch pair ∧
    (est.estimate input x.pre.estimator pair).1 = some result ∧ OfEpoch epoch l

/-- The epochs of a run isolate its targets. -/
structure EpochsIsolated (est : DistanceEstimator σ P R ι) (tr : List (WorkerStep σ P R ι)) :
    Prop where
  /-- A result that is committed is one of the current epoch. -/
  current : ∀ l x r epoch pair result, tr = l ++ x :: r →
    x.output = .committed epoch pair result →
    (x.pre.epoch = epoch ∧ x.pre.stop = false) ∧ Submitted l epoch pair ∧
      EstimatedIn est l epoch pair result
  invalidated : ∀ l y m x r epoch pair result, tr = l ++ y :: (m ++ x :: r) →
    y.event = .invalidate → x.output = .committed epoch pair result → y.pre.epoch < epoch
  stopped : ∀ l y m x r epoch pair result, tr = l ++ y :: (m ++ x :: r) →
    y.event = .requestStop → x.output ≠ .committed epoch pair result

variable {tr : List (WorkerStep σ P R ι)} {x : WorkerStep σ P R ι} {epoch : ℕ} {pair : P}

lemma Submitted.concat (h : Submitted tr epoch pair) : Submitted (tr ++ [x]) epoch pair := by
  obtain ⟨y, hy, hsubmits⟩ := h
  exact ⟨y, by simp [hy], hsubmits⟩

lemma KeepsEpoch.concat {y : WorkerStep σ P R ι} (h : KeepsEpoch tr epoch y) :
    KeepsEpoch (tr ++ [x]) epoch y := by
  rcases h with h | ⟨hwork, pair, hthread, hsubmitted⟩
  · exact .inl h
  · exact .inr ⟨hwork, pair, hthread, hsubmitted.concat⟩

lemma OfEpoch.concat (h : OfEpoch epoch tr) (hx : KeepsEpoch tr epoch x) :
    OfEpoch epoch (tr ++ [x]) := by
  rcases h with ⟨a, z, b, rfl, hreset, hkeeps⟩ | ⟨rfl, hkeeps⟩
  · refine .inl ⟨a, z, b ++ [x], by simp, hreset, fun y hy => ?_⟩
    rcases List.mem_append.mp hy with hy | hy
    · exact (hkeeps y hy).concat
    · rw [List.mem_singleton.mp hy]
      exact hx.concat
  · refine .inr ⟨rfl, fun y hy => ?_⟩
    rcases List.mem_append.mp hy with hy | hy
    · exact (hkeeps y hy).concat
    · rw [List.mem_singleton.mp hy]
      exact hx.concat

lemma ofEpoch_reset (hx : ResetsIn epoch x) : OfEpoch epoch (tr ++ [x]) :=
  .inl ⟨tr, x, [], rfl, hx, by simp⟩

lemma EstimatedIn.concat {est : DistanceEstimator σ P R ι} {result : R}
    (h : EstimatedIn est tr epoch pair result) :
    EstimatedIn est (tr ++ [x]) epoch pair result := by
  obtain ⟨l, y, r, input, rfl, hrest⟩ := h
  exact ⟨l, y, r ++ [x], input, by simp, hrest⟩

end Histories

/-! ## What a running worker knows -/

section Runs

variable {σ P R ι : Type} {est : DistanceEstimator σ P R ι} {tr : List (WorkerStep σ P R ι)}
  {w w' : RgbdDistanceWorker σ P R} {x : WorkerStep σ P R ι}

/-- The thread holds a pair of an epoch that may have passed, and then a reset is due. -/
structure Holds (tr : List (WorkerStep σ P R ι)) (w : RgbdDistanceWorker σ P R) (epoch : ℕ)
    (pair : P) : Prop where
  le : epoch ≤ w.epoch
  submitted : Submitted tr epoch pair
  behind : epoch < w.epoch → w.resetBeforeEstimate = true

/-- What the place of the thread says about the estimator. -/
def ThreadKnows (est : DistanceEstimator σ P R ι) (tr : List (WorkerStep σ P R ι))
    (w : RgbdDistanceWorker σ P R) : Thread P R → Prop
  | .unstarted | .waiting | .reportingError _ _ =>
    w.resetBeforeEstimate = false → OfEpoch w.epoch tr
  | .resetting epoch pair =>
    Holds tr w epoch pair ∧ (epoch = w.epoch → w.resetBeforeEstimate = false)
  | .ready epoch pair | .estimating epoch pair | .estimateFailed epoch pair =>
    Holds tr w epoch pair ∧
      (epoch = w.epoch → w.resetBeforeEstimate = false ∧ OfEpoch epoch tr)
  | .estimated epoch pair result | .reporting epoch pair result =>
    Holds tr w epoch pair ∧
      (epoch = w.epoch → w.resetBeforeEstimate = false ∧ OfEpoch epoch tr ∧
        EstimatedIn est tr epoch pair result)
  | .resetFailed _ _ | .stopped => True

/-- The invariant of a worker that runs. -/
structure Isolated (est : DistanceEstimator σ P R ι) (tr : List (WorkerStep σ P R ι))
    (w : RgbdDistanceWorker σ P R) : Prop where
  latest : ∀ epoch pair, w.latest = some (epoch, pair) →
    epoch = w.epoch ∧ Submitted tr epoch pair
  thread : ThreadKnows est tr w w.thread

lemma Holds.concat {epoch : ℕ} {pair : P} (h : Holds tr w epoch pair)
    (hepoch : w'.epoch = w.epoch) (hreset : w'.resetBeforeEstimate = w.resetBeforeEstimate) :
    Holds (tr ++ [x]) w' epoch pair where
  le := hepoch ▸ h.le
  submitted := h.submitted.concat
  behind := by
    rw [hepoch, hreset]
    exact h.behind

lemma keepsEpoch_of_eq {epoch : ℕ} (h : x.post.estimator = x.pre.estimator) :
    KeepsEpoch tr epoch x := .inl h

/-- A step that leaves the estimator alone keeps what the thread knows at its place. -/
lemma ThreadKnows.concat {thread : Thread P R} (h : ThreadKnows est tr w thread)
    (hepoch : w'.epoch = w.epoch) (hreset : w'.resetBeforeEstimate = w.resetBeforeEstimate)
    (hx : x.post.estimator = x.pre.estimator) : ThreadKnows est (tr ++ [x]) w' thread := by
  have hof : ∀ {epoch}, OfEpoch epoch tr → OfEpoch epoch (tr ++ [x]) := fun h =>
    h.concat (keepsEpoch_of_eq hx)
  cases thread with
  | unstarted | waiting | reportingError epoch pair =>
    intro hnone
    rw [hepoch]
    exact hof (h (hreset ▸ hnone))
  | resetting epoch pair =>
    refine ⟨h.1.concat hepoch hreset, fun he => ?_⟩
    rw [hreset]
    exact h.2 (he.trans hepoch)
  | ready epoch pair | estimating epoch pair | estimateFailed epoch pair =>
    refine ⟨h.1.concat hepoch hreset, fun he => ?_⟩
    obtain ⟨hnone, hepochs⟩ := h.2 (he.trans hepoch)
    exact ⟨hreset.trans hnone, hof hepochs⟩
  | estimated epoch pair result | reporting epoch pair result =>
    refine ⟨h.1.concat hepoch hreset, fun he => ?_⟩
    obtain ⟨hnone, hepochs, hestimated⟩ := h.2 (he.trans hepoch)
    exact ⟨hreset.trans hnone, hof hepochs, hestimated.concat⟩
  | resetFailed epoch pair | stopped => trivial

/-- After an invalidation nothing that the thread holds is current. -/
lemma ThreadKnows.invalidate {thread : Thread P R} (h : ThreadKnows est tr w thread)
    (hepoch : w'.epoch = w.epoch + 1) (hreset : w'.resetBeforeEstimate = true) :
    ThreadKnows est (tr ++ [x]) w' thread := by
  have hholds : ∀ {epoch pair}, Holds tr w epoch pair → Holds (tr ++ [x]) w' epoch pair :=
    fun h => ⟨by rw [hepoch]; exact Nat.le_succ_of_le h.le, h.submitted.concat, fun _ => hreset⟩
  have hpassed : ∀ {epoch pair}, Holds tr w epoch pair → epoch ≠ w'.epoch := by
    intro epoch pair h he
    have := h.le
    omega
  cases thread with
  | unstarted | waiting | reportingError epoch pair =>
    intro hnone
    cases hreset.symm.trans hnone
  | resetting epoch pair => exact ⟨hholds h.1, fun he => absurd he (hpassed h.1)⟩
  | ready epoch pair | estimating epoch pair | estimateFailed epoch pair =>
    exact ⟨hholds h.1, fun he => absurd he (hpassed h.1)⟩
  | estimated epoch pair result | reporting epoch pair result =>
    exact ⟨hholds h.1, fun he => absurd he (hpassed h.1)⟩
  | resetFailed epoch pair | stopped => trivial

@[simp] lemma take_estimator : w.take.estimator = w.estimator := by
  unfold RgbdDistanceWorker.take
  split
  · rfl
  split <;> rfl

/-- A pair that is not current leaves the thread at the top of the loop. -/
lemma Holds.waiting {epoch : ℕ} {pair : P} (h : Holds tr w epoch pair)
    (hne : epoch ≠ w.epoch) : w.resetBeforeEstimate = true :=
  h.behind (Nat.lt_of_le_of_ne h.le hne)

lemma Isolated.of_thread (h : Isolated est tr w) (hepoch : w'.epoch = w.epoch)
    (hlatest : w'.latest = w.latest) (hthread : ThreadKnows est (tr ++ [x]) w' w'.thread) :
    Isolated est (tr ++ [x]) w' where
  latest epoch pair he := by
    obtain ⟨rfl, hsubmitted⟩ := h.latest epoch pair (hlatest ▸ he)
    exact ⟨hepoch.symm, hsubmitted.concat⟩
  thread := hthread

/-- What a running thread knows at the top of the loop. -/
lemma ofEpoch_of_holds {epoch : ℕ} {pair : P} (h : Holds tr w epoch pair)
    (hcurrent : epoch = w.epoch → OfEpoch epoch tr) (hnone : w.resetBeforeEstimate = false) :
    OfEpoch w.epoch tr := by
  by_cases he : epoch = w.epoch
  · rw [← he]
    exact hcurrent he
  · cases (h.waiting he).symm.trans hnone

/-- The checks of the epoch go on only in the current one. -/
lemma threadKnows_goOn {epoch : ℕ} {pair : P} {next : Thread P R} (hstop : w.stop = false)
    (hx : x.post.estimator = x.pre.estimator) (hholds : Holds tr w epoch pair)
    (hnext : epoch = w.epoch → ThreadKnows est tr w next) :
    ThreadKnows est (tr ++ [x]) (w.goOn epoch next) (w.goOn epoch next).thread := by
  unfold RgbdDistanceWorker.goOn
  rw [if_neg (by simp [hstop])]
  split
  · rename_i hne
    intro hnone
    cases (hholds.waiting hne).symm.trans hnone
  · rename_i he
    exact (hnext (Decidable.not_not.mp he)).concat rfl rfl hx

@[simp] lemma goOn_epoch (epoch : ℕ) (next : Thread P R) :
    (w.goOn epoch next).epoch = w.epoch := by
  unfold RgbdDistanceWorker.goOn
  split
  · rfl
  split <;> rfl

@[simp] lemma goOn_latest (epoch : ℕ) (next : Thread P R) :
    (w.goOn epoch next).latest = w.latest := by
  unfold RgbdDistanceWorker.goOn
  split
  · rfl
  split <;> rfl

@[simp] lemma goOn_estimator (epoch : ℕ) (next : Thread P R) :
    (w.goOn epoch next).estimator = w.estimator := by
  unfold RgbdDistanceWorker.goOn
  split
  · rfl
  split <;> rfl

lemma isolated_take (h : Isolated est tr w) (hstop : w.stop = false) (hw : w.thread = .waiting)
    (hx : x.post.estimator = x.pre.estimator) : Isolated est (tr ++ [x]) w.take := by
  have hthread : ThreadKnows est tr w .waiting := hw ▸ h.thread
  unfold RgbdDistanceWorker.take
  rw [if_neg (by simp [hstop])]
  split
  · exact h.of_thread rfl rfl (hw ▸ hthread.concat rfl rfl hx)
  rename_i epoch pair hpending
  obtain ⟨rfl, hsubmitted⟩ := h.latest epoch pair hpending
  refine ⟨fun epoch pair he => (by cases he), ?_⟩
  have hholds : ∀ w' : RgbdDistanceWorker σ P R, w'.epoch = w.epoch →
      Holds (tr ++ [x]) w' w.epoch pair := fun w' he =>
    ⟨Nat.le_of_eq he.symm, hsubmitted.concat, fun hlt => by omega⟩
  simp only
  split
  · exact ⟨hholds _ rfl, fun _ => rfl⟩
  · rename_i hreset
    rw [Bool.not_eq_true] at hreset
    exact ⟨hholds _ rfl, fun _ => ⟨rfl, (hthread hreset).concat (.inl hx)⟩⟩

lemma isolated_reset (h : Isolated est tr w) {epoch : ℕ} {pair : P} {success : Bool}
    {estimator : σ} (hw : w.thread = .resetting epoch pair)
    (hw' : w' = { w with
      estimator := estimator
      thread := if success then .ready epoch pair else .resetFailed epoch pair })
    (hx : success = true → w.epoch = epoch → ResetsIn epoch x) :
    Isolated est (tr ++ [x]) w' := by
  have hthread : ThreadKnows est tr w (.resetting epoch pair) := hw ▸ h.thread
  obtain ⟨hholds, hcurrent⟩ := hthread
  subst hw'
  refine h.of_thread rfl rfl ?_
  simp only
  split
  · rename_i hsuccess
    exact ⟨hholds.concat rfl rfl, fun he => ⟨hcurrent he, ofEpoch_reset (hx hsuccess he.symm)⟩⟩
  · trivial

lemma isolated_estimate (h : Isolated est tr w) {epoch : ℕ} {pair : P} {input : ι}
    (hw : w.thread = .estimating epoch pair) (hpre : x.pre = w) (hevent : x.event = .work input)
    (hw' : w' = { w with
      estimator := (est.estimate input w.estimator pair).2
      thread := match (est.estimate input w.estimator pair).1 with
        | some result => .estimated epoch pair result
        | none => .estimateFailed epoch pair }) :
    Isolated est (tr ++ [x]) w' := by
  have hthread : ThreadKnows est tr w (.estimating epoch pair) := hw ▸ h.thread
  obtain ⟨hholds, hcurrent⟩ := hthread
  have hx : KeepsEpoch tr epoch x :=
    .inr ⟨⟨input, hevent⟩, pair, by rw [hpre, hw], hholds.submitted⟩
  subst hw'
  refine h.of_thread rfl rfl ?_
  simp only
  split
  · rename_i result hresult
    refine ⟨hholds.concat rfl rfl, fun he => ?_⟩
    obtain ⟨hnone, hepochs⟩ := hcurrent he
    exact ⟨hnone, hepochs.concat hx, tr, x, [], input, rfl, hevent, by rw [hpre, hw],
      by rw [hpre, hresult], hepochs⟩
  · refine ⟨hholds.concat rfl rfl, fun he => ?_⟩
    obtain ⟨hnone, hepochs⟩ := hcurrent he
    exact ⟨hnone, hepochs.concat hx⟩

/-- A callback that returns, or raises, leaves what is known at the top of the loop. -/
lemma isolated_report (h : Isolated est tr w) (hw' : w'.epoch = w.epoch)
    (hlatest : w'.latest = w.latest) (hreset : w'.resetBeforeEstimate = w.resetBeforeEstimate)
    (hthread : w'.thread = .waiting ∨ ∃ epoch pair, w'.thread = .reportingError epoch pair)
    (hx : x.post.estimator = x.pre.estimator)
    (htop : w.resetBeforeEstimate = false → OfEpoch w.epoch tr) :
    Isolated est (tr ++ [x]) w' := by
  have hknows : w'.resetBeforeEstimate = false → OfEpoch w'.epoch (tr ++ [x]) := by
    intro hnone
    rw [hw']
    exact (htop (hreset ▸ hnone)).concat (.inl hx)
  refine h.of_thread hw' hlatest ?_
  rcases hthread with hthread | ⟨epoch, pair, hthread⟩
  · rw [hthread]
    exact hknows
  · rw [hthread]
    exact hknows

/-- One step of the thread keeps the invariant. -/
lemma isolated_work (h : Isolated est tr w) (hstop : w.stop = false) (input : ι)
    (hpre : x.pre = w) (hevent : x.event = .work input) (hpost : x.post = (w.work est input).2) :
    Isolated est (tr ++ [x]) (w.work est input).2 := by
  have hthread := h.thread
  unfold RgbdDistanceWorker.work at hpost ⊢
  split at hpost
  · rename_i hw
    rw [hw] at hthread
    exact h.of_thread rfl rfl (hw ▸ hthread.concat rfl rfl (by rw [hpost, hpre]))
  · rename_i hw
    exact isolated_take h hstop hw (by rw [hpost, hpre]; exact take_estimator)
  · rename_i epoch pair hw
    refine isolated_reset h hw rfl fun hsuccess he => ⟨⟨input, hevent⟩, by rw [hpre, he], pair,
      by rw [hpre, hw], ?_⟩
    rw [hpost]
    exact if_pos hsuccess
  · rename_i epoch pair hw
    simp only [hstop, Bool.false_eq_true, if_false]
    exact h.of_thread rfl rfl fun hnone => by cases hnone
  · rename_i epoch pair hw
    have hx : x.post.estimator = x.pre.estimator := by rw [hpost, hpre]; exact goOn_estimator ..
    rw [hw] at hthread
    exact h.of_thread (goOn_epoch ..) (goOn_latest ..)
      (threadKnows_goOn hstop hx hthread.1 fun _ => hthread)
  · rename_i epoch pair hw
    exact isolated_estimate h hw hpre hevent rfl
  · rename_i epoch pair hw
    have hx : x.post.estimator = x.pre.estimator := by rw [hpost, hpre]; exact goOn_estimator ..
    rw [hw] at hthread
    exact h.of_thread (goOn_epoch ..) (goOn_latest ..)
      (threadKnows_goOn hstop hx hthread.1 fun he _ => he ▸ (hthread.2 he).2)
  · rename_i epoch pair result hw
    have hx : x.post.estimator = x.pre.estimator := by rw [hpost, hpre]; exact goOn_estimator ..
    rw [hw] at hthread
    exact h.of_thread (goOn_epoch ..) (goOn_latest ..)
      (threadKnows_goOn hstop hx hthread.1 fun _ => hthread)
  · rename_i epoch pair result hw
    rw [hw] at hthread
    have htop := ofEpoch_of_holds hthread.1 fun he => (hthread.2 he).2.1
    unfold RgbdDistanceWorker.onDistanceEstimate at hpost ⊢
    split
    · rename_i hraises
      rw [if_pos hraises] at hpost
      exact isolated_report h rfl rfl rfl (.inr ⟨_, _, rfl⟩) (by rw [hpost, hpre]) htop
    rename_i hreturns
    rw [if_neg hreturns] at hpost
    split at hpost
    · rename_i hcommits
      rw [if_pos hcommits]
      exact isolated_report h rfl rfl rfl (.inl rfl) (by rw [hpost, hpre]) htop
    · rename_i hskips
      rw [if_neg hskips]
      exact isolated_report h rfl rfl rfl (.inl rfl) (by rw [hpost, hpre]) htop
  · rename_i epoch pair hw
    rw [hw] at hthread
    unfold RgbdDistanceWorker.onDistanceEstimationError at hpost ⊢
    split at hpost
    · rename_i hcommits
      rw [if_pos hcommits]
      exact isolated_report h rfl rfl rfl (.inl rfl) (by rw [hpost, hpre]) hthread
    · rename_i hskips
      rw [if_neg hskips]
      exact isolated_report h rfl rfl rfl (.inl rfl) (by rw [hpost, hpre]) hthread
  · rename_i hw
    rw [hw] at hthread
    exact h.of_thread rfl rfl (hw ▸ hthread.concat rfl rfl (by rw [hpost, hpre]))

/-- Only other threads stop the worker or change its epoch. -/
lemma work_control (est : DistanceEstimator σ P R ι) (input : ι) :
    (w.work est input).2.stop = w.stop ∧ (w.work est input).2.epoch = w.epoch := by
  have hgoOn : ∀ epoch next, (w.goOn epoch next).stop = w.stop := by
    intro epoch next
    unfold RgbdDistanceWorker.goOn
    split
    · rfl
    split <;> rfl
  unfold RgbdDistanceWorker.work RgbdDistanceWorker.onDistanceEstimate
    RgbdDistanceWorker.onDistanceEstimationError RgbdDistanceWorker.take
  repeat' split
  all_goals first | exact ⟨rfl, rfl⟩ | exact ⟨hgoOn _ _, goOn_epoch _ _⟩

/-- A step neither revokes a stop nor goes back to an earlier epoch. -/
lemma step_control (est : DistanceEstimator σ P R ι) (w : RgbdDistanceWorker σ P R)
    (event : WorkerEvent P ι) :
    (w.stop = true → ((distanceWorker est).step w event).2.stop = true) ∧
      w.epoch ≤ ((distanceWorker est).step w event).2.epoch := by
  cases event with
  | start =>
    show (_ → w.start.stop = true) ∧ w.epoch ≤ w.start.epoch
    unfold RgbdDistanceWorker.start
    repeat' split
    all_goals exact ⟨id, Nat.le_refl _⟩
  | submit pair =>
    show (_ → (w.submit pair).2.stop = true) ∧ w.epoch ≤ (w.submit pair).2.epoch
    unfold RgbdDistanceWorker.submit
    split
    all_goals exact ⟨id, Nat.le_refl _⟩
  | invalidate =>
    show (_ → w.invalidate.2.stop = true) ∧ w.epoch ≤ w.invalidate.2.epoch
    unfold RgbdDistanceWorker.invalidate
    split
    · exact ⟨id, Nat.le_refl _⟩
    · exact ⟨id, Nat.le_succ _⟩
  | requestStop => exact ⟨fun _ => rfl, Nat.le_succ _⟩
  | close => exact ⟨id, Nat.le_refl _⟩
  | work input =>
    obtain ⟨hstop, hepoch⟩ := work_control (w := w) est input
    exact ⟨fun h => hstop.trans h, Nat.le_of_eq hepoch.symm⟩

lemma final_control (est : DistanceEstimator σ P R ι) (w : RgbdDistanceWorker σ P R)
    (events : List (WorkerEvent P ι)) :
    (w.stop = true → ((distanceWorker est).final w events).stop = true) ∧
      w.epoch ≤ ((distanceWorker est).final w events).epoch := by
  refine (distanceWorker est).history_induction
    (motive := fun _ w' => (w.stop = true → w'.stop = true) ∧ w.epoch ≤ w'.epoch)
    ⟨id, Nat.le_refl _⟩ ?_ events
  rintro _ w' event ⟨hstop, hepoch⟩
  obtain ⟨hstop', hepoch'⟩ := step_control est w' event
  exact ⟨fun h => hstop' (hstop h), Nat.le_trans hepoch hepoch'⟩

@[simp] lemma start_estimator : w.start.estimator = w.estimator := by
  unfold RgbdDistanceWorker.start
  split
  · split <;> rfl
  · rfl

lemma isolated_start (h : Isolated est tr w) (hx : x.post.estimator = x.pre.estimator) :
    Isolated est (tr ++ [x]) w.start := by
  have hthread := h.thread
  unfold RgbdDistanceWorker.start
  split
  · rename_i hw
    rw [hw] at hthread
    split
    · exact h.of_thread rfl rfl (hw ▸ hthread.concat rfl rfl hx)
    · have hwaiting : ThreadKnows est tr w .waiting := hthread
      exact h.of_thread rfl rfl (hwaiting.concat rfl rfl hx)
  · exact h.of_thread rfl rfl (hthread.concat rfl rfl hx)

/-- A submitted pair is one of the current epoch. -/
lemma isolated_submit (h : Isolated est tr w) (hstop : w.stop = false) {pair : P}
    (hpre : x.pre = w) (hevent : x.event = .submit pair) (hpost : x.post = (w.submit pair).2) :
    Isolated est (tr ++ [x]) (w.submit pair).2 := by
  have haccepted : (w.submit pair).2 = { w with latest := some (w.epoch, pair) } := by
    rw [RgbdDistanceWorker.submit, if_neg (by simp [hstop])]
  rw [haccepted] at hpost ⊢
  refine ⟨fun epoch pair' he => ?_, h.thread.concat rfl rfl (by rw [hpost, hpre])⟩
  obtain ⟨rfl, rfl⟩ := Prod.mk.inj (Option.some.inj he)
  exact ⟨rfl, x, by simp, hevent, by rw [hpre], by rw [hpre, hstop]⟩

lemma isolated_invalidate (h : Isolated est tr w) (hstop : w.stop = false) :
    Isolated est (tr ++ [x]) w.invalidate.2 := by
  rw [RgbdDistanceWorker.invalidate, if_neg (by simp [hstop])]
  exact ⟨fun epoch pair he => (by cases he), h.thread.invalidate rfl rfl⟩

/-- One step keeps the invariant of a running worker. -/
lemma isolated_step (h : w.stop = false → Isolated est tr w) (event : WorkerEvent P ι)
    (hstop : ((distanceWorker est).step w event).2.stop = false) :
    Isolated est (tr ++ [(distanceWorker est).stepAt w event])
      ((distanceWorker est).step w event).2 := by
  have hrunning : w.stop = false := by
    by_contra hne
    rw [Bool.not_eq_false] at hne
    cases hstop.symm.trans ((step_control est w event).1 hne)
  have hisolated := h hrunning
  cases event with
  | start => exact isolated_start hisolated start_estimator
  | submit pair => exact isolated_submit hisolated hrunning rfl rfl rfl
  | invalidate => exact isolated_invalidate hisolated hrunning
  | requestStop => cases hstop
  | close => exact hisolated.of_thread rfl rfl (hisolated.thread.concat rfl rfl rfl)
  | work input => exact isolated_work hisolated hrunning input rfl rfl rfl

/-- The worker of a new node. -/
def RgbdDistanceWorker.new (estimator : σ) : RgbdDistanceWorker σ P R where
  estimator := estimator

lemma isolated_run (est : DistanceEstimator σ P R ι) (estimator : σ)
    (events : List (WorkerEvent P ι))
    (hstop : ((distanceWorker est).final (.new estimator) events).stop = false) :
    Isolated est ((distanceWorker est).trace (.new estimator) events)
      ((distanceWorker est).final (.new estimator) events) := by
  revert hstop
  refine (distanceWorker est).history_induction
    (motive := fun tr w => w.stop = false → Isolated est tr w) ?_ ?_ events
  · intro _
    refine ⟨fun epoch pair he => (by cases he), fun _ => .inr ⟨rfl, fun x hx => ?_⟩⟩
    cases hx
  · intro tr w event ih hstop
    exact isolated_step ih event hstop

/-- What a commit looks like. -/
lemma reporting_of_committed {epoch : ℕ} {pair : P} {result : R} {event : WorkerEvent P ι}
    (h : ((distanceWorker est).step w event).1 = .committed epoch pair result) :
    w.thread = .reporting epoch pair result ∧ w.stop = false ∧ epoch = w.epoch := by
  cases event with
  | work input =>
    have hwork : (w.work est input).1 = .committed epoch pair result := h
    unfold RgbdDistanceWorker.work at hwork
    split at hwork
    all_goals try cases hwork
    · split at hwork
      all_goals cases hwork
    · rename_i epoch' pair' result' hw
      unfold RgbdDistanceWorker.onDistanceEstimate at hwork
      split at hwork
      · cases hwork
      split at hwork
      · rename_i hcommits
        cases hwork
        simp only [RgbdDistanceWorker.commits, Bool.and_eq_true, Bool.not_eq_true',
          decide_eq_true_eq] at hcommits
        exact ⟨hw, hcommits.2⟩
      · cases hwork
    · unfold RgbdDistanceWorker.onDistanceEstimationError at hwork
      split at hwork
      all_goals cases hwork
  | _ => cases h

/-- **Epochs isolate targets.**  In every run, a result that is committed was estimated in the
epoch of the commit, from a pair of that epoch and by an estimator that has seen nothing else
since it was reset in it, and none is committed after its epoch was invalidated or the worker
was stopped. -/
theorem epochsIsolated_run (est : DistanceEstimator σ P R ι) (estimator : σ)
    (events : List (WorkerEvent P ι)) :
    EpochsIsolated est ((distanceWorker est).trace (.new estimator) events) where
  current l x r epoch pair result htr houtput := by
    obtain ⟨before, _, -, rfl, hxe, -⟩ := (distanceWorker est).trace_eq_append_cons htr
    rw [hxe] at houtput ⊢
    obtain ⟨hthread, hstop, rfl⟩ := reporting_of_committed houtput
    have hisolated := (isolated_run est estimator before hstop).thread
    rw [hthread] at hisolated
    obtain ⟨hholds, hcurrent⟩ := hisolated
    exact ⟨⟨rfl, hstop⟩, hholds.submitted, (hcurrent rfl).2.2⟩
  invalidated l y m x r epoch pair result htr hy houtput := by
    obtain ⟨before, _, -, -, hye, hrest⟩ := (distanceWorker est).trace_eq_append_cons htr
    obtain ⟨between, _, -, -, hxe, -⟩ := (distanceWorker est).trace_eq_append_cons hrest.symm
    rw [hxe] at houtput
    obtain ⟨-, hstop, rfl⟩ := reporting_of_committed houtput
    have hlater := final_control est y.post between
    have hrunning : y.pre.stop = false := by
      by_contra hne
      rw [Bool.not_eq_false] at hne
      have hpost : y.post.stop = true := by
        rw [hye] at hne ⊢
        exact (step_control est _ y.event).1 hne
      cases hstop.symm.trans (hlater.1 hpost)
    have hnext : y.post.epoch = y.pre.epoch + 1 := by
      rw [hye] at hrunning ⊢
      rw [hy]
      show ((RgbdDistanceWorker.invalidate _).2).epoch = _
      rw [RgbdDistanceWorker.invalidate, if_neg (by simpa using hrunning)]
      rfl
    have hle := hlater.2
    omega
  stopped l y m x r epoch pair result htr hy houtput := by
    obtain ⟨before, _, -, -, hye, hrest⟩ := (distanceWorker est).trace_eq_append_cons htr
    obtain ⟨between, _, -, -, hxe, -⟩ := (distanceWorker est).trace_eq_append_cons hrest.symm
    rw [hxe] at houtput
    obtain ⟨-, hstop, -⟩ := reporting_of_committed houtput
    have hpost : y.post.stop = true := by
      rw [hye, hy]
      rfl
    cases hstop.symm.trans ((final_control est y.post between).1 hpost)

/-! ## The first epoch -/

/-- An estimator that adds up what it is given. -/
def summingEstimator : DistanceEstimator ℕ ℕ ℕ Unit where
  reset _ _ := (true, 0)
  estimate _ sum pair := (some (sum + pair), sum + pair)
  resultRaises _ _ _ := false

/-- A pair is submitted and estimated. -/
def firstEstimate : List (WorkerEvent ℕ Unit) :=
  [.start, .submit 1, .work (), .work (), .work (), .work ()]

/-- The first result of a worker is committed without a reset. -/
theorem not_reset_firstEstimate : ¬ ∀ (est : DistanceEstimator ℕ ℕ ℕ Unit) estimator events
    l x r epoch pair result, (distanceWorker est).trace (.new estimator) events = l ++ x :: r →
    x.output = .committed epoch pair result → ∃ z ∈ l, ResetsIn epoch z := by
  intro h
  let machine := distanceWorker summingEstimator
  obtain ⟨z, hz, -, -, pair, hthread, -⟩ := h summingEstimator 0 (firstEstimate ++ [.work ()])
    (machine.trace (.new 0) firstEstimate)
    (machine.stepAt (machine.final (.new 0) firstEstimate) (.work ())) [] 0 1 1
    (machine.trace_concat ..) rfl
  have hnever : ∀ y ∈ machine.trace (.new 0) firstEstimate,
      (match y.pre.thread with | .resetting .. => false | _ => true) = true := by
    decide
  have hfalse := hnever z hz
  rw [hthread] at hfalse
  cases hfalse

end Runs

end UnitreeGo2.RobotTrack
