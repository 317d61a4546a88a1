import UnitreeGo2.Lib.PyValue
import UnitreeGo2.RobotTrack.NodeParts

/-!
# The runs of the RobotTrack node

The threads of the node take turns in segments.  What the plan store and the mux hold has come
from outside, and the node is closed exactly while its executor closes it.
-/

open Machine

namespace UnitreeGo2.RobotTrack

variable {σ I ι : Type}

/-! ## Where a command comes from -/

/-- The time that the dispatch has read in which the executor is. -/
def Callback.now : Callback I → Option ℚ
  | .expiring now | .reading now | .applying now _ | .computing now _ _ _ _ | .recording now _ _
  | .rechecking now _ _ | .reexpiring now _ _ | .publishing now _ _ => some now
  | .constructing | .idle | .submitting _ | .invalidating _ _ | .clearing _ _ | .stoppingWorker
  | .clearingPlans | .resettingRuntime | .deactivating | .zeroing | .closed => none

/-- Whether the node has begun to close. -/
def Callback.closing : Callback I → Bool
  | .stoppingWorker | .clearingPlans | .resettingRuntime | .deactivating | .zeroing | .closed =>
    true
  | _ => false

/-- A plan with the bounded command came at that time. -/
def Planned (cfg : NodeConfig) (tr : List (NodeStep σ I ι)) (arrival : ℚ)
    (command : VelocityCommand) : Prop :=
  ∃ x ∈ tr, ∃ raw, x.event = (arrival, .plan raw) ∧
    raw.clipped cfg.maxVx cfg.maxWz = .ok command

/-- The step offers the command to the mux. -/
def Enters (source : Source) (received : ℚ) (command : TwistCommand) (x : NodeStep σ I ι) : Prop :=
  match source with
  | .navigation => x.event = (received, .navigationCommand command)
  | .robottrack => x.event = (received, .robottrackCommand command) ∨
      ∃ raw selection, x.output = .published received raw selection ∧ velocityTwist raw = command

/-- The step gets the pair in a callback of one of its frames. -/
def Pairs (pair : RgbdFramePair I) (x : NodeStep σ I ι) : Prop :=
  x.pre.executor = .idle ∧ x.post.executor = .submitting pair

/-- The step brings the frame. -/
def Brings (stream : RgbdStream) (frame : TimedRgbdFrame I) (x : NodeStep σ I ι) : Prop :=
  match stream with
  | .rgb =>
    x.event = (frame.receivedMonotonic, .image (some (frame.image, frame.sourceTimestampS)))
  | .depth =>
    x.event = (frame.receivedMonotonic, .depth (.ok (frame.image, frame.sourceTimestampS)))

/-- What was measured before the step is not to be used any more. -/
def Invalidates (x : NodeStep σ I ι) : Prop :=
  ∃ status detail, x.pre.executor = .invalidating status detail ∧
    x.post.executor = .clearing status detail

/-- The pair was got, and nothing was invalidated since. -/
def Current (tr : List (NodeStep σ I ι)) (pair : RgbdFramePair I) : Prop :=
  ∃ l x r, tr = l ++ x :: r ∧ Pairs pair x ∧ ∀ z ∈ r, ¬ Invalidates z

/-- The measurement was committed for a pair of frames, and nothing was invalidated since they
came. -/
def Measured (tr : List (NodeStep σ I ι)) (m : DistanceMeasurement) (pair : RgbdFramePair I) :
    Prop :=
  Current tr pair ∧ ∃ x ∈ tr, ∃ epoch estimate, x.output = .committed epoch pair estimate ∧
    RobotTrackNode.Measures pair estimate m

/-! ## The segments -/

/-- What the threads do at the time `t`, which has come. -/
inductive Segment (cfg : NodeConfig) (strip : String → String)
    (est : DistanceEstimator σ (RgbdFramePair I) DistanceEstimate ι) (n : RobotTrackNode σ I)
    (t : ℚ) : NodeEvent I ι → NodeOutput I × RobotTrackNode σ I → Prop
  | proceed : Segment cfg strip est n t .proceed (n.proceed cfg strip t)
  | plan (command : VelocityCommand) :
    Segment cfg strip est n t (.plan command) (.silent, n.arrive cfg command t)
  | store : Segment cfg strip est n t .store (.silent, n.storePlan)
  | work (input : ι) : Segment cfg strip est n t (.work input) (n.work cfg strip est input t)
  | runtime (call : RuntimeCall) :
    Segment cfg strip est n t (.runtime call) (.silent, { n with runtime := call.run n.runtime })
  | callback (event : NodeEvent I ι) (hidle : n.executor = .idle) (hproceed : event ≠ .proceed) :
    Segment cfg strip est n t event (.silent, n.callback cfg t event)
  /-- The executor does not take the event. -/
  | missed (event : NodeEvent I ι) (hproceed : event ≠ .proceed) :
    Segment cfg strip est n t event (.silent, n)

open RobotTrackNode

variable {cfg : NodeConfig} {strip : String → String}
  {est : DistanceEstimator σ (RgbdFramePair I) DistanceEstimate ι} {n : RobotTrackNode σ I}
  {t now : ℚ} {tr : List (NodeStep σ I ι)} {x : NodeStep σ I ι}

/-- A step in time is a segment of one of the threads. -/
lemma step_segment (cfg : NodeConfig) (strip : String → String)
    (est : DistanceEstimator σ (RgbdFramePair I) DistanceEstimate ι) (n : RobotTrackNode σ I)
    (t : ℚ) (event : NodeEvent I ι) :
    (robotTrackNode cfg strip est).step n (t, event) = (.silent, n) ∨
      n.clock ≤ t ∧ Segment cfg strip est { n with clock := t } t event
        ((robotTrackNode cfg strip est).step n (t, event)) := by
  by_cases hlt : t < n.clock
  · exact Or.inl (if_pos hlt)
  refine Or.inr ⟨not_lt.mp hlt, ?_⟩
  have hstep : (robotTrackNode cfg strip est).step n (t, event) =
      ({ n with clock := t } : RobotTrackNode σ I).act cfg strip est t event := if_neg hlt
  rw [hstep]
  cases event with
  | proceed => exact .proceed
  | plan command => exact .plan command
  | store => exact .store
  | work input => exact .work input
  | runtime call => exact .runtime call
  | _ =>
    simp only [act]
    split
    · exact .callback _ (by assumption) (by simp)
    · exact .missed _ (by simp)

/-! ## Plans -/

lemma Planned.concat {arrival : ℚ} {command : VelocityCommand}
    (h : Planned cfg tr arrival command) :
    Planned cfg (tr ++ [x]) arrival command := by
  obtain ⟨y, hy, hplan⟩ := h
  exact ⟨y, List.mem_append_left _ hy, hplan⟩

/-- Every plan that is stored, or about to be, has come. -/
structure PlanInv (cfg : NodeConfig) (tr : List (NodeStep σ I ι)) (n : RobotTrackNode σ I) :
    Prop where
  plan : ∀ command, n.plans.plan = some command →
    Planned cfg tr n.plans.arrivalMonotonic command
  storing : ∀ command arrival, n.inference = .storing command arrival →
    Planned cfg tr arrival command

lemma PlanInv.of_eq {n' : RobotTrackNode σ I} (h : PlanInv cfg tr n)
    (hplans : n'.plans = n.plans ∨ n'.plans.plan = none) (hinference : n'.inference = n.inference) :
    PlanInv cfg (tr ++ [x]) n' := by
  constructor
  · intro command hplan
    rcases hplans with heq | hnone
    · rw [heq] at hplan ⊢
      exact (h.plan command hplan).concat
    · rw [hnone] at hplan
      cases hplan
  · intro command arrival hstoring
    rw [hinference] at hstoring
    exact (h.storing command arrival hstoring).concat

lemma planInv_step (h : PlanInv cfg tr n) (event : ℚ × NodeEvent I ι) :
    PlanInv cfg (tr ++ [(robotTrackNode cfg strip est).stepAt n event])
      ((robotTrackNode cfg strip est).step n event).2 := by
  obtain ⟨t, event⟩ := event
  rcases step_segment cfg strip est n t event with heq | ⟨-, hsegment⟩
  · rw [heq]
    exact h.of_eq (Or.inl rfl) rfl
  generalize hx : (robotTrackNode cfg strip est).stepAt n (t, event) = x
  have hevent : x.event = (t, event) := by
    rw [← hx]
    rfl
  generalize (robotTrackNode cfg strip est).step n (t, event) = s at hsegment ⊢
  cases hsegment with
  | proceed =>
    have hframe := proceed_frame cfg strip t { n with clock := t }
    exact h.of_eq hframe.plans hframe.inference
  | plan command =>
    rw [arrive]
    split
    · rename_i bounded _ hclipped
      refine ⟨fun c hplan => (h.plan c hplan).concat, ?_⟩
      intro c arrival hstoring
      cases hstoring
      exact ⟨x, by simp, command, hevent, hclipped⟩
    · exact h.of_eq (Or.inl rfl) rfl
  | store =>
    rw [storePlan]
    split
    · exact h.of_eq (Or.inl rfl) rfl
    · rename_i bounded arrival hstoring
      refine ⟨?_, fun c a hwaiting => by cases hwaiting⟩
      intro c hplan
      obtain rfl := Option.some.inj hplan
      exact (h.storing bounded arrival hstoring).concat
  | work input =>
    obtain ⟨r, m, heq, -⟩ := work_eq cfg strip est input t { n with clock := t }
    rw [heq]
    exact h.of_eq (Or.inl rfl) rfl
  | runtime call => exact h.of_eq (Or.inl rfl) rfl
  | callback event =>
    have hframe := callback_frame cfg t { n with clock := t } event
    exact h.of_eq hframe.plans hframe.inference
  | missed event => exact h.of_eq (Or.inl rfl) rfl

/-! ## The mux -/

lemma finite_eq {value : ExtRat} {name : String} {y : ℚ}
    (h : RobotTrack.finite value name = .ok y) : value = .fin y := by
  cases value with
  | fin z =>
    obtain rfl := Except.ok.inj h
    rfl
  | _ => cases h

/-- A command is stored as it is offered. -/
lemma twist_finite {command checked : TwistCommand} (h : command.finite = .ok checked) :
    checked = command := by
  obtain ⟨linearX, h₁, h⟩ := Except.bind_eq_ok_iff.mp h
  obtain ⟨linearY, h₂, h⟩ := Except.bind_eq_ok_iff.mp h
  obtain ⟨linearZ, h₃, h⟩ := Except.bind_eq_ok_iff.mp h
  obtain ⟨angularX, h₄, h⟩ := Except.bind_eq_ok_iff.mp h
  obtain ⟨angularY, h₅, h⟩ := Except.bind_eq_ok_iff.mp h
  obtain ⟨angularZ, h₆, h⟩ := Except.bind_eq_ok_iff.mp h
  obtain rfl := Except.ok.inj h
  rw [← finite_eq h₁, ← finite_eq h₂, ← finite_eq h₃, ← finite_eq h₄, ← finite_eq h₅,
    ← finite_eq h₆]

lemma update_cases {m m' : CommandSourceMux} {name : Source} {command : TwistCommand}
    {received : ℚ} (h : m.update name command received = .ok m') :
    m.Outdated name received ∧ m' = m ∨
      ¬ m.Outdated name received ∧ m' = m.store name command received := by
  rw [CommandSourceMux.update] at h
  cases hfinite : command.finite with
  | error detail =>
    rw [hfinite] at h
    cases h
  | ok checked =>
    rw [hfinite, twist_finite hfinite] at h
    obtain rfl := Except.ok.inj h
    by_cases houtdated : m.Outdated name received
    · exact Or.inl ⟨houtdated, if_pos houtdated⟩
    · exact Or.inr ⟨houtdated, if_neg houtdated⟩

/-- The end of a dispatch leaves the mux alone, or offers the command that it publishes. -/
lemma publish_mux (cfg : NodeConfig) (now : ℚ) (command : VelocityCommand) (reason : String)
    (n : RobotTrackNode σ I) :
    (n.publish cfg now command reason).2.mux = n.mux ∨
      ∃ mux, n.mux.update .robottrack (velocityTwist command) now = .ok mux ∧
        n.publish cfg now command reason =
          (.published now command (mux.output now), ({ n with mux := mux }).goTo .idle) := by
  rw [publish]
  split
  · exact Or.inl rfl
  · split
    · exact Or.inl rfl
    · exact Or.inr ⟨_, by assumption, rfl⟩

lemma proceed_mux (cfg : NodeConfig) (strip : String → String) (t : ℚ) (n : RobotTrackNode σ I) :
    (n.proceed cfg strip t).2.mux = n.mux ∨
      ∃ now command reason, n.executor = .publishing now command reason ∧
        n.proceed cfg strip t = n.publish cfg now command reason := by
  rw [proceed]
  cases n.executor with
  | publishing now command reason => exact Or.inr ⟨now, command, reason, rfl, rfl⟩
  | expiring now | reexpiring now =>
    obtain ⟨r, m, heq, -⟩ := expire_eq cfg strip (n := n) now
    dsimp only
    rw [heq]
    exact Or.inl rfl
  | clearing status detail | computing now command index active measurement =>
    dsimp only
    split <;> exact Or.inl rfl
  | _ => exact Or.inl rfl

/-- The executor goes on with its dispatch, or leaves it. -/
lemma proceed_now (cfg : NodeConfig) (strip : String → String) (t : ℚ) (n : RobotTrackNode σ I) :
    (n.proceed cfg strip t).2.executor.now = n.executor.now ∨
      (n.proceed cfg strip t).2.executor.now = none := by
  rw [proceed]
  cases hexec : n.executor with
  | publishing now command reason =>
    refine Or.inr ?_
    dsimp only
    rw [publish]
    split
    · rfl
    · split <;> rfl
  | reading now =>
    refine Or.inl ?_
    dsimp only [goTo]
    split_ifs <;> rfl
  | recording now command | rechecking now command =>
    refine Or.inl ?_
    dsimp only [goTo]
    split_ifs <;> rfl
  | computing now command index active measurement =>
    refine Or.inl ?_
    dsimp only
    split
    · rw [hexec]
    · rfl
  | clearingPlans =>
    refine Or.inr ?_
    dsimp only [goTo]
    split_ifs <;> rfl
  | expiring now | applying now | reexpiring now => exact Or.inl rfl
  | idle | closed => exact Or.inl (by rw [hexec])
  | _ => exact Or.inr rfl

lemma receive_mux (name : Source) (message : TwistCommand) (received : ℚ)
    (n : RobotTrackNode σ I) :
    (n.receive name message received).mux = n.mux ∨
      (n.receive name message received).mux = n.mux.store name message received ∧
        (n.receive name message received).executor = n.executor := by
  rw [receive]
  split
  · exact Or.inl rfl
  · rename_i mux hupdate
    rcases update_cases hupdate with ⟨-, rfl⟩ | ⟨-, rfl⟩
    · exact Or.inl rfl
    · exact Or.inr ⟨rfl, rfl⟩

/-- A callback leaves the mux alone, or stores the command that it brings. -/
lemma callback_mux (cfg : NodeConfig) (t : ℚ) (n : RobotTrackNode σ I) (event : NodeEvent I ι) :
    (n.callback cfg t event).mux = n.mux ∨ ∃ source command,
      (n.callback cfg t event).mux = n.mux.store source command t ∧
        (n.callback cfg t event).executor = n.executor ∧
        ∀ x : NodeStep σ I ι, x.event = (t, event) → Enters source t command x := by
  cases event with
  | navigationCommand message =>
    rw [callback]
    split
    · rcases receive_mux .navigation message t n with heq | ⟨heq, hexec⟩
      · exact Or.inl heq
      · exact Or.inr ⟨.navigation, message, heq, hexec, fun _ h => h⟩
    · exact Or.inl rfl
  | robottrackCommand message =>
    rw [callback]
    split
    · rcases receive_mux .robottrack message t n with heq | ⟨heq, hexec⟩
      · exact Or.inl heq
      · exact Or.inr ⟨.robottrack, message, heq, hexec, fun _ h => Or.inl h⟩
    · exact Or.inl rfl
  | image frame =>
    cases frame with
    | none => exact Or.inl rfl
    | some frame =>
      obtain ⟨image, source⟩ := frame
      rw [callback]
      split <;> exact Or.inl rfl
  | depth frame =>
    cases frame with
    | error error =>
      rw [callback]
      split <;> exact Or.inl rfl
    | ok frame =>
      obtain ⟨image, source⟩ := frame
      rw [callback]
      split <;> exact Or.inl rfl
  | _ => exact Or.inl rfl

/-- A callback begins a dispatch at its own time only. -/
lemma callback_now (cfg : NodeConfig) (t : ℚ) (hidle : n.executor = .idle) (event : NodeEvent I ι) :
    (n.callback cfg t event).executor.now = none ∨
      event = .timer ∧ (n.callback cfg t event).executor = .expiring t := by
  have hnone : n.executor.now = none := by rw [hidle]; rfl
  have hdecision : ∀ decision : RgbdPairDecision I, (handleDecision decision).now = none := by
    intro decision
    rw [handleDecision]
    split
    · rfl
    · split_ifs <;> rfl
  cases event with
  | timer => exact Or.inr ⟨rfl, rfl⟩
  | image frame =>
    cases frame with
    | none => exact Or.inl hnone
    | some frame =>
      obtain ⟨image, source⟩ := frame
      rw [callback]
      split
      · exact Or.inl (hdecision _)
      · exact Or.inl hnone
  | depth frame =>
    cases frame with
    | error error =>
      rw [callback]
      split
      · exact Or.inl rfl
      · exact Or.inl hnone
    | ok frame =>
      obtain ⟨image, source⟩ := frame
      rw [callback]
      split
      · exact Or.inl (hdecision _)
      · exact Or.inl hnone
  | navigationCommand message | robottrackCommand message =>
    rw [callback]
    split
    · rw [receive]
      split <;> exact Or.inl hnone
    · exact Or.inl hnone
  | close => exact Or.inl rfl
  | _ => exact Or.inl hnone

/-- What the mux holds has been offered to it, and not after the dispatch that is under way
has begun. -/
structure NodeMuxInv (cfg : NodeConfig) (tr : List (NodeStep σ I ι)) (n : RobotTrackNode σ I) :
    Prop where
  selected : n.mux.selectedSource = cfg.selectedSource
  maxAge : n.mux.maxAgeS = cfg.sourceMaxAgeS
  entered : ∀ source entry, n.mux.latest source = some entry →
    ∃ x ∈ tr, Enters source entry.received entry.command x
  received : ∀ source entry, n.mux.latest source = some entry → entry.received ≤ n.clock
  before : ∀ now source entry, n.executor.now = some now → n.mux.latest source = some entry →
    entry.received ≤ now
  time : ∀ now, n.executor.now = some now → now ≤ n.clock

lemma NodeMuxInv.of_eq {n' : RobotTrackNode σ I} (h : NodeMuxInv cfg tr n) (hmux : n'.mux = n.mux)
    (hclock : n.clock ≤ n'.clock) (hnow : n'.executor.now = n.executor.now ∨
      n'.executor.now = none ∨ n'.executor.now = some n'.clock) :
    NodeMuxInv cfg (tr ++ [x]) n' := by
  constructor
  · rw [hmux]
    exact h.selected
  · rw [hmux]
    exact h.maxAge
  · intro source entry hentry
    rw [hmux] at hentry
    obtain ⟨y, hy, henters⟩ := h.entered source entry hentry
    exact ⟨y, List.mem_append_left _ hy, henters⟩
  · intro source entry hentry
    rw [hmux] at hentry
    exact (h.received source entry hentry).trans hclock
  · intro now source entry hdispatch hentry
    rw [hmux] at hentry
    rcases hnow with heq | heq | heq
    · exact h.before now source entry (heq ▸ hdispatch) hentry
    · rw [heq] at hdispatch
      cases hdispatch
    · obtain rfl := Option.some.inj (heq.symm.trans hdispatch)
      exact (h.received source entry hentry).trans hclock
  · intro now hdispatch
    rcases hnow with heq | heq | heq
    · exact (h.time now (heq ▸ hdispatch)).trans hclock
    · rw [heq] at hdispatch
      cases hdispatch
    · obtain rfl := Option.some.inj (heq.symm.trans hdispatch)
      exact le_rfl

/-- A command enters the mux while no dispatch is under way. -/
lemma NodeMuxInv.store {n' : RobotTrackNode σ I} (h : NodeMuxInv cfg tr n) {source : Source}
    {command : TwistCommand} {received : ℚ} (henters : Enters source received command x)
    (hmux : n'.mux = n.mux.store source command received) (hclock : n.clock ≤ n'.clock)
    (hreceived : received ≤ n'.clock) (hnone : n'.executor.now = none) :
    NodeMuxInv cfg (tr ++ [x]) n' := by
  constructor
  · rw [hmux]
    exact h.selected
  · rw [hmux]
    exact h.maxAge
  · intro other entry hentry
    rw [hmux, CommandSourceMux.store_latest] at hentry
    split at hentry
    · rename_i hsame
      obtain rfl := Option.some.inj hentry
      rw [hsame]
      exact ⟨x, by simp, henters⟩
    · obtain ⟨y, hy, hprevious⟩ := h.entered other entry hentry
      exact ⟨y, List.mem_append_left _ hy, hprevious⟩
  · intro other entry hentry
    rw [hmux, CommandSourceMux.store_latest] at hentry
    split at hentry
    · obtain rfl := Option.some.inj hentry
      exact hreceived
    · exact (h.received other entry hentry).trans hclock
  · intro now other entry hdispatch
    rw [hnone] at hdispatch
    cases hdispatch
  · intro now hdispatch
    rw [hnone] at hdispatch
    cases hdispatch

lemma nodeMuxInv_step (h : NodeMuxInv cfg tr n) (event : ℚ × NodeEvent I ι) :
    NodeMuxInv cfg (tr ++ [(robotTrackNode cfg strip est).stepAt n event])
      ((robotTrackNode cfg strip est).step n event).2 := by
  obtain ⟨t, event⟩ := event
  rcases step_segment cfg strip est n t event with
    heq | ⟨htime, hsegment⟩
  · rw [heq]
    exact h.of_eq rfl le_rfl (Or.inl rfl)
  generalize hx : (robotTrackNode cfg strip est).stepAt n (t, event) = x
  have hevent : x.event = (t, event) := by
    rw [← hx]
    rfl
  have houtput : x.output = ((robotTrackNode cfg strip est).step n (t, event)).1 := by
    rw [← hx]
    rfl
  generalize (robotTrackNode cfg strip est).step n (t, event) = s at hsegment houtput ⊢
  cases hsegment with
  | proceed =>
    have hclock := (proceed_frame cfg strip t { n with clock := t }).clock
    rcases proceed_mux cfg strip t { n with clock := t } with
      hmux | ⟨now, command, reason, hexec, heq⟩
    · refine h.of_eq hmux (by rw [hclock]; exact htime) ?_
      rcases proceed_now cfg strip t { n with clock := t } with
        heq | heq
      · exact Or.inl heq
      · exact Or.inr (Or.inl heq)
    · have hnow : now ≤ t := (h.time now (by rw [show n.executor = _ from hexec]; rfl)).trans htime
      rw [heq] at houtput ⊢
      rcases publish_mux cfg now command reason { n with clock := t } with
        hmux | ⟨mux, hupdate, hpublish⟩
      · have hframe := publish_frame cfg now command reason { n with clock := t }
        refine h.of_eq hmux (by rw [hframe.clock]; exact htime) (Or.inr (Or.inl ?_))
        rw [publish]
        split
        · rfl
        · split <;> rfl
      · rw [hpublish] at houtput ⊢
        rcases update_cases hupdate with ⟨-, rfl⟩ | ⟨-, rfl⟩
        · exact h.of_eq rfl htime (Or.inr (Or.inl rfl))
        · have henters : Enters .robottrack now (velocityTwist command) x :=
            Or.inr ⟨command, _, houtput, rfl⟩
          exact h.store henters rfl htime hnow rfl
  | plan command =>
    rw [arrive]
    split <;> exact h.of_eq rfl htime (Or.inl rfl)
  | store =>
    rw [storePlan]
    split <;> exact h.of_eq rfl htime (Or.inl rfl)
  | work input =>
    obtain ⟨r, m, heq, -⟩ := work_eq cfg strip est input t { n with clock := t }
    rw [heq]
    exact h.of_eq rfl htime (Or.inl rfl)
  | runtime call => exact h.of_eq rfl htime (Or.inl rfl)
  | callback event hidle =>
    have hclock := (callback_frame cfg t { n with clock := t } event).clock
    rcases callback_mux cfg t { n with clock := t } event with
      hmux | ⟨source, command, hmux, hexec, henters⟩
    · refine h.of_eq hmux (by rw [hclock]; exact htime) (Or.inr ?_)
      rcases callback_now cfg t hidle event with hnone | ⟨-, hexpiring⟩
      · exact Or.inl hnone
      · rw [hexpiring, hclock]
        exact Or.inr rfl
    · refine h.store (henters x hevent) hmux (by rw [hclock]; exact htime) hclock.ge ?_
      rw [hexec, hidle]
      rfl
  | missed event => exact h.of_eq rfl htime (Or.inl rfl)

/-! ## Closing -/

/-- What a segment of the worker thread leaves alone. -/
lemma work_closed (w : RgbdDistanceWorker σ (RgbdFramePair I) DistanceEstimate) (input : ι) :
    (w.work est input).2.closed = w.closed := by
  have hgoOn : ∀ epoch next, (w.goOn epoch next).closed = w.closed := by
    intro epoch next
    rw [RgbdDistanceWorker.goOn]
    split
    · rfl
    · split <;> rfl
  rw [RgbdDistanceWorker.work]
  split
  case h_2 =>
    dsimp only
    rw [RgbdDistanceWorker.take]
    split
    · rfl
    · split <;> rfl
  case h_4 => split <;> rfl
  case h_9 =>
    rw [RgbdDistanceWorker.onDistanceEstimate]
    split
    · rfl
    · split <;> rfl
  case h_10 =>
    rw [RgbdDistanceWorker.onDistanceEstimationError]
    split <;> rfl
  all_goals first | rfl | exact hgoOn _ _

lemma proceed_closed (n : RobotTrackNode σ I) (h : n.worker.closed = n.executor.closing) :
    (n.proceed cfg strip t).2.worker.closed = (n.proceed cfg strip t).2.executor.closing := by
  rw [proceed]
  cases hexec : n.executor with
  | constructing =>
    rw [hexec] at h
    dsimp only [goTo]
    split
    · rw [RgbdDistanceWorker.start]
      split
      · split <;> exact h
      · exact h
    · exact h
  | submitting pair =>
    rw [hexec] at h
    dsimp only [goTo]
    rw [RgbdDistanceWorker.submit]
    split <;> exact h
  | invalidating status detail =>
    rw [hexec] at h
    dsimp only [goTo]
    rw [RgbdDistanceWorker.invalidate]
    split <;> exact h
  | clearing status detail =>
    rw [hexec] at h
    dsimp only [goTo]
    split <;> exact h
  | expiring now =>
    obtain ⟨r, m, heq, -⟩ := expire_eq cfg strip (n := n) now
    rw [hexec] at h
    dsimp only [goTo]
    rw [heq]
    exact h
  | reexpiring now command reason =>
    obtain ⟨r, m, heq, -⟩ := expire_eq cfg strip (n := n) now
    rw [hexec] at h
    dsimp only [goTo]
    rw [heq]
    exact h
  | reading now | recording now command index | rechecking now command reason =>
    rw [hexec] at h
    dsimp only [goTo]
    split_ifs <;> exact h
  | computing now command index active measurement =>
    dsimp only
    split
    · exact h
    · rw [hexec] at h
      exact h
  | publishing now command reason =>
    rw [hexec] at h
    dsimp only
    rw [publish]
    split
    · exact h
    · split
      · rfl
      · exact h
  | stoppingWorker =>
    rw [hexec] at h
    dsimp only [goTo]
    split
    · exact h
    · exact h
  | clearingPlans =>
    rw [hexec] at h
    dsimp only [goTo]
    split <;> exact h
  | idle | closed => exact h
  | _ =>
    rw [hexec] at h
    exact h

lemma callback_closed (hidle : n.executor = .idle) (h : n.worker.closed = n.executor.closing)
    (event : NodeEvent I ι) :
    (n.callback cfg t event).worker.closed = (n.callback cfg t event).executor.closing := by
  have hopen : n.worker.closed = false := by rw [h, hidle]; rfl
  have hdecision : ∀ decision : RgbdPairDecision I, (handleDecision decision).closing = false := by
    intro decision
    rw [handleDecision]
    split
    · rfl
    · split_ifs <;> rfl
  cases event with
  | image frame =>
    cases frame with
    | none => exact h
    | some frame =>
      obtain ⟨image, source⟩ := frame
      rw [callback]
      split
      · exact hopen.trans (hdecision _).symm
      · exact h
  | depth frame =>
    cases frame with
    | error error =>
      rw [callback]
      split
      · exact hopen
      · exact h
    | ok frame =>
      obtain ⟨image, source⟩ := frame
      rw [callback]
      split
      · exact hopen.trans (hdecision _).symm
      · exact h
  | navigationCommand message | robottrackCommand message =>
    rw [callback]
    split
    · rw [receive]
      split <;> exact h
    · exact h
  | timer => exact hopen
  | close => rfl
  | _ => exact h

/-- The worker is closed exactly while the executor closes the node. -/
lemma closing_step (h : n.worker.closed = n.executor.closing) (event : ℚ × NodeEvent I ι) :
    ((robotTrackNode cfg strip est).step n event).2.worker.closed =
      ((robotTrackNode cfg strip est).step n event).2.executor.closing := by
  obtain ⟨t, event⟩ := event
  rcases step_segment cfg strip est n t event with heq | ⟨-, hsegment⟩
  · rw [heq]
    exact h
  generalize (robotTrackNode cfg strip est).step n (t, event) = s at hsegment ⊢
  cases hsegment with
  | proceed => exact proceed_closed _ h
  | plan command =>
    rw [arrive]
    split <;> exact h
  | store =>
    rw [storePlan]
    split <;> exact h
  | work input =>
    obtain ⟨r, m, heq, -⟩ := work_eq cfg strip est input t { n with clock := t }
    rw [heq]
    exact (work_closed n.worker input).trans h
  | runtime call => exact h
  | callback event hidle => exact callback_closed hidle h event
  | missed event => exact h

end UnitreeGo2.RobotTrack
