import Mathlib.Tactic.Linarith
import Mathlib.Tactic.NormNum
import UnitreeGo2.Chassis.SafetyGuardTransitions

/-!
# The zero preamble of the motion guard

Before the guard is armed it holds a zero command for a while.  Its ticks sample the command,
and a command that is replaced between two ticks leaves no trace.
-/

namespace UnitreeGo2.Chassis

open SafetyGuard

/-! ## The zero preamble of an armed session -/

/-- The time that the caller passes to a call. -/
def GuardEvent.nowSec? : GuardEvent → Option ℚ
  | .updateRobotState nowSec _ _ => some nowSec
  | .updateCommand nowSec _ => some nowSec
  | .requestArm nowSec => some nowSec
  | .requestDisarm nowSec => some nowSec
  | .forceFault _ => none
  | .tick nowSec _ => some nowSec

/-- The times of the calls never decrease. -/
def Chronological (events : List GuardEvent) : Prop :=
  events.Pairwise fun e f => ∀ t ∈ e.nowSec?, ∀ u ∈ f.nowSec?, t ≤ u

/-- The steps since the request that opened the preparation, up to now. -/
structure Preparation (tr : List GuardRunStep) (startSec : ℚ) (m : List GuardRunStep) :
    Prop where
  opened : ∃ l a, tr = l ++ a :: m ∧ a.event = .requestArm startSec ∧
    a.pre.state ≠ .preparing ∧ a.post.state = .preparing
  preparing : ∀ z ∈ m, z.post.state = .preparing

/-- A tick that arms the guard ends a preparation that was opened long enough ago, and in
which every command of that time was zero. -/
def ZeroPreamble (config : GuardConfig) (tr : List GuardRunStep) : Prop :=
  ∀ l y r nowSec dtSec, tr = l ++ y :: r → y.event = .tick nowSec dtSec →
    y.pre.state = .preparing → y.post.state = .armed →
    ∃ startSec m, Preparation l startSec m ∧ startSec ≤ nowSec - config.zeroPreparationSec ∧
      ∀ x ∈ m, ∀ t command, x.event = .updateCommand t command →
        nowSec - config.zeroPreparationSec < t →
          finite command = true ∧ isZero config command = true

/-- A call that looks at the command or replaces it. -/
def UsesCommand (x : GuardRunStep) : Prop := IsTick x ∨ IsUpdateCommand x

/-- No command of a preparation but a zero one is replaced before a tick has seen it. -/
def Sampled (config : GuardConfig) (tr : List GuardRunStep) : Prop :=
  ∀ l x m y r t command, tr = l ++ x :: (m ++ y :: r) →
    x.event = .updateCommand t command → IsUpdateCommand y →
    (∀ z ∈ x :: (m ++ [y]), z.post.state = .preparing) → (∀ z ∈ m, ¬ UsesCommand z) →
    isZero config command = true

/-- The preparation of a guard that is preparing: every command since it was opened is
zero, or from before the last restart, or still the command of the guard. -/
structure Preparing (config : GuardConfig) (tr m : List GuardRunStep) (g : SafetyGuard)
    (startSec : ℚ) : Prop where
  preparation : Preparation tr startSec m
  start : startSec ≤ g.preparationStartSec
  commands : ∀ x ∈ m, ∀ t command, x.event = .updateCommand t command →
    isZero config command = true ∨ t ≤ g.preparationStartSec ∨
      Machine.Latest UsesCommand m x ∧ command = g.command

def Prepares (config : GuardConfig) (tr : List GuardRunStep) (g : SafetyGuard) : Prop :=
  g.state = .preparing → ∃ m startSec, Preparing config tr m g startSec

lemma Preparation.concat {tr m : List GuardRunStep} {startSec : ℚ} {y : GuardRunStep}
    (h : Preparation tr startSec m) (hy : y.post.state = .preparing) :
    Preparation (tr ++ [y]) startSec (m ++ [y]) where
  opened := by
    obtain ⟨l, a, rfl, ha⟩ := h.opened
    exact ⟨l, a, by simp, ha⟩
  preparing z hz := by
    rcases List.mem_append.mp hz with hz | hz
    · exact h.preparing z hz
    · rw [List.mem_singleton.mp hz]
      exact hy

lemma Preparation.mem {tr m : List GuardRunStep} {startSec : ℚ}
    (h : Preparation tr startSec m) {z : GuardRunStep} (hz : z ∈ m) : z ∈ tr := by
  obtain ⟨l, a, rfl, -⟩ := h.opened
  simp [hz]

/-- A call that neither looks at the command nor replaces it keeps the preparation. -/
lemma Preparing.concat_of_not_usesCommand {config : GuardConfig} {tr m : List GuardRunStep}
    {g g' : SafetyGuard} {startSec : ℚ} {y : GuardRunStep}
    (h : Preparing config tr m g startSec) (hy : y.post.state = .preparing)
    (hstart : g'.preparationStartSec = g.preparationStartSec) (hcommand : g'.command = g.command)
    (huses : ¬ UsesCommand y) : Preparing config (tr ++ [y]) (m ++ [y]) g' startSec where
  preparation := h.preparation.concat hy
  start := hstart ▸ h.start
  commands x hx t command hevent := by
    rcases List.mem_append.mp hx with hx | hx
    · rw [hstart, hcommand]
      refine (h.commands x hx t command hevent).imp_right (Or.imp_right ?_)
      exact fun ⟨hlatest, heq⟩ => ⟨hlatest.concat huses, heq⟩
    · rw [List.mem_singleton.mp hx] at hevent
      exact absurd (.inr ⟨t, command, hevent⟩) huses

/-- A tick keeps the preparation, and restarts it when the command is not zero. -/
lemma Prepares.tick {config : GuardConfig} {tr : List GuardRunStep} {g : SafetyGuard}
    {y : GuardRunStep} {nowSec dtSec : ℚ} {decision : GuardDecision} (h : Prepares config tr g)
    (hstep : TickStep config nowSec dtSec g decision y.post)
    (hevent : y.event = .tick nowSec dtSec)
    (htimes : ∀ z ∈ tr, ∀ t ∈ z.event.nowSec?, t ≤ nowSec) :
    Prepares config (tr ++ [y]) y.post := by
  intro hpost
  obtain ⟨pre, event, output, post⟩ := y
  dsimp only at hstep hevent hpost ⊢
  have hnot : ∀ t command, event ≠ .updateCommand t command := by simp [hevent]
  cases hstep with
  | idle _ hstate =>
    rcases hstate with rfl | ⟨rfl, hne, -⟩
    · cases hpost
    · exact absurd hpost hne
  | failed => cases hpost
  | restarted hstate =>
    obtain ⟨m, startSec, hm⟩ := h hstate
    refine ⟨m ++ [_], startSec, hm.preparation.concat hpost, ?_, ?_⟩
    · obtain ⟨l, a, rfl, ha, -⟩ := hm.preparation.opened
      exact htimes a (by simp) startSec (by simp [ha, GuardEvent.nowSec?])
    · intro x hx t command hxevent
      rcases List.mem_append.mp hx with hx | hx
      · refine .inr (.inl (htimes x (hm.preparation.mem hx) t ?_))
        simp [hxevent, GuardEvent.nowSec?]
      · rw [List.mem_singleton.mp hx] at hxevent
        exact absurd hxevent (hnot _ _)
  | holding hstate hzero =>
    obtain ⟨m, startSec, hm⟩ := h hstate
    refine ⟨m ++ [_], startSec, hm.preparation.concat hpost, hm.start, ?_⟩
    intro x hx t command hxevent
    rcases List.mem_append.mp hx with hx | hx
    · rcases hm.commands x hx t command hxevent with h₁ | h₂ | ⟨-, rfl⟩
      · exact .inl h₁
      · exact .inr (.inl h₂)
      · exact .inl hzero
    · rw [List.mem_singleton.mp hx] at hxevent
      exact absurd hxevent (hnot _ _)
  | started _ _ _ _ _ hr =>
    subst hr
    cases ((tickArmed_cases ..).1).symm.trans hpost
  | continued _ hstate _ hr =>
    subst hr
    cases hstate.symm.trans (((tickArmed_cases ..).1).symm.trans hpost)

/-- The other calls keep the preparation, provided that no command but a zero one is replaced
before a tick has seen it. -/
lemma Prepares.call {config : GuardConfig} {tr : List GuardRunStep} {g : SafetyGuard}
    {y : GuardRunStep} (h : Prepares config tr g) (hpre : y.pre = g)
    (hstep : CallStep config g y.event y.post) (htick : ¬ IsTick y)
    (hsampled : Sampled config (tr ++ [y])) : Prepares config (tr ++ [y]) y.post := by
  intro hpost
  have hcommanded : IsUpdateCommand y → ∀ m startSec, Preparing config tr m g startSec →
      y.post.preparationStartSec = g.preparationStartSec →
      (∀ t command, y.event = .updateCommand t command → y.post.command = command) →
      Preparing config (tr ++ [y]) (m ++ [y]) y.post startSec := by
    intro hy m startSec hm hstart hcommand
    refine ⟨hm.preparation.concat hpost, hstart ▸ hm.start, ?_⟩
    intro x hx t command hxevent
    rcases List.mem_append.mp hx with hx | hx
    · rcases hm.commands x hx t command hxevent with h₁ | h₂ | ⟨hlatest, -⟩
      · exact .inl h₁
      · exact .inr (.inl (hstart ▸ h₂))
      · obtain ⟨l, a, rfl, -, -, ha⟩ := hm.preparation.opened
        obtain ⟨-, m₁, m₂, rfl, hm₂⟩ := hlatest
        refine .inl (hsampled (l ++ a :: m₁) x m₂ y [] t command (by simp) hxevent hy ?_ hm₂)
        intro z hz
        simp only [List.mem_cons, List.mem_append, List.not_mem_nil, or_false] at hz
        rcases hz with rfl | hz | rfl
        · exact hm.preparation.preparing _ (by simp)
        · exact hm.preparation.preparing _ (by simp [hz])
        · exact hpost
    · obtain rfl := List.mem_singleton.mp hx
      exact .inr (.inr ⟨Machine.latest_concat (.inr hy), (hcommand t command hxevent).symm⟩)
  obtain ⟨pre, event, output, post⟩ := y
  dsimp only at hpre hstep hpost hcommanded ⊢
  cases hstep with
  | observed =>
    obtain ⟨m, startSec, hm⟩ := h hpost
    refine ⟨_, startSec, hm.concat_of_not_usesCommand hpost rfl rfl ?_⟩
    exact not_or.mpr ⟨htick, fun ⟨_, _, hevent⟩ => by cases hevent⟩
  | commanded =>
    obtain ⟨m, startSec, hm⟩ := h hpost
    refine ⟨_, startSec, hcommanded ⟨_, _, rfl⟩ m startSec hm rfl ?_⟩
    intro t command hevent
    exact (GuardEvent.updateCommand.inj hevent).2
  | opened _ hstate =>
    refine ⟨[], _, ⟨⟨tr, _, rfl, rfl, ?_, hpost⟩, by simp⟩, le_refl _, by simp⟩
    rw [hpre]
    exact hstate.1
  | unchanged =>
    obtain ⟨m, startSec, hm⟩ := h hpost
    refine ⟨_, startSec, hm.concat_of_not_usesCommand hpost rfl rfl ?_⟩
    exact not_or.mpr ⟨htick, fun ⟨_, _, hevent⟩ => by cases hevent⟩
  | closed hstate => exact absurd hpost hstate.1

lemma finite_of_isZero {config : GuardConfig} {command : Velocity ExtRat}
    (h : isZero config command = true) : finite command = true := by
  simp only [isZero, Bool.and_eq_true] at h
  simp only [finite, Bool.and_eq_true]
  obtain ⟨⟨hvx, hvy⟩, hwz⟩ := h
  exact ⟨⟨ExtRat.isFinite_of_abs_le hvx, ExtRat.isFinite_of_abs_le hvy⟩,
    ExtRat.isFinite_of_abs_le hwz⟩

lemma Sampled.of_append {config : GuardConfig} {tr tr' : List GuardRunStep}
    (h : Sampled config (tr ++ tr')) : Sampled config tr := by
  intro l x m y r t command htr
  exact h l x m y (r ++ tr') t command (by rw [htr]; simp)

theorem prepares_run {config : GuardConfig} {events : List GuardEvent}
    (hchronological : Chronological events)
    (hsampled : Sampled config ((guard config).trace (SafetyGuard.init config) events)) :
    Prepares config ((guard config).trace (SafetyGuard.init config) events)
      ((guard config).final (SafetyGuard.init config) events) := by
  rw [← (guard config).map_event_trace (SafetyGuard.init config) events] at hchronological
  revert hsampled hchronological
  refine (guard config).history_induction (motive := fun tr g =>
    Chronological (tr.map Machine.Step.event) → Sampled config tr → Prepares config tr g) ?_ ?_
    events
  · intro _ _ hstate
    simp only [SafetyGuard.init] at hstate
    split at hstate <;> cases hstate
  intro tr g event ih hchronological hsampled
  rw [List.map_append, Chronological, List.pairwise_append] at hchronological
  obtain ⟨hbefore, -, htimes⟩ := hchronological
  have hg := ih hbefore hsampled.of_append
  by_cases htick : ∃ nowSec dtSec, event = .tick nowSec dtSec
  · obtain ⟨nowSec, dtSec, rfl⟩ := htick
    refine hg.tick (y := (guard config).stepAt g (.tick nowSec dtSec))
      (tick_step config nowSec dtSec g) rfl ?_
    intro z hz t ht
    exact htimes _ (List.mem_map_of_mem hz) _ (List.mem_singleton_self _) t ht nowSec rfl
  · push Not at htick
    refine hg.call (y := (guard config).stepAt g event) rfl
      (callStep_of_step config g event htick) ?_ hsampled
    rintro ⟨nowSec, dtSec, hevent⟩
    exact htick _ _ hevent

/-- A tick that arms the guard ends a preparation that has lasted long enough, and sees a
zero command. -/
lemma SafetyGuard.TickStep.arms {config : GuardConfig} {nowSec dtSec : ℚ} {g g' : SafetyGuard}
    {decision : GuardDecision} (h : TickStep config nowSec dtSec g decision g')
    (hpre : g.state = .preparing) (hpost : g'.state = .armed) :
    isZero config g.command = true ∧
      config.zeroPreparationSec ≤ nowSec - g.preparationStartSec := by
  cases h with
  | idle _ hstate =>
    rcases hstate with rfl | ⟨rfl, hne, -⟩
    · cases hpost
    · exact absurd hpre hne
  | failed => cases hpost
  | restarted hstate => cases hstate.symm.trans hpost
  | holding hstate => cases hstate.symm.trans hpost
  | started _ _ _ hcommand hlong => exact ⟨hcommand, hlong⟩
  | continued _ hstate => cases hpre.symm.trans hstate

/-- **The zero preamble of the motion guard.**  If no command of a preparation but a zero one
is replaced before a tick has seen it, then the guard arms only after a preparation of the
configured length in which every command was zero. -/
theorem zeroPreamble_of_sampled (config : GuardConfig) (events : List GuardEvent)
    (hchronological : Chronological events)
    (hsampled : Sampled config ((guard config).trace (SafetyGuard.init config) events)) :
    ZeroPreamble config ((guard config).trace (SafetyGuard.init config) events) := by
  intro l y r nowSec dtSec htr hevent hpre hpost
  obtain ⟨before, after, hevents, rfl, hy, -⟩ := (guard config).trace_eq_append_cons htr
  rw [htr] at hsampled
  have hbefore : Chronological before := by
    rw [hevents, Chronological, List.pairwise_append] at hchronological
    exact hchronological.1
  have hprepares := prepares_run hbefore hsampled.of_append
  generalize (guard config).final (SafetyGuard.init config) before = g at hy hprepares
  rw [hevent] at hy
  have hstep := tick_step config nowSec dtSec g
  rw [hy] at hpre hpost
  obtain ⟨hzero, hlong⟩ := hstep.arms hpre hpost
  obtain ⟨m, startSec, hm⟩ := hprepares hpre
  refine ⟨startSec, m, hm.preparation, by linarith [hm.start], ?_⟩
  intro x hx t command hxevent ht
  have hcommand : isZero config command = true := by
    rcases hm.commands x hx t command hxevent with h₁ | h₂ | ⟨-, rfl⟩
    · exact h₁
    · linarith
    · exact hzero
  exact ⟨finite_of_isZero hcommand, hcommand⟩

/-- A configuration with the default preparation of half a second. -/
def prepareConfig : GuardConfig := { allowMotion := true, allowedModes := [0] }

/-- A session is requested, zero commands keep coming, and a tick opens it. -/
def preparedEvents : List GuardEvent :=
  [.updateRobotState 0 0 true, .updateCommand 0 0, .requestArm 0, .tick 0.2 0.02,
    .updateRobotState 0.4 0 true, .updateCommand 0.4 0, .tick 0.5 0.02]

/-- Here a command to move is replaced by a zero command before the next tick. -/
def maskedEvents : List GuardEvent :=
  [.updateRobotState 0 0 true, .updateCommand 0 0, .requestArm 0, .tick 0.2 0.02,
    .updateCommand 0.3 ⟨.fin 0.25, .fin 0, .fin 0⟩, .updateRobotState 0.4 0 true,
    .updateCommand 0.4 0]

instance (e f : GuardEvent) : Decidable (∀ t ∈ e.nowSec?, ∀ u ∈ f.nowSec?, t ≤ u) :=
  match e.nowSec?, f.nowSec? with
  | some t, some u => decidable_of_iff (t ≤ u) (by simp)
  | none, _ => isTrue (by simp)
  | some _, none => isTrue (by simp)

instance (events : List GuardEvent) : Decidable (Chronological events) :=
  inferInstanceAs (Decidable (List.Pairwise _ _))

theorem zeroPreamble_preparedEvents : Chronological preparedEvents ∧
    Sampled prepareConfig
      ((guard prepareConfig).trace (SafetyGuard.init prepareConfig) preparedEvents) ∧
    ZeroPreamble prepareConfig
      ((guard prepareConfig).trace (SafetyGuard.init prepareConfig) preparedEvents) := by
  have hchronological : Chronological preparedEvents := by decide +kernel
  have hsampled : Sampled prepareConfig
      ((guard prepareConfig).trace (SafetyGuard.init prepareConfig) preparedEvents) := by
    intro l x m y r t command htr hx hy hpreparing huses
    have hmem : x.event ∈ preparedEvents := by
      rw [← (guard prepareConfig).map_event_trace (SafetyGuard.init prepareConfig) preparedEvents,
        htr]
      exact List.mem_map_of_mem (by simp)
    rw [hx] at hmem
    have hzero : t = 0 ∧ command = 0 ∨ t = 0.4 ∧ command = 0 := by
      simpa [preparedEvents] using hmem
    rcases hzero with ⟨-, rfl⟩ | ⟨-, rfl⟩ <;> decide +kernel
  exact ⟨hchronological, hsampled, zeroPreamble_of_sampled _ _ hchronological hsampled⟩

/-- A command to move between two ticks does not restart the preparation. -/
theorem not_zeroPreamble_maskedEvents : ¬ ∀ config events, Chronological events →
    ZeroPreamble config ((guard config).trace (SafetyGuard.init config) events) := by
  intro h
  have hrun := h prepareConfig (maskedEvents ++ [.tick 0.5 0.02]) (by decide +kernel)
  rw [(guard prepareConfig).trace_concat] at hrun
  obtain ⟨startSec, m, hm, -, hzero⟩ :=
    hrun _ _ [] 0.5 0.02 rfl rfl (by decide +kernel) (by decide +kernel)
  obtain ⟨l, a, htr, ha, -⟩ := hm.opened
  have hevents := congrArg (List.map Machine.Step.event) htr
  rw [Machine.map_event_trace, List.map_append, List.map_cons, ha] at hevents
  obtain ⟨-, -, hsince⟩ : l.map Machine.Step.event = maskedEvents.take 2 ∧ startSec = 0 ∧
      m.map Machine.Step.event = maskedEvents.drop 3 := by
    simpa [maskedEvents, List.cons_eq_append_iff] using hevents
  have hmem : GuardEvent.updateCommand 0.3 ⟨.fin 0.25, .fin 0, .fin 0⟩ ∈
      m.map Machine.Step.event := by
    rw [hsince]
    simp [maskedEvents]
  obtain ⟨x, hx, hxevent⟩ := List.mem_map.mp hmem
  have hcommand := (hzero x hx _ _ hxevent (by norm_num [prepareConfig])).2
  revert hcommand
  decide +kernel

end UnitreeGo2.Chassis
