import Mathlib.Tactic.Linarith
import UnitreeGo2.StagedNav2.Transitions

/-!
# The authorization of staged navigation

Before the guard forwards a velocity it has bound one claimed goal, asked the chassis to
arm from a disarmed start, had the answer confirmed, held zero, and measured the chassis
armed.  The invariants of this file say for each phase which of these steps the run has
made.
-/

namespace UnitreeGo2.StagedNav2

open StagedNav2Guard

/-- A step of the guard. -/
abbrev GuardStep := Machine.Step StagedNav2Guard Operation (Except Raised Decision)

/-! ## What a run has made -/

section History

variable (lib : Library) (config : GuardConfig)

/-- A goal claim that the guard answers, rather than raising an exception. -/
def AnswersClaim (x : GuardStep) : Prop :=
  (∃ nowS payload publisherNodes, x.event = .observeGoalClaim nowS payload publisherNodes) ∧
    ∃ d, x.output = .ok d

/-- Exactly one goal claim was answered, and it matches the permit. -/
structure ClaimedOnce (tr : List GuardStep) (claim : AcceptedGoalClaim) : Prop where
  split : ∃ l c r, tr = l ++ c :: r ∧ AnswersClaim c ∧ ClaimsGoal lib config c.event claim ∧
    ∀ z ∈ l ++ r, ¬ AnswersClaim z

/-- The action server reported a goal as active. -/
def ReportedActive (tr : List GuardStep) (goalId : String) : Prop :=
  ∃ x ∈ tr, ReportsActive lib x.event goalId

/-- A step that asks the chassis to arm. -/
structure RequestsArm (t : ℚ) (q : GuardStep) : Prop where
  idle : q.pre.phase = .idle
  pending : q.post.phase = .pendingArm
  time : q.event.nowS? = some (.fin t)
  answer : ∃ d, q.output = .ok d ∧ d.requestArm = true
  bound : q.post.goalId ≠ ""
  requested : Requested lib config t q.post

/-- A step that confirms the arming. -/
def ConfirmsArm (k : GuardStep) : Prop :=
  ∃ t, k.event = .confirmArm true (.fin t) ∧ k.pre.phase = .pendingArm ∧
    k.pre.staleReason t = none ∧ k.pre.startPositionMatches lib config = true

/-- A step that enters the armed phase. -/
def EntersArmed (x : GuardStep) : Prop := x.pre.phase ≠ .armed ∧ x.post.phase = .armed

variable {lib config} {tr : List GuardStep} {y : GuardStep}

lemma ClaimedOnce.concat {claim : AcceptedGoalClaim} (h : ClaimedOnce lib config tr claim)
    (hy : ¬ AnswersClaim y) : ClaimedOnce lib config (tr ++ [y]) claim := by
  obtain ⟨l, c, r, rfl, hanswers, hclaims, hno⟩ := h
  refine ⟨l, c, r ++ [y], by simp, hanswers, hclaims, fun z hz => ?_⟩
  rw [← List.append_assoc] at hz
  rcases List.mem_append.mp hz with hz | hz
  · exact hno z hz
  · rw [List.mem_singleton.mp hz]
    exact hy

lemma claimedOnce_concat {claim : AcceptedGoalClaim} (hno : ∀ z ∈ tr, ¬ AnswersClaim z)
    (hanswers : AnswersClaim y) (hclaims : ClaimsGoal lib config y.event claim) :
    ClaimedOnce lib config (tr ++ [y]) claim :=
  ⟨tr, y, [], rfl, hanswers, hclaims, by simpa using hno⟩

lemma ReportedActive.concat {goalId : String} (h : ReportedActive lib tr goalId) :
    ReportedActive lib (tr ++ [y]) goalId := by
  obtain ⟨x, hx, hreports⟩ := h
  exact ⟨x, by simp [hx], hreports⟩

lemma reportedActive_concat {goalId : String} (h : ReportsActive lib y.event goalId) :
    ReportedActive lib (tr ++ [y]) goalId :=
  ⟨y, by simp, h⟩

end History

/-! ## The goal of a run -/

/-- What the claims and the reports of a run say about the goal of the guard. -/
structure GoalHistory (lib : Library) (config : GuardConfig) (tr : List GuardStep)
    (c : Control) : Prop where
  unseen : c.goalClaimSeen = false → ∀ z ∈ tr, ¬ AnswersClaim z
  unclaimed : c.goalClaimSeen = false → c.acceptedGoalClaim = none
  claimed : ∀ claim, c.acceptedGoalClaim = some claim → ClaimedOnce lib config tr claim
  unverified : c.unverifiedGoalId ≠ "" → ReportedActive lib tr c.unverifiedGoalId
  bound : c.goalId ≠ "" → ReportedActive lib tr c.goalId ∧
    ∃ claim, c.acceptedGoalClaim = some claim ∧ claim.goalUuid = c.goalId

namespace GoalHistory

variable {lib : Library} {config : GuardConfig} {tr : List GuardStep} {c : Control}
  {y : GuardStep}

lemma concat (h : GoalHistory lib config tr c) (hy : ¬ AnswersClaim y) :
    GoalHistory lib config (tr ++ [y]) c where
  unseen hunseen z hz := by
    rcases List.mem_append.mp hz with hz | hz
    · exact h.unseen hunseen z hz
    · rw [List.mem_singleton.mp hz]
      exact hy
  unclaimed := h.unclaimed
  claimed claim hclaim := (h.claimed claim hclaim).concat hy
  unverified hgoal := (h.unverified hgoal).concat
  bound hgoal := (h.bound hgoal).imp_left ReportedActive.concat

lemma raised (h : GoalHistory lib config tr c) (hunseen : c.goalClaimSeen = false)
    (hy : ¬ AnswersClaim y) :
    GoalHistory lib config (tr ++ [y]) { c with goalClaimSeen := true } where
  unseen hseen := by cases hseen
  unclaimed hseen := by cases hseen
  claimed claim hclaim := by cases (h.unclaimed hunseen).symm.trans hclaim
  unverified hgoal := (h.unverified hgoal).concat
  bound hgoal := (h.bound hgoal).imp_left ReportedActive.concat

lemma accept {claim : AcceptedGoalClaim} (h : GoalHistory lib config tr c)
    (hunseen : c.goalClaimSeen = false) (hanswers : AnswersClaim y)
    (hclaims : ClaimsGoal lib config y.event claim) :
    GoalHistory lib config (tr ++ [y])
      { c with goalClaimSeen := true, acceptedGoalClaim := some claim } where
  unseen hseen := by cases hseen
  unclaimed hseen := by cases hseen
  claimed claim' hclaim' := by
    obtain rfl := Option.some.inj hclaim'
    exact claimedOnce_concat (h.unseen hunseen) hanswers hclaims
  unverified hgoal := (h.unverified hgoal).concat
  bound hgoal := by
    obtain ⟨-, claim', hclaim', -⟩ := h.bound hgoal
    cases (h.unclaimed hunseen).symm.trans hclaim'

lemma setUnverified {goalId : String} (h : GoalHistory lib config tr c)
    (hgoal : ReportedActive lib tr goalId) :
    GoalHistory lib config tr { c with unverifiedGoalId := goalId } :=
  ⟨h.unseen, h.unclaimed, h.claimed, fun _ => hgoal, h.bound⟩

lemma bind {goalId : String} (h : GoalHistory lib config tr c)
    (hreported : ReportedActive lib tr goalId)
    (hclaim : ∃ claim, c.acceptedGoalClaim = some claim ∧ claim.goalUuid = goalId) :
    GoalHistory lib config tr { c with goalId := goalId, unverifiedGoalId := "" } :=
  ⟨h.unseen, h.unclaimed, h.claimed, fun h => absurd rfl h, fun _ => ⟨hreported, hclaim⟩⟩

/-- The fields that arming changes do not matter. -/
lemma of_goal {c' : Control} (h : GoalHistory lib config tr c)
    (hgoal : c'.goalId = c.goalId) (hclaim : c'.acceptedGoalClaim = c.acceptedGoalClaim)
    (hseen : c'.goalClaimSeen = c.goalClaimSeen)
    (hunverified : c'.unverifiedGoalId = c.unverifiedGoalId) :
    GoalHistory lib config tr c' where
  unseen h' := h.unseen (hseen ▸ h')
  unclaimed h' := hclaim ▸ h.unclaimed (hseen ▸ h')
  claimed claim h' := h.claimed claim (hclaim ▸ h')
  unverified := hunverified ▸ h.unverified
  bound := by
    rw [hgoal, hclaim]
    exact h.bound

end GoalHistory

/-- The phases in which the guard may still come to drive. -/
def Phase.Live (p : Phase) : Prop := p = .idle ∨ p = .pendingArm ∨ p = .armed

lemma Phase.not_live_fault : ¬ Phase.Live .fault := by simp [Live]

lemma Phase.not_live_complete : ¬ Phase.Live .complete := by simp [Live]

section GoalSteps

variable {lib : Library} {config : GuardConfig} {g : StagedNav2Guard} {tr : List GuardStep}

lemma Begun.seen_or_fault {t : ℚ} {goalId : String} {o : Outcome}
    (h : Begun lib config t goalId g o) :
    o.2.phase = .fault ∨ o.2.goalClaimSeen = g.goalClaimSeen := by
  cases h with
  | settled h =>
    cases h with
    | raised hcontrol => exact .inr (congrArg Control.goalClaimSeen hcontrol)
    | held _ hcontrol => exact .inr (congrArg Control.goalClaimSeen hcontrol)
    | tripped _ _ hphase => exact .inl hphase
  | waiting _ _ _ hcontrol => exact .inr (congrArg Control.goalClaimSeen hcontrol)
  | requested _ _ _ _ _ hcontrol => exact .inr (congrArg Control.goalClaimSeen hcontrol)

/-- A claim that is answered trips the guard, or is the first that it has seen. -/
lemma ClaimOutcome.answered {op : Operation} {o : Outcome}
    (h : ClaimOutcome lib config g op o) (hok : ∃ d, o.1 = .ok d) :
    o.2.phase = .fault ∨ (g.goalClaimSeen = false ∧ o.2.goalClaimSeen = true) := by
  cases h with
  | raised => obtain ⟨d, hd⟩ := hok; cases hd
  | firstRaised => obtain ⟨d, hd⟩ := hok; cases hd
  | tripped hlatch reason => exact .inl (tripped_phase reason _)
  | @accepted t claim g₁ _ _ hunseen hcontrol =>
    have hseen₁ : g₁.goalClaimSeen = true := congrArg Control.goalClaimSeen hcontrol
    obtain ⟨-, hsettled | ⟨-, hbegun⟩⟩ := claimAccepted_cases lib config t claim g₁
    · refine (Begun.settled hsettled : Begun lib config t "" _ _).seen_or_fault.imp_right ?_
      exact fun hseen => ⟨hunseen, hseen.trans hseen₁⟩
    · exact hbegun.seen_or_fault.imp_right fun hseen => ⟨hunseen, hseen.trans hseen₁⟩

lemma answersClaim_cases {op : Operation}
    (h : AnswersClaim ((guardMachine lib config).stepAt g op)) :
    (perform lib config op g).2.phase = .fault ∨
      (g.goalClaimSeen = false ∧ (perform lib config op g).2.goalClaimSeen = true) := by
  obtain ⟨⟨nowS, payload, publisherNodes, hevent⟩, hok⟩ := h
  obtain rfl : op = .observeGoalClaim nowS payload publisherNodes := hevent
  exact (claimOutcome_observeGoalClaim lib config g nowS payload publisherNodes).answered hok

/-- Binding a goal keeps what a run says about it. -/
lemma Begun.goalHistory {t : ℚ} {goalId : String} {o : Outcome}
    (h : Begun lib config t goalId g o)
    (hg : g.phase.Live → GoalHistory lib config tr g.control) (hlive : o.2.phase.Live)
    (hreported : g.phase.Live → goalId ≠ "" → ReportedActive lib tr goalId)
    (hclaim : g.phase.Live → goalId ≠ "" →
      ∃ claim, g.acceptedGoalClaim = some claim ∧ claim.goalUuid = goalId) :
    GoalHistory lib config tr o.2.control := by
  cases h with
  | settled h =>
    cases h with
    | raised hcontrol =>
      have hphase : _ = g.phase := congrArg Control.phase hcontrol
      rw [hcontrol]
      exact hg (hphase ▸ hlive)
    | held _ hcontrol =>
      have hphase : _ = g.phase := congrArg Control.phase hcontrol
      rw [hcontrol]
      exact hg (hphase ▸ hlive)
    | tripped _ _ hphase => exact absurd (hphase ▸ hlive) Phase.not_live_fault
  | waiting hphase hgoal _ hcontrol =>
    have hidle : g.phase.Live := .inl hphase
    rw [hcontrol]
    exact (hg hidle).bind (hreported hidle hgoal) (hclaim hidle hgoal)
  | requested hphase hgoal _ _ _ hcontrol =>
    have hidle : g.phase.Live := .inl hphase
    rw [hcontrol]
    exact ((hg hidle).bind (hreported hidle hgoal) (hclaim hidle hgoal)).of_goal rfl rfl rfl rfl

/-- One call keeps what the run says about the goal. -/
lemma Transition.goalHistory {op : Operation} {o : Outcome} {y : GuardStep}
    (h : Transition lib config g op o) (hevent : y.event = op) (houtput : y.output = o.1)
    (hanswers : AnswersClaim y →
      o.2.phase = .fault ∨ (g.goalClaimSeen = false ∧ o.2.goalClaimSeen = true))
    (hg : g.phase.Live → GoalHistory lib config tr g.control) (hlive : o.2.phase.Live) :
    GoalHistory lib config (tr ++ [y]) o.2.control := by
  have hsilent : o.2.phase = .fault ∨ o.2.goalClaimSeen = g.goalClaimSeen →
      ¬ AnswersClaim y := by
    rintro (hfault | hseen) hy
    · exact Phase.not_live_fault (hfault ▸ hlive)
    · rcases hanswers hy with hfault | ⟨hunseen, hnow⟩
      · exact Phase.not_live_fault (hfault ▸ hlive)
      · rw [hseen, hunseen] at hnow
        cases hnow
  cases h with
  | settled h =>
    have hbegun : Begun lib config 0 "" g o := .settled h
    have hy := hsilent hbegun.seen_or_fault
    exact hbegun.goalHistory (fun hl => (hg hl).concat hy) hlive (fun _ h => absurd rfl h)
      fun _ h => absurd rfl h
  | completed _ _ hphase => exact absurd (hphase ▸ hlive) Phase.not_live_complete
  | claimRaised hunseen hcontrol =>
    have hphase : _ = g.phase := congrArg Control.phase hcontrol
    have hy : ¬ AnswersClaim y := by
      rintro ⟨-, d, hd⟩
      cases houtput.symm.trans hd
    rw [hcontrol]
    exact (hg (hphase ▸ hlive)).raised hunseen hy
  | @claimed t claim g₁ o _ hclaims hunseen hcontrol _ hok hbegun =>
    have hphase₁ : g₁.phase = g.phase := congrArg Control.phase hcontrol
    have hunverified : g₁.unverifiedGoalId = g.unverifiedGoalId :=
      congrArg Control.unverifiedGoalId hcontrol
    have hclaim₁ : g₁.acceptedGoalClaim = some claim :=
      congrArg Control.acceptedGoalClaim hcontrol
    obtain ⟨d, g', rfl⟩ := hok
    have hy : AnswersClaim y := by
      obtain ⟨nowS, payload, publisherNodes, _, hop, -⟩ := hclaims
      exact ⟨⟨nowS, payload, publisherNodes, hevent.trans hop⟩, d, houtput⟩
    have hg₁ : g₁.phase.Live → GoalHistory lib config (tr ++ [y]) g₁.control := by
      intro hl
      rw [hcontrol]
      exact (hg (hphase₁ ▸ hl)).accept hunseen hy (hevent ▸ hclaims)
    rcases hbegun with hsettled | ⟨hmatch, hbegun⟩
    · have hbegun : Begun lib config t "" g₁ (.ok d, g') := .settled hsettled
      exact hbegun.goalHistory hg₁ hlive (fun _ h => absurd rfl h) fun _ h => absurd rfl h
    · refine hbegun.goalHistory hg₁ hlive (fun hl hgoal => ?_) fun _ _ => ⟨claim, hclaim₁, rfl⟩
      rw [hmatch] at hgoal ⊢
      exact ((hg (hphase₁ ▸ hl)).unverified hgoal).concat
  | @unverified goalId d g' hactive _ hcontrol =>
    have hphase : g'.phase = g.phase := congrArg Control.phase hcontrol
    have hy := hsilent (.inr (congrArg Control.goalClaimSeen hcontrol))
    rw [hcontrol]
    exact ((hg (hphase ▸ hlive)).concat hy).setUnverified (reportedActive_concat (hevent ▸ hactive))
  | @begun t goalId o _ hsource hbind hbegun =>
    have hy := hsilent hbegun.seen_or_fault
    refine hbegun.goalHistory (fun hl => (hg hl).concat hy) hlive (fun hl hgoal => ?_)
      fun hl hgoal => ?_
    · rcases hsource with rfl | hactive
      · exact ((hg hl).bound hgoal).1.concat
      · exact reportedActive_concat (hevent ▸ hactive)
    · rcases hbind with rfl | hclaim
      · exact ((hg hl).bound hgoal).2
      · exact hclaim
  | confirmed _ hphase _ _ _ hcontrol =>
    have hy := hsilent (.inr (congrArg Control.goalClaimSeen hcontrol))
    rw [hcontrol]
    exact ((hg (.inr (.inl hphase))).concat hy).of_goal rfl rfl rfl rfl
  | entered _ _ hphase _ _ _ _ _ hcontrol =>
    have hy := hsilent (.inr (congrArg Control.goalClaimSeen hcontrol))
    rw [hcontrol]
    exact ((hg (.inr (.inl hphase))).concat hy).of_goal rfl rfl rfl rfl
  | forwarded _ hphase _ _ _ _ _ _ hcontrol =>
    have hy := hsilent (.inr (congrArg Control.goalClaimSeen hcontrol))
    rw [hcontrol]
    exact (hg (.inr (.inr hphase))).concat hy

end GoalSteps

theorem goalHistory_run (lib : Library) (config : GuardConfig) (ops : List Operation) :
    ((guardMachine lib config).final (fresh config) ops).phase.Live →
      GoalHistory lib config ((guardMachine lib config).trace (fresh config) ops)
        ((guardMachine lib config).final (fresh config) ops).control := by
  refine (guardMachine lib config).history_induction (motive := fun tr g =>
    g.phase.Live → GoalHistory lib config tr g.control) ?_ ?_ ops
  · intro _
    exact ⟨fun _ => by simp, fun _ => rfl, fun claim h => (by cases h), fun h => absurd rfl h,
      fun h => absurd rfl h⟩
  · intro tr g op hg hlive
    exact (transition_of_perform lib config op g).goalHistory rfl rfl answersClaim_cases hg hlive

/-! ## The arming of a run -/

/-- The steps since the request to arm, while the arming is pending. -/
structure Arming (lib : Library) (config : GuardConfig) (tr : List GuardStep) (goalId : String)
    (t : ℚ) (accepted : Bool) : Prop where
  request : ∃ l q m, tr = l ++ q :: m ∧ RequestsArm lib config t q ∧ q.post.goalId = goalId ∧
    (∀ z ∈ m, z.post.phase = .pendingArm) ∧
    (accepted = true → ∃ k ∈ m, ConfirmsArm lib config k)

/-- What the run of a guard that waits for the chassis has made. -/
def ArmingHistory (lib : Library) (config : GuardConfig) (tr : List GuardStep) (c : Control) :
    Prop :=
  c.phase = .pendingArm →
    ∃ t, c.armRequestedAt = some t ∧ Arming lib config tr c.goalId t c.armServiceAccepted

section ArmingSteps

variable {lib : Library} {config : GuardConfig} {g : StagedNav2Guard} {tr : List GuardStep}
  {y : GuardStep}

lemma Arming.concat {goalId : String} {t : ℚ} {accepted accepted' : Bool}
    (h : Arming lib config tr goalId t accepted) (hy : y.post.phase = .pendingArm)
    (haccepted : accepted' = true → accepted = true ∨ ConfirmsArm lib config y) :
    Arming lib config (tr ++ [y]) goalId t accepted' := by
  obtain ⟨l, q, m, rfl, hq, hgoal, hpending, hconfirmed⟩ := h
  refine ⟨l, q, m ++ [y], by simp, hq, hgoal, fun z hz => ?_, fun h => ?_⟩
  · rcases List.mem_append.mp hz with hz | hz
    · exact hpending z hz
    · rw [List.mem_singleton.mp hz]
      exact hy
  · rcases haccepted h with h | hconfirms
    · obtain ⟨k, hk, hconfirms⟩ := hconfirmed h
      exact ⟨k, by simp [hk], hconfirms⟩
    · exact ⟨y, by simp, hconfirms⟩

/-- A call that does not touch the arming keeps its history. -/
lemma ArmingHistory.concat {c c' : Control} (h : ArmingHistory lib config tr c)
    (hphase : c'.phase = c.phase) (hrequestedAt : c'.armRequestedAt = c.armRequestedAt)
    (hgoal : c'.goalId = c.goalId) (haccepted : c'.armServiceAccepted = c.armServiceAccepted)
    (hy : y.post.phase = c'.phase) : ArmingHistory lib config (tr ++ [y]) c' := by
  intro hpending
  obtain ⟨t, ht, harming⟩ := h (hphase ▸ hpending)
  refine ⟨t, hrequestedAt.trans ht, ?_⟩
  rw [hgoal, haccepted]
  exact harming.concat (hy.trans hpending) .inl

lemma Settled.armingHistory {o : Outcome} (h : Settled g o) (hpost : y.post = o.2)
    (hg : ArmingHistory lib config tr g.control) :
    ArmingHistory lib config (tr ++ [y]) o.2.control := by
  have hy : y.post.phase = o.2.control.phase := congrArg StagedNav2Guard.phase hpost
  cases h with
  | raised hcontrol =>
    rw [hcontrol] at hy ⊢
    exact hg.concat rfl rfl rfl rfl hy
  | held _ hcontrol =>
    rw [hcontrol] at hy ⊢
    exact hg.concat rfl rfl rfl rfl hy
  | tripped _ _ hphase =>
    intro hpending
    cases hphase.symm.trans hpending

/-- Binding a goal keeps the history of the arming, or starts it. -/
lemma Begun.armingHistory {t : ℚ} {goalId : String} {o : Outcome}
    (h : Begun lib config t goalId g o) (hpre : y.pre.phase = g.phase)
    (htime : y.event.nowS? = some (.fin t)) (houtput : y.output = o.1) (hpost : y.post = o.2)
    (hg : ArmingHistory lib config tr g.control) :
    ArmingHistory lib config (tr ++ [y]) o.2.control := by
  cases h with
  | settled h => exact h.armingHistory hpost hg
  | waiting hphase _ _ hcontrol =>
    intro hpending
    have hidle := congrArg Control.phase hcontrol
    cases hphase.symm.trans (hidle.symm.trans hpending)
  | @requested d g' hphase hgoal hstill harm hrequested hcontrol =>
    intro _
    have hrequestedAt : g'.control.armRequestedAt = some t :=
      congrArg Control.armRequestedAt hcontrol
    have haccepted : g'.control.armServiceAccepted = false :=
      congrArg Control.armServiceAccepted hcontrol
    have hpending : g'.phase = .pendingArm := congrArg Control.phase hcontrol
    have hbound : g'.goalId = goalId := congrArg Control.goalId hcontrol
    refine ⟨t, hrequestedAt, tr, y, [], rfl, ?_, by rw [hpost]; rfl, by simp, fun h => ?_⟩
    · exact ⟨hpre.trans hphase, by rw [hpost]; exact hpending, htime, ⟨d, houtput, harm⟩,
        by rw [hpost, hbound]; exact hgoal, by rw [hpost]; exact hrequested⟩
    · rw [haccepted] at h
      cases h

/-- One call keeps the history of the arming. -/
lemma Transition.armingHistory {op : Operation} {o : Outcome}
    (h : Transition lib config g op o) (hpre : y.pre = g) (hevent : y.event = op)
    (houtput : y.output = o.1) (hpost : y.post = o.2)
    (hg : ArmingHistory lib config tr g.control) :
    ArmingHistory lib config (tr ++ [y]) o.2.control := by
  have hy : y.post.phase = o.2.control.phase := congrArg StagedNav2Guard.phase hpost
  have hprephase : y.pre.phase = g.phase := congrArg StagedNav2Guard.phase hpre
  cases h with
  | settled h => exact h.armingHistory hpost hg
  | completed _ _ hphase =>
    intro hpending
    cases hphase.symm.trans hpending
  | claimRaised _ hcontrol =>
    rw [hcontrol] at hy ⊢
    exact hg.concat rfl rfl rfl rfl hy
  | @claimed t claim g₁ o htime _ _ hcontrol _ _ hbegun =>
    have hphase₁ : y.pre.phase = g₁.phase :=
      hprephase.trans (congrArg Control.phase hcontrol).symm
    have hg₁ : ArmingHistory lib config tr g₁.control := by
      rw [hcontrol]
      exact hg
    rcases hbegun with hsettled | ⟨-, hbegun⟩
    · exact hsettled.armingHistory hpost hg₁
    · exact hbegun.armingHistory hphase₁ (hevent ▸ htime) houtput hpost hg₁
  | unverified _ _ hcontrol =>
    rw [hcontrol] at hy ⊢
    exact hg.concat rfl rfl rfl rfl hy
  | begun htime _ _ hbegun =>
    exact hbegun.armingHistory hprephase (hevent ▸ htime) houtput hpost hg
  | confirmed hop hphase hstale hstart _ hcontrol =>
    rw [hcontrol] at hy ⊢
    intro hpending
    obtain ⟨t, ht, harming⟩ := hg hpending
    refine ⟨t, ht, harming.concat (hy.trans hpending) fun _ => .inr ⟨_, hevent.trans hop, ?_⟩⟩
    rw [hpre]
    exact ⟨hphase, hstale, hstart⟩
  | entered _ _ _ _ _ _ _ _ hcontrol =>
    intro hpending
    cases (congrArg Control.phase hcontrol).symm.trans hpending
  | forwarded _ hphase _ _ _ _ _ _ hcontrol =>
    intro hpending
    cases hphase.symm.trans ((congrArg Control.phase hcontrol).symm.trans hpending)

end ArmingSteps

theorem armingHistory_run (lib : Library) (config : GuardConfig) (ops : List Operation) :
    ArmingHistory lib config ((guardMachine lib config).trace (fresh config) ops)
      ((guardMachine lib config).final (fresh config) ops).control := by
  refine (guardMachine lib config).history_induction (motive := fun tr g =>
    ArmingHistory lib config tr g.control) ?_ ?_ ops
  · intro hpending
    simp only [StagedNav2Guard.control, fresh] at hpending
    split at hpending <;> cases hpending
  · intro tr g op hg
    exact (transition_of_perform lib config op g).armingHistory rfl rfl rfl rfl hg

/-! ## The order of the phases -/

/-- The phases in the order in which a guard goes through them. -/
def Phase.rank : Phase → ℕ
  | .disabled => 0
  | .idle => 0
  | .pendingArm => 1
  | .armed => 2
  | .complete => 3
  | .fault => 3

lemma Phase.rank_le (p : Phase) : p.rank ≤ 3 := by
  cases p <;> decide

section Order

variable {lib : Library} {config : GuardConfig} {g : StagedNav2Guard}

/-- What a call keeps: the phase does not go back, and once the arming was requested the map
stays locked. -/
structure After (g g' : StagedNav2Guard) : Prop where
  rank : g.phase.rank ≤ g'.phase.rank
  locked : 1 ≤ g.phase.rank → g'.lockedMapLifecycle = g.lockedMapLifecycle

lemma After.of_eq {g g' : StagedNav2Guard} (hphase : g'.phase = g.phase)
    (hlocked : g'.lockedMapLifecycle = g.lockedMapLifecycle) : After g g' :=
  ⟨(congrArg Phase.rank hphase).ge, fun _ => hlocked⟩

lemma After.of_control {g g' : StagedNav2Guard} (h : g'.control = g.control) : After g g' :=
  .of_eq (congrArg Control.phase h) (congrArg Control.lockedMapLifecycle h)

/-- A guard that ends keeps its lock. -/
lemma After.of_rank {g g' : StagedNav2Guard} (hphase : g'.phase.rank = 3)
    (hlocked : g'.lockedMapLifecycle = g.lockedMapLifecycle) : After g g' :=
  ⟨hphase ▸ g.phase.rank_le, fun _ => hlocked⟩

lemma Begun.after {t : ℚ} {goalId : String} {o : Outcome}
    (h : Begun lib config t goalId g o) : After g o.2 := by
  cases h with
  | settled h =>
    cases h with
    | raised hcontrol => exact .of_control hcontrol
    | held _ hcontrol => exact .of_control hcontrol
    | tripped _ _ hphase _ hlocked => exact .of_rank (congrArg Phase.rank hphase) hlocked
  | waiting hphase _ _ hcontrol =>
    exact .of_eq (congrArg Control.phase hcontrol) (congrArg Control.lockedMapLifecycle hcontrol)
  | requested hphase =>
    refine ⟨?_, fun hrank => ?_⟩
    · rw [hphase]
      exact Nat.zero_le _
    · rw [hphase] at hrank
      exact absurd hrank (by decide)

lemma Transition.after {op : Operation} {o : Outcome} (h : Transition lib config g op o) :
    After g o.2 := by
  cases h with
  | settled h => exact (Begun.settled h : Begun lib config 0 "" g o).after
  | completed _ _ hphase hlocked => exact .of_rank (congrArg Phase.rank hphase) hlocked
  | claimRaised _ hcontrol =>
    exact .of_eq (congrArg Control.phase hcontrol) (congrArg Control.lockedMapLifecycle hcontrol)
  | @claimed t claim g₁ o _ _ _ hcontrol _ _ hbegun =>
    have hphase₁ : g₁.phase = g.phase := congrArg Control.phase hcontrol
    have hlocked₁ : g₁.lockedMapLifecycle = g.lockedMapLifecycle :=
      congrArg Control.lockedMapLifecycle hcontrol
    have hafter : After g₁ o.2 := by
      rcases hbegun with hsettled | ⟨-, hbegun⟩
      · exact (Begun.settled hsettled : Begun lib config t "" g₁ o).after
      · exact hbegun.after
    exact ⟨hphase₁ ▸ hafter.rank, fun h => (hafter.locked (hphase₁ ▸ h)).trans hlocked₁⟩
  | unverified _ _ hcontrol =>
    exact .of_eq (congrArg Control.phase hcontrol) (congrArg Control.lockedMapLifecycle hcontrol)
  | begun _ _ _ hbegun => exact hbegun.after
  | confirmed _ _ _ _ _ hcontrol =>
    exact .of_eq (congrArg Control.phase hcontrol) (congrArg Control.lockedMapLifecycle hcontrol)
  | @entered _ _ _ _ g' _ _ hphase _ _ _ _ _ hcontrol =>
    have hphase' : g'.phase = .armed := congrArg Control.phase hcontrol
    refine ⟨?_, fun _ => congrArg Control.lockedMapLifecycle hcontrol⟩
    rw [hphase, hphase']
    decide
  | forwarded _ _ _ _ _ _ _ _ hcontrol => exact .of_control hcontrol

variable (lib config) in
/-- From a state on, the phase does not go back, and a locked map stays locked. -/
lemma after_final (g : StagedNav2Guard) (ops : List Operation) :
    After g ((guardMachine lib config).final g ops) := by
  refine (guardMachine lib config).history_induction (motive := fun _ g' => After g g')
    ⟨le_refl _, fun _ => rfl⟩ ?_ ops
  rintro _ g' op ⟨hrank, hlocked⟩
  obtain ⟨hrank', hlocked'⟩ := (transition_of_perform lib config op g').after
  exact ⟨hrank.trans hrank', fun h => (hlocked' (h.trans hrank)).trans (hlocked h)⟩

/-- A call that enters the armed phase measures the chassis armed. -/
lemma Transition.entersArmed {op : Operation} {o : Outcome} (h : Transition lib config g op o)
    (hpre : g.phase ≠ .armed) (hpost : o.2.phase = .armed) :
    ∃ t requestedAt status, op = .observeChassisStatus (.fin t) status ∧
      chassisMeasured lib status = some (.armed, true) ∧ g.phase = .pendingArm ∧
      g.armServiceAccepted = true ∧ g.armRequestedAt = some requestedAt ∧
      config.limits.zeroPreambleS ≤ t - requestedAt ∧
      g.startPositionMatches lib config = true := by
  have hbegun : ∀ {t goalId} {g₁ : StagedNav2Guard} {o : Outcome}, g₁.phase = g.phase →
      Begun lib config t goalId g₁ o → o.2.phase ≠ .armed := by
    intro t goalId g₁ o hphase h harmed
    cases h with
    | settled h =>
      cases h with
      | raised hcontrol =>
        exact hpre (hphase.symm.trans ((congrArg Control.phase hcontrol).symm.trans harmed))
      | held _ hcontrol =>
        exact hpre (hphase.symm.trans ((congrArg Control.phase hcontrol).symm.trans harmed))
      | tripped _ _ hfault => cases hfault.symm.trans harmed
    | waiting _ _ _ hcontrol =>
      exact hpre (hphase.symm.trans ((congrArg Control.phase hcontrol).symm.trans harmed))
    | requested _ _ _ _ _ hcontrol =>
      cases (congrArg Control.phase hcontrol).symm.trans harmed
  cases h with
  | entered hop hmeasured hphase haccepted hrequestedAt hpreamble hstart =>
    exact ⟨_, _, _, hop, hmeasured, hphase, haccepted, hrequestedAt, hpreamble, hstart⟩
  | settled h =>
    exact absurd hpost (hbegun rfl (Begun.settled h : Begun lib config 0 "" g o))
  | completed _ _ hphase => cases hphase.symm.trans hpost
  | claimed _ _ _ hcontrol _ _ h =>
    have hphase := congrArg Control.phase hcontrol
    rcases h with hsettled | ⟨-, h⟩
    · exact absurd hpost (hbegun hphase (Begun.settled hsettled : Begun lib config 0 "" _ o))
    · exact absurd hpost (hbegun hphase h)
  | begun _ _ _ h => exact absurd hpost (hbegun rfl h)
  | claimRaised _ hcontrol =>
    exact absurd ((congrArg Control.phase hcontrol).symm.trans hpost) hpre
  | unverified _ _ hcontrol =>
    exact absurd ((congrArg Control.phase hcontrol).symm.trans hpost) hpre
  | confirmed _ _ _ _ _ hcontrol =>
    exact absurd ((congrArg Control.phase hcontrol).symm.trans hpost) hpre
  | forwarded _ hphase => exact absurd hphase hpre

/-- A call that starts to wait for the chassis has made the request. -/
lemma Transition.entersPending {op : Operation} {o : Outcome} (h : Transition lib config g op o)
    (hpre : g.phase ≠ .pendingArm) (hpost : o.2.phase = .pendingArm) :
    ∃ t, Requested lib config t o.2 := by
  have hbegun : ∀ {t goalId} {g₁ : StagedNav2Guard} {o : Outcome}, g₁.phase = g.phase →
      o.2.phase = .pendingArm → Begun lib config t goalId g₁ o →
      ∃ t, Requested lib config t o.2 := by
    intro t goalId g₁ o hphase hpending h
    cases h with
    | settled h =>
      cases h with
      | raised hcontrol =>
        have hsame := (congrArg Control.phase hcontrol).symm.trans hpending
        exact absurd (hphase.symm.trans hsame) hpre
      | held _ hcontrol =>
        have hsame := (congrArg Control.phase hcontrol).symm.trans hpending
        exact absurd (hphase.symm.trans hsame) hpre
      | tripped _ _ hfault => cases hfault.symm.trans hpending
    | waiting _ _ _ hcontrol =>
      have hsame := (congrArg Control.phase hcontrol).symm.trans hpending
      exact absurd (hphase.symm.trans hsame) hpre
    | requested _ _ _ _ hrequested => exact ⟨t, hrequested⟩
  cases h with
  | settled h => exact hbegun rfl hpost (Begun.settled h : Begun lib config 0 "" g o)
  | completed _ _ hphase => cases hphase.symm.trans hpost
  | claimed _ _ _ hcontrol _ _ h =>
    have hphase := congrArg Control.phase hcontrol
    rcases h with hsettled | ⟨-, h⟩
    · exact hbegun hphase hpost (Begun.settled hsettled : Begun lib config 0 "" _ o)
    · exact hbegun hphase hpost h
  | begun _ _ _ h => exact hbegun rfl hpost h
  | claimRaised _ hcontrol =>
    exact absurd ((congrArg Control.phase hcontrol).symm.trans hpost) hpre
  | unverified _ _ hcontrol =>
    exact absurd ((congrArg Control.phase hcontrol).symm.trans hpost) hpre
  | confirmed _ hphase => exact absurd hphase hpre
  | entered _ _ hphase => exact absurd hphase hpre
  | forwarded _ _ _ _ _ _ _ _ hcontrol =>
    exact absurd ((congrArg Control.phase hcontrol).symm.trans hpost) hpre

end Order

/-! ## The map of a run -/

/-- A map lifecycle message that the guard accepts. -/
def AcceptsLifecycle (lib : Library) (z : GuardStep) (identity : String × Int) : Prop :=
  ∃ nowS mapId mode generation, z.event = .observeMapLifecycle nowS mapId mode generation ∧
    lifecycleIdentity lib mapId mode generation = some identity ∧
    z.output = .ok { reason := "map_lifecycle_fresh" }

lemma trip_ne (g : StagedNav2Guard) (reason text : String) :
    (g.trip reason).1 ≠ .ok { reason := text } := by
  intro h
  cases congrArg Decision.requestDisarm (Except.ok.inj h)

lemma reject_ne (g : StagedNav2Guard) {reason text : String} (hne : reason ≠ text) :
    (g.reject reason).1 ≠ .ok { reason := text } := by
  unfold reject
  split
  · exact trip_ne g reason text
  · intro h
    exact hne (congrArg Decision.reason (Except.ok.inj h))

/-- A guard whose map is locked accepts no other map. -/
lemma lifecycle_eq_of_accepted {lib : Library} {config : GuardConfig} {g : StagedNav2Guard}
    {op : Operation} {identity locked : String × Int}
    (h : AcceptsLifecycle lib ((guardMachine lib config).stepAt g op) identity)
    (hlocked : g.lockedMapLifecycle = some locked) : identity = locked := by
  obtain ⟨nowS, mapId, mode, generation, hevent, hidentity, houtput⟩ := h
  obtain rfl : op = .observeMapLifecycle nowS mapId mode generation := hevent
  revert houtput
  refine withTime_cases
    (P := fun o => o.1 = .ok { reason := "map_lifecycle_fresh" } → identity = locked)
    (fun e h => by cases h) fun t _ _ => ?_
  rw [hidentity]
  simp only
  split
  · exact fun h => absurd h (reject_ne _ (by decide))
  split
  · exact fun h => absurd h (trip_ne _ _ _)
  · rename_i hsame
    intro _
    simpa [hlocked] using hsame

/-! ## The velocities of a run -/

/-- A velocity inside the envelope of the stage. -/
structure InEnvelope (config : GuardConfig) (v : Velocity) : Prop where
  linearX : 0 ≤ v.1 ∧ v.1 ≤ config.limits.maxLinearXMps
  linearY : v.2.1 = 0
  angularZ : |v.2.2| ≤ config.limits.maxAngularZRps

/-- Slewing from inside an interval towards a target inside it stays inside. -/
lemma slew_mem {low high target previous delta : ℚ} (hdelta : 0 ≤ delta)
    (ht : low ≤ target ∧ target ≤ high) (hp : low ≤ previous ∧ previous ≤ high) :
    low ≤ slew target previous delta ∧ slew target previous delta ≤ high := by
  unfold slew
  refine ⟨le_min (le_trans ht.1 (le_max_left _ _)) (by linarith [hp.1]), ?_⟩
  exact le_trans (min_le_left _ _) (max_le ht.2 (by linarith [hp.2]))

/-- The limits of the acceleration are not negative. -/
def Accelerates (config : GuardConfig) : Prop :=
  0 ≤ config.limits.maxLinearAccelMps2 ∧ 0 ≤ config.limits.maxAngularAccelRps2

section Velocities

variable {lib : Library} {config : GuardConfig} {g : StagedNav2Guard}

lemma inEnvelope_slewOutput (haccel : Accelerates config) {linearX angularZ deltaS : ℚ}
    {previous : Velocity} (hlinearX : 0 ≤ linearX ∧ linearX ≤ config.limits.maxLinearXMps)
    (hangularZ : |angularZ| ≤ config.limits.maxAngularZRps) (hdelta : 0 ≤ deltaS)
    (hprevious : previous = 0 ∨ InEnvelope config previous) :
    InEnvelope config (slewOutput config linearX angularZ deltaS previous) := by
  have hp : (0 ≤ previous.1 ∧ previous.1 ≤ config.limits.maxLinearXMps) ∧
      |previous.2.2| ≤ config.limits.maxAngularZRps := by
    rcases hprevious with rfl | h
    · exact ⟨⟨le_refl _, hlinearX.1.trans hlinearX.2⟩, by
        simpa using (abs_nonneg angularZ).trans hangularZ⟩
    · exact ⟨h.linearX, h.angularZ⟩
  exact ⟨slew_mem (mul_nonneg haccel.1 hdelta) hlinearX hp.1, rfl,
    abs_le.mpr (slew_mem (mul_nonneg haccel.2 hdelta) (abs_le.mp hangularZ) (abs_le.mp hp.2))⟩

/-- What the guard last put out. -/
def OutputInEnvelope (config : GuardConfig) (g : StagedNav2Guard) : Prop :=
  Accelerates config → g.lastOutput = 0 ∨ InEnvelope config g.lastOutput

lemma OutputInEnvelope.of_eq {g' : StagedNav2Guard} (hg : OutputInEnvelope config g)
    (h : g'.lastOutput = g.lastOutput ∨ g'.lastOutput = 0) : OutputInEnvelope config g' := by
  intro haccel
  rcases h with h | h
  · rw [h]
    exact hg haccel
  · exact .inl h

lemma Begun.outputInEnvelope {t : ℚ} {goalId : String} {o : Outcome}
    (h : Begun lib config t goalId g o) (hg : OutputInEnvelope config g) :
    OutputInEnvelope config o.2 := by
  cases h with
  | settled h =>
    cases h with
    | raised _ houtput => exact hg.of_eq (.inl houtput)
    | held _ _ houtput => exact hg.of_eq houtput
    | tripped _ _ _ _ _ houtput => exact hg.of_eq (.inr houtput)
  | waiting _ _ _ _ houtput => exact hg.of_eq (.inl houtput)
  | requested _ _ _ _ _ _ houtput => exact hg.of_eq (.inr houtput)

lemma Transition.outputInEnvelope {op : Operation} {o : Outcome}
    (h : Transition lib config g op o) (hg : OutputInEnvelope config g) :
    OutputInEnvelope config o.2 := by
  cases h with
  | settled h => exact (Begun.settled h : Begun lib config 0 "" g o).outputInEnvelope hg
  | completed _ _ _ _ houtput => exact hg.of_eq (.inr houtput)
  | claimRaised _ _ houtput => exact hg.of_eq (.inl houtput)
  | claimed _ _ _ _ houtput _ hbegun =>
    have hg₁ := hg.of_eq (.inl houtput)
    rcases hbegun with hsettled | ⟨-, hbegun⟩
    · exact (Begun.settled hsettled : Begun lib config 0 "" _ o).outputInEnvelope hg₁
    · exact hbegun.outputInEnvelope hg₁
  | unverified _ _ _ houtput => exact hg.of_eq (.inl houtput)
  | begun _ _ _ hbegun => exact hbegun.outputInEnvelope hg
  | confirmed _ _ _ _ _ _ houtput => exact hg.of_eq (.inl houtput)
  | entered _ _ _ _ _ _ _ _ _ houtput => exact hg.of_eq (.inr houtput)
  | forwarded _ _ _ hlinearX hangularZ hprevious hdelta hcommand _ houtput =>
    intro haccel
    rw [houtput, hcommand]
    refine .inr (inEnvelope_slewOutput haccel hlinearX hangularZ hdelta ?_)
    rcases hprevious with rfl | rfl
    · exact hg haccel
    · exact .inl rfl

lemma outputInEnvelope_invariant (lib : Library) (config : GuardConfig) :
    (guardMachine lib config).Invariant (fresh config) (OutputInEnvelope config) where
  init _ := .inl rfl
  step g op hg := (transition_of_perform lib config op g).outputInEnvelope hg

lemma Begun.still {t : ℚ} {goalId : String} {o : Outcome} (h : Begun lib config t goalId g o)
    {d : Decision} (hd : o.1 = .ok d) : d.Still := by
  cases h with
  | settled h =>
    cases h with
    | raised => cases hd
    | held hstill => cases hd; exact hstill
    | tripped hstill => cases hd; exact hstill
  | waiting _ _ hstill => cases hd; exact hstill
  | requested _ _ hstill => cases hd; exact hstill

/-- A call that moves the chassis is a command of an armed guard with fresh witnesses. -/
lemma Transition.moves {op : Operation} {o : Outcome} (h : Transition lib config g op o)
    (hg : OutputInEnvelope config g) {d : Decision} (hd : o.1 = .ok d) (hmoves : ¬ d.Still) :
    ∃ t linearX linearY angularZ, op = .command (.fin t) linearX linearY angularZ ∧
      g.phase = .armed ∧ o.2.phase = .armed ∧ g.staleReason t = none ∧
      (Accelerates config → InEnvelope config d.command) := by
  cases h with
  | settled h => exact absurd ((Begun.settled h : Begun lib config 0 "" g o).still hd) hmoves
  | completed _ hstill => cases hd; exact absurd hstill hmoves
  | claimRaised => cases hd
  | claimed _ _ _ _ _ _ hbegun =>
    rcases hbegun with hsettled | ⟨-, hbegun⟩
    · exact absurd ((Begun.settled hsettled : Begun lib config 0 "" _ o).still hd) hmoves
    · exact absurd (hbegun.still hd) hmoves
  | unverified _ hstill => cases hd; exact absurd hstill hmoves
  | begun _ _ _ hbegun => exact absurd (hbegun.still hd) hmoves
  | confirmed _ _ _ _ hstill => cases hd; exact absurd hstill hmoves
  | entered _ _ _ _ _ _ _ hstill => cases hd; exact absurd hstill hmoves
  | forwarded hop hphase hstale hlinearX hangularZ hprevious hdelta hcommand hcontrol =>
    cases hd
    refine ⟨_, _, _, _, hop, hphase, (congrArg Control.phase hcontrol).trans hphase, hstale,
      fun haccel => ?_⟩
    rw [hcommand]
    refine inEnvelope_slewOutput haccel hlinearX hangularZ hdelta ?_
    rcases hprevious with rfl | rfl
    · exact hg haccel
    · exact .inl rfl

end Velocities

/-! ## Authorization -/

/-- The witnesses that a command does not ask for: two are delegated to the navigation stack,
and two are bound once. -/
def notAsked : List Witness := [.scan, .localization, .goalStatus, .goalClaim]

/-- A decision to move that is authorized. -/
structure MotionAuthorized (config : GuardConfig) (y : GuardStep) (d : Decision) : Prop where
  command : ∃ t linearX linearY angularZ, y.event = .command (.fin t) linearX linearY angularZ ∧
    y.pre.staleReason t = none ∧ ∀ w, w ∉ notAsked → y.pre.WitnessFresh t w
  owned : y.pre.ownershipValid = true
  armed : y.pre.phase = .armed ∧ y.post.phase = .armed
  envelope : Accelerates config → InEnvelope config d.command

/-- What precedes the step `y` that enters the armed phase. -/
structure ArmingComplete (lib : Library) (config : GuardConfig) (l : List GuardStep)
    (y : GuardStep) (claim : AcceptedGoalClaim) (requestedAt t : ℚ) : Prop where
  claimed : ClaimedOnce lib config l claim
  active : ReportedActive lib l claim.goalUuid
  bound : y.pre.goalId = claim.goalUuid
  /-- The request from a disarmed start, its confirmation, and nothing but waiting since. -/
  requested : ∃ l₀ q m, l = l₀ ++ q :: m ∧ RequestsArm lib config requestedAt q ∧
    q.post.goalId = claim.goalUuid ∧ (∀ z ∈ m, z.post.phase = .pendingArm) ∧
    ∃ k ∈ m, ConfirmsArm lib config k
  measured : ∃ status, y.event = .observeChassisStatus (.fin t) status ∧
    chassisMeasured lib status = some (.armed, true)
  preamble : config.limits.zeroPreambleS ≤ t - requestedAt
  start : y.pre.startPositionMatches lib config = true

/-- The authorization of motion in a run. -/
structure StagedMotionAuthorized (lib : Library) (config : GuardConfig) (tr : List GuardStep) :
    Prop where
  motion : ∀ y ∈ tr, ∀ d, y.output = .ok d → ¬ d.Still → MotionAuthorized config y d
  once : ∀ l x m y r, tr = l ++ x :: (m ++ y :: r) → EntersArmed x → ¬ EntersArmed y
  complete : ∀ l y r, tr = l ++ y :: r → EntersArmed y →
    ∃ claim requestedAt t, ArmingComplete lib config l y claim requestedAt t
  /-- Every map that is accepted after the request is the one locked then. -/
  locked : ∀ l q m z r identity, tr = l ++ q :: (m ++ z :: r) → q.pre.phase ≠ .pendingArm →
    q.post.phase = .pendingArm → AcceptsLifecycle lib z identity →
    q.post.mapLifecycle = some identity

section Authorization

variable {lib : Library} {config : GuardConfig}

lemma fresh_of_staleReason {g : StagedNav2Guard} {t : ℚ} (h : g.staleReason t = none) :
    (∀ w, w ∉ notAsked → g.WitnessFresh t w) ∧ g.ownershipValid = true := by
  rw [staleReason_eq_none_iff] at h
  refine ⟨fun w hw => ?_, h.2⟩
  simp only [notAsked, List.mem_cons, List.not_mem_nil, or_false, not_or] at hw
  exact h.1 w hw.2.2.1 hw.2.2.2 fun _ => ⟨hw.1, hw.2.1⟩

/-- A step of a run is a transition. -/
lemma transition_of_step {g : StagedNav2Guard} {y : GuardStep}
    (h : y = (guardMachine lib config).stepAt g y.event) :
    y.pre = g ∧ Transition lib config y.pre y.event (y.output, y.post) := by
  have htransition := transition_of_perform lib config y.event g
  have hpre : y.pre = g := congrArg Machine.Step.pre h
  have houtput : y.output = (perform lib config y.event g).1 := congrArg Machine.Step.output h
  have hpost : y.post = (perform lib config y.event g).2 := congrArg Machine.Step.post h
  rw [hpre, houtput, hpost]
  exact ⟨rfl, htransition⟩

/-- **The authorization of staged navigation.**  Motion is decided only by a command of an
armed guard with fresh witnesses; the guard is armed at most once, for one claimed and
active goal, after a confirmed request from a disarmed start and a held zero; and the map
that was locked by the request is the only one that is accepted later. -/
theorem stagedMotionAuthorized_run (lib : Library) (config : GuardConfig)
    (ops : List Operation) :
    StagedMotionAuthorized lib config ((guardMachine lib config).trace (fresh config) ops) where
  motion y hy d hd hmoves := by
    obtain ⟨before, _, -, hye⟩ := (guardMachine lib config).mem_trace_stepAt hy
    obtain ⟨hpre, htransition⟩ := transition_of_step hye
    have hg := (outputInEnvelope_invariant lib config).final before
    rw [← hpre] at hg
    obtain ⟨t, linearX, linearY, angularZ, hop, hphase, hpost, hstale, henvelope⟩ :=
      htransition.moves hg hd hmoves
    obtain ⟨hfresh, howned⟩ := fresh_of_staleReason hstale
    exact ⟨⟨t, linearX, linearY, angularZ, hop, hstale, hfresh⟩, howned, ⟨hphase, hpost⟩,
      henvelope⟩
  once l x m y r htr hx hy := by
    obtain ⟨_, rest, -, -, -, hrest⟩ := (guardMachine lib config).trace_eq_append_cons htr
    obtain ⟨between, _, -, -, hye, -⟩ :=
      (guardMachine lib config).trace_eq_append_cons hrest.symm
    obtain ⟨hpre, htransition⟩ := transition_of_step hye
    have hafter := (after_final lib config x.post between).rank
    obtain ⟨_, _, _, _, _, hpending, -⟩ := htransition.entersArmed hy.1 hy.2
    rw [← hpre, hx.2, hpending] at hafter
    exact absurd hafter (by decide)
  complete l y r htr hy := by
    obtain ⟨before, _, -, rfl, hye, -⟩ := (guardMachine lib config).trace_eq_append_cons htr
    obtain ⟨hpre, htransition⟩ := transition_of_step hye
    have hgoal := goalHistory_run lib config before
    have harming := armingHistory_run lib config before
    rw [← hpre] at hgoal harming
    obtain ⟨t, requestedAt, status, hop, hmeasured, hpending, haccepted, hrequestedAt, hpreamble,
      hstart⟩ := htransition.entersArmed hy.1 hy.2
    obtain ⟨t₀, ht₀, l₀, q, m, hl, hq, hqgoal, hwaiting, hconfirmed⟩ := harming hpending
    obtain rfl : requestedAt = t₀ := Option.some.inj (hrequestedAt.symm.trans ht₀)
    have hhistory := hgoal (.inr (.inl hpending))
    have hqgoal' : q.post.goalId = y.pre.goalId := hqgoal
    obtain ⟨hactive, claim, hclaim, huuid⟩ := hhistory.bound (hqgoal ▸ hq.bound)
    have huuid' : y.pre.goalId = claim.goalUuid := huuid.symm
    refine ⟨claim, requestedAt, t, hhistory.claimed claim hclaim, ?_, huuid', ?_,
      ⟨status, hop, hmeasured⟩, hpreamble, hstart⟩
    · rw [huuid]
      exact hactive
    · exact ⟨l₀, q, m, hl, hq, hqgoal'.trans huuid', hwaiting, hconfirmed haccepted⟩
  locked l q m z r identity htr hpre hpost haccepts := by
    obtain ⟨_, rest, -, -, hqe, hrest⟩ := (guardMachine lib config).trace_eq_append_cons htr
    obtain ⟨between, _, -, -, hze, -⟩ :=
      (guardMachine lib config).trace_eq_append_cons hrest.symm
    obtain ⟨-, htransition⟩ := transition_of_step hqe
    obtain ⟨t, hrequested⟩ := htransition.entersPending hpre hpost
    have hafter := (after_final lib config q.post between).locked (by rw [hpost]; decide)
    obtain ⟨locked, hlocked⟩ := Option.ne_none_iff_exists'.mp hrequested.lifecycle
    rw [hze] at haccepts
    rw [hrequested.locked, hlocked] at hafter
    rw [hlocked, lifecycle_eq_of_accepted haccepts hafter]

end Authorization

end UnitreeGo2.StagedNav2
