import UnitreeGo2.PersistentNav2.ArmGate
import UnitreeGo2.Lib.Machine
import Mathlib.Data.Finset.Card

/-!
# The runs of the arm gate

The samples and the endpoints are checked before the zero preparation, and the exceptions that
lead to a disarm request are those of `except Exception`.  A run is safe when nothing happens
that these two choices miss.
-/

namespace UnitreeGo2.PersistentNav2

open Script

abbrev ArmStep := Script.Step Gate Call Answer

/-! ## What the gate has to guarantee -/

/-- The command topic has one publisher and one subscriber besides this tool. -/
structure ExactEndpoints (answer : Answer) : Prop where
  publisher : ∃ entry, answer.publishers = [entry] ∧ entry.name = velocityGuard
  subscriber : ∃ entry, answer.subscribers = [entry] ∧ entry.name = chassisAdapter

/-- The moment of an arm request. -/
structure SafeToArm (lib : Library) (request : ArmRequest) (x : ArmStep) : Prop where
  snapshot : validateSnapshot lib request x.pre.samples x.answer.now = .ok ()
  endpoints : ExactEndpoints x.answer

def RequestsArm (x : ArmStep) : Prop := x.call = .callAsync true

/-- A disarm request that is sent. -/
def Disarms (x : ArmStep) : Prop := x.call = .callAsync false ∧ x.answer.raised = none

/-- The service is not ready for a disarm request. -/
def FindsNoService (x : ArmStep) : Prop :=
  x.call = .serviceIsReady ∧ x.answer.raised = none ∧ x.answer.serviceReady = false

/-- **The gate is fail-closed** in a run that has come to `exit`. -/
structure FailClosed (lib : Library) (request : ArmRequest) (exit : Exit Raised Unit)
    (log : List ArmStep) : Prop where
  armed : ∀ x ∈ log, RequestsArm x → SafeToArm lib request x
  zero : ∀ x ∈ log, ∀ twist, x.call = .publish twist → twist = {}
  /-- A run that fails after the arm request disarms, if it can. -/
  disarmed : ∀ error, exit = .raised error → ∀ l x r, log = l ++ x :: r → RequestsArm x →
    ∃ y ∈ r, Disarms y ∨ FindsNoService y

/-! ## What can disturb a run -/

/-- A message that passes the check of its stream. -/
def GoodMessage (lib : Library) (request : ArmRequest) (message : Message) : Prop :=
  match message.payload with
  | .lifecycle mapId mode generation =>
    (mapId, lib.stripCasefold mode, generation) =
      (request.mapId, "localization", request.generation)
  | .pose frameId => frameId = "map"
  | .odom frameId childFrameId => (frameId, childFrameId) = ("odom", "base_link")
  | .scan frameId => frameId = "base_link"
  | .goals statusList => (statusList.filter fun item => item.2 ∈ ACTIVE_GOAL_STATES) = []
  | .diagnostics statuses => ∀ status,
    (statuses.filter fun status => status.1 = "go2_chassis_adapter").getLast? = some status →
      validateDiagnostics lib request status.2 = .ok ()

/-- No stream has stopped. -/
structure FreshAt (lib : Library) (samples : Samples) (now : ℚ) : Prop where
  pose : stale lib now (lib.fl (3 / 4)) samples.pose = false
  odom : stale lib now (lib.fl (3 / 4)) samples.odom = false
  scan : stale lib now (lib.fl (3 / 4)) samples.scan = false
  diagnostics : stale lib now (lib.fl (3 / 2)) samples.diagnostics = false

/-- An arm request that has not been answered by a disarm request. -/
structure Pending (l : List ArmStep) : Prop where
  requested : ∃ x ∈ l, RequestsArm x
  unresolved : ∀ x ∈ l, ¬ (Disarms x ∨ FindsNoService x)

/-- A step that brings nothing that the gate does not look at. -/
structure Undisturbed (lib : Library) (request : ArmRequest) (l : List ArmStep) (x : ArmStep) :
    Prop where
  /-- The messages during the zero preparation pass the checks too. -/
  received : (∃ c ∈ l, c.call = .createPublisher) → (∀ c ∈ l, ¬ RequestsArm c) →
    ∀ message ∈ x.answer.received, GoodMessage lib request message
  fresh : RequestsArm x → FreshAt lib x.pre.samples x.answer.now
  /-- The endpoints have the names that were checked, each of them a name of its own. -/
  publishers : RequestsArm x → ∀ c ∈ l, c.call = .commandPublishers →
    endpointNames x.answer.publishers = endpointNames c.answer.publishers ∧
      (x.answer.publishers.map Endpoint.name).Nodup
  subscribers : RequestsArm x → ∀ c ∈ l, c.call = .commandSubscriptions →
    endpointNames x.answer.subscribers = endpointNames c.answer.subscribers ∧
      (x.answer.subscribers.map Endpoint.name).Nodup
  /-- After the arm request only ordinary exceptions are raised, and none by the calls that
  should send the disarm request or end the run. -/
  raises : Pending (l ++ [x]) → ∀ raised, x.answer.raised = some raised →
    raised.isException = true ∧
      x.call ∉ [.serviceIsReady, .callAsync false, .destroyNode, .shutdown]
  response : Pending (l ++ [x]) → ∀ raised, x.answer.future = .failed raised →
    raised.isException = true

/-! ## The checks -/

section Checks

variable {lib : Library} {request : ArmRequest} {samples : Samples} {now : ℚ}

/-- What the checks say of the payloads. -/
structure GoodSamples (lib : Library) (request : ArmRequest) (samples : Samples) : Prop where
  lifecycle : ∃ seenAt, samples.lifecycle =
    some (seenAt, request.mapId, "localization", request.generation)
  pose : ∃ seenAt, samples.pose = some (seenAt, "map")
  odom : ∃ seenAt, samples.odom = some (seenAt, "odom", "base_link")
  scan : ∃ seenAt, samples.scan = some (seenAt, "base_link")
  goals : ∃ seenAt, samples.goals = some (seenAt, [])
  diagnostics : ∃ seenAt values, samples.diagnostics = some (seenAt, values) ∧
    validateDiagnostics lib request values = .ok ()

/-- The checks of the payloads, and those of their ages. -/
lemma validateSnapshot_iff : validateSnapshot lib request samples now = .ok () ↔
    request.allowedMarker ∈ CLASSIC_MOTION_STATE_MARKERS ∧ GoodSamples lib request samples ∧
      FreshAt lib samples now := by
  constructor
  · intro h
    unfold validateSnapshot at h
    split at h
    · cases h
    rename_i hmarker
    split at h
    · rename_i lifecycle pose odom scan goals diagnostics hl hp ho hs hg hd
      split at h
      · cases h
      rename_i hlifecycle
      split at h
      · cases h
      rename_i hpose
      split at h
      · cases h
      rename_i hodom
      split at h
      · cases h
      rename_i hscan
      split at h
      · cases h
      rename_i hdiagnostics
      split at h
      · cases h
      rename_i hframe
      split at h
      · cases h
      rename_i hframes
      split at h
      · cases h
      rename_i hscanFrame
      split at h
      · cases h
      rename_i hgoals
      refine ⟨not_not.mp hmarker, ⟨⟨lifecycle.1, ?_⟩, ⟨pose.1, ?_⟩, ⟨odom.1, ?_⟩, ⟨scan.1, ?_⟩,
        ⟨goals.1, ?_⟩, diagnostics.1, diagnostics.2, hd, h⟩,
        ⟨Bool.eq_false_iff.mpr hpose, Bool.eq_false_iff.mpr hodom, Bool.eq_false_iff.mpr hscan,
          Bool.eq_false_iff.mpr hdiagnostics⟩⟩
      · rw [hl, ← not_not.mp hlifecycle]
      · rw [hp, ← not_not.mp hframe]
      · rw [ho, ← not_not.mp hframes]
      · rw [hs, ← not_not.mp hscanFrame]
      · rw [hg, ← not_not.mp hgoals]
    · cases h
  · rintro ⟨hmarker, ⟨⟨t₁, hl⟩, ⟨t₂, hp⟩, ⟨t₃, ho⟩, ⟨t₄, hs⟩, ⟨t₅, hg⟩, t₆, values, hd, hvalues⟩,
      ⟨hpose, hodom, hscan, hdiagnostics⟩⟩
    rw [hp] at hpose
    rw [ho] at hodom
    rw [hs] at hscan
    rw [hd] at hdiagnostics
    unfold validateSnapshot
    rw [if_neg (not_not.mpr hmarker), hl, hp, ho, hs, hg, hd]
    simp only [hpose, hodom, hscan, hdiagnostics, hvalues, ne_eq, not_true_eq_false, if_false,
      Bool.false_eq_true]

/-- A good message leaves good samples. -/
lemma GoodSamples.observed (h : GoodSamples lib request samples) {message : Message}
    (hmessage : GoodMessage lib request message) :
    GoodSamples lib request (samples.observed lib message) := by
  obtain ⟨receivedAt, payload⟩ := message
  cases payload with
  | lifecycle mapId mode generation =>
    exact { h with lifecycle := ⟨receivedAt, congrArg (fun part => some (receivedAt, part))
      (show (mapId, lib.stripCasefold mode, generation) = _ from hmessage)⟩ }
  | pose frameId =>
    exact { h with pose := ⟨receivedAt, congrArg (fun part => some (receivedAt, part)) hmessage⟩ }
  | odom frameId childFrameId =>
    exact { h with odom := ⟨receivedAt, congrArg (fun part => some (receivedAt, part)) hmessage⟩ }
  | scan frameId =>
    exact { h with scan := ⟨receivedAt, congrArg (fun part => some (receivedAt, part)) hmessage⟩ }
  | goals statusList =>
    refine { h with goals := ⟨receivedAt, ?_⟩ }
    show some (receivedAt, (statusList.filter _).map Prod.fst) = _
    rw [show statusList.filter _ = [] from hmessage]
    rfl
  | diagnostics statuses =>
    unfold Samples.observed
    dsimp only
    split
    · exact h
    · rename_i status hstatus
      exact { h with diagnostics := ⟨receivedAt, status.2, rfl, hmessage status hstatus⟩ }

lemma GoodSamples.foldl (h : GoodSamples lib request samples) {messages : List Message}
    (hmessages : ∀ message ∈ messages, GoodMessage lib request message) :
    GoodSamples lib request (messages.foldl (Samples.observed lib) samples) := by
  induction messages generalizing samples with
  | nil => exact h
  | cons message messages ih =>
    exact ih (h.observed (hmessages message (by simp))) fun m hm => hmessages m (by simp [hm])

/-- Endpoints with one name between them, and names of their own, are one endpoint. -/
lemma exactly_one {entries : List Endpoint} {name : String}
    (hnames : endpointNames entries = {name}) (hnodup : (entries.map Endpoint.name).Nodup) :
    ∃ entry, entries = [entry] ∧ entry.name = name := by
  have hlength : (entries.map Endpoint.name).length = 1 := by
    rw [← List.toFinset_card_of_nodup hnodup]
    exact congrArg Finset.card hnames
  rw [List.length_map] at hlength
  obtain ⟨entry, rfl⟩ := List.length_eq_one_iff.mp hlength
  refine ⟨entry, rfl, ?_⟩
  have hmem : entry.name ∈ endpointNames [entry] := by simp [endpointNames]
  rw [hnames] at hmem
  exact Finset.mem_singleton.mp hmem

end Checks

/-! ## The phases of a run -/

section Phases

variable {lib : Library} {request : ArmRequest} {l : List ArmStep} {s : Gate} {call : Call}

/-- The arm request and every velocity so far are as they should be. -/
structure Gated (lib : Library) (request : ArmRequest) (l : List ArmStep) : Prop where
  armed : ∀ x ∈ l, RequestsArm x → SafeToArm lib request x
  zero : ∀ x ∈ l, ∀ twist, x.call = .publish twist → twist = {}

/-- Before the arm request. -/
structure Before (lib : Library) (request : ArmRequest) (l : List ArmStep) : Prop
    extends Gated lib request l where
  noArm : ∀ x ∈ l, ¬ RequestsArm x
  unresolved : ∀ x ∈ l, ¬ (Disarms x ∨ FindsNoService x)

/-- After the arm request. -/
structure After (lib : Library) (request : ArmRequest) (l : List ArmStep) : Prop
    extends Gated lib request l, Pending l

/-- A disarm request, or a service that is not ready, follows the arm request. -/
def Resolved (l : List ArmStep) : Prop :=
  ∀ l₁ x r, l = l₁ ++ x :: r → RequestsArm x → ∃ y ∈ r, Disarms y ∨ FindsNoService y

/-- A call that is made in both phases: no request, and none of the calls that end the run. -/
def Call.isPlain : Call → Bool
  | .callAsync _ | .serviceIsReady | .destroyNode | .shutdown => false
  | .publish twist => twist = {}
  | _ => true

def Plain (call : Call) : Prop := call.isPlain = true

lemma plain_publish : Plain (.publish {}) := by
  unfold Plain Call.isPlain
  exact decide_eq_true rfl

lemma Plain.armless (h : Plain call) : call ≠ .callAsync true := by
  rintro rfl
  cases h

lemma Plain.zero (h : Plain call) (twist : Twist) (hcall : call = .publish twist) :
    twist = {} := by
  subst hcall
  exact of_decide_eq_true h

lemma Plain.expected (h : Plain call) :
    call ∉ [.serviceIsReady, .callAsync false, .destroyNode, .shutdown] := by
  intro hmem
  simp only [List.mem_cons, List.not_mem_nil, or_false] at hmem
  rcases hmem with rfl | rfl | rfl | rfl <;> cases h

lemma forall_concat {P : ArmStep → Prop} {x : ArmStep} (hl : ∀ y ∈ l, P y) (hx : P x) :
    ∀ y ∈ l ++ [x], P y := by
  intro y hy
  rcases List.mem_append.mp hy with hy | hy
  · exact hl y hy
  · rw [List.mem_singleton.mp hy]
    exact hx

lemma Gated.concat (h : Gated lib request l) {x : ArmStep}
    (harm : RequestsArm x → SafeToArm lib request x)
    (hzero : ∀ twist, x.call = .publish twist → twist = {}) : Gated lib request (l ++ [x]) :=
  ⟨forall_concat h.armed harm, forall_concat h.zero hzero⟩

/-- A phase of the run that goes on with each plain call. -/
structure Phase (lib : Library) (request : ArmRequest) (I : List ArmStep → Prop)
    (E : Raised → Prop) : Prop where
  concat : ∀ l x, I l → Plain x.call → I (l ++ [x])
  raises : ∀ l x, I (l ++ [x]) → Plain x.call → Undisturbed lib request l x →
    ∀ raised, x.answer.raised = some raised → E raised
  response : ∀ l x, I (l ++ [x]) → Undisturbed lib request l x →
    ∀ raised, x.answer.future = .failed raised → E raised
  armError : ∀ text, E (.armError text)

lemma Plain.unresolving {x : ArmStep} (hx : Plain x.call) : ¬ (Disarms x ∨ FindsNoService x) := by
  have hexpected := hx.expected
  rintro (⟨hcall, _⟩ | ⟨hcall, _⟩)
  · rw [hcall] at hexpected
    exact hexpected (by simp)
  · rw [hcall] at hexpected
    exact hexpected (by simp)

lemma Before.concat (h : Before lib request l) {x : ArmStep} (hx : Plain x.call) :
    Before lib request (l ++ [x]) where
  toGated := h.toGated.concat (fun harm => absurd harm hx.armless) hx.zero
  noArm := forall_concat h.noArm hx.armless
  unresolved := forall_concat h.unresolved hx.unresolving

lemma Phase.before : Phase lib request (Before lib request) fun _ => True where
  concat _ _ h hx := h.concat hx
  raises _ _ _ _ _ _ _ := trivial
  response _ _ _ _ _ _ := trivial
  armError _ := trivial

lemma After.concat (h : After lib request l) {x : ArmStep} (hx : Plain x.call) :
    After lib request (l ++ [x]) where
  toGated := h.toGated.concat (fun harm => absurd harm hx.armless) hx.zero
  requested := by
    obtain ⟨y, hy, harm⟩ := h.requested
    exact ⟨y, List.mem_append_left _ hy, harm⟩
  unresolved := forall_concat h.unresolved hx.unresolving

lemma Phase.after : Phase lib request (After lib request) fun raised =>
    raised.isException = true where
  concat _ _ h hx := h.concat hx
  raises _ _ h _ hC raised hraised := (hC.raises h.toPending raised hraised).1
  response _ _ h hC := hC.response h.toPending
  armError _ := rfl

/-! ## The calls of a phase -/

section Calls

variable {I : List ArmStep → Prop} {E : Raised → Prop} {C : Condition Gate Call Answer}

lemma perform_ends {Q : Post Gate Call Answer Raised Answer} (hwait : Q .running s l)
    (hraised : ∀ answer raised, C l ⟨s, call, answer⟩ → answer.raised = some raised →
      Q (.raised raised) s (l ++ [⟨s, call, answer⟩]))
    (hreturned : ∀ answer, C l ⟨s, call, answer⟩ → answer.raised = none →
      Q (.returned answer) s (l ++ [⟨s, call, answer⟩])) : Ends C (perform call) Q s l := by
  refine Ends.bind (Ends.ask hwait fun answer hC => ?_)
  simp only [Post.andThen]
  split
  · rename_i raised hraise
    exact Ends.raise (hraised answer raised hC hraise)
  · rename_i hraise
    exact Ends.pure (hreturned answer hC hraise)

/-- What a spin leaves. -/
def Gate.spun (lib : Library) (gate : Gate) (answer : Answer) : Gate :=
  { gate with
    samples := answer.received.foldl (Samples.observed lib) gate.samples
    future := answer.future }

lemma spin_ends {Q : Post Gate Call Answer Raised Unit} (hwait : Q .running s l)
    (hraised : ∀ answer raised, C l ⟨s, call, answer⟩ → answer.raised = some raised →
      Q (.raised raised) (s.spun lib answer) (l ++ [⟨s, call, answer⟩]))
    (hreturned : ∀ answer, C l ⟨s, call, answer⟩ → answer.raised = none →
      Q (.returned ()) (s.spun lib answer) (l ++ [⟨s, call, answer⟩])) :
    Ends C (spin lib call) Q s l := by
  refine Ends.bind (Ends.ask hwait fun answer hC => Ends.bind (Ends.modify ?_))
  simp only [Post.andThen]
  split
  · rename_i raised hraise
    exact Ends.raise (hraised answer raised hC hraise)
  · rename_i hraise
    exact Ends.pure (hreturned answer hC hraise)

variable (hphase : Phase lib request I E) (hI : I l)

include hphase hI

lemma perform_within {P : Answer → Gate → List ArmStep → Prop} (hplain : Plain call)
    (hP : ∀ answer, Undisturbed lib request l ⟨s, call, answer⟩ →
      P answer s (l ++ [⟨s, call, answer⟩])) :
    Ends (Undisturbed lib request) (perform call) (Within I E P) s l := by
  refine perform_ends hI (fun answer raised hC hraised => ?_) fun answer hC _ => ?_
  · have hnext := hphase.concat l ⟨s, call, answer⟩ hI hplain
    exact ⟨hnext, hphase.raises l _ hnext hplain hC raised hraised⟩
  · exact ⟨hphase.concat l ⟨s, call, answer⟩ hI hplain, hP answer hC⟩

lemma spin_within {P : Unit → Gate → List ArmStep → Prop} (hplain : Plain call)
    (hP : ∀ answer, Undisturbed lib request l ⟨s, call, answer⟩ →
      P () (s.spun lib answer) (l ++ [⟨s, call, answer⟩])) :
    Ends (Undisturbed lib request) (spin lib call) (Within I E P) s l := by
  refine spin_ends hI (fun answer raised hC hraised => ?_) fun answer hC _ => ?_
  · have hnext := hphase.concat l ⟨s, call, answer⟩ hI hplain
    exact ⟨hnext, hphase.raises l _ hnext hplain hC raised hraised⟩
  · exact ⟨hphase.concat l ⟨s, call, answer⟩ hI hplain, hP answer hC⟩

lemma monotonic_within : Ends (Undisturbed lib request) monotonic
    (Within I E fun _ s' l' => s' = s ∧ l <+: l') s l := by
  refine Ends.andThen (perform_within (P := fun _ s' l' => s' = s ∧ l <+: l') hphase hI rfl
      fun answer _ => ⟨rfl, List.prefix_append ..⟩) ?_
  intro answer s' l' hI' hsame
  exact Ends.pure ⟨hI', hsame⟩

lemma publishZero_within (now nextZero : ℚ) :
    Ends (Undisturbed lib request) (publishZero lib now nextZero)
      (Within I E fun _ s' l' => s' = s ∧ l <+: l') s l := by
  unfold publishZero
  split
  · refine Ends.andThen (perform_within (P := fun _ s' l' => s' = s ∧ l <+: l') hphase hI
      plain_publish fun answer _ => ⟨rfl, List.prefix_append ..⟩) ?_
    intro answer s' l' hI' hsame
    exact Ends.pure ⟨hI', hsame⟩
  · exact Ends.pure ⟨hI, rfl, List.prefix_rfl⟩

lemma inferGoals_within (publishers : List Endpoint) (now : ℚ) :
    Ends (Undisturbed lib request) (inferGoals publishers now)
      (Within I E fun _ s' l' => s'.zeroPublisher = s.zeroPublisher ∧ l' = l) s l := by
  refine Ends.bind (Ends.get ?_)
  simp only [Post.andThen]
  have hraise : ∀ raised, inferInitialIdleGoalState s.samples publishers now = .error raised →
      E raised := by
    intro raised h
    unfold inferInitialIdleGoalState at h
    split at h
    · cases h
    · split at h
      · cases h
        exact hphase.armError _
      · cases h
  split
  · rename_i raised h
    exact Ends.raise ⟨hI, hraise raised h⟩
  · exact Ends.modify ⟨hI, rfl, rfl⟩

end Calls

/-! ## Before the arm request -/

/-- What the checks have found. -/
structure Checked (lib : Library) (request : ArmRequest) (s : Gate) (l : List ArmStep) : Prop where
  marker : request.allowedMarker ∈ CLASSIC_MOTION_STATE_MARKERS
  samples : GoodSamples lib request s.samples
  publishers : ∃ c ∈ l, c.call = .commandPublishers ∧
    endpointNames c.answer.publishers = {velocityGuard}
  subscribers : ∃ c ∈ l, c.call = .commandSubscriptions ∧
    endpointNames c.answer.subscribers = {chassisAdapter}

lemma Checked.spread (h : Checked lib request s l) {s' : Gate} {l' : List ArmStep}
    (hsamples : GoodSamples lib request s'.samples) (hl : l <+: l') :
    Checked lib request s' l' where
  marker := h.marker
  samples := hsamples
  publishers := by
    obtain ⟨c, hc, h⟩ := h.publishers
    exact ⟨c, hl.subset hc, h⟩
  subscribers := by
    obtain ⟨c, hc, h⟩ := h.subscribers
    exact ⟨c, hl.subset hc, h⟩

/-- A part of the run before the arm request. -/
abbrev Early (lib : Library) (request : ArmRequest) {α : Type}
    (P : α → Gate → List ArmStep → Prop) : Post Gate Call Answer Raised α :=
  Within (Before lib request) (fun _ => True) P

lemma snapshotRound_early (snapshotStarted deadline : ℚ) (h : Before lib request l)
    (hs : s.zeroPublisher = false) :
    Ends (Undisturbed lib request) (snapshotRound lib snapshotStarted deadline ())
      (Early lib request fun _ s' _ => s'.zeroPublisher = false) s l := by
  refine Ends.andThen (monotonic_within Phase.before h) ?_
  rintro now _ l₁ h ⟨rfl, _⟩
  split
  · refine Ends.andThen (spin_within (P := fun _ s' _ => s'.zeroPublisher = false)
    Phase.before h rfl fun _ _ => hs) ?_
    intro _ s₂ l₂ h hs
    refine Ends.andThen (monotonic_within Phase.before h) ?_
    rintro now s₂ l₃ h ⟨rfl, _⟩
    refine Ends.bind (Ends.get ?_)
    show Ends _ (ite _ _ _) _ s₂ l₃
    split
    · split
      · exact Ends.pure ⟨h, hs⟩
      · split
        · refine Ends.andThen (perform_within (P := fun _ s' _ => s'.zeroPublisher = false)
            Phase.before h rfl fun _ _ => hs) ?_
          intro answer s₄ l₄ h hs
          refine Ends.andThen (inferGoals_within Phase.before h _ _) ?_
          rintro _ s₅ l₅ h ⟨hs₅, _⟩
          exact Ends.pure ⟨h, hs₅.trans hs⟩
        · exact Ends.pure ⟨h, hs⟩
    · exact Ends.pure ⟨h, hs⟩
  · exact Ends.pure ⟨h, hs⟩

lemma collectSnapshot_early (h : Before lib request l) (hs : s.zeroPublisher = false) :
    Ends (Undisturbed lib request) (collectSnapshot lib request)
      (Early lib request fun _ => Checked lib request) s l := by
  refine Ends.andThen (monotonic_within Phase.before h) ?_
  rintro snapshotStarted _ l₁ h ⟨rfl, _⟩
  refine Ends.andThen (Ends.loop_within (R := fun _ s' _ => s'.zeroPublisher = false)
    (fun _ s _ => s.zeroPublisher = false) ?_ h hs) ?_
  · intro _ s l h hs
    refine (snapshotRound_early _ _ h hs).within ?_ (fun _ _ _ h hE => ⟨h, hE⟩) fun _ _ h => h
    intro value s l h hs
    cases value with
    | inl _ => exact ⟨h, hs⟩
    | inr _ => exact ⟨h, hs⟩
  intro _ s₂ l₂ h hs
  refine Ends.andThen (perform_within (P := fun _ s' _ => s'.zeroPublisher = false)
    Phase.before h rfl fun _ _ => hs) ?_
  intro answer s₃ l₃ h hs
  refine Ends.andThen (monotonic_within Phase.before h) ?_
  rintro now _ l₄ h ⟨rfl, _⟩
  refine Ends.andThen (inferGoals_within Phase.before h _ _) ?_
  rintro _ s₅ l₅ h ⟨hs₅, _⟩
  rw [hs] at hs₅
  refine Ends.andThen (P := fun publishers s' l' => s' = s₅ ∧ ∃ c ∈ l',
    c.call = .commandPublishers ∧ c.answer.publishers = publishers) ?_ ?_
  · refine Ends.andThen (perform_within (P := fun answer s' l' => s' = s₅ ∧ ∃ c ∈ l',
      c.call = .commandPublishers ∧ c.answer = answer) Phase.before h rfl
      fun answer _ => ⟨rfl, _, List.mem_append_right _ (List.mem_singleton_self _), rfl, rfl⟩) ?_
    rintro answer _ l₆ h ⟨rfl, c, hc, hcall, hanswer⟩
    refine Ends.bind (Ends.get ?_)
    refine Ends.pure ⟨h, rfl, c, hc, hcall, ?_⟩
    rw [hs₅, hanswer]
    rfl
  rintro publishers s₅ l₆ h ⟨rfl, c, hc, hcall, hpublishers⟩
  refine Ends.andThen (perform_within (P := fun answer s' l' => s' = s₅ ∧ l₆ <+: l' ∧ ∃ c ∈ l',
    c.call = .commandSubscriptions ∧ c.answer = answer) Phase.before h rfl
      fun answer _ => ⟨rfl, List.prefix_append .., _,
      List.mem_append_right _ (List.mem_singleton_self _), rfl, rfl⟩) ?_
  rintro answer _ l₇ h ⟨rfl, hl, c', hc', hcall', hanswer⟩
  split
  · exact Ends.raise ⟨h, trivial⟩
  rename_i hnames
  split
  · exact Ends.raise ⟨h, trivial⟩
  rename_i hnames'
  refine Ends.andThen (monotonic_within Phase.before h) ?_
  rintro now s₅ l₈ h ⟨rfl, hl'⟩
  refine Ends.bind (Ends.get ?_)
  simp only [Post.andThen]
  split
  · exact Ends.raise ⟨h, trivial⟩
  · rename_i hvalid
    obtain ⟨hmarker, hgood, _⟩ := validateSnapshot_iff.mp hvalid
    refine Ends.pure ⟨h, hmarker, hgood, ⟨c, hl'.subset (hl.subset hc), hcall, ?_⟩,
      ⟨c', hl'.subset hc', hcall', ?_⟩⟩
    · rw [hpublishers]
      exact not_not.mp hnames
    · rw [hanswer]
      exact not_not.mp hnames'

/-- The checks hold, and the zero preparation has started. -/
structure Prepared (lib : Library) (request : ArmRequest) (s : Gate) (l : List ArmStep) : Prop
    extends Checked lib request s l where
  started : ∃ c ∈ l, c.call = .createPublisher

lemma Prepared.spread (h : Prepared lib request s l) {s' : Gate} {l' : List ArmStep}
    (hsamples : GoodSamples lib request s'.samples) (hl : l <+: l') :
    Prepared lib request s' l' where
  toChecked := h.toChecked.spread hsamples hl
  started := by
    obtain ⟨c, hc, h⟩ := h.started
    exact ⟨c, hl.subset hc, h⟩

/-- The messages of the zero preparation leave the samples good. -/
lemma Prepared.spun (h : Prepared lib request s l) (hbefore : Before lib request l)
    {answer : Answer} (hC : Undisturbed lib request l ⟨s, call, answer⟩) :
    Prepared lib request (s.spun lib answer) (l ++ [⟨s, call, answer⟩]) :=
  h.spread (h.samples.foldl (hC.received h.started hbefore.noArm)) (List.prefix_append ..)

lemma preparationRound_early (preparationDeadline nextZero : ℚ) (h : Before lib request l)
    (hs : Prepared lib request s l) :
    Ends (Undisturbed lib request) (preparationRound lib preparationDeadline nextZero)
      (Early lib request fun _ => Prepared lib request) s l := by
  refine Ends.andThen (monotonic_within Phase.before h) ?_
  rintro now s l₁ h ⟨rfl, hl⟩
  replace hs := hs.spread hs.samples hl
  split
  · refine Ends.andThen (monotonic_within Phase.before h) ?_
    rintro now s l₂ h ⟨rfl, hl⟩
    replace hs := hs.spread hs.samples hl
    refine Ends.andThen (publishZero_within Phase.before h _ _) ?_
    rintro nextZero s l₃ h ⟨rfl, hl⟩
    replace hs := hs.spread hs.samples hl
    refine Ends.andThen (spin_within (P := fun _ => Prepared lib request) Phase.before h rfl
      fun answer hC => hs.spun h hC) ?_
    intro _ s l h hs
    exact Ends.pure ⟨h, hs⟩
  · exact Ends.pure ⟨h, hs⟩

lemma prepareZero_early (h : Before lib request l) (hs : Checked lib request s l) :
    Ends (Undisturbed lib request) (prepareZero lib)
      (Early lib request fun _ => Prepared lib request) s l := by
  refine Ends.andThen (perform_within (P := fun _ => Prepared lib request) Phase.before h rfl
      fun answer _ => ⟨hs.spread hs.samples (List.prefix_append ..), _,
      List.mem_append_right _ (List.mem_singleton_self _), rfl⟩) ?_
  intro _ s l h hs
  refine Ends.bind (Ends.modify ?_)
  refine Ends.andThen (monotonic_within Phase.before h) ?_
  rintro now s l₁ h ⟨rfl, hl⟩
  refine Ends.loop_within (fun _ => Prepared lib request) ?_ h
    (hs.spread hs.samples hl)
  intro nextZero s l h hs
  refine (preparationRound_early _ _ h hs).within ?_ (fun _ _ _ h hE => ⟨h, hE⟩) fun _ _ h => h
  intro value s l h hs
  cases value with
  | inl _ => exact ⟨h, hs⟩
  | inr _ => exact ⟨h, hs⟩

/-! ## The arm request and after it -/

/-- The checks still hold at the moment of the arm request. -/
lemma Prepared.safeToArm (h : Prepared lib request s l) {answer : Answer}
    (hC : Undisturbed lib request l ⟨s, .callAsync true, answer⟩) :
    SafeToArm lib request ⟨s, .callAsync true, answer⟩ := by
  obtain ⟨c, hc, hcall, hnames⟩ := h.publishers
  obtain ⟨c', hc', hcall', hnames'⟩ := h.subscribers
  obtain ⟨hsame, hnodup⟩ := hC.publishers rfl c hc hcall
  obtain ⟨hsame', hnodup'⟩ := hC.subscribers rfl c' hc' hcall'
  exact ⟨validateSnapshot_iff.mpr ⟨h.marker, h.samples, hC.fresh rfl⟩,
    exactly_one (hsame.trans hnames) hnodup, exactly_one (hsame'.trans hnames') hnodup'⟩

lemma Before.arm (h : Before lib request l) {x : ArmStep} (harm : RequestsArm x)
    (hsafe : SafeToArm lib request x) : After lib request (l ++ [x]) where
  toGated := h.toGated.concat (fun _ => hsafe) fun twist htwist => by
    rw [show x.call = _ from harm] at htwist
    cases htwist
  requested := ⟨x, by simp, harm⟩
  unresolved := by
    refine forall_concat h.unresolved ?_
    have hcall : x.call = .callAsync true := harm
    rintro (⟨hcall', _⟩ | ⟨hcall', _⟩)
    · rw [hcall] at hcall'
      cases hcall'
    · rw [hcall] at hcall'
      cases hcall'

/-- A part of the run after the arm request. -/
abbrev Late (lib : Library) (request : ArmRequest) {α : Type}
    (P : α → Gate → List ArmStep → Prop) : Post Gate Call Answer Raised α :=
  Within (After lib request) (fun raised => raised.isException = true) P

/-- The result of the arm service is an ordinary one. -/
def Gate.Responds (s : Gate) : Prop :=
  ∀ raised, s.future = .failed raised → raised.isException = true

lemma futureResult_late (h : After lib request l) {future : Future}
    (hfuture : ∀ raised, future = .failed raised → raised.isException = true) :
    Ends (Undisturbed lib request) (futureResult future)
      (Late lib request fun _ s' l' => s' = s ∧ l' = l) s l := by
  cases future with
  | pending => exact Ends.pure ⟨h, rfl, rfl⟩
  | done response => exact Ends.pure ⟨h, rfl, rfl⟩
  | failed raised => exact Ends.raise ⟨h, hfuture raised rfl⟩

lemma releaseCommandTopic_late (h : After lib request l) :
    Ends (Undisturbed lib request) releaseCommandTopic
      (Late lib request fun _ s' _ => s'.zeroPublisher = false) s l := by
  refine Ends.andThen (perform_within (P := fun _ _ _ => True) Phase.after h rfl
      fun _ _ => trivial) ?_
  intro _ s l h _
  refine Ends.bind (Ends.modify ?_)
  refine Ends.andThen (perform_within (P := fun _ s' _ => s'.zeroPublisher = false)
    Phase.after h rfl fun _ _ => rfl) ?_
  intro _ s l h hs
  refine Ends.andThen (P := fun _ s' _ => s'.zeroPublisher = false) ?_ ?_
  · refine Ends.andThen (perform_within (P := fun _ s' _ => s'.zeroPublisher = false)
    Phase.after h rfl fun _ _ => hs) ?_
    intro _ s l h hs
    exact Ends.bind (Ends.get (Ends.pure ⟨h, hs⟩))
  intro publishers s l h hs
  split
  · exact Ends.raise ⟨h, rfl⟩
  · refine Ends.andThen (perform_within (P := fun _ s' _ => s'.zeroPublisher = false)
    Phase.after h rfl fun _ _ => hs) ?_
    intro _ s l h hs
    exact Ends.pure ⟨h, hs⟩

/-- What a round of the wait leaves. -/
def Waited (lib : Library) (request : ArmRequest) : Post Gate Call Answer Raised (ℚ ⊕ Bool) :=
  Late lib request fun result s _ =>
    result.elim (fun _ => s.Responds)
      fun armed => if armed then s.zeroPublisher = false else s.Responds

lemma armRound_late (armDeadline nextZero : ℚ) (h : After lib request l) (hs : s.Responds) :
    Ends (Undisturbed lib request) (armRound lib armDeadline nextZero) (Waited lib request)
      s l := by
  refine Ends.andThen (monotonic_within Phase.after h) ?_
  rintro now s l₁ h ⟨rfl, _⟩
  split
  · refine Ends.andThen (monotonic_within Phase.after h) ?_
    rintro now s l₂ h ⟨rfl, _⟩
    refine Ends.andThen (publishZero_within Phase.after h _ _) ?_
    rintro nextZero s l₃ h ⟨rfl, _⟩
    refine Ends.andThen (spin_within (P := fun _ s' _ => s'.Responds) Phase.after h rfl
      fun answer hC => Phase.after.response _ ⟨s, .spinOnce, answer⟩ (h.concat rfl) hC) ?_
    intro _ s l h hs
    refine Ends.bind (Ends.get ?_)
    show Ends _ (ite _ _ _) _ s l
    split
    · refine Ends.andThen (futureResult_late h hs) ?_
      rintro response s l h ⟨rfl, rfl⟩
      split
      · refine Ends.andThen (releaseCommandTopic_late h) ?_
        intro _ s l h hs
        exact Ends.pure ⟨h, hs⟩
      · exact Ends.pure ⟨h, hs⟩
    · exact Ends.pure ⟨h, hs⟩
  · exact Ends.pure ⟨h, hs⟩

/-- How the `try` block ends. -/
def Tried (lib : Library) (request : ArmRequest) : Post Gate Call Answer Raised Unit
  | .returned _, s, l => After lib request l ∧ s.zeroPublisher = false
  | .raised error, _, l =>
    Before lib request l ∨ (After lib request l ∧ error.isException = true)
  | .running, _, l => Gated lib request l

lemma Ends.tried_of_late {x : ArmScript Unit}
    (h : Ends (Undisturbed lib request) x
      (Late lib request fun _ s' _ => s'.zeroPublisher = false) s l) :
    Ends (Undisturbed lib request) x (Tried lib request) s l :=
  h.within (fun _ _ _ h hs => ⟨h, hs⟩) (fun _ _ _ h hE => Or.inr ⟨h, hE⟩) fun _ _ h => h.toGated

lemma requestArm_tried (nextZero : ℚ) (h : Before lib request l) (hs : Prepared lib request s l) :
    Ends (Undisturbed lib request) (requestArm lib nextZero) (Tried lib request) s l := by
  refine Ends.bind (perform_ends h.toGated ?_ ?_)
  · intro answer raised hC hraised
    have hafter := h.arm (x := ⟨s, .callAsync true, answer⟩) rfl (hs.safeToArm hC)
    exact Or.inr ⟨hafter, (hC.raises hafter.toPending raised hraised).1⟩
  intro answer hC _
  replace h := h.arm (x := ⟨s, .callAsync true, answer⟩) rfl (hs.safeToArm hC)
  refine Ends.bind (Ends.modify ?_)
  refine Ends.tried_of_late ?_
  refine Ends.andThen (monotonic_within Phase.after h) ?_
  rintro now _ l h ⟨rfl, _⟩
  refine Ends.andThen (Ends.loop_within
    (R := fun armed s _ => if armed then s.zeroPublisher = false else s.Responds)
    (fun _ s _ => s.Responds) ?_ h (fun raised hraised => by cases hraised)) ?_
  · intro nextZero s l h hs
    refine (armRound_late _ _ h hs).within ?_ (fun _ _ _ h hE => ⟨h, hE⟩) fun _ _ h => h
    intro value s l h hs
    cases value with
    | inl _ => exact ⟨h, hs⟩
    | inr _ => exact ⟨h, hs⟩
  intro armed s l h hs
  cases armed with
  | true => exact Ends.pure ⟨h, hs⟩
  | false =>
    refine Ends.bind (Ends.get (Ends.andThen (futureResult_late h hs) ?_))
    intro _ s l h _
    exact Ends.raise ⟨h, rfl⟩

lemma armOrDisarm_tried (h : Before lib request l) (hs : s.zeroPublisher = false) :
    Ends (Undisturbed lib request) (armOrDisarm lib true request) (Tried lib request) s l := by
  have hraised : ∀ (error : Raised) (s : Gate) (l : List ArmStep), Before lib request l → True →
      Tried lib request (.raised error) s l := fun _ _ _ h _ => Or.inl h
  have hrunning : ∀ (s : Gate) (l : List ArmStep), Before lib request l →
      Tried lib request .running s l := fun _ _ h => h.toGated
  have hwait : Plain .waitForService := rfl
  refine Ends.bind ((perform_within (P := fun _ s' _ => s'.zeroPublisher = false) Phase.before h
    hwait fun _ _ => hs).within ?_ hraised hrunning)
  intro answer s l h hs
  show Ends _ (ite _ _ _) _ s l
  split
  · exact Ends.raise (Or.inl h)
  rw [if_neg (by decide)]
  refine Ends.bind ((collectSnapshot_early h hs).within ?_ hraised hrunning)
  intro _ s l h hs
  refine Ends.bind ((prepareZero_early h hs).within ?_ hraised hrunning)
  intro nextZero s l h hs
  exact requestArm_tried nextZero h hs

/-! ## The handlers -/

lemma resolved_of_noArm (h : ∀ x ∈ l, ¬ RequestsArm x) : Resolved l := by
  rintro l₁ x r rfl harm
  exact absurd harm (h x (by simp))

/-- Once it is resolved, a run stays so until the next arm request. -/
lemma Resolved.concat (h : Resolved l) {x : ArmStep} (hx : ¬ RequestsArm x) :
    Resolved (l ++ [x]) := by
  intro l₁ y r hl harm
  rcases r.eq_nil_or_concat with rfl | ⟨r, z, rfl⟩
  · obtain ⟨rfl, hxy⟩ := List.append_inj' hl rfl
    rw [List.singleton_inj.mp hxy] at hx
    exact absurd harm hx
  · rw [List.concat_eq_append, ← List.cons_append, ← List.append_assoc] at hl
    obtain ⟨rfl, _⟩ := List.append_inj' hl rfl
    obtain ⟨w, hw, h⟩ := h l₁ y r rfl harm
    exact ⟨w, by simp [hw], h⟩

/-- A step that resolves an arm request resolves all of them. -/
lemma resolved_concat {x : ArmStep} (hx : Disarms x ∨ FindsNoService x) :
    Resolved (l ++ [x]) := by
  intro l₁ y r hl harm
  rcases r.eq_nil_or_concat with rfl | ⟨r, z, rfl⟩
  · obtain ⟨rfl, hxy⟩ := List.append_inj' hl rfl
    have hcall : x.call = .callAsync true := by
      rw [List.singleton_inj.mp hxy]
      exact harm
    rcases hx with ⟨hcall', _⟩ | ⟨hcall', _⟩
    · rw [hcall] at hcall'
      cases hcall'
    · rw [hcall] at hcall'
      cases hcall'
  · rw [List.concat_eq_append, ← List.cons_append, ← List.append_assoc] at hl
    obtain ⟨_, hxz⟩ := List.append_inj' hl rfl
    rw [List.singleton_inj.mp hxz] at hx
    exact ⟨z, by simp, hx⟩

/-- Nothing is left to disarm. -/
structure Settled (lib : Library) (request : ArmRequest) (l : List ArmStep) : Prop
    extends Gated lib request l where
  resolved : Resolved l

lemma Before.settled (h : Before lib request l) : Settled lib request l :=
  ⟨h.toGated, resolved_of_noArm h.noArm⟩

/-- The calls of the handlers, which neither arm nor publish. -/
def Call.closes : Call → Bool
  | .callAsync data => !data
  | .publish _ => false
  | _ => true

lemma Gated.closing (h : Gated lib request l) {x : ArmStep} (hx : x.call.closes = true) :
    Gated lib request (l ++ [x]) := by
  refine h.concat (fun harm => ?_) fun twist htwist => ?_
  · rw [show x.call = _ from harm] at hx
    cases hx
  · rw [htwist] at hx
    cases hx

lemma Settled.closing (h : Settled lib request l) {x : ArmStep} (hx : x.call.closes = true) :
    Settled lib request (l ++ [x]) where
  toGated := h.toGated.closing hx
  resolved := h.resolved.concat fun harm => by
    rw [show x.call = _ from harm] at hx
    cases hx

/-- The rest of a run that is settled. -/
abbrev Closing (lib : Library) (request : ArmRequest) {α : Type} :
    Post Gate Call Answer Raised α :=
  Within (Settled lib request) (fun _ => True) fun _ _ _ => True

lemma perform_closing (h : Settled lib request l) (hcall : call.closes = true) :
    Ends (Undisturbed lib request) (perform call) (Closing lib request) s l := by
  refine perform_ends h ?_ ?_
  · intro answer raised _ _
    exact ⟨h.closing hcall, trivial⟩
  · intro answer _ _
    exact ⟨h.closing hcall, trivial⟩

lemma spin_closing (h : Settled lib request l) (hcall : call.closes = true) :
    Ends (Undisturbed lib request) (spin lib call) (Closing lib request) s l := by
  refine spin_ends h ?_ ?_
  · intro answer raised _ _
    exact ⟨h.closing hcall, trivial⟩
  · intro answer _ _
    exact ⟨h.closing hcall, trivial⟩

lemma disarmAfter_closing (error : Raised) (h : Settled lib request l) :
    Ends (Undisturbed lib request) (disarmAfter lib true error)
      (Within (Settled lib request) (fun _ => True) fun _ _ _ => False) s l := by
  unfold disarmAfter
  split
  · refine Ends.andThen (perform_closing h rfl) ?_
    intro answer s l h _
    split
    · refine Ends.andThen (perform_closing h rfl) ?_
      intro _ s l h _
      refine Ends.andThen (spin_closing h rfl) ?_
      intro _ s l h _
      exact Ends.raise ⟨h, trivial⟩
    · exact Ends.raise ⟨h, trivial⟩
  · exact Ends.raise ⟨h, trivial⟩

/-- What is left once the exceptions are handled. -/
def Disarmed (lib : Library) (request : ArmRequest) : Post Gate Call Answer Raised Unit
  | .returned _, s, l => After lib request l ∧ s.zeroPublisher = false
  | .raised _, _, l => Settled lib request l
  | .running, _, l => Gated lib request l

lemma Pending.unanswered (h : Pending l) {x : ArmStep} (hx : ¬ (Disarms x ∨ FindsNoService x)) :
    Pending (l ++ [x]) where
  requested := by
    obtain ⟨y, hy, harm⟩ := h.requested
    exact ⟨y, List.mem_append_left _ hy, harm⟩
  unresolved := forall_concat h.unresolved hx

/-- An ordinary exception after the arm request sends the disarm request. -/
lemma disarmAfter_late {error : Raised} (h : After lib request l)
    (herror : error.isException = true) :
    Ends (Undisturbed lib request) (disarmAfter lib true error) (Disarmed lib request) s l := by
  unfold disarmAfter
  rw [if_pos ⟨herror, rfl⟩]
  refine Ends.bind (perform_ends h.toGated ?_ ?_)
  · intro answer raised hC hraised
    have hpending : Pending (l ++ [⟨s, .serviceIsReady, answer⟩]) := by
      refine h.toPending.unanswered ?_
      rintro (⟨hcall, _⟩ | ⟨_, hnone, _⟩)
      · cases hcall
      · rw [show answer.raised = none from hnone] at hraised
        cases hraised
    exact absurd (by simp) (hC.raises hpending raised hraised).2
  intro answer _ hraised
  have hgated := h.toGated.closing (x := ⟨s, .serviceIsReady, answer⟩) rfl
  show Ends _ (ite _ _ _) _ s _
  split
  · rename_i hready
    have hpending : Pending (l ++ [⟨s, .serviceIsReady, answer⟩]) := by
      refine h.toPending.unanswered ?_
      rintro (⟨hcall, _⟩ | ⟨_, _, hunready⟩)
      · cases hcall
      · rw [show answer.serviceReady = false from hunready] at hready
        cases hready
    refine Ends.bind (perform_ends hgated ?_ ?_)
    · intro answer' raised hC hraised'
      refine absurd (by simp) (hC.raises (hpending.unanswered ?_) raised hraised').2
      rintro (⟨_, hnone⟩ | ⟨hcall, _⟩)
      · rw [show answer'.raised = none from hnone] at hraised'
        cases hraised'
      · cases hcall
    intro answer' _ hraised'
    have hsettled : Settled lib request _ :=
      ⟨hgated.closing (x := ⟨s, .callAsync false, answer'⟩) rfl,
        resolved_concat (Or.inl ⟨rfl, hraised'⟩)⟩
    refine Ends.bind ((spin_closing hsettled rfl).within ?_ (fun _ _ _ h _ => h)
      fun _ _ h => h.toGated)
    intro _ s l h _
    exact Ends.raise h
  · rename_i hready
    exact Ends.raise ⟨hgated,
      resolved_concat (Or.inr ⟨rfl, hraised, Bool.eq_false_iff.mpr hready⟩)⟩

lemma handled_disarmed (h : Before lib request l) (hs : s.zeroPublisher = false) :
    Ends (Undisturbed lib request)
      (tryCatch (armOrDisarm lib true request) (disarmAfter lib true))
      (Disarmed lib request) s l := by
  refine Ends.tryCatch ((armOrDisarm_tried h hs).mono ?_)
  intro exit s l h
  cases exit with
  | returned _ => exact h
  | raised error =>
    rcases h with h | ⟨h, herror⟩
    · exact (disarmAfter_closing error h.settled).within
        (fun _ _ _ _ h => h.elim) (fun _ _ _ h _ => h) fun _ _ h => h.toGated
    · exact disarmAfter_late h herror
  | running => exact h

lemma cleanUp_closing (h : Settled lib request l) :
    Ends (Undisturbed lib request) cleanUp (Closing lib request) s l := by
  refine Ends.bind (Ends.get ?_)
  show Ends _ (ite _ _ _) _ s l
  split
  · refine Ends.andThen (perform_closing h rfl) ?_
    intro _ s l h _
    refine Ends.andThen (perform_closing h rfl) ?_
    intro _ s l h _
    refine Ends.andThen (perform_closing h rfl) ?_
    intro _ s l h _
    exact Ends.pure ⟨h, trivial⟩
  · refine Ends.andThen (perform_closing h rfl) ?_
    intro _ s l h _
    refine Ends.andThen (perform_closing h rfl) ?_
    intro _ s l h _
    exact Ends.pure ⟨h, trivial⟩

/-- A call that ends an armed run. -/
lemma perform_armed (h : After lib request l) (hcall : call = .destroyNode ∨ call = .shutdown) :
    Ends (Undisturbed lib request) (perform call)
      (Within (After lib request) (fun _ => False) fun _ s' _ => s' = s) s l := by
  have hnext : ∀ answer, After lib request (l ++ [⟨s, call, answer⟩]) := by
    intro answer
    refine ⟨h.toGated.closing (x := ⟨s, call, answer⟩) ?_, h.toPending.unanswered ?_⟩
    · rcases hcall with rfl | rfl <;> rfl
    · rcases hcall with rfl | rfl <;> rintro (⟨h, _⟩ | ⟨h, _⟩) <;> cases h
  refine perform_ends h ?_ ?_
  · intro answer raised hC hraised
    refine ⟨hnext answer, (hC.raises (hnext answer).toPending raised hraised).2 ?_⟩
    rcases hcall with rfl | rfl <;> simp
  · intro answer _ _
    exact ⟨hnext answer, rfl⟩

lemma cleanUp_armed (h : After lib request l) (hs : s.zeroPublisher = false) :
    Ends (Undisturbed lib request) cleanUp
      (Within (After lib request) (fun _ => False) fun _ _ _ => True) s l := by
  refine Ends.bind (Ends.get ?_)
  show Ends _ (ite _ _ _) _ s l
  rw [if_neg (by rw [hs]; decide)]
  refine Ends.andThen (perform_armed h (Or.inl rfl)) ?_
  intro _ s l h _
  refine Ends.andThen (perform_armed h (Or.inr rfl)) ?_
  intro _ s l h _
  exact Ends.pure ⟨h, trivial⟩

lemma Gated.failClosed (h : Gated lib request l) {exit : Exit Raised Unit}
    (hexit : ∀ error, exit ≠ .raised error) : FailClosed lib request exit l :=
  ⟨h.armed, h.zero, fun error h => absurd h (hexit error)⟩

lemma Settled.failClosed (h : Settled lib request l) {exit : Exit Raised Unit} :
    FailClosed lib request exit l :=
  ⟨h.armed, h.zero, fun _ _ => h.resolved⟩

lemma run_ends : Ends (Undisturbed lib request) (run lib true request)
    (fun exit _ l => FailClosed lib request exit l) {} [] := by
  have hstart : Before lib request [] :=
    ⟨⟨fun _ h => absurd h (by simp), fun _ h => absurd h (by simp)⟩,
      fun _ h => absurd h (by simp), fun _ h => absurd h (by simp)⟩
  have hplain : Plain .start := rfl
  refine Ends.bind ((perform_within (P := fun _ s' _ => s'.zeroPublisher = false) Phase.before
    hstart hplain fun _ _ => rfl).within ?_ (fun _ _ _ h _ => h.settled.failClosed)
    fun _ _ h => h.toGated.failClosed (by simp))
  intro _ s l h hs
  show Ends (Undisturbed lib request)
    (Script.ensure (Script.tryCatch (armOrDisarm lib true request) (disarmAfter lib true)) cleanUp)
    (fun exit _ l => FailClosed lib request exit l) s l
  refine Ends.ensure ((handled_disarmed h hs).mono ?_)
  intro exit s l h
  cases exit with
  | returned _ =>
    refine (cleanUp_armed h.1 h.2).within ?_ (fun _ _ _ _ h => h.elim) ?_
    · intro _ s l h _
      exact h.toGated.failClosed (by simp)
    · intro s l h
      exact h.toGated.failClosed (by simp)
  | raised error =>
    refine (cleanUp_closing h).within ?_ ?_ ?_
    · intro _ s l h _
      exact h.failClosed
    · intro _ s l h _
      exact h.failClosed
    · intro s l h
      exact h.failClosed
  | running => exact h.failClosed (by simp)

end Phases

/-- **An undisturbed run of the arm gate is fail-closed**: it asks to arm only while the newest
samples and the endpoints pass the checks, publishes only zero velocities, and sends a disarm
request, where the service is ready, before it fails. -/
theorem failClosed_of_undisturbed (lib : Library) (request : ArmRequest) (answers : List Answer)
    (h : ∀ l x r, (run lib true request {} answers).log = l ++ x :: r →
      Undisturbed lib request l x) :
    FailClosed lib request (run lib true request {} answers).exit
      (run lib true request {} answers).log :=
  Ends.run run_ends answers h

/-! ## Two failing runs -/

instance (lib : Library) (request : ArmRequest) :
    (message : Message) → Decidable (GoodMessage lib request message)
  | ⟨_, .lifecycle ..⟩ => inferInstanceAs (Decidable (_ = _))
  | ⟨_, .pose _⟩ => inferInstanceAs (Decidable (_ = _))
  | ⟨_, .odom ..⟩ => inferInstanceAs (Decidable (_ = _))
  | ⟨_, .scan _⟩ => inferInstanceAs (Decidable (_ = _))
  | ⟨_, .goals _⟩ => inferInstanceAs (Decidable (_ = _))
  | ⟨_, .diagnostics statuses⟩ =>
    decidable_of_iff (((statuses.filter fun status => status.1 = "go2_chassis_adapter").getLast?.all
      fun status => validateDiagnostics lib request status.2 = .ok ()) = true) (by
        simp only [Option.all_eq_true, decide_eq_true_eq]
        rfl)

/-- A step at which nothing happens that a gate could miss, as far as it can be computed. -/
def calm (lib : Library) (request : ArmRequest) (l : List ArmStep) (x : ArmStep) : Bool :=
  ((l.all fun c => c.call ≠ .createPublisher) ||
    x.answer.received.all fun message => GoodMessage lib request message) &&
  (x.call ≠ .callAsync true ||
    (!stale lib x.answer.now (lib.fl (3 / 4)) x.pre.samples.pose &&
      !stale lib x.answer.now (lib.fl (3 / 4)) x.pre.samples.odom &&
      !stale lib x.answer.now (lib.fl (3 / 4)) x.pre.samples.scan &&
      !stale lib x.answer.now (lib.fl (3 / 2)) x.pre.samples.diagnostics &&
      (x.answer.publishers.map Endpoint.name).Nodup &&
      (x.answer.subscribers.map Endpoint.name).Nodup &&
      l.all fun c => c.answer.publishers = x.answer.publishers ∧
        c.answer.subscribers = x.answer.subscribers)) &&
  (x.answer.raised.all fun raised => raised.isException &&
    x.call ∉ [.serviceIsReady, .callAsync false, .destroyNode, .shutdown]) &&
  !x.answer.future.isDone

lemma undisturbed_of_calm {lib : Library} {request : ArmRequest} {l : List ArmStep} {x : ArmStep}
    (h : calm lib request l x = true) : Undisturbed lib request l x := by
  simp only [calm, Bool.and_eq_true, Bool.or_eq_true, List.all_eq_true, decide_eq_true_eq,
    Option.all_eq_true, Bool.not_eq_true'] at h
  obtain ⟨⟨⟨hreceived, harm⟩, hraises⟩, hfuture⟩ := h
  refine ⟨?_, ?_, ?_, ?_, ?_, ?_⟩
  · rintro ⟨c, hc, hcall⟩ _ message hmessage
    rcases hreceived with hnone | hgood
    · exact absurd hcall (hnone c hc)
    · exact hgood message hmessage
  · intro hrequest
    obtain ⟨⟨⟨⟨⟨⟨hpose, hodom⟩, hscan⟩, hdiagnostics⟩, _⟩, _⟩, _⟩ :=
      harm.resolve_left (not_not.mpr hrequest)
    exact ⟨hpose, hodom, hscan, hdiagnostics⟩
  · intro hrequest c hc _
    obtain ⟨⟨⟨_, hnodup⟩, _⟩, hsame⟩ := harm.resolve_left (not_not.mpr hrequest)
    exact ⟨by rw [(hsame c hc).1], hnodup⟩
  · intro hrequest c hc _
    obtain ⟨⟨_, hnodup⟩, hsame⟩ := harm.resolve_left (not_not.mpr hrequest)
    exact ⟨by rw [(hsame c hc).2], hnodup⟩
  · intro _ raised hraised
    exact hraises raised hraised
  · intro _ raised hraised
    rw [hraised] at hfuture
    cases hfuture

/-- The library, on the texts and the numbers of the runs below. -/
def sampleLibrary : Library where
  stripCasefold text := text
  parseInt text := if text = "100" then some 100 else none
  fl x :=
    if x = 1 / 25 then 5764607523034235 / 2 ^ 57
    else if x = 1 / 2 + 5764607523034235 / 2 ^ 57 then 4863887597560136 / 2 ^ 53
    else x

def sampleRequest : ArmRequest := ⟨"lab", 1, 0, 100⟩

/-- An answer of the running profile. -/
def answerAt (now : ℚ) : Answer where
  now
  publishers := [⟨"/", "robonix_velocity_guard"⟩]
  subscribers := [⟨"/", "go2_chassis_adapter"⟩]
  statusPublishers := [⟨"/", "bt_navigator"⟩]

/-- A message of each stream. -/
def messagesAt (receivedAt : ℚ) : List Message :=
  [.lifecycle "lab" "localization" 1, .pose "map", .odom "odom" "base_link", .scan "base_link",
    .goals [], .diagnostics [("go2_chassis_adapter",
      expectedDiagnostics sampleRequest ++ [("sport_error_code", "100")])]].map
    (Message.mk receivedAt)

/-- The answers up to the arm request, and a wait that raises `raised` at once. -/
def failingWait (raised : Raised) : List Answer :=
  List.replicate 4 (answerAt 0) ++ { answerAt 0 with received := messagesAt 0 } ::
    List.replicate 8 (answerAt 0) ++ List.replicate 3 (answerAt (1 / 2)) ++
    { answerAt (1 / 2) with received := messagesAt (1 / 2) } :: List.replicate 2 (answerAt 1) ++
    { answerAt 1 with raised := some raised } :: List.replicate 6 (answerAt 1)

/-- The service is ready, and an ordinary exception in the wait is followed by a disarm request. -/
theorem failClosed_failedWait :
    FailClosed sampleLibrary sampleRequest
      (run sampleLibrary true sampleRequest {} (failingWait (.exception "RuntimeError"))).exit
      (run sampleLibrary true sampleRequest {} (failingWait (.exception "RuntimeError"))).log ∧
    (run sampleLibrary true sampleRequest {}
      (failingWait (.exception "RuntimeError"))).log.map (·.call) =
      [.start, .waitForService, .monotonic, .monotonic, .spinOnce, .monotonic, .statusPublishers,
        .monotonic, .commandPublishers, .commandSubscriptions, .monotonic, .createPublisher,
        .monotonic, .monotonic, .monotonic, .publish {}, .spinOnce, .monotonic, .callAsync true,
        .monotonic, .serviceIsReady, .callAsync false, .spinUntilFutureComplete,
        .destroyPublisher, .destroyNode, .shutdown] := by
  refine ⟨failClosed_of_undisturbed _ _ _ (Machine.splits_iff.mpr ?_), by decide +kernel⟩
  have hlength : (run sampleLibrary true sampleRequest {}
      (failingWait (.exception "RuntimeError"))).log.length = 26 := by decide +kernel
  have hcalm : ∀ i < 26, ((run sampleLibrary true sampleRequest {}
      (failingWait (.exception "RuntimeError"))).log[i]?).all
        (calm sampleLibrary sampleRequest ((run sampleLibrary true sampleRequest {}
          (failingWait (.exception "RuntimeError"))).log.take i)) = true := by
    decide +kernel
  intro i hi
  have hstep := hcalm i (by omega)
  rw [List.getElem?_eq_getElem hi] at hstep
  exact undisturbed_of_calm hstep

/-- `KeyboardInterrupt` in the wait ends the run without a disarm request. -/
theorem not_failClosed_interruptedWait :
    ¬ FailClosed sampleLibrary sampleRequest
      (run sampleLibrary true sampleRequest {}
        (failingWait (.baseException "KeyboardInterrupt"))).exit
      (run sampleLibrary true sampleRequest {}
        (failingWait (.baseException "KeyboardInterrupt"))).log := by
  intro h
  have hexit : (run sampleLibrary true sampleRequest {}
      (failingWait (.baseException "KeyboardInterrupt"))).exit =
        .raised (.baseException "KeyboardInterrupt") := by decide +kernel
  have harm : (run sampleLibrary true sampleRequest {}
      (failingWait (.baseException "KeyboardInterrupt"))).log[18]?.map (·.call) =
        some (.callAsync true) := by decide +kernel
  obtain ⟨x, hx, hcall⟩ := Option.map_eq_some_iff.mp harm
  obtain ⟨hlength, rfl⟩ := List.getElem?_eq_some_iff.mp hx
  obtain ⟨y, hy, hend⟩ := h.disarmed _ hexit _ _ _ ((List.take_append_drop 18 _).symm.trans
    (congrArg _ (List.drop_eq_getElem_cons hlength))) hcall
  have hcalls : ∀ y ∈ (run sampleLibrary true sampleRequest {}
      (failingWait (.baseException "KeyboardInterrupt"))).log.drop 19,
      y.call ≠ .callAsync false ∧ y.call ≠ .serviceIsReady := by
    decide +kernel
  rcases hend with ⟨hcall, _⟩ | ⟨hcall, _⟩
  · exact (hcalls y hy).1 hcall
  · exact (hcalls y hy).2 hcall

end UnitreeGo2.PersistentNav2
