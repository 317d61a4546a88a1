import UnitreeGo2.SemanticNavigation.Service

/-!
# What a segment of the service does

Every segment is one of a few kinds of action.  What the other threads may rely on is said with
views of a thread: the cancellations that it has claimed, the transitions that it has still to
announce, whether it holds the service lock, and what it has asked the provider.
-/

namespace UnitreeGo2.SemanticNavigation

/-! ## Views -/

/-- What a thread still owes to the other threads. -/
structure View where
  /-- The runs, with their navigation runs, whose cancellation it has claimed. -/
  claims : List (String × String) := []
  /-- The transitions whose callback has not begun. -/
  announces : List (ℕ × LifecycleTransition) := []
  /-- It holds the service lock beyond its segment. -/
  locking : Bool := false

def CancelClaim.pair (claim : CancelClaim) : String × String :=
  (claim.semanticRunId, claim.navRunId)

def Invalidation.view : Invalidation → View
  | .pending _ => {}
  | .scheduling claims => { claims := claims.map CancelClaim.pair }

def Callback.view : Callback → View
  | .waiting guard transition => { announces := [(guard, transition)] }
  | .scheduling claims => { claims := claims.map CancelClaim.pair, locking := true }

def ReadyStage.view : ReadyStage → View
  | .notifying _ callback => callback.view
  | .reading | .probing _ | .checking _ | .liveness _ _ => {}

def NavigatePc.view : NavigatePc → View
  | .admitting stage | .rechecking _ stage => stage.view
  | .reserving _ _ => { locking := true }
  | .schedulingCancel claim => { claims := [claim.pair] }
  | .invalidating work => work.view
  | .resolving _ | .validating _ _ | .calling _ _ | .finishing | .schedulingMonitor _
  | .returned _ => {}

def CancelPc.view : CancelPc → View
  | .calling run => { claims := [(run.semanticRunId, run.navRunId)] }
  | .scheduling claim _ => { claims := [claim.pair] }
  | .resolving _ | .getting _ | .claiming _ | .returned _ => {}

def CancelWorkerPc.view (claim : CancelClaim) : CancelWorkerPc → View
  | .returned => {}
  | .polling _ | .cancelling _ | .waiting _ | .getting _ | .updating _ | .marking _ _ =>
    { claims := [claim.pair] }

def SubscriberPc.view : SubscriberPc → View
  | .notifying callback => callback.view
  | .idle | .exited => {}

def StopStage.view : StopStage → View
  | .invalidating _ work => work.view
  | .notifying callback => callback.view
  | .unbinding _ | .joining _ => {}

def ActivatePc.view : ActivatePc → View
  | .stopping stage => stage.view
  | .preparing _ _ _ | .binding _ _ _ | .starting _ _ | .sampling _ | .checking _ | .liveness
  | .accepting | .returned => {}

def Thread.view : Thread → View
  | .navigate _ pc => pc.view
  | .cancel pc => pc.view
  | .cancelWorker claim pc => pc.view claim
  | .subscriber _ _ pc => pc.view
  | .activate pc => pc.view
  | .stop (some stage) => stage.view
  | .stop none | .status _ | .monitor _ _ => {}

/-- How far a navigation call is with its own run. -/
inductive Phase where
  | unreserved
  | calling
  | answered
  deriving DecidableEq

def NavigatePc.phase : NavigatePc → Phase
  | .admitting _ | .resolving _ | .validating _ _ | .reserving _ _ => .unreserved
  | .calling _ _ => .calling
  | .schedulingCancel _ | .rechecking _ _ | .invalidating _ | .finishing | .schedulingMonitor _
  | .returned _ => .answered

/-- The run of a navigation call. -/
def Thread.own : Thread → Option (String × Phase)
  | .navigate runId pc => some (runId, pc.phase)
  | _ => none

/-- The run that a thread has asked the provider about, and the navigation run that it named. -/
def Thread.asks : Thread → Option (String × String)
  | .status (.querying runId navRunId) => some (runId, navRunId)
  | .monitor runId (.querying navRunId) => some (runId, navRunId)
  | _ => none

/-- The run whose cancellation a thread is about to claim. -/
def Thread.sees : Thread → Option (String × String)
  | .cancel (.claiming run) => some (run.semanticRunId, run.navRunId)
  | _ => none

/-- The terminal outcome of a cancel worker that has still to be entered. -/
def CancelWorkerPc.outcome : CancelWorkerPc → Option CancelOutcome
  | .getting outcome => if outcome.terminal then some outcome else none
  | .updating outcome => some outcome
  | .polling _ | .cancelling _ | .waiting _ | .marking _ _ | .returned => none

/-- What a cancel worker has still to enter in the registry. -/
def Thread.verdict : Thread → Option (String × String × CancelOutcome)
  | .cancelWorker claim pc =>
    pc.outcome.map fun outcome => (claim.semanticRunId, claim.navRunId, outcome)
  | _ => none

/-- The run that a cancel worker marks, with its outcome and what the registry has shown. -/
def Thread.marks : Thread → Option (String × CancelOutcome × Run)
  | .cancelWorker claim (.marking outcome shown) => some (claim.semanticRunId, outcome, shown)
  | _ => none

/-! ## Actions -/

/-- The run after a status reply was entered. -/
def Run.entered (lib : Library) (run : Run) (navRunId : String) (reply : StatusReply) : Run :=
  run.updateRemote lib (reply.remote lib navRunId).1 (reply.remote lib navRunId).2

/-- The claims of the threads that a segment starts. -/
def handedOn (spawned : List Spawn) : List (String × String) :=
  spawned.flatMap fun thread => (Thread.ofSpawn thread).view.claims

/-- What a segment does that is not about the run of its thread. -/
inductive Work (s : Shared) (index : ℕ) (v : View) : Shared → Report → List Spawn → View → Prop
  | rest (spawned : List Spawn) (hspawned : handedOn spawned = []) :
    Work s index v s .silent spawned v
  /-- A guard moves, and its callback has to be run. -/
  | announced (guard : ℕ) (f : LifecycleGuard → LifecycleGuard × Option LifecycleTransition)
      (hf : ∀ g : LifecycleGuard, g.Moves (f g).2 (f g).1) (hv : v = {}) :
    Work s index v (s.moveGuard guard f).1 (.ofTransition guard (s.moveGuard guard f).2) []
      { announces := (s.moveGuard guard f).2.toList.map fun transition => (guard, transition) }
  | ignored (guard : ℕ) (transition : LifecycleTransition) (hinitial : transition.Initial)
      (hv : v = { announces := [(guard, transition)] }) :
    Work s index v s .silent [] {}
  | called (guard : ℕ) (transition : LifecycleTransition) (reason : String)
      (hinitial : ¬ transition.Initial) (hv : v = { announces := [(guard, transition)] })
      (hlock : s.lock = none) :
    Work s index v
      { s with runs := (s.runs.invalidateNonterminal reason).1, lock := some index }
      (.invalidated (.callback guard transition.revision)) []
      { claims := (s.runs.invalidateNonterminal reason).2.map CancelClaim.pair, locking := true }
  | invalidated (reason : String) (cause : Cause)
      (hcause : ∀ guard revision, cause ≠ .callback guard revision) (hv : v = {}) :
    Work s index v { s with runs := (s.runs.invalidateNonterminal reason).1 }
      (.invalidated cause) []
      { claims := (s.runs.invalidateNonterminal reason).2.map CancelClaim.pair }
  | handed (claim : CancelClaim) (claims : List (String × String)) (locking : Bool)
      (hv : v = { claims := claim.pair :: claims, locking := locking }) :
    Work s index v s .silent [.cancelWorker claim] { claims := claims, locking := locking }
  | released (hv : v = { locking := true }) :
    Work s index v { s with lock := none } .silent [] {}
  /-- The binding is made, accepted or withdrawn under the service lock. -/
  | rebound (guards : List LifecycleGuard) (subscribers : List Subscriber)
      (binding : Option Binding) (accepting : Bool) (hlock : s.lock = none) (hv : v = {}) :
    Work s index v
      { s with
        guards := s.guards ++ guards
        subscribers := subscribers
        binding := binding
        accepting := accepting } .silent [] {}
  | joined (subscribers : List Subscriber) (spawned : List Spawn) (hspawned : handedOn spawned = [])
      (hv : v = {}) :
    Work s index v { s with subscribers := subscribers } .silent spawned {}

/-- How the phase of a navigation call can change without a change of its run. -/
def Advances (before after : Option (String × Phase)) : Prop :=
  (∀ runId, before ≠ some (runId, .calling)) ∧
    (after = before ∨ ∃ runId, before = some (runId, .unreserved) ∧ after = some (runId, .answered))

/-- What a segment of a thread does. -/
inductive Action (settings : Settings) (s : Shared) (index : ℕ) (t : Thread) :
    Shared → Report → List Spawn → Thread → Prop
  | work (s' : Shared) (report : Report) (spawned : List Spawn) (t' : Thread)
      (h : Work s index t.view s' report spawned t'.view) (hown : Advances t.own t'.own)
      (hasks : t'.asks = none) (hsees : t'.sees = none) (hverdict : t'.verdict = none)
      (hmarks : t'.marks = none)
      (hlocking : t'.view.locking = true → ∀ runId admission target,
        t' ≠ .navigate runId (.reserving admission target)) :
    Action settings s index t s' report spawned t'
  /-- The admission of a navigation call is current. -/
  | validated (runId : String) (admission : Admission) (target : Target)
      (latest : LifecycleSnapshot) (hlock : s.lock = none)
      (hvalid : admission.validateCurrent settings.toLibrary s = .ok latest)
      (ht : t = .navigate runId (.validating admission target)) :
    Action settings s index t { s with lock := some index } .silent []
      (.navigate runId (.reserving admission target))
  | reserved (runId : String) (admission : Admission) (target : Target)
      (active : MapLifecycleState) (runs : Registry)
      (hactive : admission.snapshot.state = some active)
      (hruns : s.runs.reserve settings.toLibrary target.id target.name active.mapId
        active.generation admission.snapshot.revision runId = .ok runs)
      (ht : t = .navigate runId (.reserving admission target)) :
    Action settings s index t { s with runs := runs, lock := none } (.reserved runId admission) []
      (.navigate runId (.calling admission target))
  /-- The navigation call has got its answer, and its run is as it was. -/
  | stray (runId : String) (pc : NavigatePc) (hown : t.own = some (runId, .calling))
      (hphase : pc.phase = .answered) (hview : pc.view = {}) (hview' : t.view = {})
      (hgone : s.runs.get? runId = none) :
    Action settings s index t s .silent [] (.navigate runId pc)
  | rejected (runId : String) (result : Except String NavigateResponse)
      (hown : t.own = some (runId, .calling)) (hview : t.view = {}) :
    Action settings s index t { s with runs := s.runs.remove runId } (.rejected runId) []
      (.navigate runId (.returned result))
  | ambiguous (runId detail : String) (run : Run) (result : Except String NavigateResponse)
      (hown : t.own = some (runId, .calling)) (hview : t.view = {})
      (hrun : s.runs.get? runId = some run) :
    Action settings s index t
      { s with runs := s.runs.modify runId fun run =>
          run.updateRemote settings.toLibrary "UNKNOWN" detail } .silent []
      (.navigate runId (.returned result))
  | attached (runId navRunId detail : String) (run : Run) (pc : NavigatePc)
      (hown : t.own = some (runId, .calling)) (hview : t.view = {})
      (hrun : s.runs.get? runId = some run) (hnav : navRunId ≠ "") (hphase : pc.phase = .answered)
      (hpc : pc.view = { claims := if run.invalidated then [(runId, navRunId)] else [] }) :
    Action settings s index t
      { s with runs :=
        { s.runs.modify runId fun run => run.attach navRunId detail with latestRunId := runId } }
      (.attached runId navRunId) [] (.navigate runId pc)
  /-- A thread asks the provider about a run of the registry. -/
  | asked (runId : String) (run : Run) (t' : Thread) (hrun : s.runs.get? runId = some run)
      (hasks : t'.asks = some (runId, run.navRunId)) (hown : t.own = none) (hown' : t'.own = none)
      (hsees' : t'.sees = none) (hverdict' : t'.verdict = none) (hmarks' : t'.marks = none)
      (hview : t.view = {}) (hview' : t'.view = {}) :
    Action settings s index t s .silent [] t'
  /-- A status reply is entered in the registry. -/
  | updated (runId navRunId : String) (reply : StatusReply) (run : Run) (t' : Thread)
      (hrun : s.runs.get? runId = some run) (hasks : t.asks = some (runId, navRunId))
      (hown : t.own = none) (hown' : t'.own = none) (hasks' : t'.asks = none)
      (hsees' : t'.sees = none) (hverdict' : t'.verdict = none) (hmarks' : t'.marks = none)
      (hview : t.view = {}) (hview' : t'.view = {}) :
    Action settings s index t
      { s with runs := s.runs.modify runId fun run =>
          run.entered settings.toLibrary navRunId reply }
      (.statusReply runId navRunId reply) [] t'
  /-- A status reply arrives for a run that was removed. -/
  | unknown (runId navRunId : String) (reply : StatusReply) (t' : Thread)
      (hrun : s.runs.get? runId = none) (hasks : t.asks = some (runId, navRunId))
      (hown : t.own = none) (hown' : t'.own = none) (hasks' : t'.asks = none)
      (hsees' : t'.sees = none) (hverdict' : t'.verdict = none) (hmarks' : t'.marks = none)
      (hview : t.view = {}) (hview' : t'.view = {}) :
    Action settings s index t s (.statusReply runId navRunId reply) [] t'
  | seen (runId : String) (run : Run) (hrun : s.runs.get? runId = some run)
      (hnav : run.navRunId ≠ "") (hown : t.own = none) (hview : t.view = {}) :
    Action settings s index t s .silent [] (.cancel (.claiming run))
  | claimed (seen run : Run) (hrun : s.runs.get? seen.semanticRunId = some run)
      (hclaim : run.Claimable) (ht : t = .cancel (.claiming seen)) :
    Action settings s index t
      { s with runs := s.runs.modify seen.semanticRunId fun run =>
          { run with cancelStarted := true } } .silent []
      (.cancel (.calling seen))
  /-- The provider has accepted the first cancel request. -/
  | submitted (seen run : Run) (detail reason : String) (result : Except String CancelResponse)
      (hrun : s.runs.get? seen.semanticRunId = some run) (ht : t = .cancel (.calling seen)) :
    Action settings s index t
      { s with runs := s.runs.modify seen.semanticRunId fun run =>
          run.markCancelResult detail none } .silent []
      (.cancel (.scheduling ⟨seen.semanticRunId, run.navRunId, reason⟩ result))
  /-- A cancel call or a cancel worker does not find its run. -/
  | lost (runId navRunId : String) (t' : Thread)
      (hclaims : t.view = { claims := [(runId, navRunId)] }) (hgone : s.runs.get? runId = none)
      (hown : t.own = none) (hown' : t'.own = none) (hview' : t'.view = {})
      (hasks' : t'.asks = none) (hsees' : t'.sees = none) (hverdict' : t'.verdict = none)
      (hmarks' : t'.marks = none) :
    Action settings s index t s .silent [] t'
  /-- A cancel worker has got a status reply, and goes on. -/
  | polled (claim : CancelClaim) (reply : StatusReply) (progress : CancelProgress)
      (ht : t = .cancelWorker claim (.polling progress)) :
    Action settings s index t s (.statusReply claim.semanticRunId claim.navRunId reply) []
      (.cancelWorker claim (progress.polled settings.toLibrary (.ok reply)))
  | retried (claim : CancelClaim) (pc pc' : CancelWorkerPc)
      (ht : t = .cancelWorker claim pc) (hpc : pc.view claim = { claims := [claim.pair] })
      (hpc' : pc'.view claim = { claims := [claim.pair] })
      (houtcome : ∀ outcome, pc'.outcome = some outcome → pc.outcome = some outcome)
      (hshown : ∀ outcome shown, pc' = .marking outcome shown →
        outcome.terminal = false ∧ s.runs.get? claim.semanticRunId = some shown) :
    Action settings s index t s .silent [] (.cancelWorker claim pc')
  | confirmed (claim : CancelClaim) (outcome : CancelOutcome) (run : Run)
      (hrun : s.runs.get? claim.semanticRunId = some run)
      (ht : t = .cancelWorker claim (.updating outcome)) :
    Action settings s index t
      { s with runs := s.runs.modify claim.semanticRunId fun run =>
          run.updateRemote settings.toLibrary outcome.terminalState outcome.detail } .silent []
      (.cancelWorker claim (.marking outcome
        (run.updateRemote settings.toLibrary outcome.terminalState outcome.detail)))
  | marked (claim : CancelClaim) (outcome : CancelOutcome) (shown run : Run) (detail : String)
      (hrun : s.runs.get? claim.semanticRunId = some run)
      (ht : t = .cancelWorker claim (.marking outcome shown)) :
    Action settings s index t
      { s with runs := s.runs.modify claim.semanticRunId fun run =>
          run.markCancelResult detail (some (outcome.terminal || shown.remoteTerminal)) }
      (if outcome.terminal || shown.remoteTerminal then .silent
        else .unconfirmed claim.semanticRunId) []
      (.cancelWorker claim .returned)

/-! ## The parts of a thread -/

section Parts

variable {settings : Settings} {lib : Library} {s : Shared} {index : ℕ} {input : Input}

def ReadyResult.view : ReadyResult → View
  | .goOn stage => stage.view
  | .ready _ | .bindingError _ | .raised _ => {}

lemma Invalidation.step_work (index : ℕ) {work : Invalidation} {cause : Cause}
    {part : Part (Option Invalidation)} (h : work.step s cause = some part)
    (hcause : ∀ guard revision, cause ≠ .callback guard revision) :
    Work s index work.view part.shared part.report part.spawned
      (part.next.elim {} Invalidation.view) := by
  match work with
  | .pending reason =>
    obtain rfl := Option.some.inj h
    exact .invalidated reason cause hcause rfl
  | .scheduling (claim :: claims) =>
    simp only [Invalidation.step] at h
    split at h
    · obtain rfl := Option.some.inj h
      exact .handed claim (claims.map CancelClaim.pair) false rfl
    · cases h
  | .scheduling [] =>
    obtain rfl := Option.some.inj h
    exact .rest [] rfl

lemma Callback.step_work {callback : Callback} {part : Part (Option Callback)}
    (h : callback.step s index = some part) :
    Work s index callback.view part.shared part.report part.spawned
      (part.next.elim {} Callback.view) := by
  match callback with
  | .waiting guard transition =>
    simp only [Callback.step] at h
    split at h
    · rename_i hinitial
      obtain rfl := Option.some.inj h
      exact .ignored guard transition hinitial rfl
    rename_i hinitial
    split at h
    · rename_i hlock
      obtain rfl := Option.some.inj h
      exact .called guard transition _ hinitial rfl hlock
    · cases h
  | .scheduling (claim :: claims) =>
    obtain rfl := Option.some.inj h
    exact .handed claim (claims.map CancelClaim.pair) true rfl
  | .scheduling [] =>
    obtain rfl := Option.some.inj h
    exact .released rfl

/-- A guard moves on a thread that owes nothing else. -/
lemma Shared.announce_work (s : Shared) (index guard : ℕ)
    (f : LifecycleGuard → LifecycleGuard × Option LifecycleTransition)
    (hf : ∀ g : LifecycleGuard, g.Moves (f g).2 (f g).1) :
    Work s index {} (s.announce guard f).shared (s.announce guard f).report
      (s.announce guard f).spawned ((s.announce guard f).next.elim {} Callback.view) := by
  have hwork : Work s index {} _ _ _ _ := .announced guard f hf rfl
  unfold Shared.announce
  cases hmove : (s.moveGuard guard f).2 with
  | none =>
    rw [hmove] at hwork
    exact hwork
  | some transition =>
    rw [hmove] at hwork
    exact hwork

lemma ReadyResult.view_afterCallback (binding : Binding) (next : Option Callback) :
    (ReadyResult.afterCallback binding next).view = next.elim {} Callback.view := by
  cases next <;> rfl

lemma ReadyStage.step_work {stage : ReadyStage} {part : Part ReadyResult}
    (h : stage.step lib s index input = some part) :
    Work s index stage.view part.shared part.report part.spawned part.next.view := by
  unfold ReadyStage.step at h
  split at h
  · split at h
    · split at h
      · obtain rfl := Option.some.inj h
        exact .rest [] rfl
      · obtain rfl := Option.some.inj h
        exact .rest [] rfl
    · cases h
  · split at h
    · obtain rfl := Option.some.inj h
      exact .rest [] rfl
    · rename_i binding _
      obtain rfl := Option.some.inj h
      have hwork := s.announce_work index binding.guard _ fun guard =>
        guard.fail_moves lib "map lifecycle subscriber is not running" false
      rw [← ReadyResult.view_afterCallback] at hwork
      exact hwork
  · rw [Option.map_eq_some_iff] at h
    obtain ⟨part, hpart, rfl⟩ := h
    have hwork := Callback.step_work hpart
    rw [← ReadyResult.view_afterCallback] at hwork
    exact hwork
  · split at h
    · cases h
    split at h
    · obtain rfl := Option.some.inj h
      exact .rest [] rfl
    · obtain rfl := Option.some.inj h
      exact .rest [] rfl
  · split at h
    · obtain rfl := Option.some.inj h
      exact .rest [] rfl
    · obtain rfl := Option.some.inj h
      exact .rest [] rfl
    · obtain rfl := Option.some.inj h
      exact .rest [] rfl
  · cases h

lemma SubscriberPc.view_afterCallback (next : Option Callback) :
    (SubscriberPc.afterCallback next).view = next.elim {} Callback.view := by
  cases next <;> rfl

lemma SubscriberPc.step_work {pc : SubscriberPc} {guard subscriber : ℕ} {part : Part SubscriberPc}
    (h : pc.step lib s index guard subscriber input = some part) :
    Work s index pc.view part.shared part.report part.spawned part.next.view := by
  unfold SubscriberPc.step at h
  split at h
  · rename_i state
    obtain rfl := Option.some.inj h
    have hwork := s.announce_work index guard _ fun g => g.observe_moves state
    rw [← SubscriberPc.view_afterCallback] at hwork
    exact hwork
  · rename_i reason sampleSeen
    obtain rfl := Option.some.inj h
    have hwork := s.announce_work index guard _ fun g =>
      g.fail_moves lib reason sampleSeen
    rw [← SubscriberPc.view_afterCallback] at hwork
    exact hwork
  · obtain rfl := Option.some.inj h
    exact .joined _ [] rfl rfl
  · rw [Option.map_eq_some_iff] at h
    obtain ⟨part, hpart, rfl⟩ := h
    have hwork := Callback.step_work hpart
    rw [← SubscriberPc.view_afterCallback] at hwork
    exact hwork
  · cases h

lemma StopStage.view_notifying (next : Option Callback) :
    (next.map StopStage.notifying).elim {} StopStage.view = next.elim {} Callback.view := by
  cases next <;> rfl

lemma StopStage.view_invalidating (subscriber : Option ℕ) (next : Option Invalidation) :
    (next.elim (StopStage.joining subscriber) (.invalidating subscriber)).view =
      next.elim {} Invalidation.view := by
  cases next <;> rfl

lemma joinSubscriber_work (subscriber : ℕ) :
    Work s index {} (joinSubscriber lib s subscriber).shared
      (joinSubscriber lib s subscriber).report (joinSubscriber lib s subscriber).spawned
      ((joinSubscriber lib s subscriber).next.elim {} StopStage.view) := by
  unfold joinSubscriber
  split
  · exact .rest [] rfl
  split
  · rename_i found _ _
    have hwork := s.announce_work index found.guard _ fun g =>
      g.fail_moves lib "map lifecycle subscriber did not stop cleanly" false
    rw [← StopStage.view_notifying] at hwork
    exact hwork
  · exact .rest [] rfl

lemma StopStage.step_work {stage : StopStage} {part : Part (Option StopStage)}
    (h : stage.step lib s index input = some part) :
    Work s index stage.view part.shared part.report part.spawned
      (part.next.elim {} StopStage.view) := by
  unfold StopStage.step at h
  split at h
  · split at h
    · rename_i hlock
      obtain rfl := Option.some.inj h
      have hwork : Work s index {} _ _ _ _ := .rebound [] s.subscribers none false hlock rfl
      rw [List.append_nil] at hwork
      exact hwork
    · cases h
  · rw [Option.map_eq_some_iff] at h
    obtain ⟨part, hpart, rfl⟩ := h
    have hwork := Invalidation.step_work index hpart (fun _ _ hcause => by cases hcause)
    rw [← StopStage.view_invalidating] at hwork
    exact hwork
  · obtain rfl := Option.some.inj h
    exact .rest [] rfl
  · obtain rfl := Option.some.inj h
    exact joinSubscriber_work _
  · rw [Option.map_eq_some_iff] at h
    obtain ⟨part, hpart, rfl⟩ := h
    have hwork := Callback.step_work hpart
    rw [← StopStage.view_notifying] at hwork
    exact hwork
  · cases h

lemma ActivatePc.view_stopping (next : Option StopStage) :
    (next.elim ActivatePc.returned .stopping).view = next.elim {} StopStage.view := by
  cases next <;> rfl

lemma ActivatePc.step_work {pc : ActivatePc} {part : Part ActivatePc}
    (h : pc.step settings s index input = some part) :
    Work s index pc.view part.shared part.report part.spawned part.next.view := by
  unfold ActivatePc.step at h
  split at h
  · split at h
    · obtain rfl := Option.some.inj h
      exact .rest [] rfl
    · obtain rfl := Option.some.inj h
      have hview : ∀ mapId generation topic, (if settings.strip mapId = "" then
          ActivatePc.failed "expected map_id is empty"
          else .binding (settings.strip mapId) generation topic).view = {} := by
        intro mapId generation topic
        split <;> rfl
      simp only [hview]
      exact .rest [] rfl
  · split at h
    · rename_i hlock
      obtain rfl := Option.some.inj h
      exact .rebound [_] _ _ false hlock rfl
    · cases h
  · split at h
    · obtain rfl := Option.some.inj h
      exact .rest [] rfl
    · obtain rfl := Option.some.inj h
      exact .joined _ _ rfl rfl
  · split at h
    · cases h
    · rename_i g _
      obtain rfl := Option.some.inj h
      cases hsample : g.sampleSeen
      · exact .rest [] rfl
      · exact .rest [] rfl
  · split at h
    · cases h
    split at h
    · obtain rfl := Option.some.inj h
      exact .rest [] rfl
    · obtain rfl := Option.some.inj h
      exact .rest [] rfl
  · split at h
    · obtain rfl := Option.some.inj h
      exact .rest [] rfl
    · obtain rfl := Option.some.inj h
      exact .rest [] rfl
  · split at h
    · rename_i hlock
      obtain rfl := Option.some.inj h
      have hwork : Work s index {} _ _ _ _ := .rebound [] s.subscribers s.binding true hlock rfl
      rw [List.append_nil] at hwork
      exact hwork
    · cases h
  · rw [Option.map_eq_some_iff] at h
    obtain ⟨part, hpart, rfl⟩ := h
    have hwork := StopStage.step_work hpart
    rw [← ActivatePc.view_stopping] at hwork
    exact hwork
  · cases h

end Parts

/-! ## The calls -/

section Calls

variable {settings : Settings} {s : Shared} {index : ℕ} {input : Input}

/-- A segment that does some work and changes no run of a navigation call. -/
lemma Action.of_work {t t' : Thread} {s' : Shared} {report : Report} {spawned : List Spawn}
    (h : Work s index t.view s' report spawned t'.view)
    (hown : t.own = none) (hown' : t'.own = none) (hasks : t'.asks = none)
    (hsees : t'.sees = none) (hverdict : t'.verdict = none) (hmarks : t'.marks = none) :
    Action settings s index t s' report spawned t' := by
  refine .work s' report spawned t' h ⟨fun runId => ?_, Or.inl ?_⟩ hasks hsees hverdict hmarks ?_
  · rw [hown]
    exact fun h => by cases h
  · rw [hown, hown']
  · rintro - runId admission target rfl
    cases hown'

lemma admitted_view (result : ReadyResult) : (admitted result).view = result.view := by
  cases result <;> rfl

lemma admitted_phase (result : ReadyResult) :
    (admitted result).phase = .unreserved ∨ (admitted result).phase = .answered := by
  cases result
  · exact Or.inl rfl
  · exact Or.inl rfl
  · exact Or.inr rfl
  · exact Or.inr rfl

lemma rechecked_view (revision : ℕ) (result : ReadyResult) :
    (rechecked revision result).view = result.view := by
  cases result with
  | ready latest =>
    simp only [rechecked]
    split <;> rfl
  | _ => rfl

lemma rechecked_phase (revision : ℕ) (result : ReadyResult) :
    (rechecked revision result).phase = .answered := by
  cases result with
  | ready latest =>
    simp only [rechecked]
    split <;> rfl
  | _ => rfl

/-- A navigation call that is not waiting for the provider does some work. -/
lemma Action.of_navigate {runId : String} {pc pc' : NavigatePc} {s' : Shared} {report : Report}
    {spawned : List Spawn} (h : Work s index pc.view s' report spawned pc'.view)
    (hphase : (pc.phase = .unreserved ∧ (pc'.phase = .unreserved ∨ pc'.phase = .answered)) ∨
      (pc.phase = .answered ∧ pc'.phase = .answered))
    (hreserving : ∀ admission target, pc' ≠ .reserving admission target) :
    Action settings s index (.navigate runId pc) s' report spawned (.navigate runId pc') := by
  refine .work s' report spawned _ h ⟨?_, ?_⟩ rfl rfl rfl rfl ?_
  · intro other hother
    obtain ⟨-, hcalling⟩ := Prod.mk.inj (Option.some.inj hother)
    rcases hphase with ⟨hbefore, -⟩ | ⟨hbefore, -⟩
    · rw [hbefore] at hcalling
      cases hcalling
    · rw [hbefore] at hcalling
      cases hcalling
  · simp only [Thread.own]
    rcases hphase with ⟨hbefore, hafter | hafter⟩ | ⟨hbefore, hafter⟩
    · exact Or.inl (by rw [hbefore, hafter])
    · exact Or.inr ⟨runId, by rw [hbefore], by rw [hafter]⟩
    · exact Or.inl (by rw [hbefore, hafter])
  · intro _ other admission target heq
    obtain ⟨-, heq⟩ := Thread.navigate.inj heq
    exact hreserving admission target heq

lemma ambiguous_action {runId : String} {admission : Admission} {target : Target}
    (detail : String) :
    Action settings s index (.navigate runId (.calling admission target))
      (ambiguous settings.toLibrary s runId detail).shared
      (ambiguous settings.toLibrary s runId detail).report
      (ambiguous settings.toLibrary s runId detail).spawned
      (.navigate runId (ambiguous settings.toLibrary s runId detail).next) := by
  unfold ambiguous Registry.updateRemote
  cases hrun : s.runs.get? runId with
  | none => exact .stray runId _ rfl rfl rfl rfl hrun
  | some run => exact .ambiguous runId detail run _ rfl rfl hrun

lemma navigateReplied_action {runId : String} {admission : Admission} {target : Target}
    (reply : Except RpcFailure NavigateReply) :
    Action settings s index (.navigate runId (.calling admission target))
      (navigateReplied settings.toLibrary s runId admission target reply).shared
      (navigateReplied settings.toLibrary s runId admission target reply).report
      (navigateReplied settings.toLibrary s runId admission target reply).spawned
      (.navigate runId
        (navigateReplied settings.toLibrary s runId admission target reply).next) := by
  match reply with
  | .error failure => exact ambiguous_action _
  | .ok reply =>
    simp only [navigateReplied]
    split
    · exact .rejected runId _ rfl rfl
    split
    · exact ambiguous_action _
    rename_i hnav
    rw [Registry.attachNavigation, if_neg hnav]
    cases hrun : s.runs.get? runId with
    | none => exact .stray runId _ rfl rfl rfl rfl hrun
    | some run =>
      refine .attached runId reply.runId reply.detail run _ rfl rfl hrun hnav ?_ ?_
      · dsimp only
        split <;> rfl
      · dsimp only
        cases hinvalidated : run.invalidated <;> rfl

lemma NavigatePc.step_action {runId : String} {pc : NavigatePc} {part : Part NavigatePc}
    (h : pc.step settings.toLibrary s index runId input = some part) :
    Action settings s index (.navigate runId pc) part.shared part.report part.spawned
      (.navigate runId part.next) := by
  unfold NavigatePc.step at h
  split at h
  · rw [Option.map_eq_some_iff] at h
    obtain ⟨part, hpart, rfl⟩ := h
    have hwork := ReadyStage.step_work hpart
    rw [← admitted_view] at hwork
    refine .of_navigate hwork (Or.inl ⟨rfl, admitted_phase part.next⟩) ?_
    intro admission target heq
    cases hnext : part.next <;> simp [Part.map, hnext, admitted] at heq
  · split at h
    · obtain rfl := Option.some.inj h
      exact .of_navigate (.rest [] rfl) (Or.inl ⟨rfl, Or.inr rfl⟩) (fun _ _ h => by cases h)
    · obtain rfl := Option.some.inj h
      exact .of_navigate (.rest [] rfl) (Or.inl ⟨rfl, Or.inl rfl⟩) (fun _ _ h => by cases h)
  · split at h
    · rename_i admission target hlock
      obtain rfl := Option.some.inj h
      unfold validate
      split
      · exact .of_navigate (.rest [] rfl) (Or.inl ⟨rfl, Or.inr rfl⟩) (fun _ _ h => by cases h)
      · rename_i latest hvalid
        exact .validated runId admission target latest hlock hvalid rfl
    · cases h
  · rename_i admission target
    obtain rfl := Option.some.inj h
    unfold reserveRun
    split
    · exact .of_navigate (.released rfl) (Or.inl ⟨rfl, Or.inr rfl⟩) (fun _ _ h => by cases h)
    · rename_i active hactive
      split
      · exact .of_navigate (.released rfl) (Or.inl ⟨rfl, Or.inr rfl⟩) (fun _ _ h => by cases h)
      · rename_i runs hruns
        exact .reserved runId admission target active runs hactive hruns rfl
  · obtain rfl := Option.some.inj h
    exact navigateReplied_action _
  · split at h
    · rename_i claim _
      obtain rfl := Option.some.inj h
      exact .of_navigate (.handed claim [] false rfl) (Or.inr ⟨rfl, rfl⟩) (fun _ _ h => by cases h)
    · cases h
  · rename_i revision _
    rw [Option.map_eq_some_iff] at h
    obtain ⟨part, hpart, rfl⟩ := h
    have hwork := ReadyStage.step_work hpart
    rw [← rechecked_view revision] at hwork
    have hphase := rechecked_phase revision part.next
    refine .of_navigate hwork (Or.inr ⟨rfl, hphase⟩) ?_
    intro admission target heq
    rw [show rechecked revision part.next = _ from heq] at hphase
    cases hphase
  · rw [Option.map_eq_some_iff] at h
    obtain ⟨part, hpart, rfl⟩ := h
    have hwork := Invalidation.step_work index hpart (fun _ _ hcause => by cases hcause)
    cases hnext : part.next with
    | none =>
      rw [hnext] at hwork
      refine .of_navigate ?_ (Or.inr ⟨rfl, ?_⟩) ?_ <;> simp only [Part.map, hnext]
      · exact hwork
      · rfl
      · exact fun _ _ h => by cases h
    | some next =>
      rw [hnext] at hwork
      refine .of_navigate ?_ (Or.inr ⟨rfl, ?_⟩) ?_ <;> simp only [Part.map, hnext]
      · exact hwork
      · rfl
      · exact fun _ _ h => by cases h
  · split at h
    · obtain rfl := Option.some.inj h
      exact .of_navigate (.rest [] rfl) (Or.inr ⟨rfl, rfl⟩) (fun _ _ h => by cases h)
    · obtain rfl := Option.some.inj h
      exact .of_navigate (.rest [] rfl) (Or.inr ⟨rfl, rfl⟩) (fun _ _ h => by cases h)
  · split at h
    · obtain rfl := Option.some.inj h
      exact .of_navigate (.rest _ rfl) (Or.inr ⟨rfl, rfl⟩) (fun _ _ h => by cases h)
    · cases h
  · cases h

lemma StatusPc.step_action {pc : StatusPc} {part : Part StatusPc}
    (h : pc.step settings.toLibrary s input = some part) :
    Action settings s index (.status pc) part.shared part.report part.spawned
      (.status part.next) := by
  unfold StatusPc.step at h
  split at h
  · split at h
    · obtain rfl := Option.some.inj h
      exact .of_work (.rest [] rfl) rfl rfl rfl rfl rfl rfl
    · obtain rfl := Option.some.inj h
      exact .of_work (.rest [] rfl) rfl rfl rfl rfl rfl rfl
  · rename_i runId
    cases hrun : s.runs.get? runId with
    | none =>
      simp only [Registry.get, hrun] at h
      obtain rfl := Option.some.inj h
      exact .of_work (.rest [] rfl) rfl rfl rfl rfl rfl rfl
    | some run =>
      simp only [Registry.get, hrun] at h
      obtain rfl := Option.some.inj h
      dsimp only
      split
      · exact .of_work (.rest [] rfl) rfl rfl rfl rfl rfl rfl
      · exact .asked runId run _ hrun rfl rfl rfl rfl rfl rfl rfl rfl
  · split at h
    · obtain rfl := Option.some.inj h
      exact .of_work (.rest [] rfl) rfl rfl rfl rfl rfl rfl
    · obtain rfl := Option.some.inj h
      exact .of_work (.rest [] rfl) rfl rfl rfl rfl rfl rfl
  · rename_i runId navRunId reply
    cases hrun : s.runs.get? runId with
    | none =>
      simp only [Registry.updateRemote, hrun] at h
      obtain rfl := Option.some.inj h
      exact .unknown runId navRunId reply _ hrun rfl rfl rfl rfl rfl rfl rfl rfl rfl
    | some run =>
      simp only [Registry.updateRemote, hrun] at h
      obtain rfl := Option.some.inj h
      exact .updated runId navRunId reply run _ hrun rfl rfl rfl rfl rfl rfl rfl rfl rfl
  · cases h

lemma MonitorPc.step_action {runId : String} {pc : MonitorPc} {part : Part MonitorPc}
    (h : pc.step settings.toLibrary s runId input = some part) :
    Action settings s index (.monitor runId pc) part.shared part.report part.spawned
      (.monitor runId part.next) := by
  unfold MonitorPc.step at h
  split at h
  · obtain rfl := Option.some.inj h
    exact .of_work (.rest [] rfl) rfl rfl rfl rfl rfl rfl
  · cases hrun : s.runs.get? runId with
    | none =>
      simp only [Registry.get, hrun] at h
      obtain rfl := Option.some.inj h
      exact .of_work (.rest [] rfl) rfl rfl rfl rfl rfl rfl
    | some run =>
      simp only [Registry.get, hrun] at h
      obtain rfl := Option.some.inj h
      dsimp only
      split
      · exact .of_work (.rest [] rfl) rfl rfl rfl rfl rfl rfl
      · exact .asked runId run _ hrun rfl rfl rfl rfl rfl rfl rfl rfl
  · obtain rfl := Option.some.inj h
    exact .of_work (.rest [] rfl) rfl rfl rfl rfl rfl rfl
  · rename_i navRunId reply
    cases hrun : s.runs.get? runId with
    | none =>
      simp only [Registry.updateRemote, hrun] at h
      obtain rfl := Option.some.inj h
      exact .unknown runId navRunId reply _ hrun rfl rfl rfl rfl rfl rfl rfl rfl rfl
    | some run =>
      simp only [Registry.updateRemote, hrun] at h
      obtain rfl := Option.some.inj h
      refine .updated runId navRunId reply run _ hrun rfl rfl rfl ?_ rfl rfl rfl rfl rfl
      dsimp only
      split <;> rfl
  · cases h

lemma CancelPc.ofRun_view (run : Run) : (CancelPc.ofRun run).view = {} := by
  unfold CancelPc.ofRun
  split
  · rfl
  split
  · split <;> rfl
  split <;> rfl

/-- A cancel call claims only a run that has its navigation run. -/
lemma CancelPc.ofRun_cases (run : Run) :
    (run.navRunId ≠ "" ∧ CancelPc.ofRun run = .claiming run) ∨
      (Thread.cancel (.ofRun run)).sees = none := by
  unfold CancelPc.ofRun
  split
  · exact Or.inr rfl
  rename_i hnav
  split
  · right
    split <;> rfl
  split
  · exact Or.inr rfl
  · exact Or.inl ⟨hnav, rfl⟩

lemma cancelReplied_action {run : Run} (reply : Except RpcFailure CancelReply) :
    Action settings s index (.cancel (.calling run))
      (cancelReplied settings.toLibrary s run reply).shared
      (cancelReplied settings.toLibrary s run reply).report
      (cancelReplied settings.toLibrary s run reply).spawned
      (.cancel (cancelReplied settings.toLibrary s run reply).next) := by
  match reply with
  | .error (.rpcError code details text) => exact .of_work (.rest [] rfl) rfl rfl rfl rfl rfl rfl
  | .error (.other text) => exact .of_work (.rest [] rfl) rfl rfl rfl rfl rfl rfl
  | .ok reply =>
    simp only [cancelReplied]
    split
    · exact .of_work (.rest [] rfl) rfl rfl rfl rfl rfl rfl
    unfold Registry.markCancelResult
    cases hrun : s.runs.get? run.semanticRunId with
    | none => exact .lost run.semanticRunId run.navRunId _ rfl hrun rfl rfl rfl rfl rfl rfl rfl
    | some found => exact .submitted run found _ _ _ hrun rfl

lemma CancelPc.step_action {pc : CancelPc} {part : Part CancelPc}
    (h : pc.step settings.toLibrary s input = some part) :
    Action settings s index (.cancel pc) part.shared part.report part.spawned
      (.cancel part.next) := by
  unfold CancelPc.step at h
  split at h
  · split at h
    · obtain rfl := Option.some.inj h
      exact .of_work (.rest [] rfl) rfl rfl rfl rfl rfl rfl
    · obtain rfl := Option.some.inj h
      exact .of_work (.rest [] rfl) rfl rfl rfl rfl rfl rfl
  · rename_i runId
    cases hrun : s.runs.get? runId with
    | none =>
      simp only [Registry.get, hrun] at h
      obtain rfl := Option.some.inj h
      exact .of_work (.rest [] rfl) rfl rfl rfl rfl rfl rfl
    | some run =>
      simp only [Registry.get, hrun] at h
      obtain rfl := Option.some.inj h
      dsimp only
      rcases CancelPc.ofRun_cases run with ⟨hnav, hpc⟩ | hsees
      · rw [hpc]
        exact .seen runId run hrun hnav rfl rfl
      · refine .of_work ?_ rfl rfl rfl hsees rfl rfl
        simp only [Thread.view, CancelPc.ofRun_view]
        exact .rest [] rfl
  · rename_i run
    unfold Registry.claimCancel at h
    cases hrun : s.runs.get? run.semanticRunId with
    | none =>
      simp only [hrun] at h
      obtain rfl := Option.some.inj h
      exact .of_work (.rest [] rfl) rfl rfl rfl rfl rfl rfl
    | some found =>
      by_cases hclaim : found.Claimable
      · simp only [hrun, if_pos hclaim] at h
        obtain rfl := Option.some.inj h
        exact .claimed run found hrun hclaim rfl
      · simp only [hrun, if_neg hclaim] at h
        obtain rfl := Option.some.inj h
        exact .of_work (.rest [] rfl) rfl rfl rfl rfl rfl rfl
  · obtain rfl := Option.some.inj h
    exact cancelReplied_action _
  · split at h
    · rename_i claim _ _
      obtain rfl := Option.some.inj h
      exact .of_work (.handed claim [] false rfl) rfl rfl rfl rfl rfl rfl
    · cases h
  · cases h

lemma CancelWorkerPc.step_action {claim : CancelClaim} {pc : CancelWorkerPc}
    {part : Part CancelWorkerPc} (h : pc.step settings s claim input = some part) :
    Action settings s index (.cancelWorker claim pc) part.shared part.report part.spawned
      (.cancelWorker claim part.next) := by
  unfold CancelWorkerPc.step at h
  split at h
  · rename_i progress reply
    obtain rfl := Option.some.inj h
    match reply with
    | .error failure =>
      exact .retried claim _ _ rfl rfl rfl (fun outcome houtcome => by cases houtcome)
        (fun _ _ h => by cases h)
    | .ok reply => exact .polled claim reply progress rfl
  · obtain rfl := Option.some.inj h
    exact .retried claim _ _ rfl rfl rfl (fun outcome houtcome => by cases houtcome)
        (fun _ _ h => by cases h)
  · rename_i progress expired
    obtain rfl := Option.some.inj h
    cases expired with
    | false =>
      refine .retried claim _ _ rfl rfl rfl ?_ ?_
      · intro outcome houtcome
        cases houtcome
      · intro outcome shown hmarking
        cases hmarking
    | true =>
      refine .retried claim _ _ rfl rfl rfl ?_ ?_
      · intro outcome houtcome
        cases houtcome
      · intro outcome shown hmarking
        cases hmarking
  · rename_i outcome
    cases hrun : s.runs.get? claim.semanticRunId with
    | none =>
      simp only [Registry.get, hrun] at h
      obtain rfl := Option.some.inj h
      exact .lost claim.semanticRunId claim.navRunId _ rfl hrun rfl rfl rfl rfl rfl rfl rfl
    | some run =>
      simp only [Registry.get, hrun] at h
      obtain rfl := Option.some.inj h
      dsimp only
      split
      · rename_i hterminal
        refine .retried claim _ _ rfl rfl rfl (fun found houtcome => ?_) ?_
        · rw [CancelWorkerPc.outcome, if_pos hterminal]
          exact houtcome
        · intro found shown hmarking
          cases hmarking
      · rename_i hterminal
        refine .retried claim _ _ rfl rfl rfl (fun found houtcome => by cases houtcome) ?_
        intro found shown hmarking
        injection hmarking with hfound hshown
        subst hfound hshown
        exact ⟨by simpa using hterminal, hrun⟩
  · rename_i outcome
    cases hrun : s.runs.get? claim.semanticRunId with
    | none =>
      simp only [Registry.updateRemote, hrun] at h
      obtain rfl := Option.some.inj h
      exact .lost claim.semanticRunId claim.navRunId _ rfl hrun rfl rfl rfl rfl rfl rfl rfl
    | some run =>
      simp only [Registry.updateRemote, hrun] at h
      obtain rfl := Option.some.inj h
      exact .confirmed claim outcome run hrun rfl
  · rename_i outcome shown
    cases hrun : s.runs.get? claim.semanticRunId with
    | none =>
      simp only [Registry.markCancelResult, hrun] at h
      obtain rfl := Option.some.inj h
      exact .lost claim.semanticRunId claim.navRunId _ rfl hrun rfl rfl rfl rfl rfl rfl rfl
    | some run =>
      simp only [Registry.markCancelResult, hrun] at h
      obtain rfl := Option.some.inj h
      exact .marked claim outcome shown run _ hrun rfl
  · cases h

end Calls

/-- **What a segment does.**  Every segment of a thread is one of the actions. -/
theorem Thread.act_action {settings : Settings} {s : Shared} {index : ℕ} {t : Thread}
    {input : Input} {seg : Segment Shared Thread Report}
    (h : t.act settings s index input = some seg) :
    ∃ spawned, seg.spawned = spawned.map Thread.ofSpawn ∧
      Action settings s index t seg.shared seg.report spawned seg.thread := by
  cases t with
  | navigate runId pc =>
    obtain ⟨part, hpart, rfl⟩ := Option.map_eq_some_iff.mp h
    exact ⟨part.spawned, rfl, NavigatePc.step_action hpart⟩
  | status pc =>
    obtain ⟨part, hpart, rfl⟩ := Option.map_eq_some_iff.mp h
    exact ⟨part.spawned, rfl, StatusPc.step_action hpart⟩
  | cancel pc =>
    obtain ⟨part, hpart, rfl⟩ := Option.map_eq_some_iff.mp h
    exact ⟨part.spawned, rfl, CancelPc.step_action hpart⟩
  | monitor runId pc =>
    obtain ⟨part, hpart, rfl⟩ := Option.map_eq_some_iff.mp h
    exact ⟨part.spawned, rfl, MonitorPc.step_action hpart⟩
  | cancelWorker claim pc =>
    obtain ⟨part, hpart, rfl⟩ := Option.map_eq_some_iff.mp h
    exact ⟨part.spawned, rfl, CancelWorkerPc.step_action hpart⟩
  | subscriber guard self pc =>
    obtain ⟨part, hpart, rfl⟩ := Option.map_eq_some_iff.mp h
    exact ⟨part.spawned, rfl, .of_work (SubscriberPc.step_work hpart) rfl rfl rfl rfl rfl rfl⟩
  | activate pc =>
    obtain ⟨part, hpart, rfl⟩ := Option.map_eq_some_iff.mp h
    exact ⟨part.spawned, rfl, .of_work (ActivatePc.step_work hpart) rfl rfl rfl rfl rfl rfl⟩
  | stop stage =>
    cases stage with
    | none => cases h
    | some stage =>
      obtain ⟨part, hpart, rfl⟩ := Option.map_eq_some_iff.mp h
      have hwork := StopStage.step_work hpart
      refine ⟨part.spawned, rfl, .of_work ?_ rfl rfl rfl rfl rfl rfl⟩
      cases hnext : part.next with
      | none =>
        rw [hnext] at hwork
        simp only [Part.segment, hnext]
        exact hwork
      | some next =>
        rw [hnext] at hwork
        simp only [Part.segment, hnext]
        exact hwork

end UnitreeGo2.SemanticNavigation
