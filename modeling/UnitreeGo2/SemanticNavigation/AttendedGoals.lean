import UnitreeGo2.SemanticNavigation.MapEpoch

/-!
# Accepted goals are attended

A goal that the provider has accepted is in the hands of its navigation call until that call
exits, and in those of a status monitor afterwards.  The one exit without a monitor is that of an
exception which Atlas raises in the recheck of the map lifecycle, other than a binding error.
-/

namespace UnitreeGo2.SemanticNavigation

/-! ## What is promised -/

/-- How far a navigation call is with the goal that it sends. -/
inductive Attendance where
  /-- The provider has not accepted the goal. -/
  | early
  | attending
  | exited (result : Except String NavigateResponse)

def NavigatePc.attendance : NavigatePc → Attendance
  | .admitting _ | .resolving _ | .validating _ _ | .reserving _ _ | .calling _ _ => .early
  | .schedulingCancel _ | .rechecking _ _ | .invalidating _ | .finishing | .schedulingMonitor _ =>
    .attending
  | .returned result => .exited result

/-- A status monitor was started for the run. -/
def Monitored (p : Pool Shared Thread) (runId : String) : Prop :=
  ∃ (k : ℕ) (pc : MonitorPc), p.threads[k]? = some (.monitor runId pc)

/-- Atlas raises an exception other than a binding error in the recheck of a navigation call. -/
def RecheckRaises (index : ℕ) (runId message : String) (x : ServiceStep) : Prop :=
  ∃ revision binding snapshot, x.pre.threads[index]? =
      some (.navigate runId (.rechecking revision (.liveness binding snapshot))) ∧
    x.event = .act index (.provider (.error (.other message)))

/-- A monitor sees the stop event. -/
def MonitorStops (index : ℕ) (runId : String) (x : ServiceStep) : Prop :=
  x.pre.threads[index]? = some (.monitor runId .getting) ∧ x.event = .act index .stop

/-- What has become of an accepted goal: its call is at work on it, or has handed it to a monitor,
or was left by an exception and has not. -/
inductive Attended (tr : List ServiceStep) (p : Pool Shared Thread) (runId : String)
    (index : ℕ) (pc : NavigatePc) : Prop
  | attending (hpc : pc.attendance = .attending)
  | monitored (response : NavigateResponse) (hpc : pc.attendance = .exited (.ok response))
      (hid : response.runId = runId) (hmonitored : Monitored p runId)
  | raised (message : String) (hpc : pc.attendance = .exited (.error message))
      (hraised : ∃ x ∈ tr, RecheckRaises index runId message x)
      (hunmonitored : ¬ Monitored p runId)

/-- No accepted goal is left unattended, but for an exception of Atlas in the recheck. -/
structure GoalsAttended (settings : Settings) (tr : List ServiceStep) (p : Pool Shared Thread) :
    Prop where
  /-- The registry keeps every accepted goal, and its call attends to it. -/
  accepted : ∀ runId navRunId, .attached runId navRunId ∈ Program.log tr →
    (∃ run, p.shared.runs.get? runId = some run ∧ run.navRunId = navRunId) ∧
      ∃ (index : ℕ) (pc : NavigatePc), p.threads[index]? = some (.navigate runId pc) ∧
        Attended tr p runId index pc
  /-- A call that has failed without such an exception has no accepted goal, and leaves no run
  that lets another goal in, unless a status reply has ended it early. -/
  failed : ∀ index runId message,
    p.threads[index]? = some (.navigate runId (.returned (.error message))) →
    (∀ x ∈ tr, ¬ RecheckRaises index runId message x) →
    (∀ navRunId, .attached runId navRunId ∉ Program.log tr) ∧
      ∀ run, p.shared.runs.get? runId = some run →
        run.navRunId = "" ∧ (run.Blocking ∨ EndedEarly settings.toLibrary (Program.log tr) runId)
  /-- A call that has succeeded had its goal accepted. -/
  succeeded : ∀ (index : ℕ) runId response,
    p.threads[index]? = some (.navigate runId (.returned (.ok response))) →
    ∃ navRunId, .attached runId navRunId ∈ Program.log tr
  /-- A monitor ends with the stop event, or after its run. -/
  monitor : ∀ (index : ℕ) runId, p.threads[index]? = some (.monitor runId .returned) →
    (∃ x ∈ tr, MonitorStops index runId x) ∨
      ∀ run, p.shared.runs.get? runId = some run → ¬ run.Blocking

/-! ## Segments that attend to no goal -/

section Segments

variable {settings : Settings} {lib : Library} {s : Shared} {index : ℕ} {input : Input}

/-- A segment that neither starts a monitor nor has a goal accepted. -/
structure Part.Quiet {α : Type} (part : Part α) : Prop where
  bare : ∀ runId, .monitor runId ∉ part.spawned
  mute : ∀ runId navRunId, part.report ≠ .attached runId navRunId

lemma Part.Quiet.map {α β : Type} {part : Part α} (h : part.Quiet) (f : α → β) :
    (part.map f).Quiet :=
  ⟨h.bare, h.mute⟩

lemma Part.quiet_still {α : Type} (s : Shared) (next : α) :
    Part.Quiet { shared := s, next := next } :=
  ⟨fun _ => List.not_mem_nil, fun _ _ => by simp⟩

lemma Part.quiet_reply {α : Type} (s : Shared) (next : α) (runId navRunId : String)
    (reply : StatusReply) :
    Part.Quiet { shared := s, next := next, report := .statusReply runId navRunId reply } :=
  ⟨fun _ => List.not_mem_nil, fun _ _ => by simp⟩

lemma Part.quiet_cancel {α : Type} (s : Shared) (next : α) (claim : CancelClaim) :
    Part.Quiet { shared := s, next := next, spawned := [.cancelWorker claim] } :=
  ⟨fun _ => by simp, fun _ _ => by simp⟩

lemma Part.quiet_invalidated {α : Type} (s : Shared) (next : α) (cause : Cause) :
    Part.Quiet { shared := s, next := next, report := .invalidated cause } :=
  ⟨fun _ => List.not_mem_nil, fun _ _ => by simp⟩

lemma Invalidation.step_quiet {work : Invalidation} {cause : Cause}
    {part : Part (Option Invalidation)} (h : work.step s cause = some part) : part.Quiet := by
  match work with
  | .pending reason =>
    obtain rfl := Option.some.inj h
    exact Part.quiet_invalidated _ _ cause
  | .scheduling (claim :: claims) =>
    simp only [Invalidation.step] at h
    split at h
    · obtain rfl := Option.some.inj h
      exact Part.quiet_cancel _ _ claim
    · cases h
  | .scheduling [] =>
    obtain rfl := Option.some.inj h
    exact Part.quiet_still _ _

lemma Callback.step_quiet {callback : Callback} {part : Part (Option Callback)}
    (h : callback.step s index = some part) : part.Quiet := by
  match callback with
  | .waiting guard transition =>
    simp only [Callback.step] at h
    split at h
    · obtain rfl := Option.some.inj h
      exact Part.quiet_still _ _
    split at h
    · obtain rfl := Option.some.inj h
      exact Part.quiet_invalidated _ _ _
    · cases h
  | .scheduling (claim :: claims) =>
    obtain rfl := Option.some.inj h
    exact Part.quiet_cancel _ _ claim
  | .scheduling [] =>
    obtain rfl := Option.some.inj h
    exact Part.quiet_still _ _

lemma Shared.announce_quiet (s : Shared) (guard : ℕ)
    (f : LifecycleGuard → LifecycleGuard × Option LifecycleTransition) :
    (s.announce guard f).Quiet := by
  refine ⟨fun _ => List.not_mem_nil, fun runId navRunId => ?_⟩
  rw [Shared.announce]
  cases (s.moveGuard guard f).2 <;> simp [Report.ofTransition]

lemma ReadyStage.step_quiet {stage : ReadyStage} {part : Part ReadyResult}
    (h : stage.step lib s index input = some part) : part.Quiet := by
  rw [ReadyStage.step.eq_def] at h
  split at h
  · split at h
    · split at h <;> obtain rfl := Option.some.inj h <;> exact Part.quiet_still _ _
    · cases h
  · split at h <;> obtain rfl := Option.some.inj h
    · exact Part.quiet_still _ _
    · exact (s.announce_quiet _ _).map _
  · obtain ⟨part, hpart, rfl⟩ := Option.map_eq_some_iff.mp h
    exact (Callback.step_quiet hpart).map _
  · split at h
    · cases h
    · split at h <;> obtain rfl := Option.some.inj h <;> exact Part.quiet_still _ _
  · split at h <;> obtain rfl := Option.some.inj h <;> exact Part.quiet_still _ _
  · cases h

lemma StatusPc.step_quiet {pc : StatusPc} {part : Part StatusPc}
    (h : pc.step lib s input = some part) : part.Quiet := by
  rw [StatusPc.step.eq_def] at h
  split at h
  · split at h <;> obtain rfl := Option.some.inj h <;> exact Part.quiet_still _ _
  · split at h <;> obtain rfl := Option.some.inj h <;> exact Part.quiet_still _ _
  · split at h <;> obtain rfl := Option.some.inj h <;> exact Part.quiet_still _ _
  · split at h <;> obtain rfl := Option.some.inj h <;> exact Part.quiet_reply _ _ _ _ _
  · cases h

lemma cancelReplied_quiet (lib : Library) (s : Shared) (run : Run)
    (reply : Except RpcFailure CancelReply) : (cancelReplied lib s run reply).Quiet := by
  rw [cancelReplied.eq_def]
  split
  · exact Part.quiet_still _ _
  · exact Part.quiet_still _ _
  · split
    · exact Part.quiet_still _ _
    · split <;> exact Part.quiet_still _ _

lemma CancelPc.step_quiet {pc : CancelPc} {part : Part CancelPc}
    (h : pc.step lib s input = some part) : part.Quiet := by
  rw [CancelPc.step.eq_def] at h
  split at h
  · split at h <;> obtain rfl := Option.some.inj h <;> exact Part.quiet_still _ _
  · split at h <;> obtain rfl := Option.some.inj h <;> exact Part.quiet_still _ _
  · split at h <;> obtain rfl := Option.some.inj h <;> exact Part.quiet_still _ _
  · obtain rfl := Option.some.inj h
    exact cancelReplied_quiet _ _ _ _
  · split at h
    · obtain rfl := Option.some.inj h
      exact Part.quiet_cancel _ _ _
    · cases h
  · cases h

lemma CancelWorkerPc.step_quiet {claim : CancelClaim} {pc : CancelWorkerPc}
    {part : Part CancelWorkerPc} (h : pc.step settings s claim input = some part) :
    part.Quiet := by
  rw [CancelWorkerPc.step.eq_def] at h
  split at h
  · obtain rfl := Option.some.inj h
    refine ⟨fun _ => List.not_mem_nil, fun runId navRunId => ?_⟩
    dsimp only
    split <;> simp
  · obtain rfl := Option.some.inj h
    exact Part.quiet_still _ _
  · obtain rfl := Option.some.inj h
    exact Part.quiet_still _ _
  · split at h <;> obtain rfl := Option.some.inj h <;> exact Part.quiet_still _ _
  · split at h <;> obtain rfl := Option.some.inj h <;> exact Part.quiet_still _ _
  · split at h <;> obtain rfl := Option.some.inj h
    · exact Part.quiet_still _ _
    · refine ⟨fun _ => List.not_mem_nil, fun runId navRunId => ?_⟩
      dsimp only
      split <;> simp
  · cases h

lemma SubscriberPc.step_quiet {guard subscriber : ℕ} {pc : SubscriberPc}
    {part : Part SubscriberPc} (h : pc.step lib s index guard subscriber input = some part) :
    part.Quiet := by
  rw [SubscriberPc.step.eq_def] at h
  split at h
  · obtain rfl := Option.some.inj h
    exact (s.announce_quiet _ _).map _
  · obtain rfl := Option.some.inj h
    exact (s.announce_quiet _ _).map _
  · obtain rfl := Option.some.inj h
    exact Part.quiet_still _ _
  · obtain ⟨part, hpart, rfl⟩ := Option.map_eq_some_iff.mp h
    exact (Callback.step_quiet hpart).map _
  · cases h

lemma StopStage.step_quiet {stage : StopStage} {part : Part (Option StopStage)}
    (h : stage.step lib s index input = some part) : part.Quiet := by
  rw [StopStage.step.eq_def] at h
  split at h
  · split at h
    · obtain rfl := Option.some.inj h
      exact Part.quiet_still _ _
    · cases h
  · obtain ⟨part, hpart, rfl⟩ := Option.map_eq_some_iff.mp h
    exact (Invalidation.step_quiet hpart).map _
  · obtain rfl := Option.some.inj h
    exact Part.quiet_still _ _
  · obtain rfl := Option.some.inj h
    rw [joinSubscriber.eq_def]
    split
    · exact Part.quiet_still _ _
    · split
      · exact (s.announce_quiet _ _).map _
      · exact Part.quiet_still _ _
  · obtain ⟨part, hpart, rfl⟩ := Option.map_eq_some_iff.mp h
    exact (Callback.step_quiet hpart).map _
  · cases h

lemma ActivatePc.step_quiet {pc : ActivatePc} {part : Part ActivatePc}
    (h : pc.step settings s index input = some part) : part.Quiet := by
  rw [ActivatePc.step.eq_def] at h
  split at h
  · split at h <;> obtain rfl := Option.some.inj h <;> exact Part.quiet_still _ _
  · split at h
    · obtain rfl := Option.some.inj h
      exact Part.quiet_still _ _
    · cases h
  · split at h <;> obtain rfl := Option.some.inj h
    · exact Part.quiet_still _ _
    · exact ⟨fun _ => by simp, fun _ _ => by simp⟩
  · split at h
    · cases h
    · obtain rfl := Option.some.inj h
      exact Part.quiet_still _ _
  · split at h
    · cases h
    · split at h <;> obtain rfl := Option.some.inj h <;> exact Part.quiet_still _ _
  · split at h <;> obtain rfl := Option.some.inj h <;> exact Part.quiet_still _ _
  · split at h
    · obtain rfl := Option.some.inj h
      exact Part.quiet_still _ _
    · cases h
  · obtain ⟨part, hpart, rfl⟩ := Option.map_eq_some_iff.mp h
    exact (StopStage.step_quiet hpart).map _
  · cases h

/-! ## Segments of a navigation call -/

/-- What a segment of a navigation call does with its goal. -/
inductive NavigateStep (lib : Library) (s : Shared) (runId : String) (pc : NavigatePc)
    (input : Input) (part : Part NavigatePc) : Prop
  | goesOn (hquiet : part.Quiet) (hnext : part.next.attendance = pc.attendance)
  | refused (message : String) (hquiet : part.Quiet) (hpc : pc.attendance = .early)
      (hnext : part.next = .returned (.error message))
  | accepted (navRunId : String) (hpc : pc.phase = .calling) (hspawned : part.spawned = [])
      (hreport : part.report = .attached runId navRunId)
      (hnext : part.next.attendance = .attending)
  /-- The registry has lost the run. -/
  | lost (hquiet : part.Quiet) (hpc : pc.attendance = .attending)
      (hgone : s.runs.get? runId = none)
  | raised (message : String) (revision : ℕ) (binding : Binding) (snapshot : LifecycleSnapshot)
      (hquiet : part.Quiet) (hpc : pc = .rechecking revision (.liveness binding snapshot))
      (hinput : input = .provider (.error (.other message)))
      (hnext : part.next = .returned (.error message))
  | monitored (run : Run) (hpc : pc.attendance = .attending)
      (hspawned : part.spawned = [.monitor runId])
      (hreport : part.report = .silent)
      (hnext : part.next = .returned (.ok ⟨!run.invalidated, runId, run⟩))

lemma admitted_cases (result : ReadyResult) :
    (admitted result).attendance = .early ∨
      ∃ message, admitted result = .returned (.error message) := by
  cases result with
  | goOn stage => exact Or.inl rfl
  | ready admission => exact Or.inl rfl
  | bindingError message | raised message => exact Or.inr ⟨message, rfl⟩

/-- A readiness check raises only what Atlas raises. -/
lemma ReadyStage.step_raised {stage : ReadyStage} {part : Part ReadyResult} {message : String}
    (h : stage.step lib s index input = some part) (hnext : part.next = .raised message) :
    (∃ binding snapshot, stage = .liveness binding snapshot) ∧
      input = .provider (.error (.other message)) := by
  rw [ReadyStage.step.eq_def] at h
  split at h
  · split at h
    · split at h <;> obtain rfl := Option.some.inj h <;> cases hnext
    · cases h
  · split at h <;> obtain rfl := Option.some.inj h
    · cases hnext
    · simp only [Part.map] at hnext
      cases hcallback : (s.announce _ _).next <;> rw [hcallback] at hnext <;> cases hnext
  · obtain ⟨part, -, rfl⟩ := Option.map_eq_some_iff.mp h
    simp only [Part.map] at hnext
    cases hcallback : part.next <;> rw [hcallback] at hnext <;> cases hnext
  · split at h
    · cases h
    · split at h <;> obtain rfl := Option.some.inj h <;> cases hnext
  · split at h <;> obtain rfl := Option.some.inj h
    · cases hnext
    · cases hnext
    · obtain rfl := ReadyResult.raised.inj hnext
      exact ⟨⟨_, _, rfl⟩, rfl⟩
  · cases h

lemma ambiguous_quiet (lib : Library) (s : Shared) (runId detail : String) :
    (ambiguous lib s runId detail).Quiet ∧
      ∃ message, (ambiguous lib s runId detail).next = .returned (.error message) := by
  rw [ambiguous]
  split
  · exact ⟨Part.quiet_still _ _, _, rfl⟩
  · exact ⟨Part.quiet_still _ _, _, rfl⟩

/-- The answer of the provider accepts the goal, or the call fails. -/
lemma navigateReplied_step {runId : String} {admission : Admission} {target : Target}
    (reply : Except RpcFailure NavigateReply) :
    NavigateStep lib s runId (.calling admission target) input
      (navigateReplied lib s runId admission target reply) := by
  rw [navigateReplied.eq_def]
  split
  · obtain ⟨hquiet, message, hnext⟩ := ambiguous_quiet lib s runId _
    exact .refused message hquiet rfl hnext
  split
  · exact .refused _ ⟨fun _ => List.not_mem_nil, fun _ _ => by simp⟩ rfl rfl
  split
  · obtain ⟨hquiet, message, hnext⟩ := ambiguous_quiet lib s runId missingRunIdDetail
    exact .refused message hquiet rfl hnext
  split
  · exact .refused _ (Part.quiet_still _ _) rfl rfl
  · refine .accepted _ rfl rfl rfl ?_
    dsimp only
    split <;> rfl

theorem NavigatePc.step_attends {runId : String} {pc : NavigatePc} {part : Part NavigatePc}
    (h : pc.step lib s index runId input = some part) :
    NavigateStep lib s runId pc input part := by
  cases pc with
  | admitting stage =>
    obtain ⟨part, hpart, rfl⟩ := Option.map_eq_some_iff.mp h
    have hquiet := (ReadyStage.step_quiet hpart).map admitted
    rcases admitted_cases part.next with hearly | ⟨message, hexit⟩
    · exact .goesOn hquiet hearly
    · exact .refused message hquiet rfl hexit
  | resolving admission =>
    cases input with
    | landmark resolved =>
      cases resolved with
      | error message =>
        obtain rfl := Option.some.inj h
        exact .refused message (Part.quiet_still _ _) rfl rfl
      | ok target =>
        obtain rfl := Option.some.inj h
        exact .goesOn (Part.quiet_still _ _) rfl
    | _ => cases h
  | validating admission target =>
    cases input with
    | go =>
      simp only [NavigatePc.step] at h
      split at h
      · obtain rfl := Option.some.inj h
        rw [validate]
        split
        · exact .refused _ (Part.quiet_still _ _) rfl rfl
        · exact .goesOn (Part.quiet_still _ _) rfl
      · cases h
    | _ => cases h
  | reserving admission target =>
    cases input with
    | go =>
      obtain rfl := Option.some.inj h
      rw [reserveRun]
      split
      · exact .refused _ (Part.quiet_still _ _) rfl rfl
      split
      · exact .refused _ (Part.quiet_still _ _) rfl rfl
      · exact .goesOn ⟨fun _ => List.not_mem_nil, fun _ _ => by simp⟩ rfl
    | _ => cases h
  | calling admission target =>
    cases input with
    | navigateReply reply =>
      obtain rfl := Option.some.inj h
      exact navigateReplied_step reply
    | _ => cases h
  | schedulingCancel claim =>
    cases input with
    | go =>
      simp only [NavigatePc.step] at h
      split at h
      · obtain rfl := Option.some.inj h
        exact .goesOn (Part.quiet_cancel _ _ _) rfl
      · cases h
    | _ => cases h
  | rechecking revision stage =>
    obtain ⟨part, hpart, rfl⟩ := Option.map_eq_some_iff.mp h
    have hquiet := (ReadyStage.step_quiet hpart).map (rechecked revision)
    cases hnext : part.next with
    | goOn next => exact .goesOn hquiet (by rw [Part.map, hnext]; rfl)
    | ready latest =>
      refine .goesOn hquiet ?_
      rw [Part.map, hnext, rechecked.eq_def]
      dsimp only
      split <;> rfl
    | bindingError message => exact .goesOn hquiet (by rw [Part.map, hnext]; rfl)
    | raised message =>
      obtain ⟨⟨binding, snapshot, rfl⟩, hinput⟩ := ReadyStage.step_raised hpart hnext
      exact .raised message revision binding snapshot hquiet rfl hinput
        (by rw [Part.map, hnext]; rfl)
  | invalidating work =>
    cases input with
    | go =>
      obtain ⟨part, hpart, rfl⟩ := Option.map_eq_some_iff.mp h
      refine .goesOn ((Invalidation.step_quiet hpart).map _) ?_
      rw [Part.map]
      cases part.next <;> rfl
    | _ => cases h
  | finishing =>
    cases input with
    | go =>
      simp only [NavigatePc.step] at h
      split at h
      · rename_i hget
        obtain rfl := Option.some.inj h
        refine .lost (Part.quiet_still _ _) rfl ?_
        rw [Registry.get] at hget
        split at hget
        · assumption
        · cases hget
      · obtain rfl := Option.some.inj h
        exact .goesOn (Part.quiet_still _ _) rfl
    | _ => cases h
  | schedulingMonitor run =>
    cases input with
    | go =>
      simp only [NavigatePc.step] at h
      split at h
      · obtain rfl := Option.some.inj h
        exact .monitored run rfl rfl rfl rfl
      · cases h
    | _ => cases h
  | returned result => cases h

/-! ## Segments of a monitor -/

/-- What a segment of a monitor does: it goes on, sees the stop event, or finds its run ended. -/
lemma MonitorPc.step_attends {runId : String} {pc : MonitorPc} {part : Part MonitorPc}
    (h : pc.step lib s runId input = some part) :
    part.Quiet ∧ (part.next ≠ .returned ∨ (pc = .getting ∧ input = .stop) ∨
      ∀ run, part.shared.runs.get? runId = some run → ¬ run.Blocking) := by
  rw [MonitorPc.step.eq_def] at h
  split at h
  · obtain rfl := Option.some.inj h
    exact ⟨Part.quiet_still _ _, Or.inr (Or.inl ⟨rfl, rfl⟩)⟩
  · split at h
    · rename_i hget
      obtain rfl := Option.some.inj h
      refine ⟨Part.quiet_still _ _, Or.inr (Or.inr fun run hrun => ?_)⟩
      rw [Registry.get, hrun] at hget
      cases hget
    · rename_i run hget
      obtain rfl := Option.some.inj h
      refine ⟨Part.quiet_still _ _, ?_⟩
      by_cases hterminal : run.remoteTerminal = true
      · refine Or.inr (Or.inr fun found hfound hblocking => ?_)
        rw [Registry.get, hfound] at hget
        obtain rfl := Except.ok.inj hget
        rw [Run.Blocking, hterminal] at hblocking
        cases hblocking
      · left
        dsimp only
        rw [if_neg hterminal]
        simp
  · obtain rfl := Option.some.inj h
    exact ⟨Part.quiet_still _ _, Or.inl (by simp)⟩
  · rename_i navRunId reply
    split at h
    · obtain rfl := Option.some.inj h
      exact ⟨Part.quiet_reply _ _ _ _ _, Or.inl (by simp)⟩
    · rename_i runs run hupdate
      obtain rfl := Option.some.inj h
      refine ⟨Part.quiet_reply _ _ _ _ _, ?_⟩
      by_cases hterminal : run.remoteTerminal = true
      · refine Or.inr (Or.inr fun found hfound hblocking => ?_)
        -- the registry now holds the run that the reply has ended
        rw [Registry.updateRemote] at hupdate
        split at hupdate
        · cases hupdate
        · rename_i before hbefore
          obtain ⟨rfl, rfl⟩ := Prod.mk.inj (Except.ok.inj hupdate)
          have hfound : (s.runs.modify runId _).get? runId = some found := hfound
          rw [Registry.get?_modify (fun run => run.updateRemote_id _ _) runId, if_pos rfl,
            hbefore] at hfound
          obtain rfl := Option.some.inj hfound
          rw [Run.Blocking, hterminal] at hblocking
          cases hblocking
      · left
        dsimp only
        rw [if_neg hterminal]
        simp
  · cases h

/-! ## Segments of any thread -/

/-- The run of a navigation call. -/
def Thread.caller : Thread → Option String
  | .navigate runId _ => some runId
  | _ => none

/-- The run that a thread monitors. -/
def Thread.monitors : Thread → Option String
  | .monitor runId _ => some runId
  | _ => none

variable {t : Thread} {seg : Segment Shared Thread Report} {id : String}

/-- A thread stays the call or the monitor that it is. -/
lemma Thread.act_role (h : t.act settings s index input = some seg) :
    seg.thread.caller = t.caller ∧ seg.thread.monitors = t.monitors := by
  cases t with
  | stop stage =>
    cases stage with
    | none => cases h
    | some stage =>
      obtain ⟨part, -, rfl⟩ := Option.map_eq_some_iff.mp h
      exact ⟨rfl, rfl⟩
  | _ =>
    obtain ⟨part, -, rfl⟩ := Option.map_eq_some_iff.mp h
    exact ⟨rfl, rfl⟩

lemma Part.Quiet.segment {α : Type} {part : Part α} (h : part.Quiet) (wrap : α → Thread) :
    (∀ u ∈ (part.segment wrap).spawned, u.monitors = none) ∧
      ∀ runId navRunId, (part.segment wrap).report ≠ .attached runId navRunId := by
  refine ⟨fun u hu => ?_, h.mute⟩
  obtain ⟨spawn, hspawn, rfl⟩ := List.mem_map.mp hu
  cases spawn with
  | monitor runId => exact absurd hspawn (h.bare runId)
  | cancelWorker claim | subscriber guard self => rfl

/-- A segment is one of a navigation call, one of a monitor, or attends to no goal. -/
theorem Thread.act_attends (h : t.act settings s index input = some seg) :
    (∃ runId pc part, t = .navigate runId pc ∧
      NavigateStep settings.toLibrary s runId pc input part ∧
      seg = part.segment (.navigate runId)) ∨
    ((∀ u ∈ seg.spawned, u.monitors = none) ∧
      (∀ runId navRunId, seg.report ≠ .attached runId navRunId) ∧ t.caller = none ∧
      ∀ runId pc, t = .monitor runId pc → seg.thread = .monitor runId .returned →
        (pc = .getting ∧ input = .stop) ∨
          ∀ run, seg.shared.runs.get? runId = some run → ¬ run.Blocking) := by
  cases t with
  | navigate runId pc =>
    obtain ⟨part, hpart, rfl⟩ := Option.map_eq_some_iff.mp h
    exact Or.inl ⟨runId, pc, part, rfl, NavigatePc.step_attends hpart, rfl⟩
  | monitor runId pc =>
    obtain ⟨part, hpart, rfl⟩ := Option.map_eq_some_iff.mp h
    obtain ⟨hquiet, hnext⟩ := MonitorPc.step_attends hpart
    obtain ⟨hbare, hmute⟩ := hquiet.segment (.monitor runId)
    refine Or.inr ⟨hbare, hmute, rfl, ?_⟩
    rintro _ _ hthread hreturned
    obtain ⟨rfl, rfl⟩ := Thread.monitor.inj hthread
    exact hnext.resolve_left fun hne => hne (Thread.monitor.inj hreturned).2
  | status pc =>
    obtain ⟨part, hpart, rfl⟩ := Option.map_eq_some_iff.mp h
    obtain ⟨hbare, hmute⟩ := (StatusPc.step_quiet hpart).segment .status
    exact Or.inr ⟨hbare, hmute, rfl, fun _ _ hthread => by cases hthread⟩
  | cancel pc =>
    obtain ⟨part, hpart, rfl⟩ := Option.map_eq_some_iff.mp h
    obtain ⟨hbare, hmute⟩ := (CancelPc.step_quiet hpart).segment .cancel
    exact Or.inr ⟨hbare, hmute, rfl, fun _ _ hthread => by cases hthread⟩
  | cancelWorker claim pc =>
    obtain ⟨part, hpart, rfl⟩ := Option.map_eq_some_iff.mp h
    obtain ⟨hbare, hmute⟩ := (CancelWorkerPc.step_quiet hpart).segment (.cancelWorker claim)
    exact Or.inr ⟨hbare, hmute, rfl, fun _ _ hthread => by cases hthread⟩
  | subscriber guard self pc =>
    obtain ⟨part, hpart, rfl⟩ := Option.map_eq_some_iff.mp h
    obtain ⟨hbare, hmute⟩ := (SubscriberPc.step_quiet hpart).segment (.subscriber guard self)
    exact Or.inr ⟨hbare, hmute, rfl, fun _ _ hthread => by cases hthread⟩
  | activate pc =>
    obtain ⟨part, hpart, rfl⟩ := Option.map_eq_some_iff.mp h
    obtain ⟨hbare, hmute⟩ := (ActivatePc.step_quiet hpart).segment .activate
    exact Or.inr ⟨hbare, hmute, rfl, fun _ _ hthread => by cases hthread⟩
  | stop stage =>
    cases stage with
    | none => cases h
    | some stage =>
      obtain ⟨part, hpart, rfl⟩ := Option.map_eq_some_iff.mp h
      obtain ⟨hbare, hmute⟩ := (StopStage.step_quiet hpart).segment .stop
      exact Or.inr ⟨hbare, hmute, rfl, fun _ _ hthread => by cases hthread⟩

/-- No navigation call is started by another thread. -/
lemma Thread.act_spawned (h : t.act settings s index input = some seg) :
    ∀ u ∈ seg.spawned, u.caller = none := by
  obtain ⟨spawned, hspawned, -⟩ := Thread.act_action h
  intro u hu
  rw [hspawned] at hu
  obtain ⟨spawn, -, rfl⟩ := List.mem_map.mp hu
  cases spawn <;> rfl

/-- A goal is accepted by the call that waits for the answer of the provider. -/
lemma Thread.act_accepted (h : t.act settings s index input = some seg) {navRunId : String}
    (hreport : seg.report = .attached id navRunId) : t.own = some (id, .calling) := by
  rcases Thread.act_attends h with ⟨runId, pc, part, rfl, hstep, rfl⟩ | ⟨-, hmute, -⟩
  · cases hstep with
    | accepted nav hpc _ hattached =>
      obtain ⟨rfl, -⟩ := Report.attached.inj (hattached.symm.trans hreport)
      rw [Thread.own, hpc]
    | monitored run _ _ hsilent => cases hsilent.symm.trans hreport
    | goesOn hquiet | refused _ hquiet | lost hquiet | raised _ _ _ _ hquiet =>
      exact absurd hreport (hquiet.mute id navRunId)
  · exact absurd hreport (hmute id navRunId)

/-- A monitor is started by the call of its run, which succeeds. -/
lemma Thread.act_monitor (h : t.act settings s index input = some seg) {u : Thread}
    (hu : u ∈ seg.spawned) (hid : u.monitors = some id) :
    u = .monitor id .getting ∧
      ∃ response, seg.thread = .navigate id (.returned (.ok response)) := by
  rcases Thread.act_attends h with ⟨runId, pc, part, rfl, hstep, rfl⟩ | ⟨hbare, -⟩
  · have hnone : part.Quiet → u.monitors = none := fun hquiet =>
      (hquiet.segment (.navigate runId)).1 u hu
    cases hstep with
    | accepted _ _ hspawned =>
      rw [Part.segment, hspawned] at hu
      cases hu
    | monitored run _ hspawned _ hnext =>
      rw [Part.segment, hspawned] at hu
      obtain rfl := List.mem_singleton.mp hu
      obtain rfl := Option.some.inj hid
      exact ⟨rfl, ⟨!run.invalidated, runId, run⟩, by rw [Part.segment, hnext]⟩
    | goesOn hquiet | refused _ hquiet | lost hquiet | raised _ _ _ _ hquiet =>
      cases (hnone hquiet).symm.trans hid
  · cases (hbare u hu).symm.trans hid

/-- A goal that was just accepted is in the registry. -/
lemma Action.attached_known {s' : Shared} {report : Report} {spawned : List Spawn} {t' : Thread}
    (h : Action settings s index t s' report spawned t') {navRunId : String}
    (hreport : report = .attached id navRunId) : s'.Known (id, navRunId) := by
  cases h with
  | attached runId nav detail run pc _ _ hrun hnav =>
    obtain ⟨rfl, rfl⟩ := Report.attached.inj hreport
    refine ⟨hnav, run.attach nav detail, ?_, run.attach_navRunId _ _⟩
    have hid : ∀ run : Run, (run.attach nav detail).semanticRunId = run.semanticRunId :=
      fun run => run.attach_id nav detail
    show (s.runs.modify runId fun run => run.attach nav detail).get? runId = _
    rw [Registry.get?_modify hid runId, if_pos rfl, hrun]
    rfl
  | work _ _ _ _ hwork =>
    rcases hwork.report_cases with h | ⟨guard, transition, h⟩ | ⟨cause, h⟩ <;>
      rw [hreport] at h <;> cases h
  | marked claim outcome shown =>
    split at hreport <;> cases hreport
  | _ => cases hreport

/-- A run of the registry gets its navigation run when its goal is accepted. -/
lemma RunChange.named {before : Option Run} {run' : Run} {report : Report}
    (h : RunChange settings s t report id before (some run')) (hnav : run'.navRunId ≠ "") :
    (∃ run, before = some run ∧ run.navRunId = run'.navRunId) ∨
      report = .attached id run'.navRunId := by
  cases h with
  | same => exact Or.inl ⟨run', rfl, rfl⟩
  | reserved _ _ _ _ _ hempty => exact absurd hempty hnav
  | ambiguous run | entered run | confirmed run =>
    exact Or.inl ⟨run, rfl, (run.updateRemote_navRunId _ _).symm⟩
  | attached run navRunId detail _ _ hreport =>
    rw [Run.attach_navRunId]
    exact Or.inr hreport
  | invalidated run => exact Or.inl ⟨run, rfl, (run.invalidate_navRunId _).symm⟩
  | claimed run | marked run => exact Or.inl ⟨run, rfl, rfl⟩

end Segments

/-! ## The calls and the monitors of a run -/

/-- What holds of a navigation call, by how far it is. -/
structure CallInv (tr : List ServiceStep) (p : Pool Shared Thread) (index : ℕ) (runId : String)
    (attendance : Attendance) : Prop where
  early : attendance = .early → ∀ navRunId, .attached runId navRunId ∉ Program.log tr
  attending : attendance = .attending → ∃ navRunId, .attached runId navRunId ∈ Program.log tr
  succeeded : ∀ response, attendance = .exited (.ok response) → response.runId = runId ∧
    (∃ navRunId, .attached runId navRunId ∈ Program.log tr) ∧ Monitored p runId
  failed : ∀ message, attendance = .exited (.error message) →
    (∀ navRunId, .attached runId navRunId ∉ Program.log tr) ∨
      ∃ x ∈ tr, RecheckRaises index runId message x

/-- What holds of a monitor. -/
structure MonitorInv (tr : List ServiceStep) (p : Pool Shared Thread) (index : ℕ)
    (runId : String) (pc : MonitorPc) : Prop where
  caller : ∃ (j : ℕ) (response : NavigateResponse),
    p.threads[j]? = some (.navigate runId (.returned (.ok response)))
  ended : pc = .returned → (∃ x ∈ tr, MonitorStops index runId x) ∨
    ∀ run, p.shared.runs.get? runId = some run → ¬ run.Blocking

structure AttendInv (tr : List ServiceStep) (p : Pool Shared Thread) : Prop where
  call : ∀ (j : ℕ) runId pc, p.threads[j]? = some (.navigate runId pc) →
    CallInv tr p j runId pc.attendance
  monitor : ∀ (k : ℕ) runId pc, p.threads[k]? = some (.monitor runId pc) →
    MonitorInv tr p k runId pc
  owner : ∀ runId navRunId, .attached runId navRunId ∈ Program.log tr →
    p.shared.Known (runId, navRunId) ∧
      ∃ (j : ℕ) (pc : NavigatePc), p.threads[j]? = some (.navigate runId pc)
  named : ∀ runId run, p.shared.runs.get? runId = some run → run.navRunId ≠ "" →
    .attached runId run.navRunId ∈ Program.log tr

section Invariant

variable {settings : Settings} {tr tr' : List ServiceStep} {p p' : Pool Shared Thread}
  {index : ℕ} {id : String} {attendance : Attendance}

/-- A call stays as far as it is while no goal is accepted for its run. -/
lemma CallInv.mono (h : CallInv tr p index id attendance) (htr : tr ⊆ tr')
    (hnew : ∀ navRunId, .attached id navRunId ∈ Program.log tr' →
      .attached id navRunId ∈ Program.log tr)
    (hmonitored : Monitored p id → Monitored p' id) : CallInv tr' p' index id attendance := by
  have hlog : Program.log tr ⊆ Program.log tr' := by
    intro report hmem
    obtain ⟨x, hx, hreport⟩ := List.mem_filterMap.mp hmem
    exact List.mem_filterMap.mpr ⟨x, htr hx, hreport⟩
  constructor
  · intro hearly navRunId hmem
    exact h.early hearly navRunId (hnew navRunId hmem)
  · intro hattending
    obtain ⟨navRunId, hmem⟩ := h.attending hattending
    exact ⟨navRunId, hlog hmem⟩
  · intro response hexited
    obtain ⟨hid, ⟨navRunId, hmem⟩, hmon⟩ := h.succeeded response hexited
    exact ⟨hid, ⟨navRunId, hlog hmem⟩, hmonitored hmon⟩
  · intro message hexited
    rcases h.failed message hexited with hnone | ⟨x, hx, hraised⟩
    · exact Or.inl fun navRunId hmem => hnone navRunId (hnew navRunId hmem)
    · exact Or.inr ⟨x, htr hx, hraised⟩

/-- A step that changes no thread and no run. -/
lemma AttendInv.wait (h : AttendInv tr p) {x : ServiceStep} (hx : x.output = none) :
    AttendInv (tr ++ [x]) p := by
  have hlog : Program.log (tr ++ [x]) = Program.log tr := by
    rw [Program.log_concat, hx]
    exact List.append_nil _
  have htr : tr ⊆ tr ++ [x] := List.subset_append_left _ _
  constructor
  · intro j runId pc hthread
    exact (h.call j runId pc hthread).mono htr (fun _ hmem => by rwa [hlog] at hmem) fun hm => hm
  · intro k runId pc hthread
    obtain ⟨hcaller, hended⟩ := h.monitor k runId pc hthread
    refine ⟨hcaller, fun hpc => ?_⟩
    rcases hended hpc with ⟨z, hz, hstops⟩ | hterminal
    · exact Or.inl ⟨z, htr hz, hstops⟩
    · exact Or.inr hterminal
  · rw [hlog]
    exact h.owner
  · rw [hlog]
    exact h.named

/-- A call starts a thread that has not accepted a goal. -/
lemma AttendInv.called (h : AttendInv tr p) (hp : ServiceHolds settings (Program.log tr) p)
    {x : ServiceStep} (hx : x.output = none) {request : Request} {s : Shared} {t : Thread}
    (hcall : p.shared.call p.threads.length request = some (s, t)) :
    AttendInv (tr ++ [x]) ⟨s, p.threads ++ [t]⟩ := by
  have hlog : Program.log (tr ++ [x]) = Program.log tr := by
    rw [Program.log_concat, hx]
    exact List.append_nil _
  have htr : tr ⊆ tr ++ [x] := List.subset_append_left _ _
  have hruns := Shared.call_runs hcall
  have hmonitored : ∀ runId, Monitored p runId → Monitored ⟨s, p.threads ++ [t]⟩ runId := by
    rintro runId ⟨k, pc, hthread⟩
    exact ⟨k, pc, Program.getElem?_call_old hthread⟩
  have hfresh : ∀ runId pc, t = .navigate runId pc →
      pc.attendance = .early ∧ runId ∉ p.shared.issued.map Prod.fst := by
    intro runId pc ht
    cases request with
    | navigate drawn =>
      simp only [Shared.call] at hcall
      split at hcall
      · cases hcall
      · rename_i hnew
        obtain ⟨-, rfl⟩ := Prod.mk.inj (Option.some.inj hcall)
        obtain ⟨rfl, rfl⟩ := Thread.navigate.inj ht
        exact ⟨rfl, hnew⟩
    | _ =>
      obtain ⟨-, rfl⟩ := Prod.mk.inj (Option.some.inj hcall)
      cases ht
  have hother : ∀ runId pc, t ≠ .monitor runId pc := by
    intro runId pc ht
    cases request with
    | navigate drawn =>
      simp only [Shared.call] at hcall
      split at hcall
      · cases hcall
      · obtain ⟨-, rfl⟩ := Prod.mk.inj (Option.some.inj hcall)
        cases ht
    | _ =>
      obtain ⟨-, rfl⟩ := Prod.mk.inj (Option.some.inj hcall)
      cases ht
  constructor
  · intro j runId pc hthread
    rcases Program.getElem?_call hthread with hthread | ⟨-, ht⟩
    · exact (h.call j runId pc hthread).mono htr (fun _ hmem => by rwa [hlog] at hmem)
        (hmonitored runId)
    · -- the identifier of the new call was not drawn before
      obtain ⟨hearly, hnew⟩ := hfresh runId pc ht.symm
      have hnone : ∀ navRunId, .attached runId navRunId ∉ Program.log (tr ++ [x]) := by
        intro navRunId hmem
        rw [hlog] at hmem
        obtain ⟨⟨-, run, hrun, -⟩, -⟩ := h.owner runId navRunId hmem
        exact hnew (hp.shared.run runId run hrun)
      rw [hearly]
      exact ⟨fun _ => hnone, (fun ha => by cases ha), (fun _ ha => by cases ha),
        (fun _ ha => by cases ha)⟩
  · intro k runId pc hthread
    rcases Program.getElem?_call hthread with hthread | ⟨-, ht⟩
    · obtain ⟨⟨j, response, hcaller⟩, hended⟩ := h.monitor k runId pc hthread
      refine ⟨⟨j, response, Program.getElem?_call_old hcaller⟩, fun hpc => ?_⟩
      rw [hruns]
      rcases hended hpc with ⟨z, hz, hstops⟩ | hterminal
      · exact Or.inl ⟨z, htr hz, hstops⟩
      · exact Or.inr hterminal
    · exact absurd ht.symm (hother runId pc)
  · intro runId navRunId hmem
    rw [hlog] at hmem
    obtain ⟨⟨hnav, run, hrun, hsame⟩, j, pc, hthread⟩ := h.owner runId navRunId hmem
    exact ⟨⟨hnav, run, by rw [hruns]; exact hrun, hsame⟩, j, pc,
      Program.getElem?_call_old hthread⟩
  · intro runId run hrun hnav
    rw [hlog]
    rw [hruns] at hrun
    exact h.named runId run hrun hnav

/-! ## A segment -/

variable {x : ServiceStep} {input : Input} {t : Thread} {seg : Segment Shared Thread Report}

/-- The pool after a segment. -/
def Pool.afterSegment (p : Pool Shared Thread) (index : ℕ) (seg : Segment Shared Thread Report) :
    Pool Shared Thread :=
  ⟨seg.shared, p.threads.set index seg.thread ++ seg.spawned⟩

/-- A segment that was run, as a step of the service. -/
structure Ran (settings : Settings) (p : Pool Shared Thread) (index : ℕ) (input : Input)
    (t : Thread) (seg : Segment Shared Thread Report) (x : ServiceStep) : Prop where
  thread : p.threads[index]? = some t
  act : t.act settings p.shared index input = some seg
  pre : x.pre = p
  event : x.event = .act index input
  output : x.output = some seg.report

/-- A call that has exited stays as it is. -/
lemma Ran.exited (h : Ran settings p index input t seg x) {j : ℕ}
    {result : Except String NavigateResponse}
    (hthread : p.threads[j]? = some (.navigate id (.returned result))) :
    (Pool.afterSegment p index seg).threads[j]? = some (.navigate id (.returned result)) := by
  refine Program.getElem?_other ?_ hthread
  rintro rfl
  have hsame := Option.some.inj (hthread.symm.trans h.thread)
  have hact := h.act
  rw [← hsame] at hact
  cases hact

lemma Ran.monitored (h : Ran settings p index input t seg x) (hmonitored : Monitored p id) :
    Monitored (Pool.afterSegment p index seg) id := by
  obtain ⟨k, pc, hthread⟩ := hmonitored
  by_cases hk : k = index
  · subst hk
    have hsame := Option.some.inj (hthread.symm.trans h.thread)
    have hrole := (Thread.act_role h.act).2
    rw [← hsame] at hrole
    cases hnext : seg.thread with
    | monitor runId next =>
      rw [hnext] at hrole
      obtain rfl := Option.some.inj hrole
      refine ⟨k, next, ?_⟩
      rw [← hnext]
      exact Program.getElem?_self h.thread
    | _ =>
      rw [hnext] at hrole
      cases hrole
  · exact ⟨k, pc, Program.getElem?_other hk hthread⟩

/-- A navigation call stays in the pool. -/
lemma Ran.caller (h : Ran settings p index input t seg x) {j : ℕ} {pc : NavigatePc}
    (hthread : p.threads[j]? = some (.navigate id pc)) :
    ∃ pc', (Pool.afterSegment p index seg).threads[j]? = some (.navigate id pc') := by
  by_cases hj : j = index
  · subst hj
    have hsame := Option.some.inj (hthread.symm.trans h.thread)
    have hrole := (Thread.act_role h.act).1
    rw [← hsame] at hrole
    cases hnext : seg.thread with
    | navigate runId next =>
      rw [hnext] at hrole
      obtain rfl := Option.some.inj hrole
      refine ⟨next, ?_⟩
      rw [← hnext]
      exact Program.getElem?_self h.thread
    | _ =>
      rw [hnext] at hrole
      cases hrole
  · exact ⟨pc, Program.getElem?_other hj hthread⟩

lemma Ran.log (h : Ran settings p index input t seg x) :
    Program.log (tr ++ [x]) = Program.log tr ++ [seg.report] := by
  rw [Program.log_concat, h.output]
  rfl

/-- The thread of a call that has drawn an identifier. -/
lemma own_unique (hp : ServiceHolds settings (Program.log tr) p) {i j : ℕ} {u : Thread}
    {phase phase' : Phase} (ht : p.threads[i]? = some t) (hu : p.threads[j]? = some u)
    (hown : t.own = some (id, phase)) (hother : u.own = some (id, phase')) : i = j :=
  hp.shared.index_unique ((hp.thread i t ht).own id phase hown)
    ((hp.thread j u hu).own id phase' hother)

/-- A run that has ended stays so while its call has exited. -/
lemma Ran.ended (hran : Ran settings p index input t seg x)
    (hp : ServiceHolds settings (Program.log tr) p) {j : ℕ} {response : NavigateResponse}
    (hcaller : p.threads[j]? = some (.navigate id (.returned (.ok response))))
    (hended : ∀ run, p.shared.runs.get? id = some run → ¬ run.Blocking) :
    ∀ run, seg.shared.runs.get? id = some run → ¬ run.Blocking := by
  intro run hrun hblocking
  obtain ⟨spawned, -, haction⟩ := Thread.act_action hran.act
  have hchange := haction.runChange id
  rw [hrun] at hchange
  have hnot : ∀ phase, phase ≠ .answered → t.own ≠ some (id, phase) := by
    intro phase hphase hown
    obtain rfl := own_unique hp hcaller hran.thread rfl hown
    have hsame := Option.some.inj (hcaller.symm.trans hran.thread)
    rw [← hsame] at hown
    exact hphase (Prod.mk.inj (Option.some.inj hown)).2.symm
  rcases hchange.blocking hblocking with ⟨before, hbefore, hblocked⟩ |
    ⟨-, admission, hreport⟩ | ⟨before, -, hown⟩
  · exact hended before hbefore hblocked
  · exact hnot .unreserved (by decide) (haction.reserved_own hreport).1
  · exact hnot .calling (by decide) hown

/-- The call that has run a segment. -/
lemma AttendInv.act_self (h : AttendInv tr p) (hran : Ran settings p index input t seg x)
    {runId : String} {pc : NavigatePc}
    (hthread : seg.thread = .navigate runId pc) :
    CallInv (tr ++ [x]) (Pool.afterSegment p index seg) index runId pc.attendance := by
  rcases Thread.act_attends hran.act with ⟨id, pc₀, part, rfl, hstep, rfl⟩ | ⟨-, -, hcaller, -⟩
  swap
  · have hrole := (Thread.act_role hran.act).1
    rw [hthread, hcaller] at hrole
    cases hrole
  obtain ⟨rfl, rfl⟩ := Thread.navigate.inj hthread
  have hself := h.call index id pc₀ hran.thread
  have htr : tr ⊆ tr ++ [x] := List.subset_append_left _ _
  have hold : ∀ navRunId, .attached id navRunId ∈ Program.log tr →
      .attached id navRunId ∈ Program.log (tr ++ [x]) := by
    intro navRunId hmem
    rw [hran.log]
    exact List.mem_append_left _ hmem
  have hnew : part.Quiet → ∀ navRunId, .attached id navRunId ∈ Program.log (tr ++ [x]) →
      .attached id navRunId ∈ Program.log tr := by
    intro hquiet navRunId hmem
    rw [hran.log] at hmem
    refine (List.mem_append.mp hmem).resolve_right fun hreport => ?_
    exact hquiet.mute id navRunId (List.mem_singleton.mp hreport).symm
  cases hstep with
  | goesOn hquiet hnext =>
    rw [hnext]
    exact hself.mono htr (hnew hquiet) hran.monitored
  | refused message hquiet hpc hnext =>
    rw [hnext]
    refine ⟨(fun ha => by cases ha), (fun ha => by cases ha), (fun _ ha => by cases ha),
      fun _ _ => Or.inl fun navRunId hmem => ?_⟩
    exact hself.early hpc navRunId (hnew hquiet navRunId hmem)
  | accepted navRunId hpc hspawned hreport hnext =>
    rw [hnext]
    refine ⟨(fun ha => by cases ha), fun _ => ⟨navRunId, ?_⟩, (fun _ ha => by cases ha),
      (fun _ ha => by cases ha)⟩
    rw [hran.log]
    exact List.mem_append_right _ (List.mem_singleton.mpr hreport.symm)
  | lost hquiet hpc hgone =>
    -- the registry keeps every run whose goal was accepted
    obtain ⟨navRunId, hmem⟩ := hself.attending hpc
    obtain ⟨⟨-, run, hrun, -⟩, -⟩ := h.owner id navRunId hmem
    cases hgone.symm.trans hrun
  | raised message revision binding snapshot hquiet hpc hinput hnext =>
    rw [hnext]
    refine ⟨(fun ha => by cases ha), (fun ha => by cases ha), (fun _ ha => by cases ha), ?_⟩
    intro _ hexited
    obtain rfl := Except.error.inj (Attendance.exited.inj hexited)
    refine Or.inr ⟨x, List.mem_append_right _ (List.mem_singleton.mpr rfl), revision, binding,
      snapshot, ?_, ?_⟩
    · rw [hran.pre, ← hpc]
      exact hran.thread
    · rw [hran.event, hinput]
  | monitored run hpc hspawned hreport hnext =>
    rw [hnext]
    refine ⟨(fun ha => by cases ha), (fun ha => by cases ha), ?_, (fun _ ha => by cases ha)⟩
    intro response hexited
    obtain rfl := Except.ok.inj (Attendance.exited.inj hexited)
    obtain ⟨navRunId, hmem⟩ := hself.attending hpc
    refine ⟨rfl, ⟨navRunId, hold navRunId hmem⟩, ?_⟩
    have hstarted : Thread.monitor id .getting ∈
        (part.segment (.navigate id)).spawned := by
      rw [Part.segment, hspawned]
      exact List.mem_singleton.mpr rfl
    obtain ⟨k, hk⟩ : ∃ k : ℕ, (Pool.afterSegment p index
        (part.segment (.navigate id))).threads[k]? = some (.monitor id .getting) :=
      Program.getElem?_spawned hstarted
    exact ⟨k, .getting, hk⟩

variable (h : AttendInv tr p) (hp : ServiceHolds settings (Program.log tr) p)
  (hran : Ran settings p index input t seg x)

include h hp hran

lemma AttendInv.act_call {j : ℕ} {runId : String} {pc : NavigatePc}
    (hthread : (Pool.afterSegment p index seg).threads[j]? = some (.navigate runId pc)) :
    CallInv (tr ++ [x]) (Pool.afterSegment p index seg) j runId pc.attendance := by
  rcases Program.getElem?_cases hran.thread hthread with ⟨rfl, hsame⟩ | ⟨hj, hold⟩ | ⟨-, hspawned⟩
  · exact h.act_self hran hsame.symm
  · refine (h.call j runId pc hold).mono (List.subset_append_left _ _) ?_ hran.monitored
    intro navRunId hmem
    rw [hran.log] at hmem
    refine (List.mem_append.mp hmem).resolve_right fun hreport => ?_
    -- only the call that has drawn the identifier has its goal accepted
    have hown := Thread.act_accepted hran.act (List.mem_singleton.mp hreport).symm
    exact hj (own_unique hp hold hran.thread rfl hown)
  · cases Thread.act_spawned hran.act _ hspawned

lemma AttendInv.act_monitor {k : ℕ} {runId : String} {pc : MonitorPc}
    (hthread : (Pool.afterSegment p index seg).threads[k]? = some (.monitor runId pc)) :
    MonitorInv (tr ++ [x]) (Pool.afterSegment p index seg) k runId pc := by
  have hx : x ∈ tr ++ [x] := List.mem_append_right _ (List.mem_singleton.mpr rfl)
  rcases Program.getElem?_cases hran.thread hthread with ⟨rfl, hsame⟩ | ⟨hk, hold⟩ | ⟨-, hspawned⟩
  · have hrole := (Thread.act_role hran.act).2
    rw [← hsame] at hrole
    cases t with
    | monitor id pc₀ =>
      obtain rfl := Option.some.inj hrole
      obtain ⟨j, response, hcaller⟩ := (h.monitor k runId pc₀ hran.thread).caller
      refine ⟨⟨j, response, hran.exited hcaller⟩, ?_⟩
      rintro rfl
      rcases Thread.act_attends hran.act with ⟨_, _, _, hother, -⟩ | ⟨-, -, -, hnext⟩
      · cases hother
      · rcases hnext runId pc₀ rfl hsame.symm with ⟨rfl, hstop⟩ | hended
        · refine Or.inl ⟨x, hx, ?_, ?_⟩
          · rw [hran.pre]
            exact hran.thread
          · rw [hran.event, hstop]
        · exact Or.inr hended
    | _ => cases hrole
  · obtain ⟨⟨j, response, hcaller⟩, hended⟩ := h.monitor k runId pc hold
    refine ⟨⟨j, response, hran.exited hcaller⟩, fun hpc => ?_⟩
    rcases hended hpc with ⟨z, hz, hstops⟩ | hended
    · exact Or.inl ⟨z, List.mem_append_left _ hz, hstops⟩
    · exact Or.inr (hran.ended hp hcaller hended)
  · obtain ⟨hsame, response, hcaller⟩ := Thread.act_monitor hran.act hspawned rfl
    obtain ⟨-, rfl⟩ := Thread.monitor.inj hsame
    refine ⟨⟨index, response, ?_⟩, fun hpc => by cases hpc⟩
    rw [← hcaller]
    exact Program.getElem?_self hran.thread

/-- **Every segment keeps the accepted goals attended.** -/
theorem AttendInv.ran : AttendInv (tr ++ [x]) (Pool.afterSegment p index seg) := by
  obtain ⟨spawned, -, haction⟩ := Thread.act_action hran.act
  refine ⟨fun j runId pc => h.act_call hp hran, fun k runId pc => h.act_monitor hp hran, ?_, ?_⟩
  · intro runId navRunId hmem
    rw [hran.log] at hmem
    rcases List.mem_append.mp hmem with hmem | hreport
    · obtain ⟨hknown, j, pc, hthread⟩ := h.owner runId navRunId hmem
      exact ⟨haction.known ((hp.thread index t hran.thread).calling runId) hknown, j,
        hran.caller hthread⟩
    · have hreport := (List.mem_singleton.mp hreport).symm
      refine ⟨haction.attached_known hreport, index, ?_⟩
      have hown := Thread.act_accepted hran.act hreport
      cases t with
      | navigate id pc =>
        obtain ⟨rfl, -⟩ := Prod.mk.inj (Option.some.inj hown)
        exact hran.caller hran.thread
      | _ => cases hown
  · intro runId run hrun hnav
    rw [hran.log]
    have hchange := haction.runChange runId
    rw [show seg.shared.runs.get? runId = some run from hrun] at hchange
    rcases hchange.named hnav with ⟨before, hbefore, hsame⟩ | hreport
    · have hmem := h.named runId before hbefore (by rw [hsame]; exact hnav)
      rw [hsame] at hmem
      exact List.mem_append_left _ hmem
    · exact List.mem_append_right _ (List.mem_singleton.mpr hreport.symm)

end Invariant

/-! ## Runs of the service -/

lemma attendInv_run (settings : Settings) (es : List (PoolEvent Input Request)) :
    AttendInv ((service settings).machine.trace idleService es)
      ((service settings).machine.final idleService es) := by
  refine (service settings).machine.guarded_induction
    (C := fun tr x => ServiceHolds settings (Program.log tr) x.pre) (motive := AttendInv)
    ⟨(fun _ _ _ h => by cases h), (fun _ _ _ h => by cases h), (fun _ _ h => by cases h),
      (fun _ _ h => by cases h)⟩ ?_ es fun l x r hx => (reliable_at hx).1
  intro tr p e hp h
  rcases (service settings).step_cases p e with hidle | ⟨request, s, t, rfl, hcall, hcalled⟩ |
    ⟨index, input, t, seg, rfl, ht, hact, hacted⟩
  · have hstep : (service settings).machine.step p e = (none, p) := hidle
    rw [hstep]
    exact h.wait (congrArg Prod.fst hidle)
  · have hstep : (service settings).machine.step p (.call request) =
      (none, ⟨s, p.threads ++ [t]⟩) := hcalled
    rw [hstep]
    exact h.called hp (congrArg Prod.fst hcalled) hcall
  · have hstep : (service settings).machine.step p (.act index input) =
      (some seg.report, Pool.afterSegment p index seg) := hacted
    rw [hstep]
    exact h.ran hp ⟨ht, hact, rfl, rfl, congrArg Prod.fst hacted⟩

/-- **No accepted goal is left unattended**, but for an exception of Atlas in the recheck, in every
run of the service. -/
theorem goalsAttended (settings : Settings) (es : List (PoolEvent Input Request)) :
    GoalsAttended settings ((service settings).machine.trace idleService es)
      ((service settings).machine.final idleService es) := by
  have h := attendInv_run settings es
  have hp := service_reliable settings es
  constructor
  · intro runId navRunId hmem
    obtain ⟨⟨-, run, hrun, hsame⟩, j, pc, hthread⟩ := h.owner runId navRunId hmem
    refine ⟨⟨run, hrun, hsame⟩, j, pc, hthread, ?_⟩
    have hcall := h.call j runId pc hthread
    cases hpc : pc.attendance with
    | early => exact absurd hmem (hcall.early hpc navRunId)
    | attending => exact .attending hpc
    | exited result =>
      cases result with
      | ok response =>
        obtain ⟨hid, -, hmonitored⟩ := hcall.succeeded response hpc
        exact .monitored response hpc hid hmonitored
      | error message =>
        refine .raised message hpc ((hcall.failed message hpc).resolve_left fun hnone =>
          hnone navRunId hmem) ?_
        -- a monitor is started by a call that has succeeded
        rintro ⟨k, monitor, hmonitor⟩
        obtain ⟨i, response, hcaller⟩ := (h.monitor k runId monitor hmonitor).caller
        obtain rfl := own_unique hp hcaller hthread rfl rfl
        obtain ⟨-, rfl⟩ := Thread.navigate.inj (Option.some.inj (hcaller.symm.trans hthread))
        cases hpc
  · intro index runId message hthread hquiet
    have hnone := ((h.call index runId _ hthread).failed message rfl).resolve_right
      (by rintro ⟨x, hx, hraised⟩; exact hquiet x hx hraised)
    refine ⟨hnone, fun run hrun => ?_⟩
    have hempty : run.navRunId = "" := by
      by_contra hnav
      exact hnone run.navRunId (h.named runId run hrun hnav)
    refine ⟨hempty, ?_⟩
    by_cases hblocking : run.Blocking
    · exact Or.inl hblocking
    · exact Or.inr ((service_epoch settings es).shared.early runId run hrun hempty hblocking)
  · intro index runId response hthread
    exact ((h.call index runId _ hthread).succeeded response rfl).2.1
  · intro index runId hthread
    exact (h.monitor index runId .returned hthread).ended rfl

end UnitreeGo2.SemanticNavigation
