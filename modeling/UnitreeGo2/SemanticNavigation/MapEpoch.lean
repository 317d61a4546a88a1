import UnitreeGo2.SemanticNavigation.SingleFlight

/-!
# Runs are bound to the map epoch of their reservation

A run that was reserved before a transition of the map lifecycle is invalidated by its callback,
also if the map switches back.  An invalidated run stays failed, and its cancellation is in some
thread's hands until it was reported as unconfirmed.
-/

namespace UnitreeGo2.SemanticNavigation

/-! ## What is promised -/

/-- The run is terminal, or invalidated and failed. -/
def Run.Settled (run : Run) : Prop :=
  ¬ run.Blocking ∨ (run.invalidated = true ∧ run.state = "FAILED")

/-- A call, a callback or a cancel worker has claimed the cancellation of the run. -/
def CancelClaimed (p : Pool Shared Thread) (id navRunId : String) : Prop :=
  ∃ (j : ℕ) (u : Thread), p.threads[j]? = some u ∧ (id, navRunId) ∈ u.view.claims

/-- A status reply to a request without a navigation run has ended the run. -/
def EndedEarly (lib : Library) (log : List Report) (id : String) : Prop :=
  ∃ reply : StatusReply, .statusReply id "" reply ∈ log ∧ ¬ reply.Sound lib ""

/-- What the service promises instead: a callback catches the runs of its own guard, the thread
that has claimed a cancellation starts the cancel worker, and a goal may be reserved for a
revision that the guard has just left if the callback is still to come. -/
structure EpochBound (settings : Settings) (tr : List ServiceStep) (p : Pool Shared Thread) :
    Prop where
  callback : ∀ revision id admission,
    .invalidated (.callback admission.guard revision) ∈ Program.log tr →
    .reserved id admission ∈ Program.log tr → admission.snapshot.revision < revision →
    ∀ run, p.shared.runs.get? id = some run →
      run.Settled ∨ EndedEarly settings.toLibrary (Program.log tr) id
  stop : ∀ l x r id run, tr = l ++ x :: r → x.output = some (.invalidated .stop) →
    x.post.shared.runs.get? id = some run → ∀ run', p.shared.runs.get? id = some run' →
    run'.Settled ∨ EndedEarly settings.toLibrary (Program.log tr) id
  failed : ∀ l x r id run, tr = l ++ x :: r → x.pre.shared.runs.get? id = some run →
    run.invalidated = true → ∀ run', p.shared.runs.get? id = some run' →
    run'.invalidated = true ∧ run'.state = "FAILED"
  cancel : ∀ id run, p.shared.runs.get? id = some run → run.invalidated = true →
    run.navRunId ≠ "" → run.Blocking →
    CancelClaimed p id run.navRunId ∨ .unconfirmed id ∈ Program.log tr
  current : ∀ x ∈ tr, ∀ id admission, x.output = some (.reserved id admission) →
    x.pre.shared.binding = some ⟨admission.guard, admission.subscriber, admission.topic⟩ ∧
    x.pre.shared.accepting = true ∧
    ∃ guard, x.pre.shared.guards[admission.guard]? = some guard ∧
      (guard.revision = admission.snapshot.revision ∨
        ∃ transition, admission.snapshot.revision < transition.revision ∧ ¬ transition.Initial ∧
          ∃ (j : ℕ) (u : Thread), x.pre.threads[j]? = some u ∧
            (admission.guard, transition) ∈ u.view.announces)

/-! ## What a segment does to guards and binding -/

section Segments

variable {settings : Settings} {s s' : Shared} {index : ℕ} {t t' : Thread} {report : Report}
  {spawned : List Spawn} {id : String} {v v' : View}

/-- A guard stays at its revision, or moves on by a transition that the segment reports. -/
def GuardMoves (s s' : Shared) (report : Report) (guard : ℕ) : Prop :=
  ∀ a, s.guards[guard]? = some a → ∃ b, s'.guards[guard]? = some b ∧
    ((b.revision = a.revision ∧ b.state = a.state) ∨
      ∃ transition, report = .moved guard transition ∧ transition.revision = a.revision + 1 ∧
        b.revision = a.revision + 1 ∧ transition.previous = a.state)

lemma GuardMoves.of_eq (h : s'.guards = s.guards) (guard : ℕ) : GuardMoves s s' report guard :=
  fun a ha => ⟨a, by rw [h, ha], Or.inl ⟨rfl, rfl⟩⟩

lemma Shared.moveGuard_guards (s : Shared) (moved guard : ℕ)
    {f : LifecycleGuard → LifecycleGuard × Option LifecycleTransition}
    (hf : ∀ g : LifecycleGuard, g.Moves (f g).2 (f g).1) :
    GuardMoves s (s.moveGuard moved f).1 (.ofTransition moved (s.moveGuard moved f).2) guard := by
  intro a ha
  rw [Shared.moveGuard]
  cases hg : s.guards[moved]? with
  | none => exact ⟨a, ha, Or.inl ⟨rfl, rfl⟩⟩
  | some g =>
    by_cases hsame : guard = moved
    · subst hsame
      obtain rfl : a = g := Option.some.inj (ha.symm.trans hg)
      refine ⟨(f a).1, List.getElem?_set_self (List.getElem?_eq_some_iff.mp ha).1, ?_⟩
      cases htransition : (f a).2 with
      | none => exact Or.inl ((hf a).still htransition)
      | some transition =>
        obtain ⟨hnext, hrevision, hprevious⟩ := (hf a).next transition htransition
        exact Or.inr ⟨transition, by simp [Report.ofTransition], hnext, hrevision,
          hprevious⟩
    · exact ⟨a, by rw [List.getElem?_set_ne (Ne.symm hsame), ha], Or.inl ⟨rfl, rfl⟩⟩

lemma Work.guard (h : Work s index v s' report spawned v') (guard : ℕ) :
    GuardMoves s s' report guard := by
  cases h with
  | announced moved f hf => exact s.moveGuard_guards moved guard hf
  | rebound guards =>
    intro a ha
    refine ⟨a, ?_, Or.inl ⟨rfl, rfl⟩⟩
    rw [List.getElem?_append_left (List.getElem?_eq_some_iff.mp ha).1, ha]
  | _ => exact .of_eq rfl guard

lemma Action.guard (h : Action settings s index t s' report spawned t') (guard : ℕ) :
    GuardMoves s s' report guard := by
  cases h with
  | work _ _ _ _ hwork => exact hwork.guard guard
  | _ => exact .of_eq rfl guard

/-- A thread that has to announce a transition has reported it, and the guard has gone on. -/
lemma Work.announces (h : Work s index v s' report spawned v') {a : ℕ × LifecycleTransition}
    (ha : a ∈ v'.announces) :
    a ∈ v.announces ∨ (report = .moved a.1 a.2 ∧
      ∃ g, s'.guards[a.1]? = some g ∧ a.2.revision ≤ g.revision) := by
  cases h with
  | rest => exact Or.inl ha
  | announced guard f hf =>
    right
    obtain ⟨transition, htransition, rfl⟩ := List.mem_map.mp ha
    rw [Option.mem_toList] at htransition
    rw [Shared.moveGuard] at htransition ⊢
    cases hg : s.guards[guard]? with
    | none =>
      rw [hg] at htransition
      cases htransition
    | some g =>
      rw [hg] at htransition
      dsimp only at htransition ⊢
      obtain ⟨hnext, hrevision, -⟩ := (hf g).next transition htransition
      have hmoved : (f g).2 = some transition := htransition
      refine ⟨by rw [hmoved]; rfl, (f g).1, ?_, by omega⟩
      exact List.getElem?_set_self (List.getElem?_eq_some_iff.mp hg).1
  | _ => cases ha

/-- What a thread has to announce is announced later, ignored, or has invalidated the runs. -/
lemma Work.announced_of (h : Work s index v s' report spawned v') {a : ℕ × LifecycleTransition}
    (ha : a ∈ v.announces) :
    a ∈ v'.announces ∨ a.2.Initial ∨ report = .invalidated (.callback a.1 a.2.revision) := by
  cases h with
  | rest => exact Or.inl ha
  | ignored guard transition hinitial hv =>
    rw [hv] at ha
    rw [List.mem_singleton.mp ha]
    exact Or.inr (Or.inl hinitial)
  | called guard transition reason _ hv =>
    rw [hv] at ha
    rw [List.mem_singleton.mp ha]
    exact Or.inr (Or.inr rfl)
  | announced _ _ _ hv | invalidated _ _ _ hv | handed _ _ _ hv | released hv
  | rebound _ _ _ _ _ hv | joined _ _ _ hv =>
    rw [hv] at ha
    cases ha

/-- The report of a transition leaves its callback to the thread. -/
lemma Work.announces_of_moved (h : Work s index v s' report spawned v') {guard : ℕ}
    {transition : LifecycleTransition} (hreport : report = .moved guard transition) :
    (guard, transition) ∈ v'.announces := by
  cases h with
  | announced moved f =>
    cases hmove : (s.moveGuard moved f).2 with
    | none =>
      rw [hmove] at hreport
      cases hreport
    | some next =>
      rw [hmove] at hreport
      obtain ⟨rfl, rfl⟩ := Report.moved.inj hreport
      exact List.mem_singleton.mpr rfl
  | _ => cases hreport

/-- A run after it was invalidated. -/
lemma Run.settled_invalidate (run : Run) (reason : String) : (run.invalidate reason).Settled := by
  by_cases hblocking : run.Blocking
  · exact Or.inr (Run.invalidate_of_blocking hblocking reason)
  · rw [Run.invalidate_of_terminal hblocking]
    exact Or.inl hblocking

lemma Registry.settled_of_invalidate {r : Registry} {reason : String} {run : Run}
    (hrun : (r.invalidateNonterminal reason).1.get? id = some run) : run.Settled := by
  have hget : (r.invalidateNonterminal reason).1.get? id =
      (r.get? id).map fun run => run.invalidate reason :=
    Registry.get?_map fun run => run.invalidate_id reason
  rw [hget] at hrun
  obtain ⟨before, -, rfl⟩ := Option.map_eq_some_iff.mp hrun
  exact before.settled_invalidate reason

/-- An invalidation leaves settled runs only, and a callback invalidates while the service lock
is free. -/
lemma Work.invalidates (h : Work s index v s' report spawned v') {cause : Cause}
    (hreport : report = .invalidated cause) :
    (∀ id run, s'.runs.get? id = some run → run.Settled) ∧
      ∀ guard revision, cause = .callback guard revision → s.lock = none ∧
        ∃ transition, (guard, transition) ∈ v.announces ∧ transition.revision = revision := by
  cases h with
  | called guard transition reason _ hv hlock =>
    obtain rfl := Report.invalidated.inj hreport
    refine ⟨fun id run hrun => Registry.settled_of_invalidate hrun, ?_⟩
    intro other revision hcause
    obtain ⟨rfl, rfl⟩ := Cause.callback.inj hcause
    exact ⟨hlock, transition, by rw [hv]; exact List.mem_singleton.mpr rfl, rfl⟩
  | invalidated reason given hgiven =>
    obtain rfl := Report.invalidated.inj hreport
    exact ⟨fun id run hrun => Registry.settled_of_invalidate hrun,
      fun guard revision hcause => absurd hcause (hgiven guard revision)⟩
  | announced guard f =>
    cases hmove : (s.moveGuard guard f).2 <;> rw [hmove] at hreport <;> cases hreport
  | _ => cases hreport

/-- The binding changes while the service lock is free only. -/
lemma Work.binding (h : Work s index v s' report spawned v') :
    (s'.binding = s.binding ∧ s'.accepting = s.accepting) ∨ s.lock = none := by
  cases h with
  | rebound _ _ _ _ hlock => exact Or.inr hlock
  | announced guard f =>
    rw [Shared.moveGuard]
    split <;> exact Or.inl ⟨rfl, rfl⟩
  | _ => exact Or.inl ⟨rfl, rfl⟩

lemma Action.announces (h : Action settings s index t s' report spawned t')
    {a : ℕ × LifecycleTransition} (ha : a ∈ t'.view.announces) :
    a ∈ t.view.announces ∨ (report = .moved a.1 a.2 ∧
      ∃ g, s'.guards[a.1]? = some g ∧ a.2.revision ≤ g.revision) := by
  cases h with
  | work _ _ _ _ hwork => exact hwork.announces ha
  | stray runId pc _ _ hview =>
    rw [show (Thread.navigate runId pc).view = {} from hview] at ha
    cases ha
  | attached runId navRunId detail run pc _ _ _ _ _ hpc =>
    rw [show (Thread.navigate runId pc).view = _ from hpc] at ha
    cases ha
  | asked _ _ _ _ _ _ _ _ _ _ _ hview' | updated _ _ _ _ _ _ _ _ _ _ _ _ _ _ hview'
  | unknown _ _ _ _ _ _ _ _ _ _ _ _ _ hview' | lost _ _ _ _ _ _ _ hview' =>
    rw [hview'] at ha
    cases ha
  | polled claim reply progress =>
    simp only [CancelProgress.polled] at ha
    split at ha
    · split at ha <;> cases ha
    · cases ha
  | retried claim pc pc' _ _ hpc' =>
    rw [show (Thread.cancelWorker claim pc').view = _ from hpc'] at ha
    cases ha
  | _ => cases ha

lemma Action.announced_of (h : Action settings s index t s' report spawned t')
    {a : ℕ × LifecycleTransition} (ha : a ∈ t.view.announces) :
    a ∈ t'.view.announces ∨ a.2.Initial ∨ report = .invalidated (.callback a.1 a.2.revision) := by
  cases h with
  | work _ _ _ _ hwork => exact hwork.announced_of ha
  | validated _ _ _ _ _ _ ht | reserved _ _ _ _ _ _ _ ht | claimed _ _ _ _ ht
  | submitted _ _ _ _ _ _ ht | confirmed _ _ _ _ ht | marked _ _ _ _ _ _ ht =>
    rw [ht] at ha
    cases ha
  | polled claim reply progress ht =>
    rw [ht] at ha
    cases ha
  | stray _ _ _ _ _ hview | rejected _ _ _ hview | ambiguous _ _ _ _ _ hview
  | attached _ _ _ _ _ _ hview | asked _ _ _ _ _ _ _ _ _ _ hview
  | updated _ _ _ _ _ _ _ _ _ _ _ _ _ hview | unknown _ _ _ _ _ _ _ _ _ _ _ _ hview
  | seen _ _ _ _ _ hview | lost _ _ _ hview =>
    rw [hview] at ha
    cases ha
  | retried claim pc pc' ht hpc =>
    rw [ht, show (Thread.cancelWorker claim pc).view = _ from hpc] at ha
    cases ha

/-- A report that only work can make. -/
lemma Action.work_of (h : Action settings s index t s' report spawned t')
    (hreport : (∃ guard transition, report = .moved guard transition) ∨
      ∃ cause, report = .invalidated cause) :
    Work s index t.view s' report spawned t'.view := by
  cases h with
  | work _ _ _ _ hwork => exact hwork
  | marked claim outcome shown =>
    rcases hreport with ⟨guard, transition, hreport⟩ | ⟨cause, hreport⟩ <;>
      split at hreport <;> cases hreport
  | _ => rcases hreport with ⟨guard, transition, hreport⟩ | ⟨cause, hreport⟩ <;> cases hreport

lemma Action.binding (h : Action settings s index t s' report spawned t') :
    (s'.binding = s.binding ∧ s'.accepting = s.accepting) ∨ s.lock = none := by
  cases h with
  | work _ _ _ _ hwork => exact hwork.binding
  | _ => exact Or.inl ⟨rfl, rfl⟩

/-! ## What a segment leaves of a run -/

lemma RunChange.invalidated_of {run run' : Run}
    (h : RunChange settings s t report id (some run) (some run'))
    (hinvalidated : run.invalidated = true) : run'.invalidated = true := by
  cases h with
  | same | claimed | marked => exact hinvalidated
  | ambiguous | entered | confirmed => exact (run.updateRemote_invalidated _ _).trans hinvalidated
  | attached => exact (run.attach_invalidated _ _).trans hinvalidated
  | invalidated _ reason =>
    rw [Run.invalidate]
    split
    · exact hinvalidated
    · rfl

/-- An invalidated run is failed. -/
lemma RunChange.failed {before : Option Run} {run' : Run}
    (h : RunChange settings s t report id before (some run'))
    (hbefore : ∀ run, before = some run → run.invalidated = true → run.state = "FAILED")
    (hinvalidated : run'.invalidated = true) : run'.state = "FAILED" := by
  cases h with
  | same => exact hbefore run' rfl hinvalidated
  | reserved _ _ _ _ _ _ hvalid =>
    rw [hvalid] at hinvalidated
    cases hinvalidated
  | ambiguous run | entered run | confirmed run =>
    have hvalid : run.invalidated = true :=
      (run.updateRemote_invalidated _ _).symm.trans hinvalidated
    exact (Run.updateRemote_state hvalid _ _).trans (hbefore run rfl hvalid)
  | attached run =>
    rw [Run.attach_invalidated] at hinvalidated
    exact (Run.attach_of_invalidated hinvalidated _ _).1.trans (hbefore run rfl hinvalidated)
  | invalidated run reason =>
    by_cases hblocking : run.Blocking
    · exact (Run.invalidate_of_blocking hblocking reason).2
    · rw [Run.invalidate_of_terminal hblocking] at hinvalidated ⊢
      exact hbefore run rfl hinvalidated
  | claimed run | marked run => exact hbefore run rfl hinvalidated

/-- A settled run stays settled, unless it gets its navigation run after it was ended. -/
lemma RunChange.settled {run run' : Run}
    (h : RunChange settings s t report id (some run) (some run'))
    (hfailed : run'.invalidated = true → run'.state = "FAILED") (hsettled : run.Settled) :
    run'.Settled ∨ (¬ run.Blocking ∧ t.own = some (id, .calling)) := by
  rcases hsettled with hended | ⟨hinvalidated, -⟩
  · cases h with
    | same => exact Or.inl (Or.inl hended)
    | ambiguous _ _ hown | attached _ _ _ hown => exact Or.inr ⟨hended, hown⟩
    | entered | confirmed =>
      exact Or.inl (Or.inl fun h => hended ((Run.updateRemote_blocking _ _).mp h).1)
    | invalidated => exact Or.inl (Run.settled_invalidate _ _)
    | claimed | marked => exact Or.inl (Or.inl hended)
  · have hinvalidated' := h.invalidated_of hinvalidated
    exact Or.inl (Or.inr ⟨hinvalidated', hfailed hinvalidated'⟩)

/-- What holds of the registry and of the guards. -/
structure EpochInv (lib : Library) (log : List Report) (s : Shared) : Prop where
  failed : ∀ id run, s.runs.get? id = some run → run.invalidated = true → run.state = "FAILED"
  /-- A run that is terminal before it has its navigation run was ended early. -/
  early : ∀ id run, s.runs.get? id = some run → run.navRunId = "" → ¬ run.Blocking →
    EndedEarly lib log id
  caught : ∀ revision id admission, .invalidated (.callback admission.guard revision) ∈ log →
    .reserved id admission ∈ log → admission.snapshot.revision < revision →
    ∀ run, s.runs.get? id = some run → run.Settled ∨ EndedEarly lib log id
  stopped : ∀ l r id admission, log = l ++ .invalidated .stop :: r → .reserved id admission ∈ l →
    ∀ run, s.runs.get? id = some run → run.Settled ∨ EndedEarly lib log id
  passed : ∀ guard revision, .invalidated (.callback guard revision) ∈ log →
    ∃ g, s.guards[guard]? = some g ∧ revision ≤ g.revision
  unclaimed : ∀ id run, s.runs.get? id = some run → run.navRunId = "" → run.cancelStarted = false
  claimed : ∀ id run, s.runs.get? id = some run → run.invalidated = true → run.navRunId ≠ "" →
    run.Blocking → run.cancelStarted = true ∨ .unconfirmed id ∈ log
  logged : ∀ id run, s.runs.get? id = some run → ∃ admission, .reserved id admission ∈ log

/-- What a thread relies on beyond the registry. -/
structure EpochReliable (log : List Report) (s : Shared) (t : Thread) : Prop where
  /-- An admission that was validated under the service lock. -/
  reserving : ∀ runId admission target, t = .navigate runId (.reserving admission target) →
    s.binding = some ⟨admission.guard, admission.subscriber, admission.topic⟩ ∧
    s.accepting = true ∧
    (∀ revision, .invalidated (.callback admission.guard revision) ∈ log →
      revision ≤ admission.snapshot.revision) ∧
    ∃ g, s.guards[admission.guard]? = some g ∧
      ((g.revision = admission.snapshot.revision ∧ g.state = admission.snapshot.state ∧
          g.state ≠ none) ∨
        ∃ transition, .moved admission.guard transition ∈ log ∧
          transition.revision = admission.snapshot.revision + 1 ∧ transition.previous ≠ none)
  announces : ∀ a ∈ t.view.announces, ∃ g, s.guards[a.1]? = some g ∧ a.2.revision ≤ g.revision
  /-- A cancel worker that leaves the claim closed has seen its run ended. -/
  marking : ∀ claim outcome shown, t = .cancelWorker claim (.marking outcome shown) →
    (outcome.terminal || shown.remoteTerminal) = true →
    ∀ run, s.runs.get? claim.semanticRunId = some run → ¬ run.Blocking

lemma Action.guard_le (h : Action settings s index t s' report spawned t') {guard revision : ℕ}
    (hle : ∃ g, s.guards[guard]? = some g ∧ revision ≤ g.revision) :
    ∃ g', s'.guards[guard]? = some g' ∧ revision ≤ g'.revision := by
  obtain ⟨g, hg, hle⟩ := hle
  obtain ⟨g', hg', hsame | ⟨-, -, -, hnext, -⟩⟩ := h.guard guard g hg
  · exact ⟨g', hg', by omega⟩
  · exact ⟨g', hg', by omega⟩

lemma EndedEarly.mono {lib : Library} {log log' : List Report} (h : EndedEarly lib log id)
    (hlog : log ⊆ log') : EndedEarly lib log' id := by
  obtain ⟨reply, hreply, hsound⟩ := h
  exact ⟨reply, hlog hreply, hsound⟩

/-- A reservation is made by a call that has validated its admission. -/
lemma Action.reserving_of (h : Action settings s index t s' report spawned t')
    {admission : Admission} (hreport : report = .reserved id admission) :
    ∃ target, t = .navigate id (.reserving admission target) := by
  cases h with
  | reserved runId given target active runs _ _ ht =>
    obtain ⟨rfl, rfl⟩ := Report.reserved.inj hreport
    exact ⟨target, ht⟩
  | work _ _ _ _ hwork =>
    rcases hwork.report_cases with h | ⟨guard, transition, h⟩ | ⟨cause, h⟩ <;>
      rw [hreport] at h <;> cases h
  | marked claim outcome shown =>
    split at hreport <;> cases hreport
  | _ => cases hreport

/-- A run that a thread knows of has its navigation run. -/
lemma Shared.Known.navRunId_ne {navRunId : String} {run : Run} (h : s.Known (id, navRunId))
    (hrun : s.runs.get? id = some run) : run.navRunId ≠ "" := by
  obtain ⟨hnav, found, hfound, hsame⟩ := h
  obtain rfl := Option.some.inj (hrun.symm.trans hfound)
  rw [hsame]
  exact hnav

section Act

variable {log : List Report}

lemma EpochInv.act_early (h : EpochInv settings.toLibrary log s)
    (ht : Reliable settings log s index t)
    (hact : Action settings s index t s' report spawned t') {run' : Run}
    (hrun' : s'.runs.get? id = some run') (hnav : run'.navRunId = "") (hended : ¬ run'.Blocking) :
    EndedEarly settings.toLibrary (log ++ [report]) id := by
  have hchange := hact.runChange id
  rw [hrun'] at hchange
  generalize hbefore : s.runs.get? id = before at hchange
  have hold : ∀ run, before = some run → run.navRunId = "" → ¬ run.Blocking →
      EndedEarly settings.toLibrary (log ++ [report]) id := fun run hrun hempty hnot =>
    (h.early id run (hbefore.trans hrun) hempty hnot).mono (List.subset_append_left _ _)
  cases hchange with
  | same => exact hold run' rfl hnav hended
  | reserved _ _ _ _ _ _ _ _ hblocking => exact absurd hblocking hended
  | ambiguous run =>
    rw [Run.updateRemote_navRunId] at hnav
    exact hold run rfl hnav fun hblocking =>
      hended ((Run.updateRemote_unknown_blocking _).mpr hblocking)
  | attached run navRunId _ _ hnonempty =>
    rw [Run.attach_navRunId] at hnav
    exact absurd hnav hnonempty
  | entered run navRunId reply hasks hreport =>
    rw [Run.entered, Run.updateRemote_navRunId] at hnav
    by_cases hblocking : run.Blocking
    · -- the reply was asked for without a navigation run, and has ended the run
      have hempty : navRunId = "" := by
        by_contra hnonempty
        exact ((ht.asks _ hasks).resolve_left hnonempty).navRunId_ne hbefore hnav
      subst hempty
      refine ⟨reply, List.mem_append_right _ (List.mem_singleton.mpr hreport.symm), ?_⟩
      intro hsound
      rcases Run.entered_blocking hblocking hsound with hstays | ⟨hne, -⟩
      · exact hended hstays
      · exact hne rfl
    · exact hold run rfl hnav hblocking
  | confirmed run navRunId outcome hverdict =>
    rw [Run.updateRemote_navRunId] at hnav
    exact absurd hnav ((ht.claims _ (Thread.claims_of_verdict hverdict)).navRunId_ne hbefore)
  | invalidated run =>
    rw [Run.invalidate_navRunId] at hnav
    exact hold run rfl hnav fun hblocking => hended ((Run.invalidate_blocking _).mpr hblocking)
  | claimed run | marked run => exact hold run rfl hnav hended

/-- A run that was settled, or ended early, stays so. -/
lemma EpochInv.act_settled (h : EpochInv settings.toLibrary log s)
    (ht : Reliable settings log s index t)
    (hact : Action settings s index t s' report spawned t')
    (hfailed : ∀ id run, s'.runs.get? id = some run → run.invalidated = true →
      run.state = "FAILED") {admission : Admission} (hreserved : .reserved id admission ∈ log)
    (hbefore : ∀ run, s.runs.get? id = some run →
      run.Settled ∨ EndedEarly settings.toLibrary log id) {run' : Run}
    (hrun' : s'.runs.get? id = some run') :
    run'.Settled ∨ EndedEarly settings.toLibrary (log ++ [report]) id := by
  have hchange := hact.runChange id
  rw [hrun'] at hchange
  cases hfound : s.runs.get? id with
  | none =>
    rw [hfound] at hchange
    cases hchange with
    | reserved _ _ _ _ _ _ _ _ _ hthread =>
      exact absurd hreserved ((ht.unreserved id (by rw [hthread]; rfl)).2 admission)
  | some run =>
    rw [hfound] at hchange
    rcases hbefore run hfound with hsettled | hearly
    · rcases hchange.settled (hfailed id run' hrun') hsettled with hsettled' | ⟨hended, hown⟩
      · exact Or.inl hsettled'
      · obtain ⟨waiting, hwaiting, hempty⟩ := ht.calling id hown
        obtain rfl := Option.some.inj (hfound.symm.trans hwaiting)
        exact Or.inr ((h.early id run hfound hempty hended).mono (List.subset_append_left _ _))
    · exact Or.inr (hearly.mono (List.subset_append_left _ _))

lemma EpochInv.act_caught (h : EpochInv settings.toLibrary log s)
    (ht : Reliable settings log s index t) (he : EpochReliable log s t)
    (hact : Action settings s index t s' report spawned t')
    (hfailed : ∀ id run, s'.runs.get? id = some run → run.invalidated = true →
      run.state = "FAILED") {revision : ℕ} {admission : Admission}
    (hcallback : .invalidated (.callback admission.guard revision) ∈ log ++ [report])
    (hreserved : .reserved id admission ∈ log ++ [report])
    (hlt : admission.snapshot.revision < revision) {run' : Run}
    (hrun' : s'.runs.get? id = some run') :
    run'.Settled ∨ EndedEarly settings.toLibrary (log ++ [report]) id := by
  rcases List.mem_append.mp hcallback with hcallback | hcallback
  swap
  · have hreport := (List.mem_singleton.mp hcallback).symm
    exact Or.inl (((hact.work_of (Or.inr ⟨_, hreport⟩)).invalidates hreport).1 id run' hrun')
  rcases List.mem_append.mp hreserved with hreserved | hreserved
  swap
  · -- a reservation that comes after the callback was validated after it
    obtain ⟨target, hthread⟩ := hact.reserving_of (List.mem_singleton.mp hreserved).symm
    obtain ⟨-, -, hnewer, -⟩ := he.reserving id admission target hthread
    exact absurd (hnewer revision hcallback) (by omega)
  exact h.act_settled ht hact hfailed hreserved
    (h.caught revision id admission hcallback hreserved hlt) hrun'

lemma EpochInv.act_stopped (h : EpochInv settings.toLibrary log s)
    (ht : Reliable settings log s index t)
    (hact : Action settings s index t s' report spawned t')
    (hfailed : ∀ id run, s'.runs.get? id = some run → run.invalidated = true →
      run.state = "FAILED") {l r : List Report} {admission : Admission}
    (hlog : log ++ [report] = l ++ .invalidated .stop :: r)
    (hreserved : .reserved id admission ∈ l) {run' : Run} (hrun' : s'.runs.get? id = some run') :
    run'.Settled ∨ EndedEarly settings.toLibrary (log ++ [report]) id := by
  rcases Machine.concat_eq_append_cons_iff.mp hlog with ⟨rfl, hreport, -⟩ | ⟨r', hbefore, -⟩
  · -- the stop itself leaves settled runs only
    exact Or.inl (((hact.work_of (Or.inr ⟨_, hreport⟩)).invalidates hreport).1 id run' hrun')
  · have hlogged : .reserved id admission ∈ log := by
      rw [hbefore]
      exact List.mem_append_left _ hreserved
    exact h.act_settled ht hact hfailed hlogged (h.stopped l r' id admission hbefore hreserved)
      hrun'

lemma EpochInv.act_unclaimed (h : EpochInv settings.toLibrary log s)
    (ht : Reliable settings log s index t)
    (hact : Action settings s index t s' report spawned t') {run' : Run}
    (hrun' : s'.runs.get? id = some run') (hnav : run'.navRunId = "") :
    run'.cancelStarted = false := by
  have hchange := hact.runChange id
  rw [hrun'] at hchange
  generalize hbefore : s.runs.get? id = before at hchange
  cases hchange with
  | same => exact h.unclaimed id run' hbefore hnav
  | reserved _ _ _ _ _ _ _ hclaim => exact hclaim
  | ambiguous run | entered run | confirmed run =>
    exact (run.updateRemote_cancelStarted _ _).trans
      (h.unclaimed id run hbefore ((run.updateRemote_navRunId _ _).symm.trans hnav))
  | attached run navRunId _ _ hnonempty =>
    rw [Run.attach_navRunId] at hnav
    exact absurd hnav hnonempty
  | invalidated run reason =>
    rw [Run.invalidate_navRunId] at hnav
    have hold := h.unclaimed id run hbefore hnav
    rw [Run.invalidate]
    split
    · exact hold
    · simp [hold, hnav]
  | claimed run navRunId hsees =>
    have hnonempty : run.navRunId ≠ "" := (ht.sees _ hsees).navRunId_ne hbefore
    exact absurd hnav hnonempty
  | marked run _ _ hclaims =>
    obtain ⟨navRunId, hmem⟩ := hclaims
    have hnonempty : run.navRunId ≠ "" := (ht.claims _ hmem).navRunId_ne hbefore
    exact absurd hnav hnonempty

lemma EpochInv.act_claimed (h : EpochInv settings.toLibrary log s)
    (hact : Action settings s index t s' report spawned t') {run' : Run}
    (hrun' : s'.runs.get? id = some run') (hinvalidated : run'.invalidated = true)
    (hnav : run'.navRunId ≠ "") (hblocking : run'.Blocking) :
    run'.cancelStarted = true ∨ .unconfirmed id ∈ log ++ [report] := by
  have hchange := hact.runChange id
  rw [hrun'] at hchange
  generalize hbefore : s.runs.get? id = before at hchange
  have hold : ∀ run, before = some run → run.invalidated = true → run.navRunId ≠ "" →
      run.Blocking → run.cancelStarted = true ∨ .unconfirmed id ∈ log ++ [report] :=
    fun run hrun hvalid hnonempty hblocks =>
      (h.claimed id run (hbefore.trans hrun) hvalid hnonempty hblocks).imp_right
        (List.mem_append_left _)
  cases hchange with
  | same => exact hold run' rfl hinvalidated hnav hblocking
  | reserved _ _ _ _ _ _ hvalid =>
    rw [hvalid] at hinvalidated
    cases hinvalidated
  | ambiguous run | entered run | confirmed run =>
    have hvalid := (run.updateRemote_invalidated _ _).symm.trans hinvalidated
    have hnonempty : run.navRunId ≠ "" := fun h => hnav ((run.updateRemote_navRunId _ _).trans h)
    have hblocks := ((Run.updateRemote_blocking _ _).mp hblocking).1
    exact (hold run rfl hvalid hnonempty hblocks).imp_left
      (run.updateRemote_cancelStarted _ _).trans
  | attached run =>
    rw [Run.attach_invalidated] at hinvalidated
    exact Or.inl (Run.attach_of_invalidated hinvalidated _ _).2
  | invalidated run reason =>
    rw [Run.invalidate_navRunId] at hnav
    rw [Run.invalidate_blocking] at hblocking
    left
    rw [Run.invalidate, if_neg (by rw [hblocking]; decide)]
    simp [hnav]
  | claimed => exact Or.inl rfl
  | marked run detail progress _ hreport =>
    obtain _ | _ | _ := progress
    · exact hold run rfl hinvalidated hnav hblocking
    · exact Or.inr (List.mem_append_right _ (List.mem_singleton.mpr (hreport rfl).symm))
    · exact Or.inl rfl

/-- A segment keeps what holds of the registry and of the guards. -/
lemma EpochInv.act (h : EpochInv settings.toLibrary log s) (ht : Reliable settings log s index t)
    (he : EpochReliable log s t) (hact : Action settings s index t s' report spawned t') :
    EpochInv settings.toLibrary (log ++ [report]) s' := by
  have hfailed : ∀ id run, s'.runs.get? id = some run → run.invalidated = true →
      run.state = "FAILED" := by
    intro id run' hrun' hinvalidated
    have hchange := hact.runChange id
    rw [hrun'] at hchange
    exact hchange.failed (fun run hrun => h.failed id run hrun) hinvalidated
  refine ⟨hfailed, ?_, ?_, ?_, ?_, ?_, ?_, ?_⟩
  · exact fun id run' hrun' hnav hended => h.act_early ht hact hrun' hnav hended
  · exact fun revision id admission hcallback hreserved hlt run' hrun' =>
      h.act_caught ht he hact hfailed hcallback hreserved hlt hrun'
  · exact fun l r id admission hlog hreserved run' hrun' =>
      h.act_stopped ht hact hfailed hlog hreserved hrun'
  · intro guard revision hmem
    rcases List.mem_append.mp hmem with hmem | hmem
    · exact hact.guard_le (h.passed guard revision hmem)
    · have hreport := (List.mem_singleton.mp hmem).symm
      obtain ⟨-, transition, htransition, rfl⟩ :=
        ((hact.work_of (Or.inr ⟨_, hreport⟩)).invalidates hreport).2 guard revision rfl
      exact hact.guard_le (he.announces _ htransition)
  · exact fun id run' hrun' hnav => h.act_unclaimed ht hact hrun' hnav
  · exact fun id run' hrun' hvalid hnav hblocking => h.act_claimed hact hrun' hvalid hnav hblocking
  · intro id run' hrun'
    have hchange := hact.runChange id
    rw [hrun'] at hchange
    cases hbefore : s.runs.get? id with
    | none =>
      rw [hbefore] at hchange
      cases hchange with
      | reserved admission _ _ _ _ _ _ _ _ _ hreport =>
        exact ⟨admission, List.mem_append_right _ (List.mem_singleton.mpr hreport.symm)⟩
    | some run =>
      obtain ⟨admission, hmem⟩ := h.logged id run hbefore
      exact ⟨admission, List.mem_append_left _ hmem⟩

/-- The guard of an admission that was validated is where it was, or has moved on once. -/
lemma EpochReliable.reserving_guard {g : LifecycleGuard} {admission : Admission}
    (hmoves : GuardMoves s s' report admission.guard)
    (hg : s.guards[admission.guard]? = some g)
    (hstate : (g.revision = admission.snapshot.revision ∧ g.state = admission.snapshot.state ∧
        g.state ≠ none) ∨
      ∃ transition, .moved admission.guard transition ∈ log ∧
        transition.revision = admission.snapshot.revision + 1 ∧ transition.previous ≠ none) :
    ∃ g', s'.guards[admission.guard]? = some g' ∧
      ((g'.revision = admission.snapshot.revision ∧ g'.state = admission.snapshot.state ∧
          g'.state ≠ none) ∨
        ∃ transition, .moved admission.guard transition ∈ log ++ [report] ∧
          transition.revision = admission.snapshot.revision + 1 ∧ transition.previous ≠ none) := by
  obtain ⟨g', hg', hafter⟩ := hmoves g hg
  refine ⟨g', hg', ?_⟩
  rcases hstate with ⟨hrevision, hsame, hready⟩ | ⟨transition, hmem, hnext⟩
  · rcases hafter with ⟨hrevision', hsame'⟩ | ⟨transition, hreport, hnext, -, hprevious⟩
    · exact Or.inl ⟨by omega, by rw [hsame', hsame], by rw [hsame']; exact hready⟩
    · exact Or.inr ⟨transition, List.mem_append_right _ (List.mem_singleton.mpr hreport.symm),
        by omega, by rw [hprevious]; exact hready⟩
  · exact Or.inr ⟨transition, List.mem_append_left _ hmem, hnext⟩

/-- What the readiness check of an admission shows. -/
lemma Admission.validateCurrent_eq_ok {admission : Admission} {latest : LifecycleSnapshot}
    {lib : Library} (h : admission.validateCurrent lib s = .ok latest) :
    s.binding = some ⟨admission.guard, admission.subscriber, admission.topic⟩ ∧
    s.accepting = true ∧ ∃ g, s.guards[admission.guard]? = some g ∧
      g.revision = admission.snapshot.revision ∧ g.state = admission.snapshot.state ∧
      g.state ≠ none := by
  rw [Admission.validateCurrent] at h
  split at h
  · cases h
  rename_i haccepting
  split at h
  · cases h
  rename_i current hbinding
  split at h
  · cases h
  rename_i hidentity
  split at h
  · cases h
  rename_i htopic
  split at h
  · cases h
  split at h
  · cases h
  rename_i g hg
  split at h
  · cases h
  rename_i ready hready
  split at h
  · cases h
  rename_i hsame
  push Not at hidentity htopic hsame
  obtain ⟨rfl, state, hstate⟩ := LifecycleGuard.requireReady_eq_ok hready
  refine ⟨?_, by simpa using haccepting, g, hg, hsame.1, hsame.2, by rw [hstate]; simp⟩
  rw [hbinding, ← hidentity.1, ← hidentity.2, ← htopic]

/-- A cancel worker marks its run with what the registry has shown. -/
lemma Action.marking (h : Action settings s index t s' report spawned t')
    (ht : Reliable settings log s index t) {claim : CancelClaim} {outcome : CancelOutcome}
    {shown : Run} (ht' : t' = .cancelWorker claim (.marking outcome shown))
    (hclosed : (outcome.terminal || shown.remoteTerminal) = true) :
    ∀ run, s'.runs.get? claim.semanticRunId = some run → ¬ run.Blocking := by
  cases h with
  | work _ _ _ _ _ _ _ _ _ hmarks =>
    rw [ht'] at hmarks
    cases hmarks
  | asked _ _ _ _ _ _ _ _ _ hmarks | updated _ _ _ _ _ _ _ _ _ _ _ _ hmarks
  | unknown _ _ _ _ _ _ _ _ _ _ _ hmarks | lost _ _ _ _ _ _ _ _ _ _ _ hmarks =>
    rw [ht'] at hmarks
    cases hmarks
  | polled given reply progress =>
    -- a reply is no mark yet
    have hpc := (Thread.cancelWorker.inj ht').2
    simp only [CancelProgress.polled] at hpc
    split at hpc
    · split at hpc <;> cases hpc
    · cases hpc
  | retried given pc pc' _ _ _ _ hshown =>
    obtain ⟨rfl, rfl⟩ := Thread.cancelWorker.inj ht'
    obtain ⟨hopen, hfound⟩ := hshown outcome shown rfl
    intro run hrun hblocking
    obtain rfl := Option.some.inj (hfound.symm.trans hrun)
    rw [hopen, Bool.false_or] at hclosed
    exact absurd (hclosed.symm.trans hblocking) (by decide)
  | confirmed given ended run hfound hthread =>
    obtain ⟨rfl, hmark⟩ := Thread.cancelWorker.inj ht'
    obtain ⟨rfl, rfl⟩ := CancelWorkerPc.marking.inj hmark
    -- the state that was entered is terminal
    have hterminal := (ht.verdict given.semanticRunId given.navRunId ended
      (by rw [hthread]; rfl)).terminal
    have hid (run : Run) :
        (run.updateRemote settings.toLibrary ended.terminalState ended.detail).semanticRunId =
          run.semanticRunId := run.updateRemote_id _ _
    intro run' hrun' hblocking
    change (s.runs.modify given.semanticRunId fun run =>
      run.updateRemote settings.toLibrary ended.terminalState ended.detail).get?
        given.semanticRunId = some run' at hrun'
    rw [Registry.get?_modify hid given.semanticRunId, if_pos rfl, hfound] at hrun'
    obtain rfl := Option.some.inj hrun'
    rw [Run.updateRemote_blocking, Run.remoteStateOf_terminal hterminal] at hblocking
    exact hblocking.2 hterminal
  | _ => cases ht'

/-- A call that has validated its admission has just done so, or had done so before. -/
lemma Action.validated_of (h : Action settings s index t s' report spawned t') {runId : String}
    {admission : Admission} {target : Target}
    (ht' : t' = .navigate runId (.reserving admission target)) :
    report = .silent ∧ s'.guards = s.guards ∧ s'.binding = s.binding ∧ s'.accepting = s.accepting ∧
      ∃ latest, admission.validateCurrent settings.toLibrary s = .ok latest := by
  cases h with
  | work _ _ _ _ _ _ _ _ _ _ hlocking =>
    exact absurd ht' (hlocking (by rw [ht']; rfl) runId admission target)
  | validated given found goal latest _ hvalid =>
    obtain ⟨rfl, hpc⟩ := Thread.navigate.inj ht'
    obtain ⟨rfl, rfl⟩ := NavigatePc.reserving.inj hpc
    exact ⟨rfl, rfl, rfl, rfl, latest, hvalid⟩
  | stray given pc _ hphase =>
    obtain ⟨rfl, rfl⟩ := Thread.navigate.inj ht'
    cases hphase
  | attached given navRunId detail run pc _ _ _ _ hphase =>
    obtain ⟨rfl, rfl⟩ := Thread.navigate.inj ht'
    cases hphase
  | asked _ _ _ _ _ _ hown' | updated _ _ _ _ _ _ _ _ hown' | unknown _ _ _ _ _ _ _ hown'
  | lost _ _ _ _ _ _ hown' =>
    rw [ht'] at hown'
    cases hown'
  | _ => cases ht'

lemma EpochReliable.act (h : EpochInv settings.toLibrary log s)
    (ht : Reliable settings log s index t) (he : EpochReliable log s t)
    (hact : Action settings s index t s' report spawned t') :
    EpochReliable (log ++ [report]) s' t' := by
  refine ⟨?_, ?_, fun claim outcome shown ht' => hact.marking ht ht'⟩
  · intro runId admission target ht'
    obtain ⟨rfl, hguards, hbinding, haccepting, latest, hvalid⟩ := hact.validated_of ht'
    obtain ⟨hbound, haccepts, g, hg, hrevision, hstate⟩ := Admission.validateCurrent_eq_ok hvalid
    refine ⟨by rw [hbinding, hbound], by rw [haccepting, haccepts], ?_,
      g, by rw [hguards, hg], Or.inl ⟨hrevision, hstate⟩⟩
    intro revision hmem
    rcases List.mem_append.mp hmem with hmem | hmem
    · obtain ⟨found, hfound, hle⟩ := h.passed _ _ hmem
      obtain rfl := Option.some.inj (hg.symm.trans hfound)
      omega
    · cases List.mem_singleton.mp hmem
  · intro a ha
    rcases hact.announces ha with hbefore | ⟨-, hguard⟩
    · exact hact.guard_le (he.announces a hbefore)
    · exact hguard

/-- A segment does not interfere with another thread, which may hold the service lock. -/
lemma EpochReliable.other {j : ℕ} {u : Thread} (ht : Reliable settings log s index t)
    (hu : Reliable settings log s j u) (he : EpochReliable log s u)
    (hact : Action settings s index t s' report spawned t') :
    EpochReliable (log ++ [report]) s' u := by
  refine ⟨?_, fun a ha => hact.guard_le (he.announces a ha), ?_⟩
  · intro runId admission target hthread
    have hlock : s.lock = some j := hu.lock (by rw [hthread]; rfl)
    obtain ⟨hbound, haccepts, hnewer, g, hg, hstate⟩ := he.reserving runId admission target hthread
    have hsame : s'.binding = s.binding ∧ s'.accepting = s.accepting := by
      rcases hact.binding with hsame | hfree
      · exact hsame
      · rw [hlock] at hfree
        cases hfree
    refine ⟨by rw [hsame.1, hbound], by rw [hsame.2, haccepts], ?_,
      EpochReliable.reserving_guard (hact.guard admission.guard) hg hstate⟩
    intro revision hmem
    rcases List.mem_append.mp hmem with hmem | hmem
    · exact hnewer revision hmem
    · -- a callback invalidates only while the service lock is free
      have hreport := (List.mem_singleton.mp hmem).symm
      have hfree := (((hact.work_of (Or.inr ⟨_, hreport⟩)).invalidates hreport).2 _ _ rfl).1
      rw [hlock] at hfree
      cases hfree
  · intro claim outcome shown hthread hclosed run' hrun' hblocking
    obtain ⟨hnav, run, hrun, hsame⟩ := hu.claims claim.pair
      (by rw [hthread]; exact List.mem_singleton.mpr rfl)
    have hchange := hact.runChange claim.semanticRunId
    rw [hrun', show s.runs.get? claim.semanticRunId = some run from hrun] at hchange
    rcases hchange.blocking hblocking with ⟨found, hfound, hblocks⟩ | ⟨hidle, -⟩ |
      ⟨found, hfound, hown⟩
    · obtain rfl := Option.some.inj hfound
      exact he.marking claim outcome shown hthread hclosed run hrun hblocks
    · -- a reservation makes a run that was not there
      cases hchange with
      | same => exact hidle run' (Registry.mem_of_get? hrun) hblocking
      | ambiguous _ _ hown | attached _ _ _ hown =>
        obtain ⟨waiting, hwaiting, hempty⟩ := ht.calling _ hown
        obtain rfl := Option.some.inj (hrun.symm.trans hwaiting)
        exact hnav (hsame.symm.trans hempty)
      | entered | confirmed =>
        exact hidle run (Registry.mem_of_get? hrun) ((Run.updateRemote_blocking _ _).mp hblocking).1
      | invalidated =>
        exact hidle run (Registry.mem_of_get? hrun) ((Run.invalidate_blocking _).mp hblocking)
      | claimed | marked => exact hidle run (Registry.mem_of_get? hrun) hblocking
    · obtain ⟨waiting, hwaiting, hempty⟩ := ht.calling _ hown
      obtain rfl := Option.some.inj (hrun.symm.trans hwaiting)
      exact hnav (hsame.symm.trans hempty)

lemma EpochReliable.of_spawn (spawn : Spawn) : EpochReliable log s (.ofSpawn spawn) := by
  refine ⟨?_, ?_, ?_⟩
  · intro runId admission target hthread
    cases spawn <;> cases hthread
  · intro a ha
    cases spawn <;> cases ha
  · intro claim outcome shown hthread
    cases spawn <;> cases hthread

/-! ## Claimed cancellations -/

/-- The claimed cancellation of a blocking run has not been reported as unconfirmed. -/
def CancelOpen (log : List Report) (s : Shared) (p : String × String) : Prop :=
  p.2 ≠ "" ∧ .unconfirmed p.1 ∉ log ∧
    ∃ run, s.runs.get? p.1 = some run ∧ run.navRunId = p.2 ∧ run.cancelStarted = true ∧
      run.Blocking

lemma Work.keepsClaims (h : Work s index v s' report spawned v') {p : String × String}
    (hp : p ∈ v.claims) : p ∈ v'.claims ∨ p ∈ handedOn spawned := by
  cases h with
  | rest => exact Or.inl hp
  | handed claim claims locking hv =>
    rw [hv] at hp
    rcases List.mem_cons.mp hp with rfl | hp
    · exact Or.inr (List.mem_singleton.mpr rfl)
    · exact Or.inl hp
  | announced _ _ _ hv | invalidated _ _ _ hv | released hv | rebound _ _ _ _ _ hv
  | joined _ _ _ hv | ignored _ _ _ hv | called _ _ _ _ hv =>
    rw [hv] at hp
    cases hp

/-- A claim is kept or handed on, until its run is gone or the cancel worker has marked it. -/
lemma Action.keepsClaims (h : Action settings s index t s' report spawned t')
    (ht : Reliable settings log s index t) {p : String × String} (hp : p ∈ t.view.claims) :
    p ∈ t'.view.claims ∨ p ∈ handedOn spawned ∨ s.runs.get? p.1 = none ∨
      ∃ claim outcome shown, t = .cancelWorker claim (.marking outcome shown) ∧ claim.pair = p ∧
        ((outcome.terminal || shown.remoteTerminal) = true ∨ report = .unconfirmed p.1) := by
  cases h with
  | work _ _ _ _ hwork =>
    rcases hwork.keepsClaims hp with hkept | hhanded
    · exact Or.inl hkept
    · exact Or.inr (Or.inl hhanded)
  | validated _ _ _ _ _ _ hthread | reserved _ _ _ _ _ _ _ hthread | claimed _ _ _ _ hthread =>
    rw [hthread] at hp
    cases hp
  | stray _ _ _ _ _ hview | rejected _ _ _ hview | ambiguous _ _ _ _ _ hview
  | attached _ _ _ _ _ _ hview | asked _ _ _ _ _ _ _ _ _ _ hview
  | updated _ _ _ _ _ _ _ _ _ _ _ _ _ hview | unknown _ _ _ _ _ _ _ _ _ _ _ _ hview
  | seen _ _ _ _ _ hview =>
    rw [hview] at hp
    cases hp
  | submitted seen run detail reason result hrun hthread =>
    left
    obtain ⟨hnav, found, hfound, hsame⟩ := ht.claims p hp
    rw [hthread] at hp
    obtain rfl := List.mem_singleton.mp hp
    obtain rfl := Option.some.inj (hrun.symm.trans hfound)
    exact List.mem_singleton.mpr (Prod.ext rfl hsame.symm)
  | lost runId navRunId _ hview hgone =>
    rw [hview] at hp
    obtain rfl := List.mem_singleton.mp hp
    exact Or.inr (Or.inr (Or.inl hgone))
  | polled claim reply progress hthread =>
    left
    rw [hthread] at hp
    have hview : (Thread.cancelWorker claim (progress.polled settings.toLibrary (.ok reply))).view =
        { claims := [claim.pair] } := by
      simp only [CancelProgress.polled]
      split
      · split <;> rfl
      · rfl
    rw [hview]
    exact hp
  | retried claim pc pc' hthread hpc hpc' =>
    left
    rw [hthread, show (Thread.cancelWorker claim pc).view = _ from hpc] at hp
    rw [show (Thread.cancelWorker claim pc').view = _ from hpc']
    exact hp
  | confirmed claim outcome run hrun hthread =>
    left
    rw [hthread] at hp
    exact hp
  | marked claim outcome shown run detail hrun hthread =>
    right
    right
    right
    have hpair : claim.pair = p := by
      rw [hthread] at hp
      exact (List.mem_singleton.mp hp).symm
    refine ⟨claim, outcome, shown, hthread, hpair, ?_⟩
    by_cases hclosed : (outcome.terminal || shown.remoteTerminal) = true
    · exact Or.inl hclosed
    · right
      rw [if_neg hclosed, ← hpair]
      rfl

/-- What an invalidation has claimed was claimed before, or is in its claims. -/
lemma Registry.claimed_of_invalidate {r : Registry} {reason : String} {run' : Run}
    (hrun' : (r.invalidateNonterminal reason).1.get? id = some run')
    (hclaimed : run'.cancelStarted = true) (hblocking : run'.Blocking) :
    (id, run'.navRunId) ∈ (r.invalidateNonterminal reason).2.map CancelClaim.pair ∨
      ∃ run, r.get? id = some run ∧ run.navRunId = run'.navRunId ∧ run.cancelStarted = true ∧
        run.Blocking := by
  have hget : (r.invalidateNonterminal reason).1.get? id =
      (r.get? id).map fun run => run.invalidate reason :=
    Registry.get?_map fun run => run.invalidate_id reason
  rw [hget] at hrun'
  obtain ⟨run, hrun, rfl⟩ := Option.map_eq_some_iff.mp hrun'
  rw [Run.invalidate_blocking] at hblocking
  rw [Run.invalidate_navRunId]
  by_cases hbefore : run.cancelStarted = true
  · exact Or.inr ⟨run, hrun, rfl, hbefore, hblocking⟩
  · left
    have hnav : run.navRunId ≠ "" := by
      rw [Run.invalidate, if_neg (by rw [hblocking]; decide)] at hclaimed
      simpa [hbefore] using hclaimed
    refine List.mem_map.mpr ⟨⟨run.semanticRunId, run.navRunId, reason⟩, ?_, ?_⟩
    · refine List.mem_map.mpr ⟨run, List.mem_filter.mpr ⟨Registry.mem_of_get? hrun, ?_⟩, rfl⟩
      exact decide_eq_true ⟨hblocking, hnav, by simpa using hbefore⟩
    · exact Prod.ext (Registry.get?_id hrun) rfl

lemma Work.opened (h : Work s index v s' report spawned v') {run' : Run}
    (hrun' : s'.runs.get? id = some run') (hclaimed : run'.cancelStarted = true)
    (hblocking : run'.Blocking) :
    (id, run'.navRunId) ∈ v'.claims ∨
      ∃ run, s.runs.get? id = some run ∧ run.navRunId = run'.navRunId ∧
        run.cancelStarted = true ∧ run.Blocking := by
  cases h with
  | called guard transition reason => exact Registry.claimed_of_invalidate hrun' hclaimed hblocking
  | invalidated reason cause => exact Registry.claimed_of_invalidate hrun' hclaimed hblocking
  | announced guard f =>
    right
    have hsame : (s.moveGuard guard f).1.runs = s.runs := by
      rw [Shared.moveGuard]
      split <;> rfl
    rw [hsame] at hrun'
    exact ⟨run', hrun', rfl, hclaimed, hblocking⟩
  | _ => exact Or.inr ⟨run', hrun', rfl, hclaimed, hblocking⟩

/-- A claimed cancellation is the thread's, or was claimed before. -/
lemma Action.opened (h : Action settings s index t s' report spawned t')
    (ht : Reliable settings log s index t) (he : EpochReliable log s t)
    (hinv : EpochInv settings.toLibrary log s) {run' : Run}
    (hrun' : s'.runs.get? id = some run') (hclaimed : run'.cancelStarted = true)
    (hblocking : run'.Blocking) :
    (id, run'.navRunId) ∈ t'.view.claims ∨
      ∃ run, s.runs.get? id = some run ∧ run.navRunId = run'.navRunId ∧
        run.cancelStarted = true ∧ run.Blocking := by
  -- a change of one run, seen from all of them
  have hmodify {changed : String} (f : Run → Run) {r : Registry}
      (hr : r.runs = (s.runs.modify changed f).runs)
      (hid : ∀ run, (f run).semanticRunId = run.semanticRunId) (hget : r.get? id = some run') :
      (id = changed ∧ ∃ run, s.runs.get? id = some run ∧ f run = run') ∨
        (id ≠ changed ∧ s.runs.get? id = some run') := by
    rw [Registry.get?, hr] at hget
    change (s.runs.modify changed f).get? id = some run' at hget
    rw [Registry.get?_modify hid changed] at hget
    split at hget
    · rename_i hsame
      exact Or.inl ⟨hsame, Option.map_eq_some_iff.mp hget⟩
    · rename_i hne
      exact Or.inr ⟨hne, hget⟩
  have hupdated {changed state detail : String}
      (hget : (s.runs.modify changed fun run =>
        run.updateRemote settings.toLibrary state detail).get? id = some run') :
      ∃ run, s.runs.get? id = some run ∧ run.navRunId = run'.navRunId ∧
        run.cancelStarted = true ∧ run.Blocking := by
    rcases hmodify _ rfl (fun run => run.updateRemote_id _ _) hget with
      ⟨-, run, hrun, rfl⟩ | ⟨-, hrun⟩
    · rw [Run.updateRemote_cancelStarted] at hclaimed
      exact ⟨run, hrun, (run.updateRemote_navRunId _ _).symm, hclaimed,
        ((Run.updateRemote_blocking _ _).mp hblocking).1⟩
    · exact ⟨run', hrun, rfl, hclaimed, hblocking⟩
  cases h with
  | work _ _ _ _ hwork => exact hwork.opened hrun' hclaimed hblocking
  | validated | stray | asked | unknown | seen | lost | polled | retried =>
    exact Or.inr ⟨run', hrun', rfl, hclaimed, hblocking⟩
  | reserved runId admission target active runs _ hruns =>
    obtain ⟨-, -, run, -, -, -, -, hfree, -, -, hget⟩ := Registry.reserve_eq_ok hruns
    rw [show Registry.get? runs id = _ from hget id] at hrun'
    split at hrun'
    · obtain rfl := Option.some.inj hrun'
      rw [hfree] at hclaimed
      cases hclaimed
    · exact Or.inr ⟨run', hrun', rfl, hclaimed, hblocking⟩
  | rejected runId result =>
    rw [show Registry.get? (s.runs.remove runId) id = _ from Registry.get?_remove runId] at hrun'
    split at hrun'
    · cases hrun'
    · exact Or.inr ⟨run', hrun', rfl, hclaimed, hblocking⟩
  | ambiguous | updated | confirmed => exact Or.inr (hupdated hrun')
  | attached runId navRunId detail run pc hown _ hfound _ _ hpc =>
    rcases hmodify _ rfl (fun run => run.attach_id _ _) hrun' with ⟨rfl, before, hbefore, rfl⟩ |
      ⟨-, hrun⟩
    · obtain rfl := Option.some.inj (hfound.symm.trans hbefore)
      rw [show (Thread.navigate id pc).view = _ from hpc, Run.attach_navRunId]
      by_cases hinvalidated : run.invalidated = true
      · left
        rw [if_pos hinvalidated]
        exact List.mem_singleton.mpr rfl
      · -- a run that is valid and has no navigation run is unclaimed
        obtain ⟨waiting, hwaiting, hempty⟩ := ht.calling id hown
        obtain rfl := Option.some.inj (hbefore.symm.trans hwaiting)
        have hfree := hinv.unclaimed id run hbefore hempty
        rw [Run.attach, if_neg hinvalidated] at hclaimed
        rw [show ({ run with
          navRunId := navRunId
          navigationDetail := detail
          remoteState := "PENDING"
          remoteTerminal := false
          state := "PENDING" } : Run).cancelStarted = run.cancelStarted from rfl, hfree] at hclaimed
        cases hclaimed
    · exact Or.inr ⟨run', hrun, rfl, hclaimed, hblocking⟩
  | claimed seen run hrun _ hthread =>
    rcases hmodify (fun run => { run with cancelStarted := true }) rfl (fun _ => rfl) hrun' with
      ⟨rfl, before, hbefore, rfl⟩ | ⟨-, hrun⟩
    · left
      obtain ⟨-, found, hfound, hsame⟩ := ht.sees (seen.semanticRunId, seen.navRunId)
        (by rw [hthread]; rfl)
      obtain rfl := Option.some.inj (hbefore.symm.trans hfound)
      exact List.mem_singleton.mpr (Prod.ext rfl hsame)
    · exact Or.inr ⟨run', hrun, rfl, hclaimed, hblocking⟩
  | submitted seen run detail reason result =>
    rcases hmodify (fun run => run.markCancelResult detail none) rfl (fun _ => rfl) hrun' with
      ⟨rfl, before, hbefore, rfl⟩ | ⟨-, hrun⟩
    · exact Or.inr ⟨before, hbefore, rfl, hclaimed, hblocking⟩
    · exact Or.inr ⟨run', hrun, rfl, hclaimed, hblocking⟩
  | marked claim outcome shown run detail hrun hthread =>
    rcases hmodify (fun run => run.markCancelResult detail
      (some (outcome.terminal || shown.remoteTerminal))) rfl (fun _ => rfl) hrun' with
      ⟨rfl, before, hbefore, rfl⟩ | ⟨-, hrun⟩
    · -- a mark leaves the claim closed only on a run that it has seen ended
      exact absurd hblocking (he.marking claim outcome shown hthread hclaimed before hbefore)
    · exact Or.inr ⟨run', hrun, rfl, hclaimed, hblocking⟩

end Act

/-! ## Runs of the service -/

/-- The state and the threads of the service rely on each other. -/
abbrev ServiceHolds (settings : Settings) (log : List Report) (p : Pool Shared Thread) : Prop :=
  Program.Holds Consistent (Reliable settings) log p

abbrev EpochHolds (settings : Settings) (log : List Report) (p : Pool Shared Thread) : Prop :=
  Program.Holds (EpochInv settings.toLibrary) (fun log s _ t => EpochReliable log s t) log p

/-- A call changes neither the registry nor the guards nor the binding. -/
lemma Shared.call_same {request : Request} (h : s.call index request = some (s', t)) :
    s'.runs = s.runs ∧ s'.guards = s.guards ∧ s'.binding = s.binding ∧
      s'.accepting = s.accepting ∧ t.view = {} ∧
        ∀ runId admission target, t ≠ .navigate runId (.reserving admission target) := by
  cases request with
  | navigate runId =>
    simp only [Shared.call] at h
    split at h
    · cases h
    · obtain ⟨rfl, rfl⟩ := Prod.mk.inj (Option.some.inj h)
      refine ⟨rfl, rfl, rfl, rfl, rfl, fun _ _ _ hthread => ?_⟩
      cases (Thread.navigate.inj hthread).2
  | _ =>
    obtain ⟨rfl, rfl⟩ := Prod.mk.inj (Option.some.inj h)
    exact ⟨rfl, rfl, rfl, rfl, rfl, fun _ _ _ hthread => by cases hthread⟩

/-- **Every segment keeps the runs bound to their map epoch.** -/
lemma epoch_keeps (settings : Settings) :
    (service settings).Keeps (fun log p _ => ServiceHolds settings log p)
      (EpochInv settings.toLibrary) (fun log s _ t => EpochReliable log s t) where
  act := by
    intro log p index t input seg ht hact hp he
    obtain ⟨spawned, hspawned, haction⟩ := Thread.act_action hact
    have hself := hp.thread index t ht
    refine ⟨he.shared.act hself (he.thread index t ht) haction,
      (he.thread index t ht).act he.shared hself haction, ?_, ?_⟩
    · intro u hu k _
      rw [hspawned] at hu
      obtain ⟨spawn, -, rfl⟩ := List.mem_map.mp hu
      exact .of_spawn spawn
    · intro j u hj hu
      exact EpochReliable.other hself (hp.thread j u hu) (he.thread j u hu) haction
  call := by
    intro log p request s t hcall hp he
    obtain ⟨hruns, hguards, hbinding, haccepting, hview, hreserving⟩ := Shared.call_same hcall
    refine ⟨?_, ⟨?_, ?_, ?_⟩, fun j u hu => ?_⟩
    · obtain ⟨hfailed, hearly, hcaught, hstopped, hpassed, hunclaimed, hclaimed, hlogged⟩ :=
        he.shared
      exact ⟨by rwa [hruns], by rwa [hruns], by rwa [hruns], by rwa [hruns], by rwa [hguards],
        by rwa [hruns], by rwa [hruns], by rwa [hruns]⟩
    · intro runId admission target hthread
      exact absurd hthread (hreserving runId admission target)
    · intro a ha
      rw [hview] at ha
      cases ha
    · intro claim outcome shown hthread
      rw [hthread] at hview
      cases hview
    · obtain ⟨hreserving, hannounces, hmarking⟩ := he.thread j u hu
      exact ⟨by rwa [hguards, hbinding, haccepting], by rwa [hguards], by rwa [hruns]⟩

/-- A claimed cancellation is handed on until it is over. -/
lemma cancel_handsOn (settings : Settings) :
    (service settings).HandsOn
      (fun log p _ => ServiceHolds settings log p ∧ EpochHolds settings log p)
      CancelOpen (fun u p => p ∈ u.view.claims) where
  act := by
    rintro log p index t input seg ht hact ⟨hp, he⟩ a ⟨hnav, hconfirmed, run', hrun', hsame,
      hclaimed, hblocking⟩
    obtain ⟨spawned, hspawned, haction⟩ := Thread.act_action hact
    have hself := hp.thread index t ht
    have hconfirmedBefore : .unconfirmed a.1 ∉ log := fun hmem =>
      hconfirmed (List.mem_append_left _ hmem)
    rcases haction.opened hself (he.thread index t ht) he.shared hrun' hclaimed hblocking with
      hnew | ⟨run, hrun, hnavRun, hclaimedBefore, hblockingBefore⟩
    · left
      rw [hsame] at hnew
      exact hnew
    · by_cases hmine : a ∈ t.view.claims
      · rcases haction.keepsClaims hself hmine with hkept | hhanded | hgone |
          ⟨claim, outcome, shown, hthread, hpair, hclosed | hreport⟩
        · exact Or.inl hkept
        · obtain ⟨spawn, hspawn, hmem⟩ := List.mem_flatMap.mp hhanded
          refine Or.inr (Or.inl ⟨.ofSpawn spawn, ?_, hmem⟩)
          rw [hspawned]
          exact List.mem_map_of_mem hspawn
        · cases hgone.symm.trans hrun
        · -- the cancel worker has seen the run ended
          refine absurd hblockingBefore ((he.thread index t ht).marking claim outcome shown hthread
            hclosed run ?_)
          rw [← hpair] at hrun
          exact hrun
        · exact absurd (List.mem_append_right _ (List.mem_singleton.mpr hreport.symm)) hconfirmed
      · exact Or.inr (Or.inr ⟨⟨hnav, hconfirmedBefore, run, hrun, hnavRun.trans hsame,
          hclaimedBefore, hblockingBefore⟩, hmine⟩)
  call := by
    intro log p request s t hcall _ a ha
    rw [CancelOpen, (Shared.call_same hcall).1] at ha
    exact ha

/-- The callback of a reported transition has not invalidated the runs. -/
def CallbackOpen (log : List Report) (_ : Shared) (a : ℕ × LifecycleTransition) : Prop :=
  .moved a.1 a.2 ∈ log ∧ ¬ a.2.Initial ∧ .invalidated (.callback a.1 a.2.revision) ∉ log

/-- A transition is announced by some thread until its callback has invalidated the runs. -/
lemma callback_handsOn (settings : Settings) :
    (service settings).HandsOn (fun _ _ _ => True) CallbackOpen
      (fun u a => a ∈ u.view.announces) where
  act := by
    rintro log p index t input seg ht hact - a ⟨hmoved, hinitial, hquiet⟩
    obtain ⟨spawned, -, haction⟩ := Thread.act_action hact
    rcases List.mem_append.mp hmoved with hmoved | hmoved
    · by_cases hmine : a ∈ t.view.announces
      · rcases haction.announced_of hmine with hkept | hignored | hreport
        · exact Or.inl hkept
        · exact absurd hignored hinitial
        · exact absurd (List.mem_append_right _ (List.mem_singleton.mpr hreport.symm)) hquiet
      · exact Or.inr (Or.inr ⟨⟨hmoved, hinitial, fun hmem =>
          hquiet (List.mem_append_left _ hmem)⟩, hmine⟩)
    · left
      have hreport := (List.mem_singleton.mp hmoved).symm
      exact (haction.work_of (Or.inl ⟨_, _, hreport⟩)).announces_of_moved hreport
  call := fun _ _ _ ha => ha

end Segments

section Runs

variable {settings : Settings} {es : List (PoolEvent Input Request)}

lemma service_epoch (settings : Settings) (es : List (PoolEvent Input Request)) :
    EpochHolds settings (Program.log ((service settings).machine.trace idleService es))
      ((service settings).machine.final idleService es) := by
  refine (epoch_keeps settings).run ⟨⟨?_, ?_, ?_, ?_, ?_, ?_, ?_, ?_⟩, ?_⟩ es
    fun l z r hz => (reliable_at hz).1
  · exact fun _ _ h => by cases h
  · exact fun _ _ h => by cases h
  · exact fun _ _ _ h => by cases h
  · exact fun l r _ _ h => absurd h (by simp)
  · exact fun _ _ h => by cases h
  · exact fun _ _ h => by cases h
  · exact fun _ _ h => by cases h
  · exact fun _ _ h => by cases h
  · exact fun _ _ h => by cases h

/-- What holds before every step of a run. -/
lemma epoch_at {l r : List ServiceStep} {x : ServiceStep}
    (h : (service settings).machine.trace idleService es = l ++ x :: r) :
    EpochHolds settings (Program.log l) x.pre := by
  obtain ⟨es₁, es₂, -, rfl, hx, -⟩ := (service settings).machine.trace_eq_append_cons h
  have hpre : x.pre = (service settings).machine.final idleService es₁ := by rw [hx]; rfl
  rw [hpre]
  exact service_epoch settings es₁

lemma cancel_carried (settings : Settings) (es : List (PoolEvent Input Request)) :
    Program.Carried CancelOpen (fun u p => p ∈ (Thread.view u).claims)
      (Program.log ((service settings).machine.trace idleService es))
      ((service settings).machine.final idleService es) := by
  refine (cancel_handsOn settings).run ?_ es fun l z r hz => ⟨(reliable_at hz).1, epoch_at hz⟩
  rintro a ⟨-, -, run, hrun, -⟩
  cases hrun

lemma callback_carried (settings : Settings) (es : List (PoolEvent Input Request)) :
    Program.Carried CallbackOpen (fun u a => a ∈ (Thread.view u).announces)
      (Program.log ((service settings).machine.trace idleService es))
      ((service settings).machine.final idleService es) := by
  refine (callback_handsOn settings).run ?_ es fun _ _ _ _ => trivial
  rintro a ⟨hmoved, -⟩
  cases hmoved

/-- A step of the service is a call, waits, or is a segment that keeps what holds. -/
lemma service_step_cases (settings : Settings) (p : Pool Shared Thread)
    (e : PoolEvent Input Request) :
    (((service settings).step p e).2.shared.runs = p.shared.runs ∧
      ((service settings).step p e).1 = none) ∨
    ∃ index input t, ∃ seg : Segment Shared Thread Report, ∃ spawned,
      e = .act index input ∧ p.threads[index]? = some t ∧
      ((service settings).step p e).1 = some seg.report ∧
      ((service settings).step p e).2.shared = seg.shared ∧
      Action settings p.shared index t seg.shared seg.report spawned seg.thread := by
  rcases (service settings).step_cases p e with hidle | ⟨request, s, t, -, hcall, hcalled⟩ |
    ⟨index, input, t, seg, hevent, ht, hact, hacted⟩
  · rw [hidle]
    exact Or.inl ⟨rfl, rfl⟩
  · rw [hcalled]
    exact Or.inl ⟨(Shared.call_same hcall).1, rfl⟩
  · obtain ⟨spawned, -, haction⟩ := Thread.act_action hact
    rw [hacted]
    exact Or.inr ⟨index, input, t, seg, spawned, hevent, ht, rfl, rfl, haction⟩

/-- An invalidated run stays invalidated. -/
lemma stays_invalidated (es es' : List (PoolEvent Input Request)) {id : String} {run : Run}
    (hrun : ((service settings).machine.final idleService es).shared.runs.get? id = some run)
    (hinvalidated : run.invalidated = true) {run' : Run}
    (hrun' : ((service settings).machine.final idleService (es ++ es')).shared.runs.get? id =
      some run') : run'.invalidated = true := by
  obtain ⟨admission, hreserved⟩ := (service_epoch settings es).shared.logged id run hrun
  induction es' using List.reverseRecOn generalizing run' with
  | nil =>
    rw [List.append_nil, hrun] at hrun'
    rwa [← Option.some.inj hrun']
  | append_singleton es' e ih =>
    rw [← List.append_assoc, Machine.final_concat] at hrun'
    set p := (service settings).machine.final idleService (es ++ es') with hp
    rcases service_step_cases settings p e with ⟨hsame, -⟩ |
      ⟨index, input, t, seg, spawned, -, ht, -, hshared, haction⟩
    · refine ih ?_
      rw [← hsame]
      exact hrun'
    · have hchange := haction.runChange id
      rw [← hshared,
        show ((service settings).step p e).2.shared.runs.get? id = some run' from hrun']
        at hchange
      cases hbefore : p.shared.runs.get? id with
      | some before =>
        rw [hbefore] at hchange
        exact hchange.invalidated_of (ih hbefore)
      | none =>
        -- the run was reserved before, so that it is not reserved again
        rw [hbefore] at hchange
        cases hchange with
        | reserved _ _ _ _ _ _ _ _ _ hthread =>
          have hself := (service_reliable settings (es ++ es')).thread index t ht
          refine absurd ?_ ((hself.unreserved id (by rw [hthread]; rfl)).2 admission)
          rw [Machine.trace_append, Program.log, List.filterMap_append]
          exact List.mem_append_left _ hreserved

/-- **Runs are bound to the map epoch of their reservation**, in every run of the service. -/
theorem epochBound (settings : Settings) (es : List (PoolEvent Input Request)) :
    EpochBound settings ((service settings).machine.trace idleService es)
      ((service settings).machine.final idleService es) := by
  have hepoch := service_epoch settings es
  refine ⟨hepoch.shared.caught, ?_, ?_, ?_, ?_⟩
  · intro l x r id run htrace houtput hrun run' hrun'
    -- the run was there before the stop
    obtain ⟨es₁, es₂, -, rfl, hx, -⟩ := (service settings).machine.trace_eq_append_cons htrace
    have hpost : x.post = (service settings).machine.final idleService (es₁ ++ [x.event]) := by
      rw [Machine.final_concat, hx]
      rfl
    rw [hpost] at hrun
    obtain ⟨admission, hlogged⟩ := (service_epoch settings _).shared.logged id run hrun
    rw [Machine.trace_concat, ← hx, Program.log_concat, houtput] at hlogged
    have hreserved := (List.mem_append.mp hlogged).resolve_right (by simp)
    refine hepoch.shared.stopped _ (Program.log r) id admission ?_ hreserved run' hrun'
    rw [htrace, Program.log, List.filterMap_append, List.filterMap_cons_some houtput]
    rfl
  · intro l x r id run htrace hrun hinvalidated run' hrun'
    obtain ⟨es₁, es₂, hes, rfl, hx, -⟩ := (service settings).machine.trace_eq_append_cons htrace
    have hpre : x.pre = (service settings).machine.final idleService es₁ := by rw [hx]; rfl
    rw [hpre] at hrun
    rw [hes] at hrun'
    have hstays := stays_invalidated es₁ _ hrun hinvalidated hrun'
    refine ⟨hstays, hepoch.shared.failed id run' ?_ hstays⟩
    rw [hes]
    exact hrun'
  · intro id run hrun hinvalidated hnav hblocking
    rcases hepoch.shared.claimed id run hrun hinvalidated hnav hblocking with hclaimed | hreported
    · by_cases hreported : .unconfirmed id ∈
        Program.log ((service settings).machine.trace idleService es)
      · exact Or.inr hreported
      · obtain ⟨j, u, hu, hmem⟩ := cancel_carried settings es (id, run.navRunId)
          ⟨hnav, hreported, run, hrun, rfl, hclaimed, hblocking⟩
        exact Or.inl ⟨j, u, hu, hmem⟩
    · exact Or.inr hreported
  · intro x hx id admission houtput
    obtain ⟨l, r, htrace⟩ := List.append_of_mem hx
    obtain ⟨es₁, es₂, -, rfl, hstep, -⟩ := (service settings).machine.trace_eq_append_cons htrace
    have hpre : x.pre = (service settings).machine.final idleService es₁ := by rw [hstep]; rfl
    have hout : x.output = ((service settings).step x.pre x.event).1 := by
      rw [hstep]
      rfl
    rcases service_step_cases settings x.pre x.event with ⟨-, hnone⟩ |
      ⟨index, input, t, seg, spawned, -, ht, hreport, -, haction⟩
    · cases houtput.symm.trans (hout.trans hnone)
    have hreport : seg.report = .reserved id admission :=
      Option.some.inj (hreport.symm.trans (hout.symm.trans houtput))
    obtain ⟨target, hthread⟩ := haction.reserving_of hreport
    obtain ⟨hbound, haccepts, hnewer, g, hg, hstate⟩ :=
      ((epoch_at htrace).thread index t ht).reserving id admission target hthread
    refine ⟨hbound, haccepts, g, hg, ?_⟩
    rcases hstate with ⟨hrevision, -⟩ | ⟨transition, hmoved, hnext, hprevious⟩
    · exact Or.inl hrevision
    · -- the callback of the transition is still to come
      right
      have hopen : CallbackOpen (Program.log ((service settings).machine.trace idleService es₁))
          x.pre.shared (admission.guard, transition) := by
        refine ⟨hmoved, fun hinitial => hprevious hinitial.1, fun hmem => ?_⟩
        have hle := hnewer transition.revision hmem
        omega
      rw [hpre] at hopen ⊢
      obtain ⟨j, u, hu, hmem⟩ := callback_carried settings es₁ _ hopen
      exact ⟨transition, by omega, hopen.2.1, j, u, hu, hmem⟩

end Runs

end UnitreeGo2.SemanticNavigation
