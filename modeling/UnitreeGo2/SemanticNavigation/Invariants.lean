import UnitreeGo2.SemanticNavigation.Segments

/-!
# What the threads of the service rely on

A thread relies on what it has seen of the registry: a run that has its navigation run keeps it,
a run that waits for it belongs to one navigation call, and only the thread that has taken the
service lock releases it.
-/

namespace UnitreeGo2.SemanticNavigation

variable {settings : Settings} {s s' : Shared} {index : ℕ} {t t' : Thread} {report : Report}
  {spawned : List Spawn} {id : String}

/-! ## What a segment makes of a run -/

/-- What one segment makes of the run with an identifier. -/
inductive RunChange (settings : Settings) (s : Shared) (t : Thread) (report : Report)
    (id : String) : Option Run → Option Run → Prop
  | same (found : Option Run) : RunChange settings s t report id found found
  | reserved (admission : Admission) (target : Target) (run : Run)
      (hidle : ∀ other ∈ s.runs.runs, ¬ other.Blocking) (hid : run.semanticRunId = id)
      (hnav : run.navRunId = "") (hvalid : run.invalidated = false)
      (hclaim : run.cancelStarted = false) (hblocking : run.Blocking)
      (ht : t = .navigate id (.reserving admission target))
      (hreport : report = .reserved id admission) :
    RunChange settings s t report id none (some run)
  | rejected (found : Option Run) (hown : t.own = some (id, .calling))
      (hreport : report = .rejected id) :
    RunChange settings s t report id found none
  | ambiguous (run : Run) (detail : String) (hown : t.own = some (id, .calling)) :
    RunChange settings s t report id (some run)
      (some (run.updateRemote settings.toLibrary "UNKNOWN" detail))
  | attached (run : Run) (navRunId detail : String) (hown : t.own = some (id, .calling))
      (hnav : navRunId ≠ "") (hreport : report = .attached id navRunId) :
    RunChange settings s t report id (some run) (some (run.attach navRunId detail))
  | entered (run : Run) (navRunId : String) (reply : StatusReply)
      (hasks : t.asks = some (id, navRunId)) (hreport : report = .statusReply id navRunId reply) :
    RunChange settings s t report id (some run)
      (some (run.entered settings.toLibrary navRunId reply))
  | confirmed (run : Run) (navRunId : String) (outcome : CancelOutcome)
      (hverdict : t.verdict = some (id, navRunId, outcome)) :
    RunChange settings s t report id (some run)
      (some (run.updateRemote settings.toLibrary outcome.terminalState outcome.detail))
  | invalidated (run : Run) (reason : String) (cause : Cause)
      (hreport : report = .invalidated cause) :
    RunChange settings s t report id (some run) (some (run.invalidate reason))
  | claimed (run : Run) (navRunId : String) (hsees : t.sees = some (id, navRunId))
      (hclaim : run.Claimable) :
    RunChange settings s t report id (some run) (some { run with cancelStarted := true })
  | marked (run : Run) (detail : String) (cancelInProgress : Option Bool)
      (hclaims : ∃ navRunId, (id, navRunId) ∈ t.view.claims)
      (hreport : cancelInProgress = some false → report = .unconfirmed id) :
    RunChange settings s t report id (some run)
      (some (run.markCancelResult detail cancelInProgress))

/-- A change of one run, as a change of every run. -/
lemma RunChange.of_modify {changed : String} {run : Run} {f : Run → Run} {latest : String}
    (hrun : s.runs.get? changed = some run) (hf : ∀ run, (f run).semanticRunId = run.semanticRunId)
    (h : RunChange settings s t report changed (some run) (some (f run))) :
    RunChange settings s t report id (s.runs.get? id)
      (Registry.get? { s.runs.modify changed f with latestRunId := latest } id) := by
  have hget : Registry.get? { s.runs.modify changed f with latestRunId := latest } id =
      if id = changed then (s.runs.get? id).map f else s.runs.get? id :=
    Registry.get?_modify hf changed
  rw [hget]
  split
  · subst_vars
    rw [hrun]
    exact h
  · exact .same _

lemma RunChange.of_invalidate (reason : String) {cause : Cause}
    (hreport : report = .invalidated cause) :
    RunChange settings s t report id (s.runs.get? id)
      ((s.runs.invalidateNonterminal reason).1.get? id) := by
  have hget : (s.runs.invalidateNonterminal reason).1.get? id =
      (s.runs.get? id).map fun run => run.invalidate reason :=
    Registry.get?_map fun run => run.invalidate_id reason
  rw [hget]
  cases hrun : s.runs.get? id with
  | none => exact .same _
  | some run => exact .invalidated run reason cause hreport

lemma Work.runChange {v v' : View} (h : Work s index v s' report spawned v') (id : String) :
    RunChange settings s t report id (s.runs.get? id) (s'.runs.get? id) := by
  cases h with
  | rest | ignored | handed | released | rebound | joined => exact .same _
  | announced guard f =>
    unfold Shared.moveGuard
    split <;> exact .same _
  | called guard transition reason => exact .of_invalidate reason rfl
  | invalidated reason cause => exact .of_invalidate reason rfl

lemma Work.keyed {v v' : View} (h : Work s index v s' report spawned v') (hkeyed : s.runs.Keyed) :
    s'.runs.Keyed := by
  cases h with
  | rest | ignored | handed | released | rebound | joined => exact hkeyed
  | announced guard f =>
    unfold Shared.moveGuard
    split <;> exact hkeyed
  | called guard transition reason => exact hkeyed.map fun run => run.invalidate_id reason
  | invalidated reason cause => exact hkeyed.map fun run => run.invalidate_id reason

lemma Work.issued {v v' : View} (h : Work s index v s' report spawned v') :
    s'.issued = s.issued := by
  cases h with
  | announced guard f =>
    unfold Shared.moveGuard
    split <;> rfl
  | _ => rfl

theorem Action.runChange (h : Action settings s index t s' report spawned t') (id : String) :
    RunChange settings s t report id (s.runs.get? id) (s'.runs.get? id) := by
  cases h with
  | work _ _ _ _ hwork => exact hwork.runChange id
  | validated => exact .same _
  | reserved runId admission target active runs hactive hruns ht =>
    obtain ⟨hidle, hnone, run, -, hid, hnav, hvalid, hclaim, hblocking, -, hget⟩ :=
      Registry.reserve_eq_ok hruns
    rw [hget]
    split
    · subst_vars
      rw [hnone]
      exact .reserved admission target run hidle rfl hnav hvalid hclaim hblocking rfl rfl
    · exact .same _
  | stray | asked | unknown | seen | lost | polled | retried => exact .same _
  | rejected runId result hown =>
    rw [Registry.get?_remove]
    split
    · subst_vars
      exact .rejected _ hown rfl
    · exact .same _
  | ambiguous runId detail run result hown _ hrun =>
    exact .of_modify hrun (fun run => run.updateRemote_id _ _) (.ambiguous run detail hown)
  | attached runId navRunId detail run pc hown _ hrun hnav =>
    exact .of_modify hrun (fun run => run.attach_id _ _)
      (.attached run navRunId detail hown hnav rfl)
  | updated runId navRunId reply run _ hrun hasks =>
    exact .of_modify hrun (fun run => run.updateRemote_id _ _)
      (.entered run navRunId reply hasks rfl)
  | claimed seen run hrun hclaim ht =>
    exact .of_modify hrun (fun _ => rfl) (.claimed run seen.navRunId (by rw [ht]; rfl) hclaim)
  | submitted seen run detail reason result hrun ht =>
    exact .of_modify hrun (fun _ => rfl) (.marked run detail none
      ⟨seen.navRunId, by rw [ht]; exact List.mem_singleton.mpr rfl⟩ fun h => by cases h)
  | confirmed claim outcome run hrun ht =>
    exact .of_modify hrun (fun run => run.updateRemote_id _ _)
      (.confirmed run claim.navRunId outcome (by rw [ht]; rfl))
  | marked claim outcome shown run detail hrun ht =>
    refine .of_modify hrun (fun _ => rfl) (.marked run detail _
      ⟨claim.navRunId, by rw [ht]; exact List.mem_singleton.mpr rfl⟩ fun h => ?_)
    rw [Option.some.inj h]
    rfl

/-- The registry holds every run under its identifier after a segment. -/
lemma Action.keyed (h : Action settings s index t s' report spawned t') (hkeyed : s.runs.Keyed) :
    s'.runs.Keyed := by
  cases h with
  | work _ _ _ _ hwork => exact hwork.keyed hkeyed
  | validated => exact hkeyed
  | reserved runId admission target active runs hactive hruns ht =>
    obtain ⟨-, hnone, run, hruns', hid, -⟩ := Registry.reserve_eq_ok hruns
    exact hkeyed.append (by rw [hid]; exact hnone) hruns'
  | stray | asked | unknown | seen | lost | polled | retried => exact hkeyed
  | rejected runId result hown => exact hkeyed.remove runId
  | ambiguous runId detail run result hown =>
    exact hkeyed.modify (fun run => run.updateRemote_id _ _) runId
  | attached runId navRunId detail run pc hown =>
    exact hkeyed.modify (fun run => run.attach_id _ _) runId
  | updated runId navRunId reply run _ hrun hasks =>
    exact hkeyed.modify (fun run => run.updateRemote_id _ _) runId
  | confirmed claim outcome run => exact hkeyed.modify (fun run => run.updateRemote_id _ _) _
  | claimed | submitted | marked =>
    refine hkeyed.modify ?_ _
    intro run
    rfl

/-- No segment draws an identifier. -/
lemma Action.issued (h : Action settings s index t s' report spawned t') :
    s'.issued = s.issued := by
  cases h with
  | work _ _ _ _ hwork => exact hwork.issued
  | _ => rfl

/-- The navigation call of a segment stays the same. -/
lemma Action.own_of (h : Action settings s index t s' report spawned t') {phase' : Phase}
    (hown : t'.own = some (id, phase')) : ∃ phase, t.own = some (id, phase) := by
  cases h with
  | work _ _ _ _ _ hadvances =>
    rcases hadvances.2 with hsame | ⟨runId, hbefore, hafter⟩
    · exact ⟨phase', by rw [← hsame, hown]⟩
    · rw [hown] at hafter
      obtain ⟨rfl, -⟩ := Prod.mk.inj (Option.some.inj hafter)
      exact ⟨_, hbefore⟩
  | validated runId admission target latest _ _ ht =>
    obtain ⟨rfl, -⟩ := Prod.mk.inj (Option.some.inj hown)
    exact ⟨_, by rw [ht]; rfl⟩
  | reserved runId admission target active runs _ _ ht =>
    obtain ⟨rfl, -⟩ := Prod.mk.inj (Option.some.inj hown)
    exact ⟨_, by rw [ht]; rfl⟩
  | stray runId pc hcalling | rejected runId result hcalling
  | ambiguous runId detail run result hcalling
  | attached runId navRunId detail run pc hcalling =>
    obtain ⟨rfl, -⟩ := Prod.mk.inj (Option.some.inj hown)
    exact ⟨_, hcalling⟩
  | asked _ _ _ _ _ _ hown' | updated _ _ _ _ _ _ _ _ hown' | unknown _ _ _ _ _ _ _ hown'
  | lost _ _ _ _ _ _ hown' =>
    rw [hown] at hown'
    cases hown'
  | seen | claimed | submitted | polled | retried | confirmed | marked => cases hown

/-! ## Knowledge of runs -/

/-- The registry holds the run with its navigation run. -/
def Shared.Known (s : Shared) (p : String × String) : Prop :=
  p.2 ≠ "" ∧ ∃ run, s.runs.get? p.1 = some run ∧ run.navRunId = p.2

/-- The registry holds a run that waits for its navigation run. -/
def Shared.Awaits (s : Shared) (id : String) : Prop :=
  ∃ run, s.runs.get? id = some run ∧ run.navRunId = ""

/-- The navigation run of a run changes only when its own call has its answer. -/
lemma RunChange.navRunId {run : Run} {after : Option Run}
    (h : RunChange settings s t report id (some run) after)
    (hown : t.own ≠ some (id, .calling)) :
    ∃ run', after = some run' ∧ run'.navRunId = run.navRunId := by
  cases h with
  | same => exact ⟨run, rfl, rfl⟩
  | rejected _ hcalling | ambiguous _ _ hcalling | attached _ _ _ hcalling =>
    exact absurd hcalling hown
  | entered | confirmed => exact ⟨_, rfl, run.updateRemote_navRunId _ _⟩
  | invalidated => exact ⟨_, rfl, run.invalidate_navRunId _⟩
  | claimed | marked => exact ⟨_, rfl, rfl⟩

lemma Action.known (h : Action settings s index t s' report spawned t') {p : String × String}
    (hcalling : t.own = some (p.1, .calling) → s.Awaits p.1) (hp : s.Known p) : s'.Known p := by
  obtain ⟨hnav, run, hrun, hsame⟩ := hp
  have hchange := h.runChange p.1
  rw [hrun] at hchange
  have hown : t.own ≠ some (p.1, .calling) := by
    intro hown
    obtain ⟨waiting, hwaiting, hempty⟩ := hcalling hown
    rw [hrun] at hwaiting
    obtain rfl := Option.some.inj hwaiting
    exact hnav (by rw [← hsame, hempty])
  obtain ⟨run', hrun', hsame'⟩ := hchange.navRunId hown
  exact ⟨hnav, run', hrun', by rw [hsame', hsame]⟩

lemma Action.awaits (h : Action settings s index t s' report spawned t')
    (hown : t.own ≠ some (id, .calling)) (hwaits : s.Awaits id) : s'.Awaits id := by
  obtain ⟨run, hrun, hempty⟩ := hwaits
  have hchange := h.runChange id
  rw [hrun] at hchange
  obtain ⟨run', hrun', hsame⟩ := hchange.navRunId hown
  exact ⟨run', hrun', by rw [hsame, hempty]⟩

/-- A run appears only when its own call reserves it. -/
lemma Action.absent (h : Action settings s index t s' report spawned t')
    (hown : ∀ phase, t.own ≠ some (id, phase)) (hnone : s.runs.get? id = none) :
    s'.runs.get? id = none := by
  have hchange := h.runChange id
  rw [hnone] at hchange
  generalize s'.runs.get? id = found at hchange
  cases hchange with
  | same => rfl
  | reserved admission target run _ _ _ _ _ _ ht =>
    exact absurd (by rw [ht]; rfl) (hown .unreserved)
  | rejected => rfl

/-- The cancellations that an invalidation claims are those of runs of the registry. -/
lemma Registry.Keyed.known_of_claim (hkeyed : s.runs.Keyed) {reason : String}
    {p : String × String}
    (hp : p ∈ (s.runs.invalidateNonterminal reason).2.map CancelClaim.pair) : s.Known p := by
  obtain ⟨claim, hclaim, rfl⟩ := List.mem_map.mp hp
  obtain ⟨run, hrun, rfl⟩ := List.mem_map.mp hclaim
  obtain ⟨hmem, hclaimable⟩ := List.mem_filter.mp hrun
  obtain ⟨-, hnav, -⟩ := of_decide_eq_true hclaimable
  exact ⟨hnav, run, hkeyed.get?_of_mem hmem, rfl⟩

lemma Work.claims {v v' : View} (h : Work s index v s' report spawned v') (hkeyed : s.runs.Keyed)
    {p : String × String} (hp : p ∈ v'.claims ∨ p ∈ handedOn spawned) :
    p ∈ v.claims ∨ s.Known p := by
  cases h with
  | rest _ hspawned =>
    rw [hspawned] at hp
    exact Or.inl (hp.resolve_right List.not_mem_nil)
  | announced | ignored | released | rebound =>
    rcases hp with hp | hp <;> cases hp
  | joined _ _ hspawned =>
    rw [hspawned] at hp
    rcases hp with hp | hp <;> cases hp
  | called guard transition reason => exact Or.inr (hkeyed.known_of_claim (hp.resolve_right
      List.not_mem_nil))
  | invalidated reason cause => exact Or.inr (hkeyed.known_of_claim (hp.resolve_right
      List.not_mem_nil))
  | handed claim claims locking hv =>
    left
    rw [hv]
    rcases hp with hp | hp
    · exact List.mem_cons_of_mem _ hp
    · rw [show handedOn [.cancelWorker claim] = [claim.pair] from rfl] at hp
      exact List.mem_cons.mpr (Or.inl (List.mem_singleton.mp hp))

/-- What a segment claims or hands on was claimed before, or is known of the registry. -/
lemma Action.claims (h : Action settings s index t s' report spawned t') (hkeyed : s.runs.Keyed)
    (hclaims : ∀ p ∈ t.view.claims, s.Known p) (hsees : ∀ p, t.sees = some p → s.Known p)
    {p : String × String} (hp : p ∈ t'.view.claims ∨ p ∈ handedOn spawned) :
    s.Known p ∨ s'.Known p := by
  cases h with
  | work _ _ _ _ hwork =>
    rcases hwork.claims hkeyed hp with hp | hp
    · exact Or.inl (hclaims p hp)
    · exact Or.inl hp
  | validated | reserved | seen =>
    rcases hp with hp | hp <;> cases hp
  | stray runId pc _ _ hview =>
    rw [show (Thread.navigate runId pc).view = {} from hview] at hp
    rcases hp with hp | hp <;> cases hp
  | rejected | ambiguous | marked =>
    rcases hp with hp | hp <;> cases hp
  | attached runId navRunId detail run pc _ _ hrun hnav _ hpc =>
    right
    rw [show (Thread.navigate runId pc).view = _ from hpc] at hp
    have hpair : p = (runId, navRunId) := by
      rcases hp with hp | hp
      · dsimp only at hp
        split at hp
        · exact List.mem_singleton.mp hp
        · cases hp
      · cases hp
    subst hpair
    refine ⟨hnav, run.attach navRunId detail, ?_, run.attach_navRunId _ _⟩
    have hid : ∀ run : Run, (run.attach navRunId detail).semanticRunId = run.semanticRunId :=
      fun run => run.attach_id navRunId detail
    show (s.runs.modify runId fun run => run.attach navRunId detail).get? runId = _
    rw [Registry.get?_modify hid runId, if_pos rfl, hrun]
    rfl
  | asked _ _ _ _ _ _ _ _ _ _ _ hview' | updated _ _ _ _ _ _ _ _ _ _ _ _ _ _ hview'
  | unknown _ _ _ _ _ _ _ _ _ _ _ _ _ hview' | lost _ _ _ _ _ _ _ hview' =>
    rw [hview'] at hp
    rcases hp with hp | hp <;> cases hp
  | claimed seen run hrun hclaim ht =>
    left
    have hp : p ∈ [(seen.semanticRunId, seen.navRunId)] := hp.resolve_right List.not_mem_nil
    rw [List.mem_singleton.mp hp]
    exact hsees _ (by rw [ht]; rfl)
  | submitted seen run detail reason result hrun ht =>
    left
    have hp : p ∈ [(seen.semanticRunId, run.navRunId)] := hp.resolve_right List.not_mem_nil
    rw [List.mem_singleton.mp hp]
    obtain ⟨hnav, found, hfound, hsame⟩ := hclaims (seen.semanticRunId, seen.navRunId)
      (by rw [ht]; exact List.mem_singleton.mpr rfl)
    rw [hrun] at hfound
    obtain rfl := Option.some.inj hfound
    exact ⟨by rw [hsame]; exact hnav, run, hrun, rfl⟩
  | polled claim reply progress ht =>
    left
    have hview : (Thread.cancelWorker claim (progress.polled settings.toLibrary (.ok reply))).view =
        { claims := [claim.pair] } := by
      simp only [CancelProgress.polled]
      split
      · split <;> rfl
      · rfl
    rw [hview] at hp
    exact hclaims p (by rw [ht]; exact hp.resolve_right List.not_mem_nil)
  | retried claim pc pc' ht hpc hpc' =>
    left
    rw [show (Thread.cancelWorker claim pc').view = _ from hpc'] at hp
    exact hclaims p (by
      rw [ht, show (Thread.cancelWorker claim pc).view = _ from hpc]
      exact hp.resolve_right List.not_mem_nil)
  | confirmed claim outcome run hrun ht =>
    left
    exact hclaims p (by rw [ht]; exact hp.resolve_right List.not_mem_nil)

/-! ## The asking threads -/

/-- What a thread asks about is in the registry when it asks. -/
lemma Action.asks (h : Action settings s index t s' report spawned t') {p : String × String}
    (hp : t'.asks = some p) : p.2 = "" ∨ s.Known p := by
  cases h with
  | asked runId run _ hrun hasks =>
    obtain rfl := Option.some.inj (hasks.symm.trans hp)
    by_cases hnav : run.navRunId = ""
    · exact Or.inl hnav
    · exact Or.inr ⟨hnav, run, hrun, rfl⟩
  | work _ _ _ _ _ _ hasks | updated _ _ _ _ _ _ _ _ _ hasks | unknown _ _ _ _ _ _ _ _ hasks
  | lost _ _ _ _ _ _ _ _ hasks =>
    rw [hasks] at hp
    cases hp
  | _ => cases hp

lemma Action.sees (h : Action settings s index t s' report spawned t') {p : String × String}
    (hp : t'.sees = some p) : s.Known p := by
  cases h with
  | seen runId run hrun hnav =>
    obtain rfl := Option.some.inj hp
    refine ⟨hnav, run, ?_, rfl⟩
    rw [Registry.get?_id hrun, hrun]
  | work _ _ _ _ _ _ _ hsees | asked _ _ _ _ _ _ _ hsees | updated _ _ _ _ _ _ _ _ _ _ hsees
  | unknown _ _ _ _ _ _ _ _ _ hsees | lost _ _ _ _ _ _ _ _ _ hsees =>
    rw [hsees] at hp
    cases hp
  | _ => cases hp

/-- A provider reply that confirms a terminal state of a navigation run. -/
structure Confirms (lib : Library) (log : List Report) (id navRunId state : String) : Prop where
  terminal : state ∈ terminalStates
  reply : ∃ reply : StatusReply, .statusReply id navRunId reply ∈ log ∧ reply.known = true ∧
    reply.normalState lib = state

lemma Confirms.mono {lib : Library} {log log' : List Report} {navRunId state : String}
    (h : Confirms lib log id navRunId state) (hlog : log ⊆ log') :
    Confirms lib log' id navRunId state := by
  obtain ⟨reply, hreply, hknown, hstate⟩ := h.reply
  exact ⟨h.terminal, reply, hlog hreply, hknown, hstate⟩

/-- A terminal outcome of a cancel worker comes from the reply of the segment, or from before. -/
lemma Action.verdict (h : Action settings s index t s' report spawned t') {navRunId : String}
    {outcome : CancelOutcome} (hp : t'.verdict = some (id, navRunId, outcome)) :
    t.verdict = some (id, navRunId, outcome) ∨
      Confirms settings.toLibrary [report] id navRunId outcome.terminalState := by
  cases h with
  | polled claim reply progress ht =>
    right
    simp only [CancelProgress.polled] at hp
    split at hp
    · rename_i hknown
      split at hp
      · rename_i hterminal
        obtain ⟨rfl, heq⟩ := Prod.mk.inj (Option.some.inj hp)
        obtain ⟨rfl, rfl⟩ := Prod.mk.inj heq
        exact ⟨hterminal, reply, List.mem_singleton.mpr rfl, hknown, rfl⟩
      · cases hp
    · cases hp
  | retried claim pc pc' ht _ _ houtcome =>
    left
    obtain ⟨found, hfound, heq⟩ := Option.map_eq_some_iff.mp hp
    rw [ht]
    exact Option.map_eq_some_iff.mpr ⟨found, houtcome found hfound, heq⟩
  | work _ _ _ _ _ _ _ _ hverdict | asked _ _ _ _ _ _ _ _ hverdict
  | updated _ _ _ _ _ _ _ _ _ _ _ hverdict | unknown _ _ _ _ _ _ _ _ _ _ hverdict
  | lost _ _ _ _ _ _ _ _ _ _ hverdict =>
    rw [hverdict] at hp
    cases hp
  | _ => cases hp

/-! ## The phases of a navigation call -/

lemma Action.unreserved (h : Action settings s index t s' report spawned t')
    (hown : t'.own = some (id, .unreserved)) : t.own = some (id, .unreserved) := by
  cases h with
  | work _ _ _ _ _ hadvances =>
    rcases hadvances.2 with hsame | ⟨runId, -, hafter⟩
    · rw [← hsame, hown]
    · rw [hown] at hafter
      cases hafter
  | validated runId admission target latest _ _ ht =>
    rw [ht]
    exact hown
  | stray runId pc _ hphase | attached runId navRunId detail run pc _ _ _ _ hphase =>
    rw [show (Thread.navigate runId pc).own = some (runId, pc.phase) from rfl, hphase] at hown
    cases hown
  | asked _ _ _ _ _ _ hown' | updated _ _ _ _ _ _ _ _ hown' | unknown _ _ _ _ _ _ _ hown'
  | lost _ _ _ _ _ _ hown' =>
    rw [hown] at hown'
    cases hown'
  | _ => cases hown

/-- A navigation call asks the provider only after it has reserved its run. -/
lemma Action.calling (h : Action settings s index t s' report spawned t')
    (hown : t'.own = some (id, .calling)) : s'.Awaits id := by
  cases h with
  | work _ _ _ _ _ hadvances =>
    rcases hadvances.2 with hsame | ⟨runId, -, hafter⟩
    · exact absurd (hsame.symm.trans hown) (hadvances.1 id)
    · rw [hown] at hafter
      cases hafter
  | reserved runId admission target active runs _ hruns =>
    obtain ⟨rfl, -⟩ := Prod.mk.inj (Option.some.inj hown)
    obtain ⟨-, -, run, -, -, hnav, -, -, -, -, hget⟩ := Registry.reserve_eq_ok hruns
    exact ⟨run, by rw [hget, if_pos rfl], hnav⟩
  | stray runId pc _ hphase | attached runId navRunId detail run pc _ _ _ _ hphase =>
    rw [show (Thread.navigate runId pc).own = some (runId, pc.phase) from rfl, hphase] at hown
    cases hown
  | asked _ _ _ _ _ _ hown' | updated _ _ _ _ _ _ _ _ hown' | unknown _ _ _ _ _ _ _ hown'
  | lost _ _ _ _ _ _ hown' =>
    rw [hown] at hown'
    cases hown'
  | _ => cases hown

lemma Work.report_cases {v v' : View} (h : Work s index v s' report spawned v') :
    report = .silent ∨ (∃ guard transition, report = .moved guard transition) ∨
      ∃ cause, report = .invalidated cause := by
  cases h with
  | announced guard f =>
    cases hmove : (s.moveGuard guard f).2 with
    | none => exact Or.inl rfl
    | some transition => exact Or.inr (Or.inl ⟨guard, transition, rfl⟩)
  | called guard transition => exact Or.inr (Or.inr ⟨_, rfl⟩)
  | invalidated reason cause => exact Or.inr (Or.inr ⟨cause, rfl⟩)
  | _ => exact Or.inl rfl

/-- A reservation is reported by the call that has drawn the identifier. -/
lemma Action.reserved_own (h : Action settings s index t s' report spawned t')
    {admission : Admission} (hreport : report = .reserved id admission) :
    t.own = some (id, .unreserved) ∧ t'.own = some (id, .calling) := by
  cases h with
  | reserved runId admission target active runs _ _ ht =>
    obtain ⟨rfl, -⟩ := Report.reserved.inj hreport
    rw [ht]
    exact ⟨rfl, rfl⟩
  | work _ _ _ _ hwork =>
    rcases hwork.report_cases with h | ⟨guard, transition, h⟩ | ⟨cause, h⟩ <;>
      rw [hreport] at h <;> cases h
  | marked claim outcome shown =>
    split at hreport <;> cases hreport
  | _ => cases hreport

/-! ## The service lock -/

lemma Work.lock {v v' : View} (h : Work s index v s' report spawned v')
    (hlock : v.locking = true → s.lock = some index) :
    (v'.locking = true → s'.lock = some index) ∧
      ∀ j, j ≠ index → s.lock = some j → s'.lock = some j := by
  cases h with
  | rest => exact ⟨hlock, fun _ _ h => h⟩
  | announced guard f =>
    refine ⟨(fun h => by cases h), fun j _ hj => ?_⟩
    unfold Shared.moveGuard
    split <;> exact hj
  | ignored | invalidated | rebound | joined => exact ⟨(fun h => by cases h), fun _ _ h => h⟩
  | called guard transition reason _ _ hfree =>
    refine ⟨fun _ => rfl, fun j _ hj => ?_⟩
    rw [hfree] at hj
    cases hj
  | handed claim claims locking hv =>
    refine ⟨fun h => hlock ?_, fun _ _ h => h⟩
    rw [hv]
    exact h
  | released hv =>
    refine ⟨(fun h => by cases h), fun j hj hheld => ?_⟩
    rw [hlock (by rw [hv])] at hheld
    exact absurd (Option.some.inj hheld).symm hj

/-- A thread that holds the service lock has taken it, and no other thread releases it. -/
lemma Action.lock (h : Action settings s index t s' report spawned t')
    (hlock : t.view.locking = true → s.lock = some index) :
    (t'.view.locking = true → s'.lock = some index) ∧
      ∀ j, j ≠ index → s.lock = some j → s'.lock = some j := by
  cases h with
  | work _ _ _ _ hwork => exact hwork.lock hlock
  | validated runId admission target latest hfree =>
    refine ⟨fun _ => rfl, fun j _ hj => ?_⟩
    rw [hfree] at hj
    cases hj
  | reserved runId admission target active runs _ _ ht =>
    refine ⟨(fun h => by cases h), fun j hj hheld => ?_⟩
    rw [hlock (by rw [ht]; rfl)] at hheld
    exact absurd (Option.some.inj hheld).symm hj
  | stray runId pc _ _ hview =>
    refine ⟨fun h => ?_, fun _ _ h => h⟩
    rw [show (Thread.navigate runId pc).view = {} from hview] at h
    cases h
  | attached runId navRunId detail run pc _ _ _ _ _ hpc =>
    refine ⟨fun h => ?_, fun _ _ h => h⟩
    rw [show (Thread.navigate runId pc).view = _ from hpc] at h
    cases h
  | asked _ _ _ _ _ _ _ _ _ _ _ hview' | updated _ _ _ _ _ _ _ _ _ _ _ _ _ _ hview'
  | unknown _ _ _ _ _ _ _ _ _ _ _ _ _ hview' | lost _ _ _ _ _ _ _ hview' =>
    refine ⟨fun h => ?_, fun _ _ h => h⟩
    rw [hview'] at h
    cases h
  | rejected | ambiguous | seen | claimed | submitted | confirmed | marked =>
    exact ⟨(fun h => by cases h), fun _ _ h => h⟩
  | polled claim reply progress =>
    refine ⟨fun h => ?_, fun _ _ h => h⟩
    simp only [CancelProgress.polled] at h
    split at h
    · split at h <;> cases h
    · cases h
  | retried claim pc pc' _ _ hpc' =>
    refine ⟨fun h => ?_, fun _ _ h => h⟩
    rw [show (Thread.cancelWorker claim pc').view = _ from hpc'] at h
    cases h

/-! ## The reliance of the threads -/

/-- What holds of the registry in every run of the service. -/
structure Consistent (log : List Report) (s : Shared) : Prop where
  keyed : s.runs.Keyed
  /-- `uuid4` has drawn every identifier once. -/
  drawn : (s.issued.map Prod.fst).Nodup
  run : ∀ id run, s.runs.get? id = some run → id ∈ s.issued.map Prod.fst
  reserved : ∀ id admission, .reserved id admission ∈ log → id ∈ s.issued.map Prod.fst

/-- What a thread relies on. -/
structure Reliable (settings : Settings) (log : List Report) (s : Shared) (index : ℕ)
    (t : Thread) : Prop where
  own : ∀ id phase, t.own = some (id, phase) → (id, index) ∈ s.issued
  unreserved : ∀ id, t.own = some (id, .unreserved) →
    s.runs.get? id = none ∧ ∀ admission, .reserved id admission ∉ log
  calling : ∀ id, t.own = some (id, .calling) → s.Awaits id
  claims : ∀ p ∈ t.view.claims, s.Known p
  asks : ∀ p, t.asks = some p → p.2 = "" ∨ s.Known p
  sees : ∀ p, t.sees = some p → s.Known p
  verdict : ∀ id navRunId outcome, t.verdict = some (id, navRunId, outcome) →
    Confirms settings.toLibrary log id navRunId outcome.terminalState
  lock : t.view.locking = true → s.lock = some index

lemma Consistent.index_unique {log : List Report} (h : Consistent log s) {i j : ℕ}
    (hi : (id, i) ∈ s.issued) (hj : (id, j) ∈ s.issued) : i = j :=
  (Prod.mk.inj (List.inj_on_of_nodup_map h.drawn hi hj rfl)).2

/-- A thread that was just started relies on its claim only. -/
lemma Reliable.of_spawn {log : List Report} (spawn : Spawn)
    (hclaims : ∀ p ∈ (Thread.ofSpawn spawn).view.claims, s.Known p) :
    Reliable settings log s index (.ofSpawn spawn) := by
  refine ⟨?_, ?_, ?_, hclaims, ?_, ?_, ?_, ?_⟩ <;> cases spawn <;> intro _ <;> intros <;>
    contradiction

/-- The identifiers that were drawn and reserved before a segment, after it. -/
lemma Consistent.act {log : List Report} (h : Consistent log s)
    (ht : Reliable settings log s index t) (hact : Action settings s index t s' report spawned t') :
    Consistent (log ++ [report]) s' := by
  have hdrawn : ∀ id, t.own = some (id, .unreserved) → id ∈ s.issued.map Prod.fst :=
    fun id hown => List.mem_map.mpr ⟨(id, index), ht.own id _ hown, rfl⟩
  refine ⟨hact.keyed h.keyed, by rw [hact.issued]; exact h.drawn, ?_, ?_⟩
  · intro id run hrun
    rw [hact.issued]
    have hchange := hact.runChange id
    rw [hrun] at hchange
    generalize hfound : s.runs.get? id = found at hchange
    cases hchange with
    | reserved admission target run _ _ _ _ _ _ heq => exact hdrawn id (by rw [heq]; rfl)
    | _ => exact h.run id _ hfound
  · intro id admission hmem
    rw [hact.issued]
    rcases List.mem_append.mp hmem with hmem | hmem
    · exact h.reserved id admission hmem
    · exact hdrawn id (hact.reserved_own (List.mem_singleton.mp hmem).symm).1

/-- A segment arrives at what its thread relies on. -/
lemma Reliable.act {log : List Report} (h : Consistent log s)
    (ht : Reliable settings log s index t) (hact : Action settings s index t s' report spawned t') :
    Reliable settings (log ++ [report]) s' index t' := by
  have hknown : ∀ p, s.Known p → s'.Known p := fun p => hact.known (ht.calling p.1)
  refine ⟨?_, ?_, fun id hown => hact.calling hown, ?_, ?_, ?_, ?_, (hact.lock ht.lock).1⟩
  · intro id phase hown
    obtain ⟨before, hbefore⟩ := hact.own_of hown
    rw [hact.issued]
    exact ht.own id before hbefore
  · intro id hown
    obtain ⟨hnone, hlog⟩ := ht.unreserved id (hact.unreserved hown)
    have hquiet : ∀ admission, report ≠ .reserved id admission := by
      intro admission hreport
      have hafter := (hact.reserved_own hreport).2
      rw [hown] at hafter
      cases hafter
    constructor
    · have hchange := hact.runChange id
      rw [hnone] at hchange
      generalize s'.runs.get? id = found at hchange
      cases hchange with
      | same | rejected => rfl
      | reserved admission target run _ _ _ _ _ _ _ hreport =>
        exact absurd hreport (hquiet admission)
    · intro admission hmem
      rcases List.mem_append.mp hmem with hmem | hmem
      · exact hlog admission hmem
      · exact hquiet admission (List.mem_singleton.mp hmem).symm
  · intro p hp
    exact (hact.claims h.keyed ht.claims ht.sees (Or.inl hp)).elim (hknown p) id
  · intro p hp
    exact (hact.asks hp).imp_right (hknown p)
  · intro p hp
    exact hknown p (hact.sees hp)
  · intro id navRunId outcome hp
    rcases hact.verdict hp with hp | hp
    · exact (ht.verdict id navRunId outcome hp).mono (List.subset_append_left _ _)
    · exact hp.mono (List.subset_append_right _ _)

/-- A segment does not interfere with what another thread relies on. -/
lemma Reliable.other {log : List Report} {j : ℕ} {u : Thread} (h : Consistent log s)
    (ht : Reliable settings log s index t) (hu : Reliable settings log s j u) (hj : j ≠ index)
    (hact : Action settings s index t s' report spawned t') :
    Reliable settings (log ++ [report]) s' j u := by
  have hknown : ∀ p, s.Known p → s'.Known p := fun p => hact.known (ht.calling p.1)
  have hapart : ∀ id phase, u.own = some (id, phase) → ∀ phase', t.own ≠ some (id, phase') :=
    fun id phase hown phase' hother =>
      hj (h.index_unique (hu.own id phase hown) (ht.own id phase' hother))
  refine ⟨?_, ?_, ?_, fun p hp => hknown p (hu.claims p hp), ?_,
    fun p hp => hknown p (hu.sees p hp), ?_,
    fun hlock => (hact.lock ht.lock).2 j hj (hu.lock hlock)⟩
  · intro id phase hown
    rw [hact.issued]
    exact hu.own id phase hown
  · intro id hown
    obtain ⟨hnone, hlog⟩ := hu.unreserved id hown
    refine ⟨hact.absent (hapart id _ hown) hnone, fun admission hmem => ?_⟩
    rcases List.mem_append.mp hmem with hmem | hmem
    · exact hlog admission hmem
    · exact hapart id _ hown _ (hact.reserved_own (List.mem_singleton.mp hmem).symm).1
  · intro id hown
    exact hact.awaits (hapart id _ hown _) (hu.calling id hown)
  · intro p hp
    exact (hu.asks p hp).imp_right (hknown p)
  · intro id navRunId outcome hp
    exact (hu.verdict id navRunId outcome hp).mono (List.subset_append_left _ _)

/-- A call starts a thread that relies on what it has drawn only. -/
lemma Reliable.call {log : List Report} (h : Consistent log s) {request : Request}
    (hcall : s.call index request = some (s', t)) :
    Consistent log s' ∧ Reliable settings log s' index t ∧
      ∀ j u, Reliable settings log s j u → Reliable settings log s' j u := by
  have hfresh : ∀ t : Thread, t.own = none → t.view = {} → t.asks = none → t.sees = none →
      t.verdict = none → Reliable settings log s index t := by
    intro t hown hview hasks hsees hverdict
    refine ⟨?_, ?_, ?_, ?_, ?_, ?_, ?_, ?_⟩
    · rw [hown]
      exact fun _ _ h => by cases h
    · rw [hown]
      exact fun _ h => by cases h
    · rw [hown]
      exact fun _ h => by cases h
    · rw [hview]
      exact fun _ h => by cases h
    · rw [hasks]
      exact fun _ h => by cases h
    · rw [hsees]
      exact fun _ h => by cases h
    · rw [hverdict]
      exact fun _ _ _ h => by cases h
    · rw [hview]
      exact fun h => by cases h
  cases request with
  | navigate runId =>
    simp only [Shared.call] at hcall
    split at hcall
    · cases hcall
    rename_i hnew
    obtain ⟨rfl, rfl⟩ := Prod.mk.inj (Option.some.inj hcall)
    have hnone : s.runs.get? runId = none := by
      cases hrun : s.runs.get? runId with
      | none => rfl
      | some run => exact absurd (h.run runId run hrun) hnew
    refine ⟨⟨h.keyed, ?_, ?_, ?_⟩, ⟨?_, ?_, ?_, ?_, ?_, ?_, ?_, ?_⟩, ?_⟩
    · exact List.nodup_cons.mpr ⟨hnew, h.drawn⟩
    · exact fun id run hrun => List.mem_cons_of_mem _ (h.run id run hrun)
    · exact fun id admission hmem => List.mem_cons_of_mem _ (h.reserved id admission hmem)
    · intro id phase hown
      obtain ⟨rfl, -⟩ := Prod.mk.inj (Option.some.inj hown)
      exact List.mem_cons_self
    · intro id hown
      obtain ⟨rfl, -⟩ := Prod.mk.inj (Option.some.inj hown)
      exact ⟨hnone, fun admission hmem => hnew (h.reserved runId admission hmem)⟩
    · exact fun _ h => by cases h
    · exact fun _ h => by cases h
    · exact fun _ h => by cases h
    · exact fun _ h => by cases h
    · exact fun _ _ _ h => by cases h
    · exact fun h => by cases h
    · intro j u hu
      exact ⟨fun id phase hown => List.mem_cons_of_mem _ (hu.own id phase hown), hu.unreserved,
        hu.calling, hu.claims, hu.asks, hu.sees, hu.verdict, hu.lock⟩
  | status | cancel | activate | stop =>
    obtain ⟨rfl, rfl⟩ := Prod.mk.inj (Option.some.inj hcall)
    exact ⟨h, hfresh _ rfl rfl rfl rfl rfl, fun _ _ hu => hu⟩

/-- The verdict of a cancel worker is about the run whose cancellation it has claimed. -/
lemma Thread.claims_of_verdict {navRunId : String} {outcome : CancelOutcome}
    (h : t.verdict = some (id, navRunId, outcome)) : (id, navRunId) ∈ t.view.claims := by
  cases t with
  | cancelWorker claim pc =>
    obtain ⟨found, hfound, heq⟩ := Option.map_eq_some_iff.mp h
    simp only [Prod.mk.injEq] at heq
    obtain ⟨rfl, rfl, -⟩ := heq
    cases pc with
    | getting | updating => exact List.mem_singleton.mpr rfl
    | polling | cancelling | waiting | marking | returned => cases hfound
  | _ => cases h

/-- Every segment of the service keeps the registry consistent and the threads reliable. -/
theorem service_keeps (settings : Settings) :
    (service settings).Keeps (fun _ _ _ => True) Consistent (Reliable settings) where
  act := by
    intro log p index t input seg ht hact _ hp
    obtain ⟨spawned, hspawned, haction⟩ := Thread.act_action hact
    have hself := hp.thread index t ht
    refine ⟨hp.shared.act hself haction, hself.act hp.shared haction, ?_, ?_⟩
    · intro u hu k _
      rw [hspawned] at hu
      obtain ⟨spawn, hspawn, rfl⟩ := List.mem_map.mp hu
      refine .of_spawn spawn fun q hq => ?_
      have hq : q ∈ handedOn spawned := List.mem_flatMap.mpr ⟨spawn, hspawn, hq⟩
      exact (haction.claims hp.shared.keyed hself.claims hself.sees (Or.inr hq)).elim
        (haction.known (hself.calling q.1)) id
    · intro j u hj hu
      exact .other hp.shared hself (hp.thread j u hu) hj haction
  call := by
    intro log p request s t hcall _ hp
    obtain ⟨hshared, hself, hother⟩ := Reliable.call hp.shared hcall
    exact ⟨hshared, hself, fun j u hu => hother j u (hp.thread j u hu)⟩

/-- **The threads can rely on what they have seen**, after every run of the service. -/
theorem service_reliable (settings : Settings) (es : List (PoolEvent Input Request)) :
    Program.Holds Consistent (Reliable settings)
      (Program.log ((service settings).machine.trace idleService es))
      ((service settings).machine.final idleService es) := by
  have hstart : Program.Holds Consistent (Reliable settings) [] idleService :=
    ⟨⟨List.nodup_nil, List.nodup_nil, (fun _ _ h => by cases h), (fun _ _ h => by cases h)⟩,
      fun _ _ h => by cases h⟩
  exact (service_keeps settings).run hstart es fun _ _ _ _ => trivial

end UnitreeGo2.SemanticNavigation
