import UnitreeGo2.Lib.Machine
import Mathlib.Data.List.Nodup

/-!
# The registry of semantic runs

A semantic run is reserved before the navigation provider is asked, gets the provider's run
identifier afterwards, and blocks every other reservation until the provider has confirmed that
it is terminal.
-/

namespace UnitreeGo2.SemanticNavigation

def terminalStates : List String := ["SUCCEEDED", "CANCELED", "FAILED"]

/-- What the service uses of the strings of its language. -/
structure Library where
  strip : String → String
  upper : String → String
  repr : String → String
  /-- The states that the service writes itself are as `strip` and `upper` leave them. -/
  normal : ∀ state ∈ "UNKNOWN" :: terminalStates, upper (strip state) = state

/-- A run of the registry.  The registry hands out copies of it as snapshots. -/
structure Run where
  semanticRunId : String
  navRunId : String
  landmarkId : String
  landmarkName : String
  mapId : String
  mapGeneration : ℕ
  lifecycleRevision : ℕ
  state : String := "STARTING"
  navigationDetail : String := ""
  invalidated : Bool := false
  invalidationDetail : String := ""
  cancelStarted : Bool := false
  cancelDetail : String := ""
  remoteState : String := ""
  remoteTerminal : Bool := false
  deriving DecidableEq, Repr

/-- What the methods of the registry raise. -/
inductive RegistryError where
  | singleFlight (activeRun : Run)
  | valueError (message : String)
  | keyError (message : String)
  deriving DecidableEq, Repr

/-- The text of a `SingleFlightError`. -/
def singleFlightMessage (lib : Library) (activeRun : Run) : String :=
  let navId := if activeRun.navRunId = "" then "awaiting-provider-run-id" else activeRun.navRunId
  let remote := if activeRun.remoteState = "" then "UNKNOWN" else activeRun.remoteState
  "semantic navigation busy: run " ++ lib.repr activeRun.semanticRunId ++ " is local=" ++
    activeRun.state ++ " remote=" ++ remote ++ " nav_run_id=" ++ lib.repr navId ++
    "; wait for confirmed remote terminal status"

/-- A navigation run that a caller of the registry has to cancel, and why. -/
structure CancelClaim where
  semanticRunId : String
  navRunId : String
  reason : String
  deriving DecidableEq, Repr

/-! ## Runs -/

namespace Run

/-- The run stands in the way of every new reservation. -/
def Blocking (run : Run) : Prop := run.remoteTerminal = false

instance (run : Run) : Decidable run.Blocking := inferInstanceAs (Decidable (_ = _))

def attach (run : Run) (navRunId navigationDetail : String) : Run :=
  let attached := { run with
    navRunId := navRunId
    navigationDetail := navigationDetail
    remoteState := "PENDING"
    remoteTerminal := false }
  if run.invalidated then { attached with cancelStarted := true }
  else { attached with state := "PENDING" }

/-- `state.strip().upper() or "FAILED"`. -/
def remoteStateOf (lib : Library) (state : String) : String :=
  if lib.upper (lib.strip state) = "" then "FAILED" else lib.upper (lib.strip state)

def updateRemote (lib : Library) (run : Run) (state navigationDetail : String) : Run :=
  if run.remoteTerminal then run
  else
    { run with
      remoteState := remoteStateOf lib state
      remoteTerminal := remoteStateOf lib state ∈ terminalStates
      navigationDetail := navigationDetail
      state := if run.invalidated then run.state else remoteStateOf lib state }

/-- A cancellation of the run may be claimed. -/
def Claimable (run : Run) : Prop := run.navRunId ≠ "" ∧ run.cancelStarted = false

instance (run : Run) : Decidable run.Claimable := inferInstanceAs (Decidable (_ ∧ _))

def invalidate (run : Run) (reason : String) : Run :=
  if run.remoteTerminal then run
  else
    { run with
      invalidated := true
      invalidationDetail := reason
      state := "FAILED"
      cancelStarted := run.cancelStarted || decide (run.navRunId ≠ "") }

def markCancelResult (run : Run) (detail : String) (cancelInProgress : Option Bool) : Run :=
  { run with
    cancelDetail := detail
    cancelStarted := cancelInProgress.getD run.cancelStarted }

end Run

/-! ## The registry -/

/-- The runs in the order of their reservations. -/
structure Registry where
  runs : List Run := []
  latestRunId : String := ""
  deriving DecidableEq, Repr

namespace Registry

def unknownRun (lib : Library) (semanticRunId : String) : RegistryError :=
  .keyError ("unknown semantic navigation run_id " ++ lib.repr semanticRunId)

def get? (r : Registry) (semanticRunId : String) : Option Run :=
  r.runs.find? fun run => run.semanticRunId = semanticRunId

/-- The registry after a change of one of its runs. -/
def modify (r : Registry) (semanticRunId : String) (f : Run → Run) : Registry :=
  { r with runs := r.runs.map fun run => if run.semanticRunId = semanticRunId then f run else run }

def reserve (lib : Library) (r : Registry) (landmarkId landmarkName mapId : String)
    (mapGeneration lifecycleRevision : ℕ) (semanticRunId : String) :
    Except RegistryError Registry :=
  match r.runs.find? fun run => run.Blocking with
  | some busy => .error (.singleFlight busy)
  | none =>
    if (r.get? semanticRunId).isSome then
      .error (.valueError ("duplicate semantic run_id " ++ lib.repr semanticRunId))
    else .ok
      { runs := r.runs ++ [{
          semanticRunId := semanticRunId
          navRunId := ""
          landmarkId := landmarkId
          landmarkName := landmarkName
          mapId := mapId
          mapGeneration := mapGeneration
          lifecycleRevision := lifecycleRevision }]
        latestRunId := semanticRunId }

/-- The registry, the run that now has its navigation run, and whether it must be cancelled. -/
def attachNavigation (lib : Library) (r : Registry)
    (semanticRunId navRunId navigationDetail : String) :
    Except RegistryError (Registry × Run × Bool) :=
  if navRunId = "" then .error (.valueError "nav_run_id is empty")
  else
    match r.get? semanticRunId with
    | none => .error (unknownRun lib semanticRunId)
    | some run =>
      .ok ({ r.modify semanticRunId fun run => run.attach navRunId navigationDetail with
          latestRunId := semanticRunId },
        run.attach navRunId navigationDetail, run.invalidated)

def remove (r : Registry) (semanticRunId : String) : Registry :=
  { r with runs := r.runs.filter fun run => run.semanticRunId ≠ semanticRunId }

def resolve (lib : Library) (r : Registry) (semanticRunId : String) :
    Except RegistryError String :=
  let resolved := if lib.strip semanticRunId = "" then r.latestRunId else lib.strip semanticRunId
  if resolved = "" then .error (.keyError "no semantic navigation run exists")
  else if (r.get? resolved).isSome then .ok resolved
  else .error (unknownRun lib resolved)

def get (lib : Library) (r : Registry) (semanticRunId : String) : Except RegistryError Run :=
  match r.get? semanticRunId with
  | none => .error (unknownRun lib semanticRunId)
  | some run => .ok run

def updateRemote (lib : Library) (r : Registry)
    (semanticRunId state navigationDetail : String) : Except RegistryError (Registry × Run) :=
  match r.get? semanticRunId with
  | none => .error (unknownRun lib semanticRunId)
  | some run =>
    .ok (r.modify semanticRunId fun run => run.updateRemote lib state navigationDetail,
      run.updateRemote lib state navigationDetail)

/-- The registry, and the cancellations that the caller has claimed. -/
def invalidateNonterminal (r : Registry) (reason : String) : Registry × List CancelClaim :=
  ({ r with runs := r.runs.map fun run => run.invalidate reason },
    (r.runs.filter fun run => run.Blocking ∧ run.Claimable).map fun run =>
      ⟨run.semanticRunId, run.navRunId, reason⟩)

/-- The registry, and the navigation run with the invalidation detail, if the claim succeeds. -/
def claimCancel (lib : Library) (r : Registry) (semanticRunId : String) :
    Except RegistryError (Registry × Option (String × String)) :=
  match r.get? semanticRunId with
  | none => .error (unknownRun lib semanticRunId)
  | some run =>
    if run.Claimable then
      .ok (r.modify semanticRunId fun run => { run with cancelStarted := true },
        some (run.navRunId, run.invalidationDetail))
    else .ok (r, none)

def markCancelResult (lib : Library) (r : Registry) (semanticRunId detail : String)
    (cancelInProgress : Option Bool) : Except RegistryError (Registry × Run) :=
  match r.get? semanticRunId with
  | none => .error (unknownRun lib semanticRunId)
  | some run =>
    .ok (r.modify semanticRunId fun run => run.markCancelResult detail cancelInProgress,
      run.markCancelResult detail cancelInProgress)

/-! ## Looking up runs -/

variable {lib : Library} {r r' : Registry} {id latest : String} {run : Run}

lemma get?_id (h : r.get? id = some run) : run.semanticRunId = id := by
  have hfound := List.find?_some h
  simpa using hfound

lemma mem_of_get? (h : r.get? id = some run) : run ∈ r.runs := List.mem_of_find?_eq_some h

lemma get?_map {f : Run → Run} (hf : ∀ run, (f run).semanticRunId = run.semanticRunId) :
    (Registry.mk (r.runs.map f) latest).get? id = (r.get? id).map f := by
  rw [get?, get?, List.find?_map]
  simp only [Function.comp_def, hf]

lemma get?_modify {f : Run → Run} (hf : ∀ run, (f run).semanticRunId = run.semanticRunId)
    (changed : String) :
    (r.modify changed f).get? id = if id = changed then (r.get? id).map f else r.get? id := by
  have hsame : ∀ run : Run,
      (if run.semanticRunId = changed then f run else run).semanticRunId = run.semanticRunId := by
    intro run
    split
    · exact hf run
    · rfl
  rw [modify, get?_map hsame]
  cases hget : r.get? id with
  | none => simp
  | some run =>
    rw [Option.map_some, get?_id hget]
    split <;> rfl

lemma get?_remove (removed : String) :
    (r.remove removed).get? id = if id = removed then none else r.get? id := by
  rw [remove, get?, get?, List.find?_filter]
  split
  · subst_vars
    rw [List.find?_eq_none]
    intro run _
    simp
  · rename_i hne
    congr 1
    funext run
    by_cases hid : run.semanticRunId = id
    · simp [hid, hne]
    · simp [hid]

/-- The run that a reservation adds. -/
lemma reserve_eq_ok {landmarkId landmarkName mapId : String} {mapGeneration revision : ℕ}
    (h : r.reserve lib landmarkId landmarkName mapId mapGeneration revision id = .ok r') :
    (∀ run ∈ r.runs, ¬ run.Blocking) ∧ r.get? id = none ∧
      ∃ run : Run, r'.runs = r.runs ++ [run] ∧ run.semanticRunId = id ∧ run.navRunId = "" ∧
        run.invalidated = false ∧ run.cancelStarted = false ∧ run.Blocking ∧
        run.lifecycleRevision = revision ∧
        ∀ other, r'.get? other = if other = id then some run else r.get? other := by
  unfold reserve at h
  split at h
  · cases h
  rename_i hidle
  split at h
  · cases h
  rename_i hfresh
  obtain rfl := Except.ok.inj h
  have hnone : r.get? id = none := by simpa using hfresh
  refine ⟨?_, hnone, _, rfl, rfl, rfl, rfl, rfl, rfl, rfl, fun other => ?_⟩
  · intro run hrun
    have hbusy := List.find?_eq_none.mp hidle run hrun
    simpa using hbusy
  · rw [get?, List.find?_append]
    by_cases hother : other = id
    · subst hother
      rw [if_pos rfl]
      have : r.runs.find? (fun run => decide (run.semanticRunId = other)) = none := hnone
      rw [this]
      simp
    · rw [if_neg hother]
      have hne : ¬ id = other := fun h => hother h.symm
      simp [hne, get?]

/-- No two runs of the registry have the same identifier. -/
def Keyed (r : Registry) : Prop := (r.runs.map Run.semanticRunId).Nodup

lemma Keyed.get?_of_mem (h : r.Keyed) (hrun : run ∈ r.runs) :
    r.get? run.semanticRunId = some run := by
  cases hget : r.get? run.semanticRunId with
  | none =>
    have hnot := List.find?_eq_none.mp hget run hrun
    simp at hnot
  | some found =>
    rw [List.inj_on_of_nodup_map h (mem_of_get? hget) hrun (get?_id hget)]

lemma Keyed.map (h : r.Keyed) {f : Run → Run}
    (hf : ∀ run, (f run).semanticRunId = run.semanticRunId) :
    (Registry.mk (r.runs.map f) latest).Keyed := by
  have hids : (fun run => (f run).semanticRunId) = Run.semanticRunId := funext hf
  rw [Keyed, List.map_map, Function.comp_def, hids]
  exact h

lemma Keyed.modify (h : r.Keyed) {f : Run → Run}
    (hf : ∀ run, (f run).semanticRunId = run.semanticRunId) (changed : String) :
    (r.modify changed f).Keyed := by
  refine h.map fun run => ?_
  split
  · exact hf run
  · rfl

lemma Keyed.remove (h : r.Keyed) (removed : String) : (r.remove removed).Keyed :=
  h.sublist (List.filter_sublist.map _)

lemma Keyed.append (h : r.Keyed) (hfresh : r.get? run.semanticRunId = none)
    (hr' : r'.runs = r.runs ++ [run]) : r'.Keyed := by
  rw [Keyed, hr', List.map_append, List.nodup_append]
  refine ⟨h, List.nodup_singleton _, ?_⟩
  intro id hid other hother heq
  obtain ⟨found, hfound, rfl⟩ := List.mem_map.mp hid
  have hget := h.get?_of_mem hfound
  rw [heq, List.mem_singleton.mp hother, hfresh] at hget
  cases hget

end Registry

/-! ## What the operations keep of a run -/

namespace Run

variable {lib : Library} {run : Run}

@[simp] lemma attach_id (navRunId detail : String) :
    (run.attach navRunId detail).semanticRunId = run.semanticRunId := by
  simp only [attach]
  split <;> rfl

@[simp] lemma attach_navRunId (navRunId detail : String) :
    (run.attach navRunId detail).navRunId = navRunId := by
  simp only [attach]
  split <;> rfl

lemma attach_blocking (navRunId detail : String) : (run.attach navRunId detail).Blocking := by
  simp only [attach]
  split <;> rfl

@[simp] lemma attach_invalidated (navRunId detail : String) :
    (run.attach navRunId detail).invalidated = run.invalidated := by
  simp only [attach]
  split <;> rfl

lemma attach_of_invalidated (h : run.invalidated = true) (navRunId detail : String) :
    (run.attach navRunId detail).state = run.state ∧
      (run.attach navRunId detail).cancelStarted = true := by
  rw [attach, if_pos h]
  exact ⟨rfl, rfl⟩

@[simp] lemma updateRemote_id (state detail : String) :
    (run.updateRemote lib state detail).semanticRunId = run.semanticRunId := by
  unfold updateRemote
  split <;> rfl

@[simp] lemma updateRemote_navRunId (state detail : String) :
    (run.updateRemote lib state detail).navRunId = run.navRunId := by
  unfold updateRemote
  split <;> rfl

@[simp] lemma updateRemote_invalidated (state detail : String) :
    (run.updateRemote lib state detail).invalidated = run.invalidated := by
  unfold updateRemote
  split <;> rfl

@[simp] lemma updateRemote_cancelStarted (state detail : String) :
    (run.updateRemote lib state detail).cancelStarted = run.cancelStarted := by
  unfold updateRemote
  split <;> rfl

lemma updateRemote_state (h : run.invalidated = true) (state detail : String) :
    (run.updateRemote lib state detail).state = run.state := by
  simp only [updateRemote, h, if_true]
  split <;> rfl

/-- A terminal run stays terminal, and a blocking one ends with a terminal state. -/
lemma updateRemote_blocking (state detail : String) :
    (run.updateRemote lib state detail).Blocking ↔
      run.Blocking ∧ remoteStateOf lib state ∉ terminalStates := by
  unfold updateRemote Blocking
  split
  · simp_all
  · simp_all

lemma remoteStateOf_unknown (lib : Library) : remoteStateOf lib "UNKNOWN" = "UNKNOWN" := by
  rw [remoteStateOf, lib.normal "UNKNOWN" List.mem_cons_self]
  rfl

lemma remoteStateOf_terminal {state : String} (h : state ∈ terminalStates) :
    remoteStateOf lib state = state := by
  rw [remoteStateOf, lib.normal state (List.mem_cons_of_mem _ h)]
  split
  · subst_vars
    exact absurd h (by decide)
  · rfl

/-- A run stays as blocking as it was when its provider state is unknown. -/
lemma updateRemote_unknown_blocking (detail : String) :
    (run.updateRemote lib "UNKNOWN" detail).Blocking ↔ run.Blocking := by
  rw [updateRemote_blocking, remoteStateOf_unknown]
  exact and_iff_left (by decide)

@[simp] lemma invalidate_id (reason : String) :
    (run.invalidate reason).semanticRunId = run.semanticRunId := by
  unfold invalidate
  split <;> rfl

@[simp] lemma invalidate_navRunId (reason : String) :
    (run.invalidate reason).navRunId = run.navRunId := by
  unfold invalidate
  split <;> rfl

@[simp] lemma invalidate_blocking (reason : String) :
    (run.invalidate reason).Blocking ↔ run.Blocking := by
  unfold invalidate Blocking
  split <;> rfl

lemma invalidate_of_blocking (h : run.Blocking) (reason : String) :
    (run.invalidate reason).invalidated = true ∧ (run.invalidate reason).state = "FAILED" := by
  rw [invalidate, if_neg (by rw [h]; decide)]
  exact ⟨rfl, rfl⟩

lemma invalidate_of_terminal (h : ¬ run.Blocking) (reason : String) :
    run.invalidate reason = run := by
  rw [invalidate, if_pos (by simpa [Blocking] using h)]

@[simp] lemma markCancelResult_id (detail : String) (cancelInProgress : Option Bool) :
    (run.markCancelResult detail cancelInProgress).semanticRunId = run.semanticRunId := rfl

end Run

end UnitreeGo2.SemanticNavigation
