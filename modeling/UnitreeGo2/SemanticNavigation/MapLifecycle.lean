import UnitreeGo2.SemanticNavigation.RunState

/-!
# The guard of the map lifecycle

The guard keeps the latest sample of the map lifecycle, or why there is none, and counts every
change in its revision.  An admission is a token that is checked again when the goal is reserved.
-/

namespace UnitreeGo2.SemanticNavigation

structure MapLifecycleState where
  mapId : String
  mode : String
  generation : ℕ
  deriving DecidableEq, Repr

structure LifecycleSnapshot where
  state : Option MapLifecycleState
  error : String
  revision : ℕ
  sampleSeen : Bool
  deriving DecidableEq, Repr

structure LifecycleTransition where
  previous : Option MapLifecycleState
  current : Option MapLifecycleState
  error : String
  revision : ℕ
  deriving DecidableEq, Repr

structure LifecycleGuard where
  expectedMapId : String
  expectedGeneration : ℕ
  state : Option MapLifecycleState := none
  error : String := "no MapLifecycle sample has been received"
  revision : ℕ := 0
  sampleSeen : Bool := false
  deriving DecidableEq, Repr

namespace LifecycleGuard

def snapshot (g : LifecycleGuard) : LifecycleSnapshot :=
  ⟨g.state, g.error, g.revision, g.sampleSeen⟩

/-- The guard after a sample, and the transition that its callback is told. -/
def observe (g : LifecycleGuard) (state : MapLifecycleState) :
    LifecycleGuard × Option LifecycleTransition :=
  let seen := { g with state := some state, error := "", sampleSeen := true }
  if g.state ≠ some state ∨ g.error ≠ "" then
    ({ seen with revision := g.revision + 1 }, some ⟨g.state, some state, "", g.revision + 1⟩)
  else (seen, none)

/-- `reason.strip() or "map lifecycle monitor failed"`. -/
def failReason (lib : Library) (reason : String) : String :=
  if lib.strip reason = "" then "map lifecycle monitor failed" else lib.strip reason

/-- The guard after a failure, and the transition that its callback is told. -/
def fail (lib : Library) (g : LifecycleGuard) (reason : String) (sampleSeen : Bool) :
    LifecycleGuard × Option LifecycleTransition :=
  let error := failReason lib reason
  let failed := { g with state := none, error := error, sampleSeen := g.sampleSeen || sampleSeen }
  if g.state ≠ none ∨ g.error ≠ error then
    ({ failed with revision := g.revision + 1 }, some ⟨g.state, none, error, g.revision + 1⟩)
  else (failed, none)

/-- The snapshot of a guard that is ready, or the text of its `LifecycleBindingError`. -/
def requireReady (lib : Library) (g : LifecycleGuard) : Except String LifecycleSnapshot :=
  if ¬ g.sampleSeen then .error "no MapLifecycle sample has been received"
  else if g.error ≠ "" then .error g.error
  else
    match g.state with
    | none => .error "MapLifecycle state is unavailable"
    | some state =>
      if state.mode ≠ "localization" then
        .error ("active map mode is " ++ lib.repr state.mode ++
          "; landmark navigation requires 'localization'")
      else if state.mapId ≠ g.expectedMapId then
        .error ("active map_id " ++ lib.repr state.mapId ++ " does not match landmark map_id " ++
          lib.repr g.expectedMapId)
      else if state.generation ≠ g.expectedGeneration then
        .error ("active map generation " ++ toString state.generation ++
          " does not match landmark generation " ++ toString g.expectedGeneration)
      else .ok g.snapshot

end LifecycleGuard

/-- The transition establishes the binding; the service ignores it. -/
def LifecycleTransition.Initial (transition : LifecycleTransition) : Prop :=
  transition.previous = none ∧ transition.error = ""

instance (transition : LifecycleTransition) : Decidable transition.Initial :=
  inferInstanceAs (Decidable (_ ∧ _))

def MapLifecycleState.detail (state : MapLifecycleState) : String :=
  state.mapId ++ "/" ++ toString state.generation ++ "/" ++ state.mode

/-- `_transition_detail`. -/
def transitionDetail (transition : LifecycleTransition) : String :=
  let old := match transition.previous with
    | none => "none"
    | some previous => previous.detail
  let new := match transition.current with
    | none => "invalid (" ++ transition.error ++ ")"
    | some current => current.detail
  "map lifecycle changed at revision " ++ toString transition.revision ++ ": " ++ old ++ " -> " ++
    new

/-! ## What a guard does -/

namespace LifecycleGuard

variable {lib : Library} {g g' : LifecycleGuard} {transition : Option LifecycleTransition}

/-- The guard has moved on by the transition, if there is one. -/
structure Moves (g : LifecycleGuard) (transition : Option LifecycleTransition)
    (g' : LifecycleGuard) : Prop where
  still : transition = none → g'.revision = g.revision ∧ g'.state = g.state
  next : ∀ t ∈ transition, t.revision = g.revision + 1 ∧ g'.revision = g.revision + 1 ∧
    t.previous = g.state

lemma observe_moves (g : LifecycleGuard) (state : MapLifecycleState) :
    g.Moves (g.observe state).2 (g.observe state).1 := by
  unfold observe
  split
  · refine ⟨fun h => (Option.some_ne_none _ h).elim, fun t ht => ?_⟩
    obtain rfl := Option.some.inj ht
    exact ⟨rfl, rfl, rfl⟩
  · rename_i hsame
    push Not at hsame
    exact ⟨fun _ => ⟨rfl, hsame.1.symm⟩, fun t ht => (Option.not_mem_none t ht).elim⟩

lemma fail_moves (lib : Library) (g : LifecycleGuard) (reason : String) (sampleSeen : Bool) :
    g.Moves (g.fail lib reason sampleSeen).2 (g.fail lib reason sampleSeen).1 := by
  simp only [fail]
  split
  · refine ⟨fun h => (Option.some_ne_none _ h).elim, fun t ht => ?_⟩
    obtain rfl := Option.some.inj ht
    exact ⟨rfl, rfl, rfl⟩
  · rename_i hsame
    push Not at hsame
    exact ⟨fun _ => ⟨rfl, hsame.1.symm⟩, fun t ht => (Option.not_mem_none t ht).elim⟩

lemma Moves.le (h : g.Moves transition g') : g.revision ≤ g'.revision := by
  cases transition with
  | none => exact Nat.le_of_eq (h.still rfl).1.symm
  | some t =>
    obtain ⟨-, hnext, -⟩ := h.next t rfl
    omega

/-- A guard that is ready has a state, and answers with its snapshot. -/
lemma requireReady_eq_ok {s : LifecycleSnapshot} (h : g.requireReady lib = .ok s) :
    s = g.snapshot ∧ ∃ state, g.state = some state := by
  unfold requireReady at h
  split at h
  · cases h
  split at h
  · cases h
  split at h
  · cases h
  rename_i state hstate
  split at h
  · cases h
  split at h
  · cases h
  split at h
  · cases h
  exact ⟨(Except.ok.inj h).symm, state, hstate⟩

end LifecycleGuard

end UnitreeGo2.SemanticNavigation
