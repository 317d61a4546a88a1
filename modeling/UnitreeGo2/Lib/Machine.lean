import Mathlib.Data.List.Induction
import Mathlib.Tactic.Lemma

/-!
# Runs of deterministic machines

A machine answers every event with an output and moves to a next state.  Its run on a
list of events is the list of its steps, each with the states before and after it, so
that a temporal property of the machine is a property of that list.  The rules of this
file reduce such properties to what a single step does.
-/

universe u v w

/-- A deterministic machine with states `σ`, events `ε` and outputs `ω`. -/
structure Machine (σ : Type u) (ε : Type v) (ω : Type w) where
  /-- The answer to an event, and the state after it. -/
  step : σ → ε → ω × σ

namespace Machine

variable {σ : Type u} {ε : Type v} {ω : Type w}

/-- One step of a run, together with the states around it. -/
structure Step (σ : Type u) (ε : Type v) (ω : Type w) where
  /-- The state before the step. -/
  pre : σ
  /-- The event that caused the step. -/
  event : ε
  /-- The answer of the machine. -/
  output : ω
  /-- The state after the step. -/
  post : σ

/-- The step that the machine makes in a state on an event. -/
def stepAt (M : Machine σ ε ω) (s : σ) (e : ε) : Step σ ε ω :=
  ⟨s, e, (M.step s e).1, (M.step s e).2⟩

@[simp] lemma stepAt_pre (M : Machine σ ε ω) (s : σ) (e : ε) : (M.stepAt s e).pre = s := rfl

@[simp] lemma stepAt_event (M : Machine σ ε ω) (s : σ) (e : ε) : (M.stepAt s e).event = e :=
  rfl

/-- The state reached from `s` on a list of events. -/
def final (M : Machine σ ε ω) : σ → List ε → σ
  | s, [] => s
  | s, e :: es => M.final (M.step s e).2 es

/-- The steps made from `s` on a list of events. -/
def trace (M : Machine σ ε ω) : σ → List ε → List (Step σ ε ω)
  | _, [] => []
  | s, e :: es => M.stepAt s e :: M.trace (M.step s e).2 es

variable (M : Machine σ ε ω)

@[simp] lemma final_nil (s : σ) : M.final s [] = s := rfl

@[simp] lemma trace_nil (s : σ) : M.trace s [] = [] := rfl

lemma final_append (s : σ) (es es' : List ε) :
    M.final s (es ++ es') = M.final (M.final s es) es' := by
  induction es generalizing s with
  | nil => rfl
  | cons e es ih => exact ih _

lemma trace_append (s : σ) (es es' : List ε) :
    M.trace s (es ++ es') = M.trace s es ++ M.trace (M.final s es) es' := by
  induction es generalizing s with
  | nil => rfl
  | cons e es ih =>
    simp only [List.cons_append, trace, final, ih]

lemma final_concat (s : σ) (es : List ε) (e : ε) :
    M.final s (es ++ [e]) = (M.step (M.final s es) e).2 := by
  rw [final_append]
  rfl

lemma trace_concat (s : σ) (es : List ε) (e : ε) :
    M.trace s (es ++ [e]) = M.trace s es ++ [M.stepAt (M.final s es) e] := by
  rw [trace_append]
  rfl

@[simp] lemma length_trace (s : σ) (es : List ε) : (M.trace s es).length = es.length := by
  induction es generalizing s with
  | nil => rfl
  | cons e es ih => simp [trace, ih]

@[simp] lemma map_event_trace (s : σ) (es : List ε) :
    (M.trace s es).map Step.event = es := by
  induction es generalizing s with
  | nil => rfl
  | cons e es ih => simp [trace, ih]

/-! ## Splitting a run -/

/-- A run that is cut at one of its steps consists of the run before that step, the step
itself, and the run after it. -/
theorem trace_eq_append_cons {s : σ} {es : List ε} {l r : List (Step σ ε ω)}
    {x : Step σ ε ω} (h : M.trace s es = l ++ x :: r) :
    ∃ es₁ es₂, es = es₁ ++ x.event :: es₂ ∧ l = M.trace s es₁ ∧
      x = M.stepAt (M.final s es₁) x.event ∧ r = M.trace x.post es₂ := by
  induction l generalizing s es with
  | nil =>
    cases es with
    | nil => simp [trace] at h
    | cons e es =>
      simp only [trace, List.nil_append, List.cons.injEq] at h
      obtain ⟨rfl, rfl⟩ := h
      exact ⟨[], es, rfl, rfl, rfl, rfl⟩
  | cons y l ih =>
    cases es with
    | nil => simp [trace] at h
    | cons e es =>
      simp only [trace, List.cons_append, List.cons.injEq] at h
      obtain ⟨rfl, h⟩ := h
      obtain ⟨es₁, es₂, rfl, rfl, hx, hr⟩ := ih h
      exact ⟨e :: es₁, es₂, rfl, rfl, hx, hr⟩

/-- A run in two parts. -/
lemma trace_eq_append {s : σ} {es : List ε} {l r : List (Step σ ε ω)}
    (h : M.trace s es = l ++ r) :
    ∃ es₁ es₂, es = es₁ ++ es₂ ∧ l = M.trace s es₁ ∧ r = M.trace (M.final s es₁) es₂ := by
  induction l generalizing s es with
  | nil => exact ⟨[], es, rfl, rfl, h.symm⟩
  | cons y l ih =>
    cases es with
    | nil => simp [trace] at h
    | cons e es =>
      simp only [trace, List.cons_append, List.cons.injEq] at h
      obtain ⟨rfl, h⟩ := h
      obtain ⟨es₁, es₂, rfl, rfl, hr⟩ := ih h
      exact ⟨e :: es₁, es₂, rfl, rfl, hr⟩

lemma mem_trace_stepAt {s : σ} {es : List ε} {x : Step σ ε ω} (h : x ∈ M.trace s es) :
    ∃ es₁ es₂, es = es₁ ++ x.event :: es₂ ∧ x = M.stepAt (M.final s es₁) x.event := by
  obtain ⟨l, r, hlr⟩ := List.append_of_mem h
  obtain ⟨es₁, es₂, hes, -, hx, -⟩ := M.trace_eq_append_cons hlr
  exact ⟨es₁, es₂, hes, hx⟩

/-- What holds of every step and the history before it, index by index. -/
lemma splits_iff {α : Type u} {tr : List α} {C : List α → α → Prop} :
    (∀ l x r, tr = l ++ x :: r → C l x) ↔
      ∀ (i : ℕ) (h : i < tr.length), C (tr.take i) tr[i] := by
  constructor
  · intro h i hi
    refine h _ _ (tr.drop (i + 1)) ?_
    rw [← List.drop_eq_getElem_cons hi, List.take_append_drop]
  · rintro h l x r rfl
    simpa using h l.length (by simp)

/-- The last element of a list is where it is cut, or it lies behind the cut. -/
lemma concat_eq_append_cons_iff {α : Type u} {tr l r : List α} {x z : α} :
    tr ++ [z] = l ++ x :: r ↔
      tr = l ∧ z = x ∧ r = [] ∨ ∃ r', tr = l ++ x :: r' ∧ r = r' ++ [z] := by
  constructor
  · intro h
    obtain rfl | ⟨r', y, hr⟩ := List.eq_nil_or_concat r
    · obtain ⟨hinit, hlast⟩ := List.append_inj' h rfl
      exact .inl ⟨hinit, List.singleton_inj.mp hlast, rfl⟩
    · rw [hr, List.concat_eq_append, ← List.cons_append, ← List.append_assoc] at h
      obtain ⟨hinit, hlast⟩ := List.append_inj' h rfl
      exact .inr ⟨r', hinit, by rw [hr, List.concat_eq_append, List.singleton_inj.mp hlast]⟩
  · rintro (⟨rfl, rfl, rfl⟩ | ⟨r', rfl, rfl⟩)
    · rfl
    · simp

/-- What holds of any element of a list and those before it holds after another element, if it
holds of that element. -/
lemma splits_concat {α : Type u} {tr : List α} {z : α} {C : List α → α → Prop}
    (h : ∀ l x r, tr = l ++ x :: r → C l x) (hz : C tr z) :
    ∀ l x r, tr ++ [z] = l ++ x :: r → C l x := by
  intro l x r hsplit
  rcases concat_eq_append_cons_iff.mp hsplit with ⟨rfl, rfl, -⟩ | ⟨r', hinit, -⟩
  · exact hz
  · exact h l x r' hinit

/-- What holds of any two elements of a list holds after another element, if it holds of that
element and each one before it. -/
lemma pairs_concat {α : Type u} {tr : List α} {z : α} {C : List α → α → List α → α → Prop}
    (h : ∀ l x m y r, tr = l ++ x :: (m ++ y :: r) → C l x m y)
    (hz : ∀ l x m, tr = l ++ x :: m → C l x m z) :
    ∀ l x m y r, tr ++ [z] = l ++ x :: (m ++ y :: r) → C l x m y := by
  intro l x m y r hsplit
  rw [← List.cons_append, ← List.append_assoc] at hsplit
  rcases concat_eq_append_cons_iff.mp hsplit with ⟨hinit, rfl, -⟩ | ⟨r', hinit, -⟩
  · exact hz l x m hinit
  · refine h l x m y r' ?_
    rw [hinit, List.append_assoc, List.cons_append]

/-! ## Induction over a run -/

/-- The induction rule for properties of a run and of the state it ends in. -/
theorem history_induction {s : σ} {motive : List (Step σ ε ω) → σ → Prop}
    (nil : motive [] s)
    (snoc : ∀ tr t e, motive tr t → motive (tr ++ [M.stepAt t e]) (M.step t e).2)
    (es : List ε) : motive (M.trace s es) (M.final s es) := by
  induction es using List.reverseRecOn with
  | nil => exact nil
  | append_singleton es e ih =>
    rw [trace_concat, final_concat]
    exact snoc _ _ _ ih

/-- The induction rule for the runs whose steps all satisfy a condition, which may look
back at the steps before. -/
theorem guarded_induction {s : σ} {C : List (Step σ ε ω) → Step σ ε ω → Prop}
    {motive : List (Step σ ε ω) → σ → Prop} (nil : motive [] s)
    (snoc : ∀ tr t e, C tr (M.stepAt t e) → motive tr t →
      motive (tr ++ [M.stepAt t e]) (M.step t e).2)
    (es : List ε) (hC : ∀ l x r, M.trace s es = l ++ x :: r → C l x) :
    motive (M.trace s es) (M.final s es) := by
  refine M.history_induction
    (motive := fun tr t => (∀ l x r, tr = l ++ x :: r → C l x) → motive tr t)
    (fun _ => nil) ?_ es hC
  intro tr t e ih h
  refine snoc tr t e (h _ _ [] rfl) (ih fun l x r hlr => h l x (r ++ [M.stepAt t e]) ?_)
  rw [hlr]
  simp

/-- What the steps of a run keep, holds since the step that established it. -/
theorem holds_since {s : σ} {C Q : List (Step σ ε ω) → Step σ ε ω → Prop}
    {R : List (Step σ ε ω) → σ → Prop}
    (establish : ∀ tr x, C tr x → Q tr x → R (tr ++ [x]) x.post)
    (keep : ∀ tr t e, C tr (M.stepAt t e) → R tr t → R (tr ++ [M.stepAt t e]) (M.step t e).2)
    {es : List ε} (hC : ∀ l x r, M.trace s es = l ++ x :: r → C l x)
    {l r : List (Step σ ε ω)} {x : Step σ ε ω} (hx : M.trace s es = l ++ x :: r) (hQ : Q l x) :
    R (M.trace s es) (M.final s es) := by
  obtain ⟨es₁, es₂, rfl, hl, hstep, hr⟩ := M.trace_eq_append_cons hx
  have hpost : x.post = M.final s (es₁ ++ [x.event]) := by
    rw [final_concat]
    exact congrArg Step.post hstep
  have hfinal : M.final s (es₁ ++ x.event :: es₂) = M.final x.post es₂ := by
    rw [hpost, ← final_append, List.append_assoc, List.singleton_append]
  have hrun := M.guarded_induction (C := fun tr y => C (l ++ x :: tr) y)
    (motive := fun tr t => R (l ++ x :: tr) t) (establish l x (hC l x r hx) hQ) ?_ es₂ ?_
  · rw [hx, hfinal, hr]
    exact hrun
  · intro tr t e hCe ih
    have hkept := keep _ t e hCe ih
    rwa [List.append_assoc, List.cons_append] at hkept
  · intro l' y r' hy
    refine hC (l ++ x :: l') y r' ?_
    rw [hx, hr, hy, List.append_assoc, List.cons_append]

/-- A prefix of the events of a run is run by a prefix of its steps. -/
lemma trace_extend {s : σ} {es : List ε} (es' : List ε) {l r : List (Step σ ε ω)} {x : Step σ ε ω}
    (h : M.trace s es = l ++ x :: r) :
    ∃ es'', M.trace s (es ++ es') = l ++ x :: (r ++ es'') :=
  ⟨M.trace (M.final s es) es', by rw [trace_append, h]; simp⟩

/-- A state predicate is an invariant when it holds at the start and every step keeps
it. -/
structure Invariant (s₀ : σ) (I : σ → Prop) : Prop where
  /-- It holds in the start state. -/
  init : I s₀
  /-- Every step keeps it. -/
  step : ∀ s e, I s → I (M.step s e).2

variable {M} {s₀ : σ} {I : σ → Prop}

theorem Invariant.final (h : M.Invariant s₀ I) (es : List ε) : I (M.final s₀ es) :=
  M.history_induction (motive := fun _ s => I s) h.init (fun _ s e => h.step s e) es

theorem Invariant.pre (h : M.Invariant s₀ I) {es : List ε} {x : Step σ ε ω}
    (hx : x ∈ M.trace s₀ es) : I x.pre := by
  obtain ⟨es₁, -, -, hxe⟩ := M.mem_trace_stepAt hx
  rw [hxe]
  exact h.final es₁

theorem Invariant.post (h : M.Invariant s₀ I) {es : List ε} {x : Step σ ε ω}
    (hx : x ∈ M.trace s₀ es) : I x.post := by
  obtain ⟨es₁, -, -, hxe⟩ := M.mem_trace_stepAt hx
  rw [hxe]
  exact h.step _ _ (h.final es₁)

/-! ## The latest step of a kind -/

/-- `x` is the last step of the history that satisfies `P`. -/
structure Latest (P : Step σ ε ω → Prop) (tr : List (Step σ ε ω)) (x : Step σ ε ω) : Prop where
  holds : P x
  last : ∃ l r, tr = l ++ x :: r ∧ ∀ z ∈ r, ¬ P z

variable {P : Step σ ε ω → Prop} {tr : List (Step σ ε ω)} {x y : Step σ ε ω}

lemma latest_concat (hx : P x) : Latest P (tr ++ [x]) x :=
  ⟨hx, tr, [], rfl, by simp⟩

lemma Latest.concat (h : Latest P tr x) (hy : ¬ P y) : Latest P (tr ++ [y]) x := by
  obtain ⟨hx, l, r, rfl, hr⟩ := h
  refine ⟨hx, l, r ++ [y], by simp, fun z hz => ?_⟩
  rcases List.mem_append.mp hz with hz | hz
  · exact hr z hz
  · rw [List.mem_singleton.mp hz]
    exact hy

/-- The history after `x` holds no other step that satisfies `P`. -/
lemma Latest.unique (hx : Latest P tr x) (hy : Latest P tr y) : x = y := by
  obtain ⟨hPx, l, r, rfl, hr⟩ := hx
  obtain ⟨hPy, l', r', heq, hr'⟩ := hy
  rcases List.append_eq_append_iff.mp heq with ⟨m, -, hm⟩ | ⟨m, -, hm⟩
  · cases m with
    | nil => exact (List.cons.inj hm).1
    | cons z m =>
      obtain ⟨-, rfl⟩ := List.cons.inj hm
      exact absurd hPy (hr y (by simp))
  · cases m with
    | nil => exact (List.cons.inj hm).1.symm
    | cons z m =>
      obtain ⟨-, rfl⟩ := List.cons.inj hm
      exact absurd hPx (hr' x (by simp))

/-! ## Separation of steps -/

/-- Between a `P`-step and a later `R`-step of the run there is a `Q`-step. -/
def Separated (P Q R : Step σ ε ω → Prop) (tr : List (Step σ ε ω)) : Prop :=
  ∀ l x m y r, tr = l ++ x :: (m ++ y :: r) → P x → R y → ∃ q ∈ m, Q q

/-- Steps are separated by a latch: a `P`-step closes it, only a `Q`-step opens it, and no
`R`-step happens while it is closed. -/
theorem separated_of_latch {P Q R : Step σ ε ω → Prop} (latch : σ → Prop) {es : List ε}
    (close : ∀ x ∈ M.trace s₀ es, P x → latch x.post)
    (keep : ∀ x ∈ M.trace s₀ es, latch x.pre → latch x.post ∨ Q x)
    (gate : ∀ x ∈ M.trace s₀ es, latch x.pre → ¬ R x) :
    Separated P Q R (M.trace s₀ es) := by
  intro l x m y r htr hP hR
  by_contra hno
  push Not at hno
  have hlatch : latch y.pre := by
    obtain ⟨es₁, es₂, -, -, -, hrest⟩ := M.trace_eq_append_cons htr
    obtain ⟨es₃, -, -, hm, hy, -⟩ := M.trace_eq_append_cons hrest.symm
    have hmem : ∀ z ∈ m, z ∈ M.trace s₀ es := by
      intro z hz
      rw [htr]
      simp [hz]
    have hfinal : (∀ z ∈ M.trace x.post es₃, z ∈ M.trace s₀ es ∧ ¬ Q z) →
        latch (M.final x.post es₃) := by
      refine M.history_induction (motive := fun tr t =>
        (∀ z ∈ tr, z ∈ M.trace s₀ es ∧ ¬ Q z) → latch t) ?_ ?_ es₃
      · intro _
        exact close x (by rw [htr]; simp) hP
      · intro tr t e ih h
        obtain ⟨hz, hQ⟩ := h (M.stepAt t e) (by simp)
        exact (keep _ hz (ih fun z hz => h z (by simp [hz]))).resolve_right hQ
    rw [hy]
    exact hfinal fun z hz => ⟨hmem z (hm ▸ hz), hno z (hm ▸ hz)⟩
  exact gate y (by rw [htr]; simp) hlatch hR

end Machine
