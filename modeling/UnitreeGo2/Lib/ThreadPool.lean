import UnitreeGo2.Lib.Machine

/-!
# Pools of threads over a shared state

A program runs threads that share a state.  One segment of a thread is atomic: it changes the
shared state, goes on as another thread state, may start further threads, and reports what it
has done.  A pool runs its threads in any order, and calls from outside start new ones.
-/

universe u v w x y

/-- What a segment of a thread leaves. -/
structure Segment (σ : Type u) (τ : Type v) (ω : Type w) where
  shared : σ
  thread : τ
  spawned : List τ
  report : ω

/-- The shared state, and every thread that was ever started. -/
structure Pool (σ : Type u) (τ : Type v) where
  shared : σ
  threads : List τ

inductive PoolEvent (ι : Type x) (κ : Type y) where
  /-- A call from outside starts a thread. -/
  | call (request : κ)
  /-- A thread goes on, with what it has got from outside. -/
  | act (index : ℕ) (input : ι)

/-- The segments of the threads, and the threads that calls start.  A thread knows its index. -/
structure Program (σ : Type u) (τ : Type v) (ι : Type x) (κ : Type y) (ω : Type w) where
  /-- The next segment of a thread, unless it has to wait. -/
  act : σ → ℕ → τ → ι → Option (Segment σ τ ω)
  call : σ → ℕ → κ → Option (σ × τ)

namespace Program

variable {σ : Type u} {τ : Type v} {ι : Type x} {κ : Type y} {ω : Type w}

def step (P : Program σ τ ι κ ω) (p : Pool σ τ) : PoolEvent ι κ → Option ω × Pool σ τ
  | .call request =>
    match P.call p.shared p.threads.length request with
    | none => (none, p)
    | some (s, t) => (none, ⟨s, p.threads ++ [t]⟩)
  | .act index input =>
    match p.threads[index]? with
    | none => (none, p)
    | some t =>
      match P.act p.shared index t input with
      | none => (none, p)
      | some seg =>
        (some seg.report, ⟨seg.shared, p.threads.set index seg.thread ++ seg.spawned⟩)

/-- The threads in any order. -/
def machine (P : Program σ τ ι κ ω) : Machine (Pool σ τ) (PoolEvent ι κ) (Option ω) := ⟨P.step⟩

/-- The reports of a run. -/
def log (tr : List (Machine.Step (Pool σ τ) (PoolEvent ι κ) (Option ω))) : List ω :=
  tr.filterMap Machine.Step.output

variable (P : Program σ τ ι κ ω)

@[simp] lemma log_nil :
    log ([] : List (Machine.Step (Pool σ τ) (PoolEvent ι κ) (Option ω))) = [] := rfl

lemma log_concat (tr : List (Machine.Step (Pool σ τ) (PoolEvent ι κ) (Option ω)))
    (z : Machine.Step (Pool σ τ) (PoolEvent ι κ) (Option ω)) :
    log (tr ++ [z]) = log tr ++ z.output.toList := by
  rw [log, List.filterMap_append, log]
  cases hz : z.output with
  | none => simp [hz]
  | some o => simp [hz]

/-- What a step of the pool is: a thread that waits, a call, or a segment. -/
theorem step_cases (p : Pool σ τ) (e : PoolEvent ι κ) :
    P.step p e = (none, p) ∨
    (∃ request s t, e = .call request ∧ P.call p.shared p.threads.length request = some (s, t) ∧
      P.step p e = (none, ⟨s, p.threads ++ [t]⟩)) ∨
    ∃ index input t seg, e = .act index input ∧ p.threads[index]? = some t ∧
      P.act p.shared index t input = some seg ∧
      P.step p e = (some seg.report,
        ⟨seg.shared, p.threads.set index seg.thread ++ seg.spawned⟩) := by
  cases e with
  | call request =>
    cases hcall : P.call p.shared p.threads.length request with
    | none => exact Or.inl (by simp only [step, hcall])
    | some q =>
      obtain ⟨s, t⟩ := q
      exact Or.inr (Or.inl ⟨request, s, t, rfl, hcall, by simp only [step, hcall]⟩)
  | act index input =>
    cases ht : p.threads[index]? with
    | none => exact Or.inl (by simp only [step, ht])
    | some t =>
      cases hact : P.act p.shared index t input with
      | none => exact Or.inl (by simp only [step, ht, hact])
      | some seg =>
        exact Or.inr (Or.inr ⟨index, input, t, seg, rfl, ht, hact, by simp only [step, ht, hact]⟩)

/-! ## The threads after a segment -/

section Threads

variable {threads spawned : List τ} {index : ℕ} {t t' : τ}

lemma getElem?_self (ht : threads[index]? = some t) :
    (threads.set index t' ++ spawned)[index]? = some t' := by
  have hlt : index < threads.length := (List.getElem?_eq_some_iff.mp ht).1
  rw [List.getElem?_append_left (by rwa [List.length_set]), List.getElem?_set_self hlt]

/-- Every other thread stays where it was. -/
lemma getElem?_other {j : ℕ} {u : τ} (hj : j ≠ index) (hu : threads[j]? = some u) :
    (threads.set index t' ++ spawned)[j]? = some u := by
  have hlt : j < threads.length := (List.getElem?_eq_some_iff.mp hu).1
  rw [List.getElem?_append_left (by rwa [List.length_set]), List.getElem?_set_ne (Ne.symm hj), hu]

lemma getElem?_spawned {u : τ} (hu : u ∈ spawned) :
    ∃ k : ℕ, (threads.set index t' ++ spawned)[k]? = some u := by
  obtain ⟨k, hk⟩ := List.getElem?_of_mem hu
  refine ⟨threads.length + k, ?_⟩
  rw [List.getElem?_append_right (by simp), List.length_set, Nat.add_sub_cancel_left, hk]

/-- A thread after a segment is the one that ran it, another one, or a new one. -/
lemma getElem?_cases {j : ℕ} {u : τ} (ht : threads[index]? = some t)
    (hu : (threads.set index t' ++ spawned)[j]? = some u) :
    (j = index ∧ u = t') ∨ (j ≠ index ∧ threads[j]? = some u) ∨
      (threads.length ≤ j ∧ u ∈ spawned) := by
  rcases Nat.lt_or_ge j threads.length with hlt | hge
  · by_cases hj : j = index
    · subst hj
      rw [getElem?_self ht] at hu
      exact Or.inl ⟨rfl, (Option.some.inj hu).symm⟩
    · refine Or.inr (Or.inl ⟨hj, ?_⟩)
      rwa [List.getElem?_append_left (by rwa [List.length_set]),
        List.getElem?_set_ne (Ne.symm hj)] at hu
  · refine Or.inr (Or.inr ⟨hge, ?_⟩)
    rw [List.getElem?_append_right (by rwa [List.length_set])] at hu
    exact List.mem_of_getElem? hu

/-- A thread after a call is an old one or the new one. -/
lemma getElem?_call {j : ℕ} {u : τ} (hu : (threads ++ [t])[j]? = some u) :
    threads[j]? = some u ∨ (j = threads.length ∧ u = t) := by
  rcases Nat.lt_or_ge j threads.length with hlt | hge
  · exact Or.inl (by rwa [List.getElem?_append_left hlt] at hu)
  · rw [List.getElem?_append_right hge] at hu
    obtain ⟨hj, htu⟩ := List.getElem?_eq_some_iff.mp hu
    have hj : j - threads.length = 0 := by simpa using hj
    simp only [hj, List.getElem_cons_zero] at htu
    exact Or.inr ⟨by omega, htu.symm⟩

lemma getElem?_call_old {j : ℕ} {u : τ} (hu : threads[j]? = some u) :
    (threads ++ [t])[j]? = some u := by
  rw [List.getElem?_append_left (List.getElem?_eq_some_iff.mp hu).1, hu]

end Threads

/-! ## Reasoning thread by thread -/

/-- An invariant of the shared state and an assertion about every thread, both of which may look
back at the reports. -/
structure Holds (J : List ω → σ → Prop) (A : List ω → σ → ℕ → τ → Prop) (log : List ω)
    (p : Pool σ τ) : Prop where
  shared : J log p.shared
  thread : ∀ j u, p.threads[j]? = some u → A log p.shared j u

/-- Every segment keeps the invariant, arrives at its own assertion, starts threads with theirs,
and does not interfere with the assertions of the other threads.  The condition `C` is one on
the steps of the run. -/
structure Keeps (C : List ω → Pool σ τ → PoolEvent ι κ → Prop) (J : List ω → σ → Prop)
    (A : List ω → σ → ℕ → τ → Prop) : Prop where
  act : ∀ {log p index t input seg}, p.threads[index]? = some t →
    P.act p.shared index t input = some seg → C log p (.act index input) → Holds J A log p →
    J (log ++ [seg.report]) seg.shared ∧
    A (log ++ [seg.report]) seg.shared index seg.thread ∧
    (∀ u ∈ seg.spawned, ∀ k, p.threads.length ≤ k → A (log ++ [seg.report]) seg.shared k u) ∧
    ∀ j u, j ≠ index → p.threads[j]? = some u → A (log ++ [seg.report]) seg.shared j u
  call : ∀ {log p request s t}, P.call p.shared p.threads.length request = some (s, t) →
    C log p (.call request) → Holds J A log p →
    J log s ∧ A log s p.threads.length t ∧ ∀ j u, p.threads[j]? = some u → A log s j u

variable {P} {C : List ω → Pool σ τ → PoolEvent ι κ → Prop} {J : List ω → σ → Prop}
  {A : List ω → σ → ℕ → τ → Prop}

lemma Keeps.step (h : P.Keeps C J A) {l : List ω} {p : Pool σ τ} {e : PoolEvent ι κ}
    (hC : C l p e) (hp : Holds J A l p) :
    Holds J A (l ++ (P.step p e).1.toList) (P.step p e).2 := by
  rcases P.step_cases p e with hstep | ⟨request, s, t, rfl, hcall, hstep⟩ |
    ⟨index, input, t, seg, rfl, ht, hact, hstep⟩
  · rw [hstep, Option.toList_none, List.append_nil]
    exact hp
  · obtain ⟨hJ, hA, hother⟩ := h.call hcall hC hp
    rw [hstep, Option.toList_none, List.append_nil]
    refine ⟨hJ, fun j u hu => ?_⟩
    rcases getElem?_call hu with hu | ⟨rfl, rfl⟩
    · exact hother j u hu
    · exact hA
  · obtain ⟨hJ, hA, hspawned, hother⟩ := h.act ht hact hC hp
    rw [hstep, Option.toList_some]
    refine ⟨hJ, fun j u hu => ?_⟩
    rcases getElem?_cases ht hu with ⟨rfl, rfl⟩ | ⟨hj, hu⟩ | ⟨hj, hu⟩
    · exact hA
    · exact hother j u hj hu
    · exact hspawned u hu j hj

/-- **What every segment keeps holds along every run whose steps meet the condition.** -/
theorem Keeps.run (h : P.Keeps C J A) {p₀ : Pool σ τ} (h₀ : Holds J A [] p₀)
    (es : List (PoolEvent ι κ))
    (hC : ∀ l z r, P.machine.trace p₀ es = l ++ z :: r → C (log l) z.pre z.event) :
    Holds J A (log (P.machine.trace p₀ es)) (P.machine.final p₀ es) := by
  refine P.machine.guarded_induction (C := fun tr z => C (log tr) z.pre z.event)
    (motive := fun tr p => Holds J A (log tr) p) h₀ ?_ es hC
  intro tr p e hCe ih
  rw [log_concat]
  exact h.step hCe ih

/-! ## Obligations that some thread carries -/

variable {α : Type*} {O : List ω → σ → α → Prop} {D : τ → α → Prop}

/-- Every open obligation is carried by some thread. -/
def Carried (O : List ω → σ → α → Prop) (D : τ → α → Prop) (log : List ω) (p : Pool σ τ) : Prop :=
  ∀ a, O log p.shared a → ∃ (j : ℕ) (u : τ), p.threads[j]? = some u ∧ D u a

/-- What is open after a segment is carried by its thread or by one that it starts, or was open
before and is not one of its thread. -/
structure HandsOn (C : List ω → Pool σ τ → PoolEvent ι κ → Prop) (O : List ω → σ → α → Prop)
    (D : τ → α → Prop) : Prop where
  act : ∀ {log p index t input seg}, p.threads[index]? = some t →
    P.act p.shared index t input = some seg → C log p (.act index input) →
    ∀ a, O (log ++ [seg.report]) seg.shared a →
      D seg.thread a ∨ (∃ u ∈ seg.spawned, D u a) ∨ (O log p.shared a ∧ ¬ D t a)
  call : ∀ {log p request s t}, P.call p.shared p.threads.length request = some (s, t) →
    C log p (.call request) → ∀ a, O log s a → O log p.shared a

lemma HandsOn.step (h : P.HandsOn C O D) {l : List ω} {p : Pool σ τ} {e : PoolEvent ι κ}
    (hC : C l p e) (hp : Carried O D l p) :
    Carried O D (l ++ (P.step p e).1.toList) (P.step p e).2 := by
  rcases P.step_cases p e with hstep | ⟨request, s, t, rfl, hcall, hstep⟩ |
    ⟨index, input, t, seg, rfl, ht, hact, hstep⟩
  · rw [hstep, Option.toList_none, List.append_nil]
    exact hp
  · rw [hstep, Option.toList_none, List.append_nil]
    intro a ha
    obtain ⟨j, u, hu, hD⟩ := hp a (h.call hcall hC a ha)
    exact ⟨j, u, getElem?_call_old hu, hD⟩
  · rw [hstep, Option.toList_some]
    intro a ha
    rcases h.act ht hact hC a ha with hD | ⟨u, hu, hD⟩ | ⟨hopen, hnot⟩
    · exact ⟨index, seg.thread, getElem?_self ht, hD⟩
    · obtain ⟨k, hk⟩ := getElem?_spawned hu
      exact ⟨k, u, hk, hD⟩
    · obtain ⟨j, u, hu, hD⟩ := hp a hopen
      refine ⟨j, u, getElem?_other ?_ hu, hD⟩
      rintro rfl
      rw [ht] at hu
      obtain rfl := Option.some.inj hu
      exact hnot hD

/-- **Obligations that every segment hands on are carried along every run** whose steps meet the
condition. -/
theorem HandsOn.run (h : P.HandsOn C O D) {p₀ : Pool σ τ} (h₀ : Carried O D [] p₀)
    (es : List (PoolEvent ι κ))
    (hC : ∀ l z r, P.machine.trace p₀ es = l ++ z :: r → C (log l) z.pre z.event) :
    Carried O D (log (P.machine.trace p₀ es)) (P.machine.final p₀ es) := by
  refine P.machine.guarded_induction (C := fun tr z => C (log tr) z.pre z.event)
    (motive := fun tr p => Carried O D (log tr) p) h₀ ?_ es hC
  intro tr p e hCe ih
  rw [log_concat]
  exact h.step hCe ih

end Program
