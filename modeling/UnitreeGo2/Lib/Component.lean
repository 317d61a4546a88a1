import UnitreeGo2.Lib.Machine

/-!
# Components of machines

A machine contains another one if a part of its state moves as that machine does, on events that
its own ones bring about.  What holds of every run of the component then holds of every run of
the whole, seen through the component.
-/

universe u v w u' v' w'

namespace Machine

/-- The part `state` of a machine moves as the machine `N`. -/
structure Component {σ : Type u} {ε : Type v} {ω : Type w} {σ' : Type u'} {ε' : Type v'}
    {ω' : Type w'} (M : Machine σ ε ω) (N : Machine σ' ε' ω') where
  state : σ → σ'
  /-- The event of the component that an event of the whole brings about, if any. -/
  event : σ → ε → Option ε'
  still : ∀ s e, event s e = none → state (M.step s e).2 = state s
  acts : ∀ s e e', event s e = some e' → state (M.step s e).2 = (N.step (state s) e').2

namespace Component

variable {σ : Type u} {ε : Type v} {ω : Type w} {σ' : Type u'} {ε' : Type v'} {ω' : Type w'}
  {M : Machine σ ε ω} {N : Machine σ' ε' ω'} (c : M.Component N)

/-- The step of the component in a step of the whole. -/
def part (x : Step σ ε ω) : Option (Step σ' ε' ω') :=
  (c.event x.pre x.event).map (N.stepAt (c.state x.pre))

/-- What the component does in a history of the whole. -/
def history (tr : List (Step σ ε ω)) : List (Step σ' ε' ω') := tr.filterMap c.part

lemma history_append (l r : List (Step σ ε ω)) :
    c.history (l ++ r) = c.history l ++ c.history r :=
  List.filterMap_append

lemma history_cons {x : Step σ ε ω} {e' : ε'} (hx : c.event x.pre x.event = some e')
    (r : List (Step σ ε ω)) :
    c.history (x :: r) = N.stepAt (c.state x.pre) e' :: c.history r :=
  List.filterMap_cons_some (by rw [part, hx, Option.map_some])

/-- A step of the component comes from a step of the whole. -/
lemma exists_of_mem_history {tr : List (Step σ ε ω)} {y : Step σ' ε' ω'}
    (hy : y ∈ c.history tr) :
    ∃ l x r, tr = l ++ x :: r ∧ c.event x.pre x.event = some y.event ∧
      y = N.stepAt (c.state x.pre) y.event := by
  obtain ⟨x, hx, hpart⟩ := List.mem_filterMap.mp hy
  obtain ⟨e', he', rfl⟩ := Option.map_eq_some_iff.mp hpart
  obtain ⟨l, r, htr⟩ := List.append_of_mem hx
  exact ⟨l, x, r, htr, he', rfl⟩

/-- **A run of the whole runs the component.** -/
theorem run (s : σ) (es : List ε) :
    ∃ es', c.history (M.trace s es) = N.trace (c.state s) es' ∧
      c.state (M.final s es) = N.final (c.state s) es' := by
  refine M.history_induction (motive := fun tr t => ∃ es', c.history tr = N.trace (c.state s) es' ∧
    c.state t = N.final (c.state s) es') ⟨[], rfl, rfl⟩ ?_ es
  rintro tr t e ⟨es', hhistory, hstate⟩
  rw [history_append, hhistory]
  cases hevent : c.event t e with
  | none =>
    refine ⟨es', ?_, ?_⟩
    · have hpart : c.part (M.stepAt t e) = none := by
        rw [part, M.stepAt_pre, M.stepAt_event, hevent, Option.map_none]
      rw [history, List.filterMap_cons_none hpart, List.filterMap_nil, List.append_nil]
    · rw [c.still t e hevent, hstate]
  | some e' =>
    refine ⟨es' ++ [e'], ?_, ?_⟩
    · rw [c.history_cons (x := M.stepAt t e) hevent, N.trace_concat, ← hstate]
      rfl
    · rw [c.acts t e e' hevent, N.final_concat, ← hstate]

end Component

end Machine
