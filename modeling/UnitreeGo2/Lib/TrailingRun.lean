import Mathlib.Data.List.Infix
import Mathlib.Data.List.Chain
import Mathlib.Tactic.Lemma

/-!
# The trailing run of a history

A run is a stretch of a history in which every entry is valid and every two consecutive
entries are linked.  A component that watches a history entry by entry keeps the longest run
at its end: it extends that run, starts a new one, or drops it, and which of the three only
depends on the last entry.
-/

universe u

variable {α : Type u}

/-- A nonempty stretch of valid entries, each linked to the next. -/
structure IsRun (V : α → Prop) (R : α → α → Prop) (r : List α) : Prop where
  ne_nil : r ≠ []
  valid : ∀ a ∈ r, V a
  linked : r.IsChain R

/-- The longest run at the end of a history. -/
structure TrailingRun (V : α → Prop) (R : α → α → Prop) (tr r : List α) : Prop where
  suffix : r <:+ tr
  run : IsRun V R r
  longest : ∀ r', r' <:+ tr → IsRun V R r' → r' <:+ r

/-- No run ends the history. -/
def NoTrailingRun (V : α → Prop) (R : α → α → Prop) (tr : List α) : Prop :=
  ∀ r, r <:+ tr → ¬ IsRun V R r

section

variable {V : α → Prop} {R : α → α → Prop} {tr r : List α} {x y : α}

lemma noTrailingRun_nil : NoTrailingRun V R [] := by
  intro r hr hrun
  exact hrun.ne_nil (List.suffix_nil.mp hr)

/-- A nonempty suffix of a history that ends with `x` ends with `x`. -/
lemma suffix_concat_cases (h : r <:+ tr ++ [x]) (hne : r ≠ []) :
    ∃ q, r = q ++ [x] ∧ q <:+ tr := by
  obtain ⟨l, hl⟩ := h
  obtain rfl | ⟨q, z, rfl⟩ := r.eq_nil_or_concat'
  · exact absurd rfl hne
  · rw [← List.append_assoc] at hl
    obtain ⟨hq, hz⟩ := List.append_inj' hl rfl
    obtain rfl : z = x := by simpa using hz
    exact ⟨q, rfl, l, hq⟩

lemma isRun_singleton (hx : V x) : IsRun V R [x] :=
  ⟨by simp, by simpa using hx, .singleton x⟩

lemma IsRun.concat (h : IsRun V R (r ++ [y])) (hx : V x) (hlink : R y x) :
    IsRun V R (r ++ [y] ++ [x]) where
  ne_nil := by simp
  valid a ha := by
    rcases List.mem_append.mp ha with ha | ha
    · exact h.valid a ha
    · rw [List.mem_singleton.mp ha]
      exact hx
  linked := by
    rw [List.isChain_append]
    refine ⟨h.linked, .singleton x, ?_⟩
    simpa using hlink

/-- The run before the last entry of a run. -/
lemma IsRun.of_concat (h : IsRun V R (r ++ [x])) (hne : r ≠ []) : IsRun V R r where
  ne_nil := hne
  valid a ha := h.valid a (List.mem_append_left _ ha)
  linked := (List.isChain_append.mp h.linked).1

lemma IsRun.link_of_concat (h : IsRun V R (r ++ [y] ++ [x])) : R y x := by
  have hlink := (List.isChain_append.mp h.linked).2.2
  simpa using hlink

lemma IsRun.valid_of_concat (h : IsRun V R (r ++ [x])) : V x := h.valid x (by simp)

/-- An entry that is not valid drops the run. -/
lemma noTrailingRun_concat (hx : ¬ V x) : NoTrailingRun V R (tr ++ [x]) := by
  intro r hr hrun
  obtain ⟨q, rfl, -⟩ := suffix_concat_cases hr hrun.ne_nil
  exact hx hrun.valid_of_concat

/-- A valid entry after no run starts one. -/
lemma NoTrailingRun.start (h : NoTrailingRun V R tr) (hx : V x) :
    TrailingRun V R (tr ++ [x]) [x] where
  suffix := List.suffix_append tr [x]
  run := isRun_singleton hx
  longest r' hr' hrun := by
    obtain ⟨q, rfl, hq⟩ := suffix_concat_cases hr' hrun.ne_nil
    by_cases hnil : q = []
    · rw [hnil]
      exact List.suffix_rfl
    · exact absurd (hrun.of_concat hnil) (h q hq)

/-- A valid entry that is not linked to the last entry of the run starts a new run. -/
lemma TrailingRun.restart (h : TrailingRun V R tr (r ++ [y])) (hx : V x) (hlink : ¬ R y x) :
    TrailingRun V R (tr ++ [x]) [x] where
  suffix := List.suffix_append tr [x]
  run := isRun_singleton hx
  longest r' hr' hrun := by
    obtain ⟨q, rfl, hq⟩ := suffix_concat_cases hr' hrun.ne_nil
    obtain rfl | ⟨q', z, rfl⟩ := q.eq_nil_or_concat'
    · exact List.suffix_rfl
    · have hlast := h.longest _ hq (hrun.of_concat (by simp))
      obtain ⟨q'', hq'', -⟩ := suffix_concat_cases hlast (by simp)
      obtain rfl : z = y := by simpa using (List.append_inj' hq'' rfl).2
      exact absurd hrun.link_of_concat hlink

/-- A valid entry that is linked to the last entry extends the run. -/
lemma TrailingRun.extend (h : TrailingRun V R tr (r ++ [y])) (hx : V x) (hlink : R y x) :
    TrailingRun V R (tr ++ [x]) (r ++ [y] ++ [x]) where
  suffix := by
    obtain ⟨l, rfl⟩ := h.suffix
    exact ⟨l, by simp⟩
  run := h.run.concat hx hlink
  longest r' hr' hrun := by
    obtain ⟨q, rfl, hq⟩ := suffix_concat_cases hr' hrun.ne_nil
    by_cases hnil : q = []
    · rw [hnil]
      exact List.suffix_append _ [x]
    · obtain ⟨l, hl⟩ := h.longest q hq (hrun.of_concat hnil)
      exact ⟨l, by rw [← hl]; simp⟩

end
