import Mathlib.Data.List.Forall2
import Mathlib.Tactic.ByContra
import Mathlib.Tactic.Tauto
import Mathlib.Tactic.Lemma

/-!
# Outcomes of computations that raise

A computation returns a value, raises an error that its contract names, or lets another error
escape.  An outcome says exactly when it does which, and the rules follow the computation.
-/

/-! ## Elements that are reached -/

namespace List

variable {α : Type}

/-- Behind elements that pass, an element is reached that stops. -/
def Reaches (passes stops : α → Prop) (l : List α) : Prop :=
  ∃ before x after, l = before ++ x :: after ∧ (∀ y ∈ before, passes y) ∧ stops x

variable {passes stops : α → Prop}

lemma reaches_nil : ¬ Reaches passes stops [] := by
  rintro ⟨before, x, after, heq, -⟩
  exact absurd heq.symm (by simp)

lemma reaches_cons_iff {x : α} {l : List α} :
    Reaches passes stops (x :: l) ↔ stops x ∨ passes x ∧ Reaches passes stops l := by
  constructor
  · rintro ⟨before, y, after, heq, hbefore, hstops⟩
    cases before with
    | nil =>
      obtain ⟨rfl, -⟩ := List.cons.inj heq
      exact .inl hstops
    | cons first before =>
      obtain ⟨rfl, rfl⟩ := List.cons.inj heq
      refine .inr ⟨hbefore _ List.mem_cons_self, before, y, after, rfl, ?_, hstops⟩
      exact fun z hz => hbefore z (List.mem_cons_of_mem _ hz)
  · rintro (hstops | ⟨hpasses, before, y, after, rfl, hbefore, hstops⟩)
    · exact ⟨[], x, l, rfl, by simp, hstops⟩
    · exact ⟨x :: before, y, after, rfl, List.forall_mem_cons.mpr ⟨hpasses, hbefore⟩, hstops⟩

lemma reaches_append_iff {l l' : List α} :
    Reaches passes stops (l ++ l') ↔
      Reaches passes stops l ∨ (∀ x ∈ l, passes x) ∧ Reaches passes stops l' := by
  induction l with
  | nil => simp [reaches_nil]
  | cons x l ih =>
    rw [List.cons_append, reaches_cons_iff, reaches_cons_iff, ih, List.forall_mem_cons]
    tauto

lemma reaches_map_iff {β : Type} {f : β → α} {l : List β} :
    Reaches passes stops (l.map f) ↔ Reaches (fun y => passes (f y)) (fun y => stops (f y)) l := by
  induction l with
  | nil => simp [reaches_nil]
  | cons y l ih => rw [List.map_cons, reaches_cons_iff, reaches_cons_iff, ih]

/-- Elements that do not stop are all passed. -/
lemma not_reaches_of_forall {l : List α} (h : ∀ x ∈ l, ¬ stops x) :
    ¬ Reaches passes stops l := by
  rintro ⟨before, x, after, rfl, -, hstops⟩
  exact h x (by simp) hstops

end List

/-! ## Outcomes -/

namespace Except

variable {ε α β : Type}

/-- The values that a computation returns, and when an error that is not named escapes. -/
structure Outcome (named : ε → Prop) (s : Except ε α) (returns : α → Prop) (escapes : Prop) :
    Prop where
  returns_iff : ∀ a, s = .ok a ↔ returns a
  escapes_iff : (∃ e, s = .error e ∧ ¬ named e) ↔ escapes

namespace Outcome

variable {named : ε → Prop} {s t : Except ε α} {f : α → Except ε β} {P P' : α → Prop}
  {Q Q' : Prop}

lemma congr (h : Outcome named s P Q) (hreturns : ∀ a, P a ↔ P' a) (hescapes : Q ↔ Q') :
    Outcome named s P' Q' :=
  ⟨fun a => (h.returns_iff a).trans (hreturns a), h.escapes_iff.trans hescapes⟩

lemma ok (a : α) : Outcome named (.ok a : Except ε α) (a = ·) False :=
  ⟨fun _ => ⟨Except.ok.inj, congrArg _⟩, ⟨fun ⟨_, h, _⟩ => (by cases h), False.elim⟩⟩

/-- A named error is raised. -/
lemma raise {e : ε} (he : named e) :
    Outcome named (.error e : Except ε α) (fun _ => False) False := by
  refine ⟨fun _ => ⟨fun h => (by cases h), False.elim⟩, ⟨?_, False.elim⟩⟩
  rintro ⟨e', heq, he'⟩
  cases heq
  exact he' he

/-- Another error escapes. -/
lemma escape {e : ε} (he : ¬ named e) :
    Outcome named (.error e : Except ε α) (fun _ => False) True :=
  ⟨fun _ => ⟨fun h => (by cases h), False.elim⟩, ⟨fun _ => trivial, fun _ => ⟨e, rfl, he⟩⟩⟩

/-- A sequence. -/
lemma bind {P' : α → β → Prop} {Q' : α → Prop} (h : Outcome named s P Q)
    (hnext : ∀ a, P a → Outcome named (f a) (P' a) (Q' a)) :
    Outcome named (s >>= f) (fun b => ∃ a, P a ∧ P' a b) (Q ∨ ∃ a, P a ∧ Q' a) := by
  cases s with
  | ok a =>
    have ha := (h.returns_iff a).mp rfl
    have hsingle (a' : α) (ha' : P a') : a = a' :=
      Except.ok.inj ((h.returns_iff a').mpr ha')
    have hquiet : ¬ Q := fun hQ => by
      obtain ⟨e, heq, -⟩ := h.escapes_iff.mpr hQ
      cases heq
    constructor
    · intro b
      refine ((hnext a ha).returns_iff b).trans ⟨fun hb => ⟨a, ha, hb⟩, ?_⟩
      rintro ⟨a', ha', hb⟩
      obtain rfl := hsingle a' ha'
      exact hb
    · refine (hnext a ha).escapes_iff.trans ⟨fun hescapes => .inr ⟨a, ha, hescapes⟩, ?_⟩
      rintro (hQ | ⟨a', ha', hescapes⟩)
      · exact absurd hQ hquiet
      · obtain rfl := hsingle a' ha'
        exact hescapes
  | error e =>
    have hnone (a : α) : ¬ P a := fun ha => by cases (h.returns_iff a).mpr ha
    constructor
    · intro b
      refine ⟨fun heq => (by cases heq), ?_⟩
      rintro ⟨a, ha, -⟩
      exact absurd ha (hnone a)
    · constructor
      · rintro ⟨e', heq, he'⟩
        cases heq
        exact .inl (h.escapes_iff.mp ⟨e, rfl, he'⟩)
      · rintro (hQ | ⟨a, ha, -⟩)
        · obtain ⟨e', heq, he'⟩ := h.escapes_iff.mpr hQ
          cases heq
          exact ⟨e, rfl, he'⟩
        · exact absurd ha (hnone a)

/-- A check that raises a named error. -/
lemma check {c : Prop} [Decidable c] {e : ε} (he : named e) (hfails : s = .error e)
    (h : ¬ c → Outcome named t P Q) :
    Outcome named (if c then s else t) (fun a => ¬ c ∧ P a) (¬ c ∧ Q) := by
  by_cases hc : c
  · rw [if_pos hc, hfails]
    exact (raise he).congr (fun a => by simp [hc]) (by simp [hc])
  · rw [if_neg hc]
    exact (h hc).congr (fun a => by simp [hc]) (by simp [hc])

/-- A loop over a list whose body returns nothing. -/
lemma forM {l : List α} {f : α → Except ε Unit} {passes stops : α → Prop}
    (h : ∀ x, Outcome named (f x) (fun _ => passes x) (stops x)) :
    Outcome named (l.forM f) (fun _ => ∀ x ∈ l, passes x) (l.Reaches passes stops) := by
  induction l with
  | nil => exact (ok ()).congr (by simp) (by simp [List.reaches_nil])
  | cons x l ih =>
    refine ((h x).bind fun _ _ => ih).congr (fun _ => ?_) ?_
    · rw [List.forall_mem_cons]
      exact ⟨fun ⟨_, h⟩ => h, fun h => ⟨(), h⟩⟩
    · rw [List.reaches_cons_iff]
      exact or_congr_right ⟨fun ⟨_, h⟩ => h, fun h => ⟨(), h⟩⟩

/-- A loop over a list that collects what its body returns. -/
lemma mapM {l : List α} {R : α → β → Prop} {stops : α → Prop}
    (h : ∀ x, Outcome named (f x) (R x) (stops x)) :
    Outcome named (l.mapM f) (List.Forall₂ R l)
      (l.Reaches (fun x => ∃ y, R x y) stops) := by
  induction l with
  | nil =>
    refine (ok []).congr (fun ys => ?_) (by simp [List.reaches_nil])
    rw [List.forall₂_nil_left_iff, eq_comm]
  | cons x l ih =>
    rw [List.mapM_cons]
    refine ((h x).bind fun y _ => ih.bind fun ys _ => ok (y :: ys)).congr (fun ys => ?_) ?_
    · rw [List.forall₂_cons_left_iff]
      constructor
      · rintro ⟨y, hy, rest, hrest, rfl⟩
        exact ⟨y, rest, hy, hrest, rfl⟩
      · rintro ⟨y, rest, hy, hrest, rfl⟩
        exact ⟨y, hy, rest, hrest, rfl⟩
    · rw [List.reaches_cons_iff]
      refine or_congr_right ?_
      constructor
      · rintro ⟨y, hy, hescapes | ⟨_, _, hnever⟩⟩
        · exact ⟨⟨y, hy⟩, hescapes⟩
        · cases hnever
      · rintro ⟨⟨y, hy⟩, hescapes⟩
        exact ⟨y, hy, .inl hescapes⟩

/-- A computation that does neither of the others raises a named error. -/
lemma raises (h : Outcome named s P Q) (hreturns : ∀ a, ¬ P a) (hescapes : ¬ Q) :
    ∃ e, s = .error e ∧ named e := by
  cases s with
  | ok a => exact absurd ((h.returns_iff a).mp rfl) (hreturns a)
  | error e =>
    by_contra hother
    exact hescapes (h.escapes_iff.mp ⟨e, rfl, fun he => hother ⟨e, rfl, he⟩⟩)

end Outcome

end Except
