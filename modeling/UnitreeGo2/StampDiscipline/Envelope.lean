import UnitreeGo2.StampDiscipline.Estimate
import Mathlib.Data.List.Pairwise

/-!
# The lower envelope and its slope

The lower envelope keeps the best sample of every bin, so it depends on the samples only, not on
their order.  The slope through its points is a median, which no minority of pairs can move out of
the interval of the others.
-/

namespace UnitreeGo2.StampDiscipline

/-! ## The order of the samples -/

namespace Sample

variable {a b c : Sample}

lemma better_iff : a.better b = true ↔ a.ageNs < b.ageNs ∨ a.ageNs = b.ageNs ∧
    (a.receiptMonotonicNs < b.receiptMonotonicNs ∨
      a.receiptMonotonicNs = b.receiptMonotonicNs ∧ a.sourceNs < b.sourceNs) := by
  rw [better, decide_eq_true_iff]

/-- A sample that no better one replaces is at least as good. -/
lemma not_better_trans (hab : ¬ a.better b = true) (hbc : ¬ b.better c = true) :
    ¬ a.better c = true := by
  rw [better_iff] at *
  omega

lemma not_better_self : ¬ a.better a = true := by
  rw [better_iff]
  omega

/-- Two samples of which none is better are the same. -/
lemma eq_of_not_better (hab : ¬ a.better b = true) (hba : ¬ b.better a = true) : a = b := by
  obtain ⟨source, receipt, age⟩ := a
  obtain ⟨source', receipt', age'⟩ := b
  rw [better_iff] at hab hba
  dsimp only at hab hba
  rw [mk.injEq]
  omega

lemma ageNs_le_of_not_better (h : ¬ a.better b = true) : b.ageNs ≤ a.ageNs := by
  rw [better_iff] at h
  omega

end Sample

/-! ## Inserting into a bin -/

section Bins

variable {key : ℤ} {candidate : Sample} {bins : List (ℤ × Sample)}

/-- The bins in ascending order, each once. -/
def Ascending (bins : List (ℤ × Sample)) : Prop := bins.Pairwise fun a b => a.1 < b.1

/-- The entries of distinct bins are told apart by their bins. -/
lemma Ascending.eq_of_bin_eq (h : Ascending bins) {b b' : ℤ × Sample} (hb : b ∈ bins)
    (hb' : b' ∈ bins) (hbin : b.1 = b'.1) : b = b' := by
  have hne : bins.Pairwise fun a b => a.1 = b.1 → a = b :=
    h.imp fun hlt heq => absurd heq hlt.ne
  have hsymm : Std.Symm fun a b : ℤ × Sample => a.1 = b.1 → a = b :=
    ⟨fun _ _ himp heq => (himp heq.symm).symm⟩
  exact List.Pairwise.forall_of_forall (fun _ _ _ => rfl) hne hb hb' hbin

lemma mem_insertBin {b : ℤ × Sample} (h : b ∈ insertBin key candidate bins) :
    b = (key, candidate) ∨ b ∈ bins := by
  induction bins with
  | nil => exact .inl (List.mem_singleton.mp h)
  | cons head rest ih =>
    obtain ⟨bin, incumbent⟩ := head
    rw [insertBin] at h
    split_ifs at h with hbefore hsame hbetter
    · exact List.mem_cons.mp h
    · rcases List.mem_cons.mp h with rfl | hrest
      · exact .inl (by rw [hsame])
      · exact .inr (List.mem_cons_of_mem _ hrest)
    · exact .inr h
    · rcases List.mem_cons.mp h with rfl | hrest
      · exact .inr (List.mem_cons_self ..)
      · exact (ih hrest).imp_right (List.mem_cons_of_mem _)

lemma ascending_insertBin (h : Ascending bins) : Ascending (insertBin key candidate bins) := by
  induction bins with
  | nil => exact List.pairwise_singleton _ _
  | cons head rest ih =>
    obtain ⟨bin, incumbent⟩ := head
    obtain ⟨hhead, hrest⟩ := List.pairwise_cons.mp h
    rw [insertBin]
    split_ifs with hbefore hsame hbetter
    · refine List.pairwise_cons.mpr ⟨fun b hb => ?_, h⟩
      rcases List.mem_cons.mp hb with rfl | hb
      · exact hbefore
      · exact hbefore.trans (hhead b hb)
    · exact List.pairwise_cons.mpr ⟨hhead, hrest⟩
    · exact List.pairwise_cons.mpr ⟨hhead, hrest⟩
    · refine List.pairwise_cons.mpr ⟨fun b hb => ?_, ih hrest⟩
      rcases mem_insertBin hb with rfl | hb
      · dsimp only
        omega
      · exact hhead b hb

/-- The candidate has an entry at least as good. -/
lemma exists_insertBin : ∃ b ∈ insertBin key candidate bins,
    b.1 = key ∧ ¬ candidate.better b.2 = true := by
  induction bins with
  | nil => exact ⟨_, List.mem_singleton_self _, rfl, Sample.not_better_self⟩
  | cons head rest ih =>
    obtain ⟨bin, incumbent⟩ := head
    rw [insertBin]
    split_ifs with hbefore hsame hbetter
    · exact ⟨_, List.mem_cons_self .., rfl, Sample.not_better_self⟩
    · exact ⟨_, List.mem_cons_self .., hsame.symm, Sample.not_better_self⟩
    · exact ⟨_, List.mem_cons_self .., hsame.symm, hbetter⟩
    · obtain ⟨b, hb, hbin⟩ := ih
      exact ⟨b, List.mem_cons_of_mem _ hb, hbin⟩

/-- Every entry has one at least as good afterwards. -/
lemma exists_insertBin_of_mem {b : ℤ × Sample} (hb : b ∈ bins) :
    ∃ b' ∈ insertBin key candidate bins, b'.1 = b.1 ∧ ¬ b.2.better b'.2 = true := by
  induction bins with
  | nil => cases hb
  | cons head rest ih =>
    obtain ⟨bin, incumbent⟩ := head
    rw [insertBin]
    split_ifs with hbefore hsame hbetter
    · exact ⟨b, List.mem_cons_of_mem _ hb, rfl, Sample.not_better_self⟩
    · rcases List.mem_cons.mp hb with rfl | hrest
      · refine ⟨_, List.mem_cons_self .., rfl, ?_⟩
        -- the candidate is better, so the incumbent is not
        rw [Sample.better_iff] at hbetter ⊢
        dsimp only
        omega
      · exact ⟨b, List.mem_cons_of_mem _ hrest, rfl, Sample.not_better_self⟩
    · exact ⟨b, hb, rfl, Sample.not_better_self⟩
    · rcases List.mem_cons.mp hb with rfl | hrest
      · exact ⟨_, List.mem_cons_self .., rfl, Sample.not_better_self⟩
      · obtain ⟨b', hb', hbin⟩ := ih hrest
        exact ⟨b', List.mem_cons_of_mem _ hb', hbin⟩

end Bins

/-! ## The lower envelope -/

section Envelope

variable {binNs anchorNs : ℤ}

/-- The bins hold the best samples of those seen. -/
structure Collects (binNs anchorNs : ℤ) (seen : List Sample) (bins : List (ℤ × Sample)) :
    Prop where
  ascending : Ascending bins
  sample : ∀ b ∈ bins, b.2 ∈ seen ∧ b.1 = b.2.bin binNs anchorNs
  best : ∀ x ∈ seen, ∃ b ∈ bins, b.1 = x.bin binNs anchorNs ∧ ¬ x.better b.2 = true

lemma Collects.insertBin {seen : List Sample} {bins : List (ℤ × Sample)}
    (h : Collects binNs anchorNs seen bins) (x : Sample) :
    Collects binNs anchorNs (seen ++ [x]) (insertBin (x.bin binNs anchorNs) x bins) where
  ascending := ascending_insertBin h.ascending
  sample := by
    intro b hb
    rcases mem_insertBin hb with rfl | hb
    · exact ⟨by simp, rfl⟩
    · obtain ⟨hseen, hbin⟩ := h.sample b hb
      exact ⟨List.mem_append_left _ hseen, hbin⟩
  best := by
    intro y hy
    rcases List.mem_append.mp hy with hy | hy
    · obtain ⟨b, hb, hbin, hbest⟩ := h.best y hy
      obtain ⟨b', hb', hsame, hbetter⟩ := exists_insertBin_of_mem hb
      exact ⟨b', hb', hsame.trans hbin, Sample.not_better_trans hbest hbetter⟩
    · obtain rfl := List.mem_singleton.mp hy
      exact exists_insertBin

lemma collects_foldl (samples seen : List Sample) (bins : List (ℤ × Sample))
    (h : Collects binNs anchorNs seen bins) :
    Collects binNs anchorNs (seen ++ samples) (samples.foldl
      (fun bins sample => insertBin (sample.bin binNs anchorNs) sample bins) bins) := by
  induction samples generalizing seen bins with
  | nil =>
    rw [List.append_nil]
    exact h
  | cons x samples ih =>
    have hrun := ih _ _ (h.insertBin x)
    rwa [List.append_assoc, List.singleton_append] at hrun

lemma collects (binNs anchorNs : ℤ) (samples : List Sample) :
    Collects binNs anchorNs samples (samples.foldl
      (fun bins sample => insertBin (sample.bin binNs anchorNs) sample bins) []) :=
  collects_foldl samples [] [] ⟨List.Pairwise.nil, by simp, by simp⟩

/-- Exactly one point for every occupied bin, and no sample of the bin is better. -/
structure IsLowerEnvelope (binNs anchorNs : ℤ) (samples points : List Sample) : Prop where
  ascending : points.Pairwise fun a b => a.bin binNs anchorNs < b.bin binNs anchorNs
  sample : ∀ p ∈ points, p ∈ samples
  occupied : ∀ x ∈ samples, ∃ p ∈ points, p.bin binNs anchorNs = x.bin binNs anchorNs
  least : ∀ p ∈ points, ∀ x ∈ samples, x.bin binNs anchorNs = p.bin binNs anchorNs →
    ¬ x.better p = true

/-- Two points of one bin are the same point. -/
lemma IsLowerEnvelope.eq_of_bin_eq {samples points : List Sample}
    (h : IsLowerEnvelope binNs anchorNs samples points) {p q : Sample} (hp : p ∈ points)
    (hq : q ∈ points) (hbin : p.bin binNs anchorNs = q.bin binNs anchorNs) : p = q :=
  Sample.eq_of_not_better (h.least q hq p (h.sample p hp) hbin)
    (h.least p hp q (h.sample q hq) hbin.symm)

theorem isLowerEnvelope (samples : List Sample) (binNs anchorNs : ℤ) :
    IsLowerEnvelope binNs anchorNs samples (lowerEnvelopePoints samples binNs anchorNs) := by
  rw [lowerEnvelopePoints]
  have hbins := collects binNs anchorNs samples
  generalize samples.foldl _ [] = bins at hbins
  refine ⟨?_, ?_, ?_, ?_⟩
  · refine List.pairwise_map.mpr (hbins.ascending.imp_of_mem ?_)
    intro a b ha hb hlt
    rwa [(hbins.sample a ha).2, (hbins.sample b hb).2] at hlt
  · intro p hp
    obtain ⟨b, hb, rfl⟩ := List.mem_map.mp hp
    exact (hbins.sample b hb).1
  · intro x hx
    obtain ⟨b, hb, hbin, -⟩ := hbins.best x hx
    exact ⟨b.2, List.mem_map_of_mem hb, (hbins.sample b hb).2.symm.trans hbin⟩
  · intro p hp x hx hbin
    obtain ⟨b, hb, rfl⟩ := List.mem_map.mp hp
    obtain ⟨b', hb', hbin', hbest⟩ := hbins.best x hx
    -- the bins are distinct, so the entry that holds against `x` is this one
    have hkey : b'.1 = b.1 := by rw [hbin', hbin, (hbins.sample b hb).2]
    rwa [← hbins.ascending.eq_of_bin_eq hb' hb hkey]

/-- The order of the samples does not matter. -/
lemma IsLowerEnvelope.of_perm {samples samples' points : List Sample}
    (h : IsLowerEnvelope binNs anchorNs samples points) (hperm : samples.Perm samples') :
    IsLowerEnvelope binNs anchorNs samples' points where
  ascending := h.ascending
  sample p hp := hperm.mem_iff.mp (h.sample p hp)
  occupied x hx := h.occupied x (hperm.mem_iff.mpr hx)
  least p hp x hx := h.least p hp x (hperm.mem_iff.mpr hx)

/-- The samples determine their lower envelope. -/
lemma IsLowerEnvelope.subset {samples points points' : List Sample}
    (h : IsLowerEnvelope binNs anchorNs samples points)
    (h' : IsLowerEnvelope binNs anchorNs samples points') : points ⊆ points' := by
  intro p hp
  obtain ⟨q, hq, hbin⟩ := h'.occupied p (h.sample p hp)
  have heq : p = q := Sample.eq_of_not_better (h'.least q hq p (h.sample p hp) hbin.symm)
    (h.least p hp q (h'.sample q hq) hbin)
  rwa [heq]

lemma IsLowerEnvelope.unique {samples points points' : List Sample}
    (h : IsLowerEnvelope binNs anchorNs samples points)
    (h' : IsLowerEnvelope binNs anchorNs samples points') : points = points' := by
  have hirrefl : Std.Irrefl fun a b : Sample => a.bin binNs anchorNs < b.bin binNs anchorNs :=
    ⟨fun a => lt_irrefl _⟩
  have hantisymm : Std.Antisymm fun a b : Sample => a.bin binNs anchorNs < b.bin binNs anchorNs :=
    ⟨fun a b hab hba => absurd hba (lt_asymm hab)⟩
  exact List.Subset.antisymm_of_pairwise h.ascending h'.ascending (h.subset h') (h'.subset h)

end Envelope

/-! ## The slope -/

section Slope

variable {points : List Sample}

lemma mem_orderedPairs {α : Type*} {values : List α} {pair : α × α}
    (h : pair ∈ orderedPairs values) : pair.1 ∈ values ∧ pair.2 ∈ values := by
  induction values with
  | nil => cases h
  | cons left rest ih =>
    rcases List.mem_append.mp h with hmap | hrest
    · obtain ⟨right, hright, rfl⟩ := List.mem_map.mp hmap
      exact ⟨List.mem_cons_self .., List.mem_cons_of_mem _ hright⟩
    · obtain ⟨hleft, hright⟩ := ih hrest
      exact ⟨List.mem_cons_of_mem _ hleft, List.mem_cons_of_mem _ hright⟩

/-- Between points of a line, every slope is that of the line. -/
lemma eq_of_mem_ageSlopesPpm {rate intercept slope : ℚ}
    (hline : ∀ p ∈ points, (p.ageNs : ℚ) = intercept + rate * p.receiptMonotonicNs)
    (hslope : slope ∈ ageSlopesPpm id points) : slope = rate * 1000000 := by
  obtain ⟨⟨left, right⟩, hpair, rfl⟩ := List.mem_map.mp hslope
  obtain ⟨hmem, helapsed⟩ := List.mem_filter.mp hpair
  obtain ⟨hleft, hright⟩ := mem_orderedPairs hmem
  have hpos : (0 : ℚ) < right.receiptMonotonicNs - left.receiptMonotonicNs := by
    exact_mod_cast of_decide_eq_true helapsed
  rw [id, id, Int.cast_sub, Int.cast_sub, hline _ hleft, hline _ hright]
  congr 1
  rw [div_eq_iff hpos.ne']
  ring

/-- The estimate lies in every interval that holds more than half of the slopes. -/
lemma mem_Icc_of_theilSen {lo hi slope : ℚ} (h : theilSenAgeDriftPpm id points = some slope)
    (hmajority : (ageSlopesPpm id points).length <
      2 * (ageSlopesPpm id points).countP fun x => lo ≤ x ∧ x ≤ hi) :
    slope ∈ Set.Icc lo hi := by
  rw [theilSenAgeDriftPpm] at h
  split_ifs at h
  obtain rfl := Option.some.inj h
  exact Median.median_mem_Icc hmajority

lemma slope_eq_of_line {rate intercept slope : ℚ}
    (hline : ∀ p ∈ points, (p.ageNs : ℚ) = intercept + rate * p.receiptMonotonicNs)
    (h : theilSenAgeDriftPpm id points = some slope) : slope = rate * 1000000 := by
  have hcount : (ageSlopesPpm id points).countP
      (fun x => rate * 1000000 ≤ x ∧ x ≤ rate * 1000000) = (ageSlopesPpm id points).length := by
    rw [List.countP_eq_length]
    intro x hx
    rw [eq_of_mem_ageSlopesPpm hline hx]
    exact decide_eq_true ⟨le_rfl, le_rfl⟩
  have hpos : 0 < (ageSlopesPpm id points).length := by
    rw [theilSenAgeDriftPpm] at h
    split_ifs at h with hfew hnone
    exact List.length_pos_iff.mpr hnone
  obtain ⟨hle, hge⟩ := mem_Icc_of_theilSen h (by omega :
    (ageSlopesPpm id points).length < 2 * (ageSlopesPpm id points).countP
      fun x => rate * 1000000 ≤ x ∧ x ≤ rate * 1000000)
  exact le_antisymm hge hle

/-- Points of ascending bins have ascending receipts. -/
lemma receipt_lt_of_bin_lt {binNs anchorNs : ℤ} (hbin : 0 < binNs) {a b : Sample}
    (h : a.bin binNs anchorNs < b.bin binNs anchorNs) :
    a.receiptMonotonicNs < b.receiptMonotonicNs := by
  by_contra hle
  have hmono : b.bin binNs anchorNs ≤ a.bin binNs anchorNs :=
    Int.ediv_le_ediv hbin (by omega)
  omega

lemma isSome_theilSen {samples : List Sample} {binNs anchorNs : ℤ} (hbin : 0 < binNs)
    (h : IsLowerEnvelope binNs anchorNs samples points) (hmany : 4 ≤ points.length)
    (round : ℚ → ℚ) : (theilSenAgeDriftPpm round points).isSome := by
  rw [theilSenAgeDriftPpm, if_neg (by omega)]
  obtain _ | ⟨a, _ | ⟨b, rest⟩⟩ := points
  · cases hmany
  · simp at hmany
  -- the first two points have a slope
  have hlt := receipt_lt_of_bin_lt hbin ((List.pairwise_cons.mp h.ascending).1 b (by simp))
  have helapsed : decide (0 < b.receiptMonotonicNs - a.receiptMonotonicNs) = true :=
    decide_eq_true (by omega)
  have hpair : (a, b) ∈ orderedPairs (a :: b :: rest) := by simp [orderedPairs]
  have hkept : (a, b) ∈ (orderedPairs (a :: b :: rest)).filter fun pair =>
      0 < pair.2.receiptMonotonicNs - pair.1.receiptMonotonicNs :=
    List.mem_filter.mpr ⟨hpair, helapsed⟩
  have hslopes : ageSlopesPpm round (a :: b :: rest) ≠ [] :=
    List.ne_nil_of_mem (List.mem_map_of_mem hkept)
  rw [if_neg hslopes]
  rfl

end Slope

/-- **The lower envelope and the slope through it**, in exact arithmetic. -/
theorem lowerEnvelope_theilSen (samples : List Sample) (binNs anchorNs : ℤ) :
    IsLowerEnvelope binNs anchorNs samples (lowerEnvelopePoints samples binNs anchorNs) ∧
    (∀ p ∈ lowerEnvelopePoints samples binNs anchorNs, ∀ x ∈ samples,
      x.bin binNs anchorNs = p.bin binNs anchorNs → p.ageNs ≤ x.ageNs) ∧
    (∀ samples', samples.Perm samples' →
      lowerEnvelopePoints samples' binNs anchorNs = lowerEnvelopePoints samples binNs anchorNs) ∧
    (0 < binNs → 4 ≤ (lowerEnvelopePoints samples binNs anchorNs).length →
      (theilSenAgeDriftPpm id (lowerEnvelopePoints samples binNs anchorNs)).isSome) ∧
    ∀ slope, theilSenAgeDriftPpm id (lowerEnvelopePoints samples binNs anchorNs) = some slope →
      (∀ rate intercept : ℚ, (∀ p ∈ lowerEnvelopePoints samples binNs anchorNs,
        (p.ageNs : ℚ) = intercept + rate * p.receiptMonotonicNs) → slope = rate * 1000000) ∧
      ∀ lo hi : ℚ, (ageSlopesPpm id (lowerEnvelopePoints samples binNs anchorNs)).length <
          2 * (ageSlopesPpm id (lowerEnvelopePoints samples binNs anchorNs)).countP
            (fun x => lo ≤ x ∧ x ≤ hi) →
        slope ∈ Set.Icc lo hi := by
  have henvelope := isLowerEnvelope samples binNs anchorNs
  refine ⟨henvelope, ?_, ?_, ?_, ?_⟩
  · intro p hp x hx hbin
    exact Sample.ageNs_le_of_not_better (henvelope.least p hp x hx hbin)
  · intro samples' hperm
    exact (isLowerEnvelope samples' binNs anchorNs).unique (henvelope.of_perm hperm)
  · intro hbin hmany
    exact isSome_theilSen hbin henvelope hmany id
  · intro slope hslope
    refine ⟨?_, ?_⟩
    · intro rate intercept hline
      exact slope_eq_of_line hline hslope
    · intro lo hi hmajority
      exact mem_Icc_of_theilSen hslope hmajority

end UnitreeGo2.StampDiscipline
