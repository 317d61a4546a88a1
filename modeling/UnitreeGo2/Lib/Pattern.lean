import Mathlib.Data.List.Basic
import Mathlib.Tactic.Lemma

/-!
# Patterns

Regular expressions over texts, with one group that catches what it reads.  The search tries the
readings of a pattern as a backtracking matcher does, the first branch of an alternative and the
longest run of a class before the others.  What a pattern reads is said apart from the search, and
the search finds exactly that.
-/

/-- A regular expression: a word, a run of one or more letters of a class, and what is composed of
these. -/
inductive Pattern (α : Type) where
  | word (letters : List α)
  | run (among : α → Bool)
  | seq (first second : Pattern α)
  | either (first second : Pattern α)
  | group (inner : Pattern α)

namespace Pattern

variable {α : Type}

/-- A pattern that may be left out. -/
def optional (p : Pattern α) : Pattern α := .either p (.word [])

/-- One of some words. -/
def oneOf (first : List α) : List (List α) → Pattern α
  | [] => .word first
  | next :: others => .either (.word first) (oneOf next others)

/-! ## The search -/

/-- What a pattern read, what its group caught of that, and what is left. -/
structure Found (α : Type) where
  read : List α
  caught : Option (List α)
  rest : List α

/-- The readings of a pattern at the start of a text, in the order they are tried. -/
def search [DecidableEq α] : Pattern α → List α → List (Found α)
  | word letters, text =>
    if letters <+: text then [⟨letters, none, text.drop letters.length⟩] else []
  | run among, text =>
    (List.range (text.takeWhile among).length).reverse.map fun k =>
      ⟨text.take (k + 1), none, text.drop (k + 1)⟩
  | seq p q, text =>
    (p.search text).flatMap fun found => (q.search found.rest).map fun next =>
      ⟨found.read ++ next.read, next.caught.or found.caught, next.rest⟩
  | either p q, text => p.search text ++ q.search text
  | group p, text => (p.search text).map fun found => { found with caught := some found.read }

/-- `pattern.fullmatch(text)`: what the group caught, if the pattern reads the whole text. -/
def fullmatch [DecidableEq α] (p : Pattern α) (text : List α) : Option (Option (List α)) :=
  ((p.search text).find? (·.rest.isEmpty)).map (·.caught)

/-! ## What a pattern reads -/

/-- A pattern reads a text, and its group catches a part of it. -/
inductive Reads : Pattern α → List α → Option (List α) → Prop
  | word {letters : List α} : Reads (.word letters) letters none
  | run {among : α → Bool} {text : List α} (hne : text ≠ [])
      (hall : ∀ c ∈ text, among c = true) : Reads (.run among) text none
  | seq {p q : Pattern α} {t u : List α} {b c : Option (List α)} (hp : Reads p t b)
      (hq : Reads q u c) : Reads (.seq p q) (t ++ u) (c.or b)
  | first {p q : Pattern α} {t : List α} {c : Option (List α)} (hp : Reads p t c) :
      Reads (.either p q) t c
  | second {p q : Pattern α} {t : List α} {c : Option (List α)} (hq : Reads q t c) :
      Reads (.either p q) t c
  | group {p : Pattern α} {t : List α} {c : Option (List α)} (hp : Reads p t c) :
      Reads (.group p) t (some t)

section reads

variable {p q : Pattern α} {t : List α} {c : Option (List α)}

@[simp] lemma reads_word_iff {letters : List α} :
    (word letters).Reads t c ↔ t = letters ∧ c = none := by
  constructor
  · rintro ⟨⟩
    exact ⟨rfl, rfl⟩
  · rintro ⟨rfl, rfl⟩
    exact .word

lemma reads_run_iff {among : α → Bool} :
    (run among).Reads t c ↔ t ≠ [] ∧ (∀ x ∈ t, among x = true) ∧ c = none := by
  constructor
  · rintro (_ | ⟨hne, hall⟩)
    exact ⟨hne, hall, rfl⟩
  · rintro ⟨hne, hall, rfl⟩
    exact .run hne hall

lemma reads_seq_iff :
    (seq p q).Reads t c ↔
      ∃ u v b d, p.Reads u b ∧ q.Reads v d ∧ t = u ++ v ∧ c = d.or b := by
  constructor
  · rintro (_ | _ | ⟨hp, hq⟩)
    exact ⟨_, _, _, _, hp, hq, rfl, rfl⟩
  · rintro ⟨u, v, b, d, hp, hq, rfl, rfl⟩
    exact .seq hp hq

@[simp] lemma reads_either_iff : (either p q).Reads t c ↔ p.Reads t c ∨ q.Reads t c := by
  constructor
  · rintro (_ | _ | _ | hp | hq)
    · exact .inl hp
    · exact .inr hq
  · rintro (hp | hq)
    · exact .first hp
    · exact .second hq

lemma reads_group_iff : (group p).Reads t c ↔ (∃ b, p.Reads t b) ∧ c = some t := by
  constructor
  · rintro (_ | _ | _ | _ | _ | hp)
    exact ⟨⟨_, hp⟩, rfl⟩
  · rintro ⟨⟨b, hp⟩, rfl⟩
    exact .group hp

lemma reads_optional_iff : p.optional.Reads t c ↔ p.Reads t c ∨ t = [] ∧ c = none := by
  rw [optional, reads_either_iff, reads_word_iff]

/-- A pattern that catches nothing, before another. -/
lemma reads_seq_iff_of_caught_none (hp : ∀ u b, p.Reads u b → b = none) :
    (seq p q).Reads t c ↔ ∃ u v, (∃ b, p.Reads u b) ∧ q.Reads v c ∧ t = u ++ v := by
  rw [reads_seq_iff]
  constructor
  · rintro ⟨u, v, b, d, hread, hq, rfl, rfl⟩
    obtain rfl := hp u b hread
    rw [Option.or_none]
    exact ⟨u, v, ⟨_, hread⟩, hq, rfl⟩
  · rintro ⟨u, v, ⟨b, hread⟩, hq, rfl⟩
    obtain rfl := hp u b hread
    exact ⟨u, v, none, c, hread, hq, rfl, Option.or_none.symm⟩

end reads

/-! ## Soundness and completeness of the search -/

variable [DecidableEq α]

/-- **The search finds what the pattern reads.**  A reading is found exactly if what it read, and
what is left, make up the text, and the pattern reads it and catches what the reading caught. -/
theorem mem_search_iff {p : Pattern α} {text : List α} {found : Found α} :
    found ∈ p.search text ↔
      text = found.read ++ found.rest ∧ p.Reads found.read found.caught := by
  induction p generalizing text found with
  | word letters =>
    rw [search, reads_word_iff]
    constructor
    · intro h
      split_ifs at h with htaken
      · obtain ⟨rest, rfl⟩ := htaken
        obtain rfl := List.mem_singleton.mp h
        exact ⟨by simp, rfl, rfl⟩
      · cases h
    · obtain ⟨read, caught, rest⟩ := found
      rintro ⟨htext, hread, hcaught⟩
      dsimp only at htext hread hcaught
      subst htext hread hcaught
      rw [if_pos (List.prefix_append _ _), List.drop_left]
      exact List.mem_singleton_self _
  | run among =>
    rw [search, reads_run_iff]
    simp only [List.mem_map, List.mem_reverse, List.mem_range]
    constructor
    · rintro ⟨k, hk, rfl⟩
      have hlength := (List.takeWhile_prefix among (l := text)).length_le
      refine ⟨(List.take_append_drop _ _).symm, ?_, fun x hx => ?_, rfl⟩
      · rw [Ne, List.take_eq_nil_iff]
        rintro (hzero | rfl)
        · cases hzero
        · simp at hk
      · have htaken : text.take (k + 1) <+: text.takeWhile among :=
          List.prefix_of_prefix_length_le (List.take_prefix _ _) (List.takeWhile_prefix _)
            (by rw [List.length_take]; omega)
        exact List.all_eq_true.mp List.all_takeWhile x (htaken.subset hx)
    · obtain ⟨read, caught, rest⟩ := found
      rintro ⟨rfl, hne, hall, hcaught⟩
      dsimp only at hne hall hcaught
      subst hcaught
      have hpos := List.length_pos_of_ne_nil hne
      refine ⟨read.length - 1, ?_, ?_⟩
      · rw [List.takeWhile_append_of_pos hall, List.length_append]
        omega
      · rw [Nat.sub_add_cancel hpos, List.take_left, List.drop_left]
  | seq p q ihp ihq =>
    rw [search, reads_seq_iff]
    simp only [List.mem_flatMap, List.mem_map]
    constructor
    · rintro ⟨first, hfirst, next, hnext, rfl⟩
      obtain ⟨htext, hp⟩ := ihp.mp hfirst
      obtain ⟨hrest, hq⟩ := ihq.mp hnext
      exact ⟨by rw [htext, hrest, List.append_assoc], _, _, _, _, hp, hq, rfl, rfl⟩
    · obtain ⟨read, caught, rest⟩ := found
      rintro ⟨htext, u, v, b, d, hp, hq, hread, hcaught⟩
      dsimp only at htext hread hcaught
      subst hread hcaught
      refine ⟨⟨u, b, v ++ rest⟩, ihp.mpr ⟨by rw [htext, List.append_assoc], hp⟩,
        ⟨v, d, rest⟩, ihq.mpr ⟨rfl, hq⟩, rfl⟩
  | either p q ihp ihq =>
    rw [search, List.mem_append, ihp, ihq, reads_either_iff, ← and_or_left]
  | group p ih =>
    rw [search, reads_group_iff, List.mem_map]
    constructor
    · rintro ⟨inner, hinner, rfl⟩
      obtain ⟨htext, hp⟩ := ih.mp hinner
      exact ⟨htext, ⟨_, hp⟩, rfl⟩
    · obtain ⟨read, caught, rest⟩ := found
      rintro ⟨htext, ⟨b, hp⟩, hcaught⟩
      dsimp only at htext hcaught
      subst hcaught
      exact ⟨⟨read, b, rest⟩, ih.mpr ⟨htext, hp⟩, rfl⟩

lemma reads_of_fullmatch {p : Pattern α} {text : List α} {caught : Option (List α)}
    (h : p.fullmatch text = some caught) : p.Reads text caught := by
  obtain ⟨found, hfound, rfl⟩ := Option.map_eq_some_iff.mp h
  obtain ⟨htext, hreads⟩ := mem_search_iff.mp (List.mem_of_find?_eq_some hfound)
  have hrest := List.find?_some hfound
  rw [List.isEmpty_iff] at hrest
  rw [hrest, List.append_nil] at htext
  rwa [htext]

/-- A pattern matches a text exactly if it reads the whole of it. -/
theorem fullmatch_eq_none_iff {p : Pattern α} {text : List α} :
    p.fullmatch text = none ↔ ∀ caught, ¬ p.Reads text caught := by
  constructor
  · intro h caught hreads
    rw [fullmatch, Option.map_eq_none_iff, List.find?_eq_none] at h
    exact h ⟨text, caught, []⟩ (mem_search_iff.mpr ⟨(List.append_nil _).symm, hreads⟩) rfl
  · intro h
    cases hmatch : p.fullmatch text with
    | none => rfl
    | some caught => exact absurd (reads_of_fullmatch hmatch) (h caught)

lemma fullmatch_isSome_iff {p : Pattern α} {text : List α} :
    (p.fullmatch text).isSome = true ↔ ∃ caught, p.Reads text caught := by
  rw [← not_iff_not, Option.not_isSome_iff_eq_none, fullmatch_eq_none_iff, not_exists]

/-! ## Patterns without the letters of a class -/

omit [DecidableEq α]

/-- The pattern consists of words, and none has a letter of a class. -/
def avoids (among : α → Bool) : Pattern α → Bool
  | word letters => !letters.any among
  | run _ => false
  | seq p q => p.avoids among && q.avoids among
  | either p q => p.avoids among && q.avoids among
  | group _ => false

/-- A pattern without the letters of a class reads none of them, and catches nothing. -/
lemma Reads.of_avoids {among : α → Bool} {p : Pattern α} {t : List α} {c : Option (List α)}
    (h : p.Reads t c) (havoids : p.avoids among = true) :
    t.filter among = [] ∧ c = none := by
  induction h with
  | word =>
    refine ⟨?_, rfl⟩
    rw [avoids, Bool.not_eq_true', List.any_eq_false] at havoids
    exact List.filter_eq_nil_iff.mpr havoids
  | run => cases havoids
  | seq _ _ ihp ihq =>
    rw [avoids, Bool.and_eq_true] at havoids
    obtain ⟨hp, rfl⟩ := ihp havoids.1
    obtain ⟨hq, rfl⟩ := ihq havoids.2
    exact ⟨by rw [List.filter_append, hp, hq, List.append_nil], rfl⟩
  | first _ ih => exact ih (Bool.and_eq_true _ _ ▸ havoids).1
  | second _ ih => exact ih (Bool.and_eq_true _ _ ▸ havoids).2
  | group => cases havoids

/-- Between patterns without the letters of a class, the group catches the letters of the class. -/
theorem caught_of_avoids {among : α → Bool} {opening number closing : Pattern α} {t : List α}
    {c : Option (List α)} (h : (opening.seq (number.group.seq closing)).Reads t c)
    (hopening : opening.avoids among = true) (hclosing : closing.avoids among = true)
    (hnumber : ∀ u b, number.Reads u b → ∀ x ∈ u, among x = true) :
    c = some (t.filter among) ∧ ∃ b, number.Reads (t.filter among) b := by
  obtain ⟨u, w, b, d, hu, hw, rfl, rfl⟩ := reads_seq_iff.mp h
  obtain ⟨m, v, e, f, hm, hv, rfl, rfl⟩ := reads_seq_iff.mp hw
  obtain ⟨⟨a, hread⟩, rfl⟩ := reads_group_iff.mp hm
  obtain ⟨hunone, rfl⟩ := hu.of_avoids hopening
  obtain ⟨hvnone, rfl⟩ := hv.of_avoids hclosing
  have hfilter : (u ++ (m ++ v)).filter among = m := by
    rw [List.filter_append, List.filter_append, hunone, hvnone, List.append_nil, List.nil_append,
      List.filter_eq_self.mpr (hnumber m a hread)]
  rw [hfilter]
  exact ⟨rfl, a, hread⟩

end Pattern
