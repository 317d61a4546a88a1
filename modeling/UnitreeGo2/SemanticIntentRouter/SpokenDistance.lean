import UnitreeGo2.SemanticIntentRouter.FollowDistance
import Mathlib.Data.List.Chain
import Mathlib.Data.List.TakeWhile
import Mathlib.Tactic.NormNum

/-!
# Spoken distances

What the numerals of an absolute distance denote, written apart from the parser, and when the
parser reads them so.  A Chinese numeral is a row of digits, read one by one, or has units: then
every unit counts at most one digit, and zeros stand only where a place is left out between others.
The parser takes more: a digit that is followed by another digit is forgotten.
-/

namespace UnitreeGo2.SemanticIntentRouter

open Binary64

/-! ## Well-formed numerals -/

/-- A digit that counts. -/
structure Digit where
  char : Char
  value : ℕ
  value_eq : digit? char = some value
  pos : 0 < value

/-- A digit for a place that is left out. -/
structure ZeroDigit where
  char : Char
  value_eq : digit? char = some 0

/-- The numerals with units, below a thousand.  A digit that is left out before a unit is one, and
a zero is said where the tens between a hundred and the ones are left out. -/
inductive UnitNumeral where
  | tens (count ones : Option Digit)
  | hundreds (count : Option Digit)
  | hundredsOnes (count : Option Digit) (zero : ZeroDigit) (ones : Digit)
  | hundredsTens (count tenCount ones : Option Digit)

/-- A digit that may be left out. -/
def spellDigit (digit : Option Digit) : List Char := digit.toList.map Digit.char

/-- A digit before a unit. -/
def countOf (digit : Option Digit) : ℕ := (digit.map Digit.value).getD 1

/-- A digit behind the units. -/
def onesOf (digit : Option Digit) : ℕ := (digit.map Digit.value).getD 0

def UnitNumeral.spell : UnitNumeral → List Char
  | tens count ones => spellDigit count ++ '十' :: spellDigit ones
  | hundreds count => spellDigit count ++ ['百']
  | hundredsOnes count zero ones => spellDigit count ++ ['百', zero.char, ones.char]
  | hundredsTens count tenCount ones =>
    spellDigit count ++ '百' :: (spellDigit tenCount ++ '十' :: spellDigit ones)

/-- The number that a numeral denotes. -/
def UnitNumeral.value : UnitNumeral → ℕ
  | tens count ones => countOf count * 10 + onesOf ones
  | hundreds count => countOf count * 100
  | hundredsOnes count _ ones => countOf count * 100 + ones.value
  | hundredsTens count tenCount ones => countOf count * 100 + countOf tenCount * 10 + onesOf ones

/-- A text has a character, and all are of a kind. -/
def RunOf (kind : Char → Option ℕ) (text : List Char) : Prop :=
  text ≠ [] ∧ ∀ c ∈ text, (kind c).isSome

/-- A well-formed Chinese integer. -/
inductive DenotesInteger : List Char → ℕ → Prop
  | digits {text : List Char} (h : RunOf digit? text) :
      DenotesInteger text (ofDigits (text.filterMap digit?))
  | units (numeral : UnitNumeral) : DenotesInteger numeral.spell numeral.value

/-- A text behind which a fraction may stand. -/
def withFraction (point : Char) (whole : List Char) : Option (List Char) → List Char
  | none => whole
  | some fraction => whole ++ point :: fraction

/-- The number that the digits behind a point denote. -/
def fractionValue (kind : Char → Option ℕ) (fraction : Option (List Char)) : ℚ :=
  let digits := (fraction.getD []).filterMap kind
  ofDigits digits / 10 ^ digits.length

/-- A well-formed numeral and the number it denotes.  All digits and units of it count. -/
inductive Denotes : List Char → ℚ → Prop
  | arabic {whole : List Char} {fraction : Option (List Char)} (hwhole : RunOf decimal? whole)
      (hfraction : ∀ f ∈ fraction, RunOf decimal? f) :
      Denotes (withFraction '.' whole fraction)
        (ofDigits (whole.filterMap decimal?) + fractionValue decimal? fraction)
  | chinese {integer : List Char} {n : ℕ} {fraction : Option (List Char)}
      (hinteger : DenotesInteger integer n) (hfraction : ∀ f ∈ fraction, RunOf digit? f) :
      Denotes (withFraction '点' integer fraction) (n + fractionValue digit? fraction)

/-! ## The numerals of a command -/

/-- The command asks for an absolute distance with a number. -/
def SetNumber (command number : List Char) : Prop :=
  ∃ pattern ∈ SET_PATTERNS, pattern.fullmatch command = some (some number)

/-- The number is written in Arabic digits. -/
def Arabic (number whole : List Char) (fraction : Option (List Char)) : Prop :=
  number = withFraction '.' whole fraction ∧ RunOf decimal? whole ∧
    ∀ f ∈ fraction, RunOf decimal? f

/-- A digit or a unit. -/
def numeralValue? (c : Char) : Option ℕ := (digit? c).or (unit? c)

/-- The number is written in Chinese digits and units. -/
def Chinese (number integer : List Char) (fraction : Option (List Char)) : Prop :=
  number = withFraction '点' integer fraction ∧ RunOf numeralValue? integer ∧
    ∀ f ∈ fraction, RunOf digit? f

/-- The units of a text get smaller. -/
def Descends (text : List Char) : Prop := (text.filterMap unit?).Pairwise (· > ·)

/-- Before each unit stands a zero, and no other digit than a zero ends the text.  The digit before
the text is given. -/
def Vanishes : Option ℕ → List Char → Prop
  | before, [] => before.getD 0 = 0
  | before, c :: text =>
    match digit? c with
    | some digit => Vanishes (some digit) text
    | none => before = some 0 ∧ Vanishes none text

/-- The numerals that are read as what they denote, or not at all. -/
structure Clear (number : List Char) : Prop where
  arabic {whole : List Char} {fraction : Option (List Char)} (h : Arabic number whole fraction) :
    ofDigits (whole.filterMap decimal?) + fractionValue decimal? fraction < overflowThreshold
  digits {integer : List Char} {fraction : Option (List Char)}
    (h : Chinese number integer fraction) (hdigits : RunOf digit? integer) :
    integer.length ≤ 4300 ∧
      ofDigits (integer.filterMap digit?) + fractionValue digit? fraction < overflowThreshold
  units {integer : List Char} {fraction : Option (List Char)}
    (h : Chinese number integer fraction) (hunits : ¬ RunOf digit? integer) :
    (∃ numeral : UnitNumeral, numeral.spell = integer) ∨ ¬ Descends integer ∨
      Vanishes none integer ∧ fractionValue digit? fraction ≤ 2 ^ (-1075 : ℤ)

/-- The parser is faithful on a text. -/
structure Faithful (unicode : Unicode) (text : List Char) : Prop where
  /-- It does not raise. -/
  returns : ∃ intent, parseFollowDistanceIntent unicode text = .ok intent
  /-- An absolute distance is what the numeral denotes, rounded to a double, and positive. -/
  set {meters : ExtRat} (h : parseFollowDistanceIntent unicode text = .ok (some ⟨.set, meters⟩)) :
    ∃ number x, SetNumber (normalizeUtterance unicode text) number ∧ Denotes number x ∧
      meters = .fin (nearest x) ∧ 0 < nearest x
  /-- A relative change is asked for, in its direction. -/
  adjust {meters : ExtRat}
    (h : parseFollowDistanceIntent unicode text = .ok (some ⟨.adjust, meters⟩)) :
    FARTHER_PATTERN.Reads (normalizeUtterance unicode text) none ∧ meters = .fin 1 ∨
      CLOSER_PATTERN.Reads (normalizeUtterance unicode text) none ∧ meters = .fin (-1)

/-! ## Characters -/

lemma mem_of_lookup {l : List (Char × ℕ)} {c : Char} {n : ℕ} (h : l.lookup c = some n) :
    (c, n) ∈ l := by
  obtain ⟨before, after, rfl, -⟩ := List.lookup_eq_some_iff.mp h
  exact List.mem_append_right _ List.mem_cons_self

lemma digit_facts {c : Char} {d : ℕ} (h : digit? c = some d) :
    d ≤ 9 ∧ unit? c = none ∧ decimal? c = none ∧ c ≠ '.' ∧ c ≠ '点' ∧ c ≠ '米' := by
  have hall : ∀ entry ∈ DIGITS, entry.2 ≤ 9 ∧ unit? entry.1 = none ∧ decimal? entry.1 = none ∧
      entry.1 ≠ '.' ∧ entry.1 ≠ '点' ∧ entry.1 ≠ '米' := by decide
  exact hall _ (mem_of_lookup h)

lemma unit_facts {c : Char} {u : ℕ} (h : unit? c = some u) :
    0 < u ∧ u < 1000 ∧ digit? c = none ∧ decimal? c = none ∧ c ≠ '.' ∧ c ≠ '点' := by
  have hall : ∀ entry ∈ UNITS, 0 < entry.2 ∧ entry.2 < 1000 ∧ digit? entry.1 = none ∧
      decimal? entry.1 = none ∧ entry.1 ≠ '.' ∧ entry.1 ≠ '点' := by decide
  exact hall _ (mem_of_lookup h)

/-- A character of a Chinese integer is a digit, or a unit. -/
lemma numeral_cases {c : Char} (h : (numeralValue? c).isSome) :
    (∃ d, digit? c = some d) ∨ ∃ u, unit? c = some u ∧ digit? c = none := by
  rw [numeralValue?, Option.isSome_or, Bool.or_eq_true] at h
  rcases h with h | h
  · exact .inl (Option.isSome_iff_exists.mp h)
  · obtain ⟨u, hu⟩ := Option.isSome_iff_exists.mp h
    exact .inr ⟨u, hu, (unit_facts hu).2.2.1⟩

lemma numeral_facts {c : Char} (h : (numeralValue? c).isSome) :
    decimal? c = none ∧ c ≠ '.' ∧ c ≠ '点' := by
  rcases numeral_cases h with ⟨d, hd⟩ | ⟨u, hu, -⟩
  · obtain ⟨-, -, hdecimal, hdot, hpoint, -⟩ := digit_facts hd
    exact ⟨hdecimal, hdot, hpoint⟩
  · obtain ⟨-, -, -, hdecimal, hdot, hpoint⟩ := unit_facts hu
    exact ⟨hdecimal, hdot, hpoint⟩

lemma RunOf.numeral {text : List Char} (h : RunOf digit? text) : RunOf numeralValue? text :=
  ⟨h.1, fun c hc => by rw [numeralValue?, Option.isSome_or, h.2 c hc, Bool.true_or]⟩

/-! ## Numerals with units -/

lemma sumUnits_digit {c : Char} {d : ℕ} (h : digit? c = some d) (text : List Char) (total : ℕ)
    (pending : Option ℕ) (previousUnit : ℕ) :
    sumUnits (c :: text) total pending previousUnit =
      sumUnits text total (some d) previousUnit := by
  rw [sumUnits, h]

lemma sumUnits_unit {c : Char} {u : ℕ} (h : unit? c = some u) (text : List Char) (total : ℕ)
    (pending : Option ℕ) (previousUnit : ℕ) :
    sumUnits (c :: text) total pending previousUnit =
      if previousUnit ≤ u then none
      else sumUnits text (total + pending.getD 1 * u) none u := by
  rw [sumUnits, (unit_facts h).2.2.1]
  dsimp only
  rw [h]

lemma sumUnits_nil (total : ℕ) (pending : Option ℕ) (previousUnit : ℕ) :
    sumUnits [] total pending previousUnit = some (total + pending.getD 0) := rfl

/-- A sum is reached exactly if the units get smaller. -/
lemma sumUnits_isSome_iff {text : List Char} (htext : ∀ c ∈ text, (numeralValue? c).isSome)
    (total : ℕ) (pending : Option ℕ) (previousUnit : ℕ) :
    (sumUnits text total pending previousUnit).isSome ↔
      (previousUnit :: text.filterMap unit?).IsChain (· > ·) := by
  induction text generalizing total pending previousUnit with
  | nil => simp [sumUnits]
  | cons c text ih =>
    obtain ⟨hc, htext⟩ := List.forall_mem_cons.mp htext
    rcases numeral_cases hc with ⟨d, hd⟩ | ⟨u, hu, -⟩
    · rw [sumUnits_digit hd, ih htext, List.filterMap_cons_none (digit_facts hd).2.1]
    · rw [sumUnits_unit hu, List.filterMap_cons_some hu, List.isChain_cons_cons]
      split_ifs with hle
      · exact iff_of_false (by simp) fun h => hle.not_gt h.1
      · rw [ih htext, and_iff_right (not_le.mp hle)]

lemma sumUnits_eq_none_iff {text : List Char} (htext : ∀ c ∈ text, (numeralValue? c).isSome) :
    sumUnits text 0 none 1000 = none ↔ ¬ Descends text := by
  rw [← Option.not_isSome_iff_eq_none, sumUnits_isSome_iff htext, Descends,
    ← List.isChain_iff_pairwise, not_iff_not]
  refine ⟨List.IsChain.tail, fun h => ?_⟩
  cases hunits : text.filterMap unit? with
  | nil => exact List.isChain_singleton _
  | cons u units =>
    obtain ⟨c, -, hc⟩ := List.mem_filterMap.mp (hunits ▸ List.mem_cons_self)
    exact List.isChain_cons_cons.mpr ⟨(unit_facts hc).2.1, hunits ▸ h⟩

/-- A sum is zero exactly if only zeros count. -/
lemma sumUnits_eq_zero_iff {text : List Char} {total n : ℕ} {pending : Option ℕ}
    {previousUnit : ℕ} (htext : ∀ c ∈ text, (numeralValue? c).isSome)
    (h : sumUnits text total pending previousUnit = some n) :
    n = 0 ↔ total = 0 ∧ Vanishes pending text := by
  induction text generalizing total pending previousUnit with
  | nil =>
    obtain rfl := Option.some.inj h
    rw [Vanishes, Nat.add_eq_zero_iff]
  | cons c text ih =>
    obtain ⟨hc, htext⟩ := List.forall_mem_cons.mp htext
    rcases numeral_cases hc with ⟨d, hd⟩ | ⟨u, hu, hnone⟩
    · rw [sumUnits_digit hd] at h
      rw [ih htext h, Vanishes, hd]
    · rw [sumUnits_unit hu] at h
      split_ifs at h
      rw [ih htext h, Vanishes, hnone]
      dsimp only
      rw [Nat.add_eq_zero_iff, and_assoc]
      refine and_congr_right fun _ => and_congr_left fun _ => ?_
      cases pending with
      | none => simp [(unit_facts hu).1.ne']
      | some digit => simp [(unit_facts hu).1.ne']

lemma Digit.le_nine (digit : Digit) : digit.value ≤ 9 := (digit_facts digit.value_eq).1

/-- **A well-formed numeral is summed to what it denotes.** -/
lemma sumUnits_spell (numeral : UnitNumeral) :
    sumUnits numeral.spell 0 none 1000 = some numeral.value := by
  have hten : unit? '十' = some 10 := rfl
  have hhundred : unit? '百' = some 100 := rfl
  cases numeral with
  | tens count ones =>
    rcases count with _ | count <;> rcases ones with _ | ones <;>
      simp [UnitNumeral.spell, UnitNumeral.value, spellDigit, countOf, onesOf,
        sumUnits_unit hten, sumUnits_digit (Digit.value_eq _), sumUnits_nil]
  | hundreds count =>
    rcases count with _ | count <;>
      simp [UnitNumeral.spell, UnitNumeral.value, spellDigit, countOf,
        sumUnits_unit hhundred, sumUnits_digit (Digit.value_eq _), sumUnits_nil]
  | hundredsOnes count zero ones =>
    rcases count with _ | count <;>
      simp [UnitNumeral.spell, UnitNumeral.value, spellDigit, countOf,
        sumUnits_unit hhundred, sumUnits_digit (Digit.value_eq _),
        sumUnits_digit zero.value_eq, sumUnits_nil]
  | hundredsTens count tenCount ones =>
    rcases count with _ | count <;> rcases tenCount with _ | tenCount <;>
      rcases ones with _ | ones <;>
      simp [UnitNumeral.spell, UnitNumeral.value, spellDigit, countOf, onesOf,
        sumUnits_unit hhundred, sumUnits_unit hten, sumUnits_digit (Digit.value_eq _), sumUnits_nil]

lemma UnitNumeral.value_lt (numeral : UnitNumeral) : numeral.value < 1000 := by
  have hcount (digit : Option Digit) : countOf digit ≤ 9 := by
    cases digit with
    | none => exact (by decide : 1 ≤ 9)
    | some digit => exact digit.le_nine
  have hones (digit : Option Digit) : onesOf digit ≤ 9 := by
    cases digit with
    | none => exact Nat.zero_le 9
    | some digit => exact digit.le_nine
  cases numeral with
  | tens count ones =>
    have := hcount count
    have := hones ones
    rw [UnitNumeral.value]
    omega
  | hundreds count =>
    have := hcount count
    rw [UnitNumeral.value]
    omega
  | hundredsOnes count zero ones =>
    have := hcount count
    have := ones.le_nine
    rw [UnitNumeral.value]
    omega
  | hundredsTens count tenCount ones =>
    have := hcount count
    have := hcount tenCount
    have := hones ones
    rw [UnitNumeral.value]
    omega

lemma UnitNumeral.spell_numeral (numeral : UnitNumeral) :
    ∀ c ∈ numeral.spell, (numeralValue? c).isSome := by
  have hdigit (digit : Digit) : (numeralValue? digit.char).isSome := by
    rw [numeralValue?, digit.value_eq]
    rfl
  have hspell (digit : Option Digit) : ∀ c ∈ spellDigit digit, (numeralValue? c).isSome := by
    cases digit with
    | none => simp [spellDigit]
    | some digit => simpa [spellDigit] using hdigit digit
  have hten : (numeralValue? '十').isSome := rfl
  have hhundred : (numeralValue? '百').isSome := rfl
  intro c
  cases numeral with
  | tens count ones =>
    simp only [UnitNumeral.spell, List.mem_append, List.mem_cons]
    rintro (hc | rfl | hc)
    · exact hspell _ c hc
    · exact hten
    · exact hspell _ c hc
  | hundreds count =>
    simp only [UnitNumeral.spell, List.mem_append, List.mem_singleton]
    rintro (hc | rfl)
    · exact hspell _ c hc
    · exact hhundred
  | hundredsOnes count zero ones =>
    simp only [UnitNumeral.spell, List.mem_append, List.mem_cons, List.not_mem_nil, or_false]
    rintro (hc | rfl | rfl | rfl)
    · exact hspell _ c hc
    · exact hhundred
    · rw [numeralValue?, zero.value_eq]
      rfl
    · exact hdigit ones
  | hundredsTens count tenCount ones =>
    simp only [UnitNumeral.spell, List.mem_append, List.mem_cons]
    rintro (hc | rfl | hc | rfl | hc)
    · exact hspell _ c hc
    · exact hhundred
    · exact hspell _ c hc
    · exact hten
    · exact hspell _ c hc

/-! ## How a numeral is taken apart -/

lemma withFraction_split {kind : Char → Bool} (point : Char) {whole : List Char}
    (fraction : Option (List Char)) (hwhole : ∀ c ∈ whole, kind c = true)
    (hpoint : kind point = false) :
    (withFraction point whole fraction).takeWhile kind = whole ∧
      (withFraction point whole fraction).dropWhile kind =
        (fraction.map (point :: ·)).getD [] := by
  have hneg : ¬ kind point = true := by rw [hpoint]; exact Bool.false_ne_true
  cases fraction with
  | none => exact ⟨List.takeWhile_eq_self_iff.mpr hwhole, List.dropWhile_eq_nil_iff.mpr hwhole⟩
  | some f =>
    rw [withFraction, List.takeWhile_append_of_pos hwhole, List.dropWhile_append_of_pos hwhole,
      List.takeWhile_cons_of_neg hneg, List.dropWhile_cons_of_neg hneg, List.append_nil]
    exact ⟨rfl, rfl⟩

variable {number whole integer : List Char} {fraction : Option (List Char)}

lemma Chinese.split (h : Chinese number integer fraction) :
    number.takeWhile (· ≠ '点') = integer ∧
      number.dropWhile (· ≠ '点') = (fraction.map ('点' :: ·)).getD [] := by
  rw [h.1]
  refine withFraction_split '点' fraction (fun c hc => ?_) (by simp)
  simpa using (numeral_facts (h.2.1.2 c hc)).2.2

lemma Chinese.unique {integer' : List Char} {fraction' : Option (List Char)}
    (h : Chinese number integer fraction) (h' : number = withFraction '点' integer' fraction')
    (hnumeral : ∀ c ∈ integer', (numeralValue? c).isSome) : integer' = integer := by
  have hsplit : number.takeWhile (· ≠ '点') = integer' := by
    rw [h']
    refine (withFraction_split '点' fraction' (fun c hc => ?_) (by simp)).1
    simpa using (numeral_facts (hnumeral c hc)).2.2
  rw [← hsplit, h.split.1]

/-- The first character of a number. -/
lemma withFraction_head {kind : Char → Option ℕ} (point : Char) (hwhole : RunOf kind whole)
    (fraction : Option (List Char)) :
    ∃ c rest, withFraction point whole fraction = c :: rest ∧ (kind c).isSome := by
  obtain ⟨c, rest, rfl⟩ := List.exists_cons_of_ne_nil hwhole.1
  have hc := hwhole.2 c List.mem_cons_self
  cases fraction with
  | none => exact ⟨c, rest, rfl, hc⟩
  | some f => exact ⟨c, rest ++ point :: f, rfl, hc⟩

/-- No number is written both in Arabic and in Chinese digits. -/
lemma Chinese.not_arabic {whole : List Char} {fraction' : Option (List Char)}
    (h : Chinese number integer fraction) (hwhole : RunOf decimal? whole) :
    number ≠ withFraction '.' whole fraction' := by
  intro heq
  obtain ⟨c, rest, hnumber, hc⟩ := withFraction_head '点' h.2.1 fraction
  obtain ⟨c', rest', hnumber', hc'⟩ := withFraction_head '.' hwhole fraction'
  obtain ⟨rfl, -⟩ := List.cons.inj
    (hnumber.symm.trans (h.1.symm.trans (heq.trans hnumber')))
  rw [(numeral_facts hc).1] at hc'
  cases hc'

lemma DenotesInteger.numeral {text : List Char} {n : ℕ} (h : DenotesInteger text n) :
    ∀ c ∈ text, (numeralValue? c).isSome := by
  cases h with
  | digits h => exact h.numeral.2
  | units numeral => exact numeral.spell_numeral

/-! ## What the parser reads -/

lemma ofDigits_nil : ofDigits [] = 0 := rfl

lemma fractionValue_nonneg (kind : Char → Option ℕ) (fraction : Option (List Char)) :
    0 ≤ fractionValue kind fraction := by
  rw [fractionValue]
  positivity

lemma fractionValue_none (kind : Char → Option ℕ) : fractionValue kind none = 0 := by
  simp [fractionValue, ofDigits_nil]

lemma readFloat?_arabic (h : Arabic number whole fraction) :
    readFloat? number = some (ofRat
      (ofDigits (whole.filterMap decimal?) + fractionValue decimal? fraction)) := by
  obtain ⟨htake, hdrop⟩ := withFraction_split '.' fraction h.2.1.2 rfl
  rw [readFloat?, h.1, htake, hdrop]
  cases fraction with
  | none =>
    rw [fractionValue_none, add_zero]
    simp [h.2.1.1, literal, ofDigits_nil]
  | some f =>
    obtain ⟨hne, hall⟩ := h.2.2 f rfl
    have hdigits : (f.all fun c => (decimal? c).isSome) = true := List.all_eq_true.mpr hall
    simp [hdigits, hne, literal, fractionValue]

lemma readFloat?_chinese (h : Chinese number integer fraction) : readFloat? number = none := by
  obtain ⟨c, rest, hnumber, hc⟩ := withFraction_head '点' h.2.1 fraction
  obtain ⟨hdecimal, hdot, -⟩ := numeral_facts hc
  rw [readFloat?, h.1, hnumber]
  simp [hdecimal, hdot]

lemma parseChineseInteger_digits (h : RunOf digit? integer) :
    parseChineseInteger integer = (readInt (integer.filterMap digit?)).map some := by
  have hall : (integer.all fun c => (digit? c).isSome) = true := List.all_eq_true.mpr h.2
  have hany : (integer.any fun c => (unit? c).isSome) = false := by
    rw [List.any_eq_false]
    intro c hc
    obtain ⟨d, hd⟩ := Option.isSome_iff_exists.mp (h.2 c hc)
    simp [(digit_facts hd).2.1]
  rw [parseChineseInteger, hany, hall]
  simp [h.1]

lemma parseChineseInteger_units (h : RunOf numeralValue? integer)
    (hunits : ¬ RunOf digit? integer) :
    parseChineseInteger integer = .ok (sumUnits integer 0 none 1000) := by
  have hany : (integer.any fun c => (unit? c).isSome) = true := by
    by_contra hnone
    rw [Bool.not_eq_true, List.any_eq_false] at hnone
    refine hunits ⟨h.1, fun c hc => ?_⟩
    rcases numeral_cases (h.2 c hc) with ⟨d, hd⟩ | ⟨u, hu, -⟩
    · rw [hd]; rfl
    · exact absurd (by rw [hu]; rfl) (hnone c hc)
  rw [parseChineseInteger, hany]
  simp [h.1]

/-- An integer, with the fraction that is written behind it, as a float. -/
def amount (n : ℕ) : Option (List Char) → Except Raised ExtRat
  | none => floatOfInt n
  | some f => .ok (ofRat (n + fractionValue digit? (some f)))

/-- Only a positive value is a distance. -/
def positive? (value : ExtRat) : Option ExtRat := (some value).filter fun value => ExtRat.lt 0 value

lemma parseDistance_arabic (h : Arabic number whole fraction) :
    parseDistance number = .ok (positive? (ofRat
      (ofDigits (whole.filterMap decimal?) + fractionValue decimal? fraction))) := by
  rw [parseDistance, readFloat?_arabic h]
  rfl

lemma literal_digits (n : ℕ) (f : List Char) :
    literal (Nat.digits 10 n).reverse (f.filterMap digit?) =
      n + fractionValue digit? (some f) := by
  rw [literal, ofDigits, List.reverse_reverse, Nat.ofDigits_digits]
  rfl

section parseDistance

variable (h : Chinese number integer fraction)
include h

lemma parseDistance_of_raises {raised : Raised}
    (hparse : parseChineseInteger integer = .error raised) :
    parseDistance number = .error raised := by
  rw [parseDistance, readFloat?_chinese h]
  dsimp only
  rw [h.split.1, hparse]
  rfl

lemma parseDistance_of_none (hparse : parseChineseInteger integer = .ok none) :
    parseDistance number = .ok none := by
  rw [parseDistance, readFloat?_chinese h]
  dsimp only
  rw [h.split.1, hparse]
  rfl

lemma parseDistance_of_some {n : ℕ} (hparse : parseChineseInteger integer = .ok (some n)) :
    parseDistance number = (amount n fraction).map positive? := by
  rw [parseDistance, readFloat?_chinese h]
  dsimp only
  rw [h.split.1, h.split.2, hparse]
  cases fraction with
  | none =>
    change (some <$> floatOfInt n >>= fun value =>
      pure (value.filter fun value => ExtRat.lt 0 value)) = _
    rw [amount]
    cases floatOfInt n with
    | error raised => rfl
    | ok value => rfl
  | some f =>
    obtain ⟨hne, hall⟩ := h.2.2 f rfl
    have hcheck : (f.isEmpty || !f.all fun c => (digit? c).isSome) = false := by
      rw [List.all_eq_true.mpr hall, List.isEmpty_eq_false_iff.mpr hne]
      rfl
    change (if (f.isEmpty || !f.all fun c => (digit? c).isSome) = true then Except.ok none
      else Except.ok (positive?
        (ofRat (literal (Nat.digits 10 n).reverse (f.filterMap digit?))))) = _
    rw [hcheck, literal_digits]
    rfl

end parseDistance

/-! ## When a numeral is read as what it denotes -/

/-- A number is read without an error, and a distance that it gives is what it denotes. -/
def Sound (number : List Char) : Prop :=
  (∃ value, parseDistance number = .ok value) ∧
    ∀ meters, parseDistance number = .ok (some meters) →
      ∃ x, Denotes number x ∧ meters = .fin (nearest x) ∧ 0 < nearest x

lemma sound_of_none (h : parseDistance number = .ok none) : Sound number :=
  ⟨⟨none, h⟩, fun meters hmeters => by cases h.symm.trans hmeters⟩

lemma not_sound_of_raises {raised : Raised} (h : parseDistance number = .error raised) :
    ¬ Sound number := by
  rintro ⟨⟨value, hvalue⟩, -⟩
  cases h.symm.trans hvalue

lemma not_sound_of_inf (h : parseDistance number = .ok (some (.inf false))) : ¬ Sound number := by
  rintro ⟨-, hsound⟩
  obtain ⟨x, -, hinf, -⟩ := hsound _ h
  cases hinf

lemma positive?_fin (x : ℚ) : positive? (.fin x) = if 0 < x then some (.fin x) else none := by
  rw [positive?, Option.filter_some, ExtRat.zero_def]
  simp only [ExtRat.lt_fin]

/-- A value of a number that it denotes. -/
lemma sound_of_denotes {x : ℚ} (hdenotes : Denotes number x)
    (h : parseDistance number = .ok (positive? (.fin (nearest x)))) : Sound number := by
  rw [positive?_fin] at h
  split_ifs at h with hpos
  · refine ⟨⟨_, h⟩, fun meters hmeters => ?_⟩
    obtain rfl := Option.some.inj (Except.ok.inj (h.symm.trans hmeters))
    exact ⟨x, hdenotes, rfl, hpos⟩
  · exact sound_of_none h

lemma sound_arabic_iff (h : Arabic number whole fraction) :
    Sound number ↔
      ofDigits (whole.filterMap decimal?) + fractionValue decimal? fraction <
        overflowThreshold := by
  have hparse := parseDistance_arabic h
  have hnonneg : 0 ≤ (ofDigits (whole.filterMap decimal?) : ℚ) + fractionValue decimal? fraction :=
    add_nonneg (Nat.cast_nonneg _) (fractionValue_nonneg _ _)
  rcases lt_or_ge (ofDigits (whole.filterMap decimal?) + fractionValue decimal? fraction)
    overflowThreshold with hlt | hge
  · rw [ofRat_of_lt hnonneg hlt] at hparse
    refine iff_of_true (sound_of_denotes ?_ hparse) hlt
    rw [h.1]
    exact .arabic h.2.1 h.2.2
  · rw [ofRat_of_ge hnonneg hge] at hparse
    exact iff_of_false (not_sound_of_inf hparse) hge.not_gt

/-- An integer with its fraction as a float, where it does not overflow. -/
lemma amount_of_lt {n : ℕ} (h : (n : ℚ) + fractionValue digit? fraction < overflowThreshold) :
    amount n fraction = .ok (.fin (nearest (n + fractionValue digit? fraction))) := by
  cases fraction with
  | none =>
    rw [fractionValue_none, add_zero] at h ⊢
    rw [amount, floatOfInt, if_pos h]
  | some f =>
    rw [amount, ofRat_of_lt (add_nonneg (Nat.cast_nonneg _) (fractionValue_nonneg _ _)) h]

/-- An integer that overflows is refused, and one with a fraction is infinite. -/
lemma not_sound_of_ge (h : Chinese number integer fraction) {n : ℕ}
    (hparse : parseChineseInteger integer = .ok (some n))
    (hge : overflowThreshold ≤ (n : ℚ) + fractionValue digit? fraction) : ¬ Sound number := by
  have hdistance := parseDistance_of_some h hparse
  cases fraction with
  | none =>
    rw [fractionValue_none, add_zero] at hge
    rw [amount, floatOfInt, if_neg hge.not_gt] at hdistance
    exact not_sound_of_raises hdistance
  | some f =>
    rw [amount, ofRat_of_ge (add_nonneg (Nat.cast_nonneg _) (fractionValue_nonneg _ _)) hge]
      at hdistance
    exact not_sound_of_inf hdistance

lemma sound_digits_iff (h : Chinese number integer fraction) (hdigits : RunOf digit? integer) :
    Sound number ↔ integer.length ≤ 4300 ∧
      ofDigits (integer.filterMap digit?) + fractionValue digit? fraction <
        overflowThreshold := by
  have hlength : (integer.filterMap digit?).length = integer.length := by
    rw [List.length_filterMap_eq_countP, List.countP_eq_length]
    exact hdigits.2
  have hparse := parseChineseInteger_digits hdigits
  rcases lt_or_ge 4300 integer.length with hlong | hshort
  · rw [readInt, hlength, if_pos hlong] at hparse
    exact iff_of_false (not_sound_of_raises (parseDistance_of_raises h hparse))
      fun hle => hlong.not_ge hle.1
  rw [readInt, hlength, if_neg hshort.not_gt] at hparse
  rcases lt_or_ge (ofDigits (integer.filterMap digit?) + fractionValue digit? fraction)
    overflowThreshold with hlt | hge
  · refine iff_of_true (sound_of_denotes
      (x := ofDigits (integer.filterMap digit?) + fractionValue digit? fraction) ?_ ?_)
      ⟨hshort, hlt⟩
    · rw [h.1]
      exact .chinese (.digits hdigits) h.2.2
    · rw [parseDistance_of_some h hparse, amount_of_lt hlt]
      rfl
  · exact iff_of_false (not_sound_of_ge h hparse hge) fun hle => hge.not_gt hle.2

lemma thousand_le_overflowThreshold : 1001 ≤ overflowThreshold := by
  have hone : (1 : ℚ) ≤ 2 ^ 970 := one_le_pow₀ one_le_two
  rw [overflowThreshold, show 1024 = 970 + 54 from rfl, pow_add]
  generalize (2 : ℚ) ^ 970 = a at *
  linarith

lemma fractionValue_lt_one (fraction : Option (List Char)) : fractionValue digit? fraction < 1 := by
  rw [fractionValue, div_lt_one (by positivity)]
  refine mod_cast Nat.ofDigits_lt_base_pow_length (by norm_num) (fun d hd => ?_) |>.trans_eq ?_
  · obtain ⟨c, -, hc⟩ := List.mem_filterMap.mp (List.mem_reverse.mp hd)
    exact Nat.lt_succ_of_le (digit_facts hc).1
  · rw [List.length_reverse]

/-- With units, what the number denotes is what a numeral with units denotes. -/
lemma Chinese.units_of_denotes (h : Chinese number integer fraction)
    (hunits : ¬ RunOf digit? integer) {x : ℚ} (hdenotes : Denotes number x) :
    ∃ numeral : UnitNumeral, numeral.spell = integer := by
  generalize hnumber : number = denoted at hdenotes
  cases hdenotes with
  | arabic hwhole hfraction => exact absurd hnumber (h.not_arabic hwhole)
  | chinese hinteger hfraction =>
    obtain rfl := h.unique hnumber hinteger.numeral
    cases hinteger with
    | digits hrun => exact absurd hrun hunits
    | units numeral => exact ⟨numeral, rfl⟩

lemma sound_units_iff (h : Chinese number integer fraction) (hunits : ¬ RunOf digit? integer) :
    Sound number ↔ (∃ numeral : UnitNumeral, numeral.spell = integer) ∨ ¬ Descends integer ∨
      Vanishes none integer ∧ fractionValue digit? fraction ≤ 2 ^ (-1075 : ℤ) := by
  have hparse := parseChineseInteger_units h.2.1 hunits
  have hnonneg := fractionValue_nonneg digit? fraction
  constructor
  · rintro ⟨⟨value, hvalue⟩, hsound⟩
    by_contra hcon
    push Not at hcon
    obtain ⟨hspell, hdescends, hcounts⟩ := hcon
    -- the units get smaller, so that a sum is reached
    cases hsum : sumUnits integer 0 none 1000 with
    | none => exact (sumUnits_eq_none_iff h.2.1.2).mp hsum hdescends
    | some n =>
      rw [hsum] at hparse
      rcases lt_or_ge ((n : ℚ) + fractionValue digit? fraction) overflowThreshold with hlt | hge
      · -- something counts, so that a distance is read
        have hpos : 0 < nearest (n + fractionValue digit? fraction) := by
          rw [nearest_pos_iff (add_nonneg (Nat.cast_nonneg _) hnonneg)]
          rcases Nat.eq_zero_or_pos n with rfl | hn
          · rw [Nat.cast_zero, zero_add]
            exact hcounts ((sumUnits_eq_zero_iff h.2.1.2 hsum).mp rfl).2
          · have hone : (1 : ℚ) ≤ n := by exact_mod_cast hn
            have hsmall : (2 : ℚ) ^ (-1075 : ℤ) < 1 := zpow_lt_one_of_neg₀ one_lt_two (by norm_num)
            linarith
        have hdistance := parseDistance_of_some h hparse
        rw [amount_of_lt hlt, Except.map, positive?_fin, if_pos hpos] at hdistance
        obtain ⟨x, hdenotes, -⟩ := hsound _ hdistance
        obtain ⟨numeral, hnumeral⟩ := h.units_of_denotes hunits hdenotes
        exact hspell numeral hnumeral
      · exact not_sound_of_ge h hparse hge ⟨⟨value, hvalue⟩, hsound⟩
  · rintro (⟨numeral, rfl⟩ | hdescends | ⟨hvanishes, htiny⟩)
    · rw [sumUnits_spell] at hparse
      have hlt : (numeral.value : ℚ) + fractionValue digit? fraction < overflowThreshold := by
        have hvalue : (numeral.value : ℚ) < 1000 := by exact_mod_cast numeral.value_lt
        linarith [fractionValue_lt_one fraction, thousand_le_overflowThreshold]
      refine sound_of_denotes (x := numeral.value + fractionValue digit? fraction) ?_ ?_
      · rw [h.1]
        exact .chinese (.units numeral) h.2.2
      · rw [parseDistance_of_some h hparse, amount_of_lt hlt]
        rfl
    · rw [(sumUnits_eq_none_iff h.2.1.2).mpr hdescends] at hparse
      exact sound_of_none (parseDistance_of_none h hparse)
    · cases hsum : sumUnits integer 0 none 1000 with
      | none =>
        rw [hsum] at hparse
        exact sound_of_none (parseDistance_of_none h hparse)
      | some n =>
        rw [hsum] at hparse
        obtain rfl := (sumUnits_eq_zero_iff h.2.1.2 hsum).mpr ⟨rfl, hvanishes⟩
        have hlt : ((0 : ℕ) : ℚ) + fractionValue digit? fraction < overflowThreshold := by
          rw [Nat.cast_zero, zero_add]
          linarith [fractionValue_lt_one fraction, thousand_le_overflowThreshold]
        have hdistance := parseDistance_of_some h hparse
        rw [amount_of_lt hlt, Except.map, positive?_fin, if_neg] at hdistance
        · exact sound_of_none hdistance
        · rw [nearest_pos_iff (add_nonneg (Nat.cast_nonneg _) hnonneg), Nat.cast_zero, zero_add]
          exact htiny.not_gt

/-! ## The number that a command is matched with -/

/-- `_NUMBER` reads the numerals in Arabic digits and the ones in Chinese digits and units. -/
lemma number_reads {t : List Char} {c : Option (List Char)} (h : NUMBER.Reads t c) :
    (∃ whole fraction, Arabic t whole fraction) ∨
      ∃ integer fraction, Chinese t integer fraction := by
  rcases Pattern.reads_either_iff.mp h with h | h
  all_goals
    obtain ⟨u, v, b, d, hu, hv, rfl, -⟩ := Pattern.reads_seq_iff.mp h
    obtain ⟨hne, hall, -⟩ := Pattern.reads_run_iff.mp hu
    rcases Pattern.reads_optional_iff.mp hv with hv | ⟨rfl, -⟩
  · obtain ⟨_, f, _, _, hpoint, hf, rfl, -⟩ := Pattern.reads_seq_iff.mp hv
    obtain ⟨rfl, -⟩ := Pattern.reads_word_iff.mp hpoint
    obtain ⟨hfne, hfall, -⟩ := Pattern.reads_run_iff.mp hf
    refine .inl ⟨u, some f, rfl, ⟨hne, hall⟩, fun g hg => ?_⟩
    obtain rfl := Option.some.inj hg
    exact ⟨hfne, hfall⟩
  · refine .inl ⟨u, none, List.append_nil u, ⟨hne, hall⟩, fun g hg => by cases hg⟩
  · obtain ⟨_, f, _, _, hpoint, hf, rfl, -⟩ := Pattern.reads_seq_iff.mp hv
    obtain ⟨rfl, -⟩ := Pattern.reads_word_iff.mp hpoint
    obtain ⟨hfne, hfall, -⟩ := Pattern.reads_run_iff.mp hf
    refine .inr ⟨u, some f, rfl, ⟨hne, fun x hx => ?_⟩, fun g hg => ?_⟩
    · rw [numeralValue?, Option.isSome_or]
      exact hall x hx
    · obtain rfl := Option.some.inj hg
      exact ⟨hfne, hfall⟩
  · refine .inr ⟨u, none, List.append_nil u, ⟨hne, fun x hx => ?_⟩, fun g hg => by cases hg⟩
    rw [numeralValue?, Option.isSome_or]
    exact hall x hx

/-- A character that numbers are written with. -/
def isNumeric (c : Char) : Bool :=
  (decimal? c).isSome || (numeralValue? c).isSome || c = '.' || c = '点'

lemma number_isNumeric {t : List Char} {c : Option (List Char)} (h : NUMBER.Reads t c) :
    ∀ x ∈ t, isNumeric x = true := by
  rcases number_reads h with ⟨whole, fraction, rfl, hwhole, hfraction⟩ |
    ⟨integer, fraction, rfl, hinteger, hfraction⟩
  · have hdecimal (x : Char) (hx : (decimal? x).isSome) : isNumeric x = true := by
      simp [isNumeric, hx]
    cases fraction with
    | none => exact fun x hx => hdecimal x (hwhole.2 x hx)
    | some f =>
      rw [withFraction, List.forall_mem_append, List.forall_mem_cons]
      exact ⟨fun x hx => hdecimal x (hwhole.2 x hx), by simp [isNumeric],
        fun x hx => hdecimal x ((hfraction f rfl).2 x hx)⟩
  · have hnumeral (x : Char) (hx : (numeralValue? x).isSome) : isNumeric x = true := by
      simp [isNumeric, hx]
    cases fraction with
    | none => exact fun x hx => hnumeral x (hinteger.2 x hx)
    | some f =>
      rw [withFraction, List.forall_mem_append, List.forall_mem_cons]
      exact ⟨fun x hx => hnumeral x (hinteger.2 x hx), by simp [isNumeric],
        fun x hx => hnumeral x ((hfraction f rfl).numeral.2 x hx)⟩

/-- The number that a command is matched with consists of its characters for numbers. -/
lemma caught_of_set {pattern : Pattern Char} (hpattern : pattern ∈ SET_PATTERNS)
    {command : List Char} {c : Option (List Char)} (h : pattern.Reads command c) :
    c = some (command.filter isNumeric) ∧ ∃ b, NUMBER.Reads (command.filter isNumeric) b := by
  have hall : ∀ pattern ∈ SET_PATTERNS, ∃ opening closing, pattern = setPattern opening closing ∧
      opening.avoids isNumeric = true ∧ closing.avoids isNumeric = true := by
    simp only [SET_PATTERNS, List.forall_mem_cons, List.not_mem_nil, IsEmpty.forall_iff,
      implies_true, and_true]
    exact ⟨⟨_, _, rfl, by decide +kernel, by decide +kernel⟩,
      ⟨_, _, rfl, by decide +kernel, by decide +kernel⟩,
      ⟨_, _, rfl, by decide +kernel, by decide +kernel⟩⟩
  obtain ⟨opening, closing, rfl, hopening, hclosing⟩ := hall pattern hpattern
  exact Pattern.caught_of_avoids h hopening hclosing fun u b hu => number_isNumeric hu

/-- A command for an absolute distance names its unit. -/
lemma metre_of_set {pattern : Pattern Char} (hpattern : pattern ∈ SET_PATTERNS)
    {command : List Char} {c : Option (List Char)} (h : pattern.Reads command c) :
    '米' ∈ command := by
  have hclosing {opening rest : Pattern Char} {t : List Char} {c : Option (List Char)}
      (h : (setPattern opening (.seq (.word ['米']) rest)).Reads t c) : '米' ∈ t := by
    obtain ⟨_, _, _, _, -, hw, rfl, -⟩ := Pattern.reads_seq_iff.mp h
    obtain ⟨_, _, _, _, -, hv, rfl, -⟩ := Pattern.reads_seq_iff.mp hw
    obtain ⟨_, _, _, _, hword, -, rfl, -⟩ := Pattern.reads_seq_iff.mp hv
    obtain ⟨rfl, -⟩ := Pattern.reads_word_iff.mp hword
    simp
  simp only [SET_PATTERNS, List.mem_cons, List.not_mem_nil, or_false] at hpattern
  rcases hpattern with rfl | rfl | rfl
  · obtain ⟨_, _, _, _, -, hw, rfl, -⟩ := Pattern.reads_seq_iff.mp h
    obtain ⟨_, _, _, _, -, hword, rfl, -⟩ := Pattern.reads_seq_iff.mp hw
    obtain ⟨rfl, -⟩ := Pattern.reads_word_iff.mp hword
    simp
  · exact hclosing h
  · exact hclosing h

/-- A command for a relative change names no unit, and nothing is caught. -/
lemma no_metre {p : Pattern Char} (hp : p.avoids (· = '米') = true)
    {command : List Char} {c : Option (List Char)} (h : p.Reads command c) :
    '米' ∉ command ∧ c = none := by
  obtain ⟨hfilter, hnone⟩ := h.of_avoids hp
  exact ⟨fun hmem => by simpa using List.filter_eq_nil_iff.mp hfilter _ hmem, hnone⟩

/-! ## The parser -/

/-- A numeral that a pattern matched is clear exactly if it is read as what it denotes. -/
theorem clear_iff_sound {b : Option (List Char)} (h : NUMBER.Reads number b) :
    Clear number ↔ Sound number := by
  rcases number_reads h with ⟨whole, fraction, h⟩ | ⟨integer, fraction, h⟩
  · rw [sound_arabic_iff h]
    refine ⟨fun hclear => hclear.arabic h, fun hlt => ⟨fun h' => ?_, fun h' => ?_, fun h' => ?_⟩⟩
    · rw [← sound_arabic_iff h', sound_arabic_iff h]
      exact hlt
    · exact absurd h.1 (h'.not_arabic h.2.1)
    · exact absurd h.1 (h'.not_arabic h.2.1)
  · constructor
    · intro hclear
      by_cases hdigits : RunOf digit? integer
      · exact (sound_digits_iff h hdigits).mpr (hclear.digits h hdigits)
      · exact (sound_units_iff h hdigits).mpr (hclear.units h hdigits)
    · intro hsound
      exact ⟨fun h' => absurd h'.1 (h.not_arabic h'.2.1),
        fun h' hdigits => (sound_digits_iff h' hdigits).mp hsound,
        fun h' hunits => (sound_units_iff h' hunits).mp hsound⟩

/-- The loop over the patterns gives the distance of the one number that they can match. -/
lemma parseSet_eq {command : List Char} {patterns : List (Pattern Char)} {number : List Char}
    (h : ∀ pattern ∈ patterns, ∀ c, pattern.fullmatch command = some c → c = some number) :
    parseSet command patterns =
      if ∃ pattern ∈ patterns, (pattern.fullmatch command).isSome then
        (parseDistance number).map (·.map (⟨.set, ·⟩))
      else .ok none := by
  induction patterns with
  | nil => simp [parseSet]
  | cons pattern patterns ih =>
    obtain ⟨hpattern, hpatterns⟩ := List.forall_mem_cons.mp h
    have ih := ih hpatterns
    rw [parseSet]
    cases hmatch : pattern.fullmatch command with
    | none =>
      simp only [ih, List.exists_mem_cons_iff, hmatch, Option.isSome_none, Bool.false_eq_true,
        false_or]
    | some c =>
      obtain rfl := hpattern c hmatch
      rw [if_pos ⟨pattern, List.mem_cons_self, by rw [hmatch]; rfl⟩]
      dsimp only [Option.getD_some]
      cases hdistance : parseDistance number with
      | error raised => rfl
      | ok value =>
        cases value with
        | some meters => rfl
        | none =>
          change parseSet command patterns = .ok none
          rw [ih, hdistance]
          split_ifs <;> rfl

lemma fullmatch_of_set {pattern : Pattern Char} (hpattern : pattern ∈ SET_PATTERNS)
    {command : List Char} {c : Option (List Char)} (h : pattern.fullmatch command = some c) :
    c = some (command.filter isNumeric) :=
  (caught_of_set hpattern (Pattern.reads_of_fullmatch h)).1

/-- A command for a relative change is none for an absolute distance. -/
lemma not_setNumber_of_avoids {p : Pattern Char} (hp : p.avoids (· = '米') = true)
    {command : List Char} (h : (p.fullmatch command).isSome) (number : List Char) :
    ¬ SetNumber command number := by
  rintro ⟨pattern, hpattern, hmatch⟩
  obtain ⟨c, hreads⟩ := Pattern.fullmatch_isSome_iff.mp h
  exact (no_metre hp hreads).1 (metre_of_set hpattern (Pattern.reads_of_fullmatch hmatch))

/-- The one number of a command for an absolute distance. -/
lemma setNumber_iff {command number : List Char} :
    SetNumber command number ↔
      number = command.filter isNumeric ∧
        ∃ pattern ∈ SET_PATTERNS, (pattern.fullmatch command).isSome := by
  constructor
  · rintro ⟨pattern, hpattern, hmatch⟩
    refine ⟨Option.some.inj (fullmatch_of_set hpattern hmatch), pattern, hpattern, ?_⟩
    rw [hmatch]
    rfl
  · rintro ⟨rfl, pattern, hpattern, hmatch⟩
    obtain ⟨c, hc⟩ := Option.isSome_iff_exists.mp hmatch
    exact ⟨pattern, hpattern, by rw [hc, fullmatch_of_set hpattern hc]⟩

lemma SetNumber.reads {command number : List Char} (h : SetNumber command number) :
    ∃ b, NUMBER.Reads number b := by
  obtain ⟨rfl, pattern, hpattern, hmatch⟩ := setNumber_iff.mp h
  obtain ⟨c, hreads⟩ := Pattern.fullmatch_isSome_iff.mp hmatch
  exact (caught_of_set hpattern hreads).2

section relative

variable {unicode : Unicode} {text : List Char}

lemma parse_farther
    (h : (FARTHER_PATTERN.fullmatch (normalizeUtterance unicode text)).isSome = true) :
    parseFollowDistanceIntent unicode text =
      .ok (some ⟨.adjust, .fin DEFAULT_DISTANCE_STEP_M⟩) := by
  rw [parseFollowDistanceIntent]
  exact if_pos h

lemma parse_closer
    (hfarther : ¬ (FARTHER_PATTERN.fullmatch (normalizeUtterance unicode text)).isSome = true)
    (h : (CLOSER_PATTERN.fullmatch (normalizeUtterance unicode text)).isSome = true) :
    parseFollowDistanceIntent unicode text =
      .ok (some ⟨.adjust, .fin (-DEFAULT_DISTANCE_STEP_M)⟩) := by
  rw [parseFollowDistanceIntent]
  exact (if_neg hfarther).trans (if_pos h)

/-- A change that is asked for, with its sign, is faithful. -/
lemma faithful_of_adjust {p : Pattern Char} {step : ExtRat} (hp : p.avoids (· = '米') = true)
    (hmatch : (p.fullmatch (normalizeUtterance unicode text)).isSome = true)
    (hparse : parseFollowDistanceIntent unicode text = .ok (some ⟨.adjust, step⟩))
    (hstep : p = FARTHER_PATTERN ∧ step = .fin 1 ∨ p = CLOSER_PATTERN ∧ step = .fin (-1)) :
    Faithful unicode text := by
  refine ⟨⟨_, hparse⟩, fun h => ?_, fun h => ?_⟩
  · cases hparse.symm.trans h
  · cases hparse.symm.trans h
    obtain ⟨c, hreads⟩ := Pattern.fullmatch_isSome_iff.mp hmatch
    obtain rfl := (no_metre hp hreads).2
    rcases hstep with ⟨rfl, hstep⟩ | ⟨rfl, hstep⟩
    · exact .inl ⟨hreads, hstep⟩
    · exact .inr ⟨hreads, hstep⟩

end relative

/-- Where a number is read, the parser is faithful exactly if it is read as what it denotes. -/
lemma faithful_iff_sound {unicode : Unicode} {text number : List Char}
    (hnumber : SetNumber (normalizeUtterance unicode text) number)
    (hparse : parseFollowDistanceIntent unicode text =
      (parseDistance number).map (·.map (⟨.set, ·⟩))) :
    Faithful unicode text ↔ Sound number := by
  constructor
  · intro hfaithful
    constructor
    · obtain ⟨intent, hintent⟩ := hfaithful.returns
      rw [hparse] at hintent
      cases hdistance : parseDistance number with
      | ok value => exact ⟨value, rfl⟩
      | error raised =>
        rw [hdistance] at hintent
        cases hintent
    · intro meters hmeters
      rw [hmeters] at hparse
      obtain ⟨number', x, hset, hdenotes, heq, hpos⟩ := hfaithful.set hparse
      rw [(setNumber_iff.mp hset).1, ← (setNumber_iff.mp hnumber).1] at hdenotes
      exact ⟨x, hdenotes, heq, hpos⟩
  · rintro ⟨⟨value, hvalue⟩, hsound⟩
    rw [hvalue] at hparse
    refine ⟨⟨_, hparse⟩, fun h => ?_, fun h => ?_⟩
    · cases value with
      | none => cases hparse.symm.trans h
      | some meters =>
        cases hparse.symm.trans h
        obtain ⟨x, hdenotes, heq, hpos⟩ := hsound _ hvalue
        exact ⟨_, x, hnumber, hdenotes, heq, hpos⟩
    · cases value with
      | none => cases hparse.symm.trans h
      | some meters => cases hparse.symm.trans h

/-- **When follow distances are parsed faithfully.**  For every text and all tables of Unicode, the
parser does not raise, sets a distance only to the double nearest to what a well-formed numeral
denotes, a positive one, and adjusts it only where one of the two relative changes is asked for, in
its direction: exactly if the number that the command for an absolute distance has is clear.  In
Arabic digits, and in Chinese digits that are read one by one, it must not overflow, and of the
latter no more than 4300 may stand before the point.  With units it must be well formed, unless it
is refused: its units do not get smaller, or nothing in it counts. -/
theorem followDistance_faithful_iff (unicode : Unicode) (text : List Char) :
    Faithful unicode text ↔
      ∀ number, SetNumber (normalizeUtterance unicode text) number → Clear number := by
  have hfartherWords : FARTHER_PATTERN.avoids (· = '米') = true := by decide
  have hcloserWords : CLOSER_PATTERN.avoids (· = '米') = true := by decide
  by_cases hfarther : (FARTHER_PATTERN.fullmatch (normalizeUtterance unicode text)).isSome = true
  · refine iff_of_true (faithful_of_adjust hfartherWords hfarther (parse_farther hfarther)
      (.inl ⟨rfl, rfl⟩)) fun number hnumber => ?_
    exact absurd hnumber (not_setNumber_of_avoids hfartherWords hfarther number)
  by_cases hcloser : (CLOSER_PATTERN.fullmatch (normalizeUtterance unicode text)).isSome = true
  · refine iff_of_true (faithful_of_adjust hcloserWords hcloser (parse_closer hfarther hcloser)
      (.inr ⟨rfl, rfl⟩)) fun number hnumber => ?_
    exact absurd hnumber (not_setNumber_of_avoids hcloserWords hcloser number)
  set command := normalizeUtterance unicode text with hcommand
  have hparse : parseFollowDistanceIntent unicode text = parseSet command SET_PATTERNS := by
    rw [parseFollowDistanceIntent]
    exact (if_neg hfarther).trans (if_neg hcloser)
  rw [parseSet_eq fun pattern hpattern c hmatch => fullmatch_of_set hpattern hmatch] at hparse
  by_cases hset : ∃ pattern ∈ SET_PATTERNS, (pattern.fullmatch command).isSome = true
  · -- the command has the one number that consists of its characters for numbers
    have hnumber : SetNumber command (command.filter isNumeric) := setNumber_iff.mpr ⟨rfl, hset⟩
    obtain ⟨b, hreads⟩ := hnumber.reads
    rw [if_pos hset] at hparse
    have hclear : (∀ number, SetNumber command number → Clear number) ↔
        Sound (command.filter isNumeric) := by
      rw [← clear_iff_sound hreads]
      exact ⟨fun hall => hall _ hnumber, fun hclear number h => (setNumber_iff.mp h).1 ▸ hclear⟩
    rw [hclear]
    exact faithful_iff_sound hnumber hparse
  · rw [if_neg hset] at hparse
    refine iff_of_true ⟨⟨none, hparse⟩, fun h => ?_, fun h => ?_⟩ fun number hnumber => ?_
    · cases hparse.symm.trans h
    · cases hparse.symm.trans h
    · exact absurd (setNumber_iff.mp hnumber).2 hset

/-- Of two digits in a row the first is forgotten. -/
example : parseDistance ['三', '五', '十'] = .ok (some (.fin 50)) := by decide +kernel

end UnitreeGo2.SemanticIntentRouter
