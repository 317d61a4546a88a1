import UnitreeGo2.Lib.Binary64
import UnitreeGo2.Lib.Pattern
import UnitreeGo2.Lib.PyText
import Mathlib.Data.Nat.Digits.Defs

/-!
# Follow distances

The intents for the distance kept to the followed person
(`semantic_intent_router/follow_distance.py`): the normalised utterance is matched against the
phrases of a relative change and of an absolute distance, and the numeral of an absolute distance
is read in Arabic or in Chinese digits.

A text is the list of its characters.  NFKC and case folding are the tables of the interpreter's
Unicode version: the model takes them as they come.
-/

namespace UnitreeGo2.SemanticIntentRouter

open Binary64

/-- The tables of Unicode that an utterance is normalised with. -/
structure Unicode where
  nfkc : List Char → List Char
  casefold : List Char → List Char

/-- An error of the interpreter that leaves the parser. -/
inductive Raised where
  | valueError
  | overflowError
  deriving DecidableEq

def DEFAULT_DISTANCE_STEP_M : ℚ := 1

/-! ## Digits and units -/

def DIGITS : List (Char × ℕ) :=
  [('零', 0), ('〇', 0), ('一', 1), ('二', 2), ('两', 2), ('三', 3), ('四', 4), ('五', 5), ('六', 6),
    ('七', 7), ('八', 8), ('九', 9)]

def UNITS : List (Char × ℕ) := [('十', 10), ('百', 100)]

def digit? (c : Char) : Option ℕ := DIGITS.lookup c

def unit? (c : Char) : Option ℕ := UNITS.lookup c

/-- The zeros of the decimal digits of Unicode, each followed by the other nine. -/
def DECIMAL_ZEROS : List ℕ :=
  [0x30, 0x660, 0x6f0, 0x7c0, 0x966, 0x9e6, 0xa66, 0xae6, 0xb66, 0xbe6, 0xc66, 0xce6, 0xd66, 0xde6,
    0xe50, 0xed0, 0xf20, 0x1040, 0x1090, 0x17e0, 0x1810, 0x1946, 0x19d0, 0x1a80, 0x1a90, 0x1b50,
    0x1bb0, 0x1c40, 0x1c50, 0xa620, 0xa8d0, 0xa900, 0xa9d0, 0xa9f0, 0xaa50, 0xabf0, 0xff10,
    0x104a0, 0x10d30, 0x11066, 0x110f0, 0x11136, 0x111d0, 0x112f0, 0x11450, 0x114d0, 0x11650,
    0x116c0, 0x11730, 0x118e0, 0x11950, 0x11c50, 0x11d50, 0x11da0, 0x16a60, 0x16ac0, 0x16b50,
    0x1d7ce, 0x1d7d8, 0x1d7e2, 0x1d7ec, 0x1d7f6, 0x1e140, 0x1e2f0, 0x1e950, 0x1fbf0]

/-- The value of a decimal digit, as `\d` and `float` take it. -/
def decimal? (c : Char) : Option ℕ :=
  DECIMAL_ZEROS.findSome? fun base =>
    if base ≤ c.toNat ∧ c.toNat < base + 10 then some (c.toNat - base) else none

/-! ## Patterns -/

/-- `_NUMBER`. -/
def NUMBER : Pattern Char :=
  .either
    (.seq (.run fun c => (decimal? c).isSome)
      (Pattern.optional (.seq (.word ['.']) (.run fun c => (decimal? c).isSome))))
    (.seq (.run fun c => (digit? c).isSome || (unit? c).isSome)
      (Pattern.optional (.seq (.word ['点']) (.run fun c => (digit? c).isSome))))

/-- `_TRAILING_PUNCTUATION`. -/
def TRAILING_PUNCTUATION : List Char := " ,，。.!！?？、;；:：'\"“”‘’".toList

/-- A pattern for an absolute distance: its number between an opening and a closing. -/
def setPattern (opening closing : Pattern Char) : Pattern Char :=
  .seq opening (.seq (.group NUMBER) closing)

/-- `_SET_PATTERNS`. -/
def SET_PATTERNS : List (Pattern Char) :=
  [setPattern
    (.seq (.optional (.word ['请'])) (.seq (.optional (.word ['把']))
      (.seq (.optional (.word ['跟', '随'])) (.seq (.word ['距', '离'])
        (.oneOf ['设', '为'] [['设', '置', '为'], ['设', '定', '为'], ['调', '到'],
          ['调', '整', '到']])))))
    (.word ['米']),
  setPattern
    (.seq (.optional (.word ['请']))
      (.oneOf ['保', '持'] [['固', '定'], ['设', '为'], ['设', '置', '为'], ['设', '定', '为']]))
    (.seq (.word ['米']) (.seq (.optional (.word ['的']))
      (.seq (.optional (.word ['跟', '随'])) (.optional (.word ['距', '离']))))),
  setPattern
    (.seq (.optional (.word ['请'])) (.seq (.oneOf ['跟', '我'] [['离', '我']])
      (.word ['保', '持'])))
    (.seq (.word ['米']) (.seq (.optional (.word ['的'])) (.word ['距', '离'])))]

/-- `_FARTHER_PATTERN`. -/
def FARTHER_PATTERN : Pattern Char :=
  .seq (.optional (.word ['请'])) (.seq (.optional (.word ['再']))
    (.seq (.word ['离', '我', '远']) (.seq (.optional (.word ['一']))
      (.seq (.word ['点']) (.optional (.word ['儿']))))))

/-- `_CLOSER_PATTERN`. -/
def CLOSER_PATTERN : Pattern Char :=
  .seq (.optional (.word ['请'])) (.seq (.optional (.word ['再']))
    (.seq (.oneOf ['靠', '近', '我'] [['向', '我', '靠', '近'], ['靠', '我', '近'], ['靠', '近']])
      (.seq (.optional (.word ['一'])) (.seq (.word ['点']) (.optional (.word ['儿']))))))

/-! ## Intents -/

inductive Operation where
  | set
  | adjust
  deriving DecidableEq

/-- One absolute setpoint or relative setpoint adjustment. -/
structure FollowDistanceIntent where
  operation : Operation
  meters : ExtRat
  deriving DecidableEq

def normalizeUtterance (unicode : Unicode) (text : List Char) : List Char :=
  let normalized := unicode.casefold (unicode.nfkc text)
  let normalized := normalized.filter (!PyText.isSpace ·)
  PyText.strip (TRAILING_PUNCTUATION.contains ·) normalized

/-! ## Numerals -/

/-- The number that decimal digits denote, the most significant first. -/
def ofDigits (digits : List ℕ) : ℕ := Nat.ofDigits 10 digits.reverse

/-- `int` of a text of decimal digits: the interpreter reads at most 4300. -/
def readInt (digits : List ℕ) : Except Raised ℕ :=
  if 4300 < digits.length then .error .valueError else .ok (ofDigits digits)

/-- The number that the digits of a decimal literal denote. -/
def literal (whole fraction : List ℕ) : ℚ :=
  ofDigits whole + ofDigits fraction / 10 ^ fraction.length

/-- `float` of a text, `none` for its `ValueError`.  Of the literals that `float` takes these are
the ones of digits with at most one point: signs, exponents, underscores and the names of infinity
and NaN are in no text that `_NUMBER` matches. -/
def readFloat? (text : List Char) : Option ExtRat :=
  let whole := text.takeWhile fun c => (decimal? c).isSome
  match text.dropWhile fun c => (decimal? c).isSome with
  | [] => if whole = [] then none else some (ofRat (literal (whole.filterMap decimal?) []))
  | point :: fraction =>
    if point = '.' ∧ (fraction.all fun c => (decimal? c).isSome) ∧ ¬ (whole = [] ∧ fraction = [])
    then some (ofRat (literal (whole.filterMap decimal?) (fraction.filterMap decimal?)))
    else none

/-- `float` of an integer. -/
def floatOfInt (n : ℕ) : Except Raised ExtRat :=
  if (n : ℚ) < overflowThreshold then .ok (.fin (nearest n)) else .error .overflowError

/-- The loop of `_parse_chinese_integer`. -/
def sumUnits : List Char → ℕ → Option ℕ → ℕ → Option ℕ
  | [], total, pending, _ => some (total + pending.getD 0)
  | character :: text, total, pending, previousUnit =>
    match digit? character with
    | some digit => sumUnits text total (some digit) previousUnit
    | none =>
      match unit? character with
      | none => none
      | some unit =>
        if previousUnit ≤ unit then none
        else sumUnits text (total + pending.getD 1 * unit) none unit

def parseChineseInteger (text : List Char) : Except Raised (Option ℕ) :=
  if text.isEmpty then .ok none
  else if !text.any fun c => (unit? c).isSome then
    if !text.all fun c => (digit? c).isSome then .ok none
    else (readInt (text.filterMap digit?)).map some
  else .ok (sumUnits text 0 none 1000)

/-- A text with a decimal point reads as the number of its digits, also where the digits of the
whole part are those of an integer that was read before. -/
def parseDistance (text : List Char) : Except Raised (Option ExtRat) := do
  let value ← match readFloat? text with
    | some value => pure (some value)
    | none => do
      let integerText := text.takeWhile (· ≠ '点')
      match ← parseChineseInteger integerText with
      | none => pure none
      | some integer =>
        match text.dropWhile (· ≠ '点') with
        | _ :: decimalText =>
          if decimalText.isEmpty || !decimalText.all fun c => (digit? c).isSome then pure none
          else
            pure (some (ofRat (literal (Nat.digits 10 integer).reverse
              (decimalText.filterMap digit?))))
        | [] => some <$> floatOfInt integer
  pure (value.filter fun value => ExtRat.lt 0 value)

/-! ## The parser -/

/-- The loop over the patterns of an absolute distance. -/
def parseSet (command : List Char) :
    List (Pattern Char) → Except Raised (Option FollowDistanceIntent)
  | [] => .ok none
  | pattern :: patterns =>
    match pattern.fullmatch command with
    | none => parseSet command patterns
    | some number => do
      match ← parseDistance (number.getD []) with
      | some meters => return some ⟨.set, meters⟩
      | none => parseSet command patterns

def parseFollowDistanceIntent (unicode : Unicode) (text : List Char) :
    Except Raised (Option FollowDistanceIntent) :=
  let command := normalizeUtterance unicode text
  if (FARTHER_PATTERN.fullmatch command).isSome then
    .ok (some ⟨.adjust, .fin DEFAULT_DISTANCE_STEP_M⟩)
  else if (CLOSER_PATTERN.fullmatch command).isSome then
    .ok (some ⟨.adjust, .fin (-DEFAULT_DISTANCE_STEP_M)⟩)
  else parseSet command SET_PATTERNS

end UnitreeGo2.SemanticIntentRouter
