import Mathlib.Data.List.Defs
import Mathlib.Tactic.Lemma

/-!
# Text

The operations of Python's strings that a parser uses before it looks at a text.
-/

namespace PyText

/-- `str.isspace` for one character. -/
def isSpace (c : Char) : Bool :=
  let n := c.toNat
  (0x09 ≤ n && n ≤ 0x0d) || (0x1c ≤ n && n ≤ 0x20) || n = 0x85 || n = 0xa0 || n = 0x1680 ||
    (0x2000 ≤ n && n ≤ 0x200a) || n = 0x2028 || n = 0x2029 || n = 0x202f || n = 0x205f ||
    n = 0x3000

/-- The characters of a text without those at its ends that are to be dropped. -/
def strip (drops : Char → Bool) (text : List Char) : List Char :=
  ((text.dropWhile drops).reverse.dropWhile drops).reverse

/-- `text.split(separator)` without the empty parts. -/
def parts (separator : Char) (text : List Char) : List (List Char) :=
  (text.splitOn separator).filter (!·.isEmpty)

end PyText
