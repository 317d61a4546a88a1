import UnitreeGo2.Lib.PyText
import UnitreeGo2.Lib.PyValue

/-!
# JSON documents in a text

A decoder reads the documents of a text.  The documents may hold further documents as strings, so
a walk over the values decodes what looks like one.  It comes to an end because a document is at
least as long as the value it is decoded to.
-/

namespace PyValue

/-! ## Weight -/

mutual

/-- The number of characters that a document of the value has at least. -/
def weight : PyValue → ℕ
  | .str s => s.length + 1
  | .list items => weightList items + 1
  | .dict items => weightDict items + 1
  | _ => 1

def weightList : List PyValue → ℕ
  | [] => 0
  | item :: items => weight item + weightList items

def weightDict : List (String × PyValue) → ℕ
  | [] => 0
  | item :: items => weightItem item + weightDict items

def weightItem : String × PyValue → ℕ
  | (_, value) => weight value

end

lemma weight_lt_of_mem_list {value : PyValue} {items : List PyValue} (h : value ∈ items) :
    value.weight < (PyValue.list items).weight := by
  have hle : value.weight ≤ weightList items := by
    induction items with
    | nil => cases h
    | cons item items ih =>
      rw [weightList]
      rcases List.mem_cons.mp h with rfl | h
      · omega
      · have := ih h
        omega
  rw [weight]
  omega

lemma weight_lt_of_mem_dict {item : String × PyValue} {items : List (String × PyValue)}
    (h : item ∈ items) : item.2.weight < (PyValue.dict items).weight := by
  have hle : item.2.weight ≤ weightDict items := by
    induction items with
    | nil => cases h
    | cons first items ih =>
      rw [weightDict]
      rcases List.mem_cons.mp h with rfl | h
      · rw [weightItem]
        omega
      · have := ih h
        omega
  rw [weight]
  omega

end PyValue

/-- A decoder of JSON documents. -/
structure JsonDecoder where
  /-- `json.loads(text)`, unless the text is no document. -/
  loads : String → Option PyValue
  /-- `raw_decode(text)`: the document at the start of a text and its length, if there is one. -/
  rawDecode : List Char → Option (PyValue × ℕ)
  /-- A document is at least as long as its value. -/
  weight_le : ∀ text value, loads text = some value → value.weight ≤ text.length

namespace JsonDecoder

variable (json : JsonDecoder)

/-- The documents in a text.  A document is looked for at every bracket, and behind a document
that was found, whose remaining characters are passed over. -/
def values : ℕ → List Char → List PyValue
  | _, [] => []
  | passed + 1, _ :: text => values passed text
  | 0, c :: text =>
    if c = '[' ∨ c = '{' then
      match json.rawDecode (c :: text) with
      | none => values 0 text
      | some (value, consumed) => value :: values (consumed - 1) text
    else values 0 text

/-- A string that looks like a document stands for it. -/
def expand : PyValue → PyValue
  | .str s =>
    match s.toList.dropWhile PyText.isSpace with
    | c :: _ => if c = '[' ∨ c = '{' then (json.loads s).getD (.str s) else .str s
    | [] => .str s
  | value => value

lemma weight_expand_le (value : PyValue) : (json.expand value).weight ≤ value.weight := by
  cases value with
  | str s =>
    rw [expand]
    split
    · split
      · cases hloads : json.loads s with
        | none => exact le_rfl
        | some value =>
          have := json.weight_le s value hloads
          rw [Option.getD_some, PyValue.weight]
          omega
      · exact le_rfl
    · exact le_rfl
  | _ => exact le_rfl

/-- A value and all values in it, in the order of a document.  The strings of an object are
expanded. -/
def walk : PyValue → List PyValue
  | .dict items =>
    .dict items :: items.attach.flatMap fun item => walk (json.expand item.1.2)
  | .list items => .list items :: items.attach.flatMap fun item => walk item.1
  | value => [value]
termination_by value => value.weight
decreasing_by
  · exact lt_of_le_of_lt (json.weight_expand_le _) (PyValue.weight_lt_of_mem_dict item.2)
  · exact PyValue.weight_lt_of_mem_list item.2

end JsonDecoder
