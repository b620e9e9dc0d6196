import StepperMotion.Json.Numeral

/-!
# JSON documents

A document as its text gives it. Nothing is lost that a reader of records may still ask about:
numbers are kept as numerals, members in their order and with their repetitions. A string can name
half of a surrogate pair by an escape; no text holds such a thing, so the string is then kept as
`none`. Whether that matters is for the reader of the document to say.
-/

namespace StepperMotion

/-- A JSON document. -/
inductive Json where
  | null
  | bool (b : Bool)
  | number (n : Numeral)
  /-- A string; `none` if it is no text. -/
  | string (s : Option String)
  | array (elements : List Json)
  /-- Named documents, in the order of the text. -/
  | object (members : List (Option String × Json))
deriving Repr

namespace Json

def int (x : Int) : Json := number (.ofInt x)

def text (s : String) : Json := string (some s)

def record (fields : List (String × Json)) : Json :=
  object (fields.map fun (k, v) => (some k, v))

mutual

/-- The document nests less than `limit` deep, its strings are texts and its numbers finite. -/
def isPlain (limit : Nat) : Json → Bool
  | null => true
  | bool _ => true
  | number n => n.isFinite
  | string s => s.isSome
  | array vs => match limit with
    | 0 | 1 => false
    | limit + 1 => allPlain limit vs
  | object ms => match limit with
    | 0 | 1 => false
    | limit + 1 => membersPlain limit ms

/-- All documents of a list are plain. -/
def allPlain (limit : Nat) : List Json → Bool
  | [] => true
  | v :: vs => isPlain limit v && allPlain limit vs

/-- All members of an object are plain. -/
def membersPlain (limit : Nat) : List (Option String × Json) → Bool
  | [] => true
  | (k, v) :: ms => k.isSome && isPlain limit v && membersPlain limit ms

end

end Json

end StepperMotion
