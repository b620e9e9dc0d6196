import StepperMotion.Json.Token

/-!
# Reading a document

The tokens of a text are taken one after the other by a machine that remembers which brackets are
open and what it has read inside each. Reading is a left fold over the tokens, so documents may
nest as deep as they like. A comma must be followed by an element or a member, and nothing may
follow the document.
-/

namespace StepperMotion.Json

/-- A bracket that is open, with what was read behind it, newest first. -/
inductive Frame where
  | array (elements : List Json)
  /-- An object, and the name of the member that is due. -/
  | object (members : List (Option String × Json)) (key : Option String)

/-- What the next token has to be. -/
inductive Reader where
  | value (frames : List Frame)
  /-- The first element of an array, or its end. -/
  | firstElement (frames : List Frame)
  /-- A comma or the end of an array. -/
  | afterElement (elements : List Json) (frames : List Frame)
  /-- The first name in an object, or its end. -/
  | firstKey (frames : List Frame)
  /-- A name in an object. -/
  | key (members : List (Option String × Json)) (frames : List Frame)
  /-- The colon behind a name. -/
  | colon (members : List (Option String × Json)) (key : Option String) (frames : List Frame)
  /-- A comma or the end of an object. -/
  | afterMember (members : List (Option String × Json)) (frames : List Frame)
  /-- Nothing: the document is complete. -/
  | done (v : Json)

namespace Reader

/-- Hands a value to the innermost open bracket. -/
def deliver (v : Json) : List Frame → Reader
  | [] => done v
  | .array vs :: frames => afterElement (v :: vs) frames
  | .object ms k :: frames => afterMember ((k, v) :: ms) frames

/-- Takes a token where a value is due. -/
def takeValue (frames : List Frame) : Token → Option Reader
  | .openArray => some (firstElement frames)
  | .openObject => some (firstKey frames)
  | .null => some (deliver .null frames)
  | .bool b => some (deliver (.bool b) frames)
  | .number n => some (deliver (.number n) frames)
  | .string s => some (deliver (.string s) frames)
  | _ => none

def step : Reader → Token → Option Reader
  | value frames, t => takeValue frames t
  | firstElement frames, .closeArray => some (deliver (.array []) frames)
  | firstElement frames, t => takeValue (.array [] :: frames) t
  | afterElement vs frames, .comma => some (value (.array vs :: frames))
  | afterElement vs frames, .closeArray => some (deliver (.array vs.reverse) frames)
  | firstKey frames, .closeObject => some (deliver (.object []) frames)
  | firstKey frames, .string k => some (colon [] k frames)
  | key ms frames, .string k => some (colon ms k frames)
  | colon ms k frames, .colon => some (value (.object ms k :: frames))
  | afterMember ms frames, .comma => some (key ms frames)
  | afterMember ms frames, .closeObject => some (deliver (.object ms.reverse) frames)
  | _, _ => none

end Reader

/-- The document that tokens form. -/
def ofTokens? (ts : List Token) : Option Json :=
  match ts.foldlM Reader.step (.value []) with
  | some (.done v) => some v
  | _ => none

/-- The document that a text holds. -/
def parse? (s : String) : Option Json := (Token.scan s.toList).bind ofTokens?

end StepperMotion.Json
