import StepperMotion.Json.Basic

/-!
# Writing a document

The compact form: no blanks, members in their order. In a string only what has to be escaped is
escaped: quotes, backslashes and the characters below the blank.
-/

namespace StepperMotion.Json

/-- The hexadecimal digit of a number below 16. -/
def hexDigit (n : Nat) : Char := Char.ofNat (if n < 10 then n + 48 else n + 87)

/-- The characters that stand for `c` in a string literal. -/
def escaped (c : Char) : List Char :=
  match c with
  | '"' => ['\\', '"']
  | '\\' => ['\\', '\\']
  | '\x08' => ['\\', 'b']
  | '\x0c' => ['\\', 'f']
  | '\n' => ['\\', 'n']
  | '\r' => ['\\', 'r']
  | '\t' => ['\\', 't']
  | c =>
    if c.toNat < 0x20 then ['\\', 'u', '0', '0', hexDigit (c.toNat / 16), hexDigit (c.toNat % 16)]
    else [c]

def quoted (s : String) : String :=
  String.ofList ('"' :: s.toList.flatMap escaped ++ ['"'])

/-- The literal of a string; one that is no text is written as half of a surrogate pair. -/
def renderString : Option String → String
  | some s => quoted s
  | none => "\"\\ud800\""

def renderNumeral (n : Numeral) : String :=
  let sign := if n.negative then "-" else ""
  let fraction := match n.fraction with
    | some ds => "." ++ String.join (ds.map toString)
    | none => ""
  let exponent := match n.exponent with
    | some e => "e" ++ toString e
    | none => ""
  sign ++ toString n.whole ++ fraction ++ exponent

mutual

def render : Json → String
  | null => "null"
  | bool b => if b then "true" else "false"
  | number n => renderNumeral n
  | string s => renderString s
  | array vs => "[" ++ ",".intercalate (renderAll vs) ++ "]"
  | object ms => "\x7b" ++ ",".intercalate (renderMembers ms) ++ "\x7d"

def renderAll : List Json → List String
  | [] => []
  | v :: vs => render v :: renderAll vs

def renderMembers : List (Option String × Json) → List String
  | [] => []
  | (k, v) :: ms => (renderString k ++ ":" ++ render v) :: renderMembers ms

end

end StepperMotion.Json
