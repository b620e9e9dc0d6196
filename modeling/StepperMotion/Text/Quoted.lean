import StepperMotion.Text.Legible

/-!
# Quoted text

The form in which reports give a name: between quotes, with a backslash before quotes and
backslashes, with short escapes for the common controls, and with the code point in braces for
every other character that is not legible.
-/

namespace StepperMotion.Text

/-- The characters that stand for `c` between quotes. -/
def quotedChar (c : Char) : List Char :=
  match c with
  | '\x00' => ['\\', '0']
  | '\t' => ['\\', 't']
  | '\r' => ['\\', 'r']
  | '\n' => ['\\', 'n']
  | '\\' => ['\\', '\\']
  | '"' => ['\\', '"']
  | c =>
    if isLegible c then [c]
    else ['\\', 'u', '\x7b'] ++ Nat.toDigits 16 c.toNat ++ ['\x7d']

def quoted (s : String) : String :=
  String.ofList ('"' :: s.toList.flatMap quotedChar ++ ['"'])

end StepperMotion.Text
