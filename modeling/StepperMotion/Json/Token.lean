import StepperMotion.Json.Basic

/-!
# The words of JSON

A text is cut into tokens: brackets, commas and colons, the three literals, numerals and strings.
Blanks between them carry no meaning. Every rule below reads its word off the front of the text
and leaves the rest, which is shorter; `Token.scan` repeats this until nothing is left.
-/

namespace StepperMotion.Json

/-- A word of a JSON text. -/
inductive Token where
  | openArray
  | closeArray
  | openObject
  | closeObject
  | comma
  | colon
  | null
  | bool (b : Bool)
  | number (n : Numeral)
  /-- A string, `none` if it is no text. -/
  | string (s : Option String)
deriving DecidableEq, Repr

namespace Token

/-- The characters that may stand between two words. -/
def isBlank (c : Char) : Bool := c = ' ' || c = '\t' || c = '\n' || c = '\r'

/-! ## Numerals -/

def digitValue (c : Char) : Nat := c.toNat - '0'.toNat

/-- The number that digits stand for, the most significant one first. -/
def ofDigits (ds : List Nat) : Nat := ds.foldl (fun n d => n * 10 + d) 0

/-- The longest run of digits, and the rest. -/
def digits (s : List Char) : List Nat × List Char :=
  ((s.takeWhile Char.isDigit).map digitValue, s.dropWhile Char.isDigit)

/-- A whole part: digits, of which the first is zero only if it is alone. -/
def whole? (s : List Char) : Option (Nat × List Char) :=
  match digits s with
  | ([], _) => none
  | (0 :: _ :: _, _) => none
  | (ds, r) => some (ofDigits ds, r)

/-- A point and digits, or nothing. -/
def fraction? : List Char → Option (Option (List Nat) × List Char)
  | '.' :: r => match digits r with
    | ([], _) => none
    | (ds, r) => some (some ds, r)
  | r => some (none, r)

/-- The digits of an exponent. -/
def power? (negative : Bool) (s : List Char) : Option (Option Int × List Char) :=
  match digits s with
  | ([], _) => none
  | (ds, r) => some (some (if negative then -(ofDigits ds : Int) else (ofDigits ds : Int)), r)

/-- An exponent, or nothing. -/
def exponent? : List Char → Option (Option Int × List Char)
  | c :: r =>
    if c = 'e' ∨ c = 'E' then
      match r with
      | '-' :: r => power? true r
      | '+' :: r => power? false r
      | r => power? false r
    else some (none, c :: r)
  | [] => some (none, [])

/-- A numeral without its sign. -/
def unsigned? (negative : Bool) (s : List Char) : Option (Numeral × List Char) := do
  let (w, r) ← whole? s
  let (f, r) ← fraction? r
  let (e, r) ← exponent? r
  return (⟨negative, w, f, e⟩, r)

def numeral? : List Char → Option (Numeral × List Char)
  | '-' :: r => unsigned? true r
  | r => unsigned? false r

/-! ## Strings -/

/-- What one place of a string literal stands for. -/
inductive Piece where
  | char (c : Char)
  /-- A code unit of 16 bits, given by its number. -/
  | unit (n : Nat)
deriving DecidableEq, Repr

def hexValue? (c : Char) : Option Nat :=
  if c.isDigit then some (c.toNat - '0'.toNat)
  else if 'a' ≤ c ∧ c ≤ 'f' then some (c.toNat - 'a'.toNat + 10)
  else if 'A' ≤ c ∧ c ≤ 'F' then some (c.toNat - 'A'.toNat + 10)
  else none

/-- The number of four hexadecimal digits. -/
def hexUnit? (a b c d : Char) : Option Nat := do
  return (((← hexValue? a) * 16 + (← hexValue? b)) * 16 + (← hexValue? c)) * 16 + (← hexValue? d)

/-- The character that a backslash and `c` stand for. -/
def escape? (c : Char) : Option Char :=
  match c with
  | '"' => some '"'
  | '\\' => some '\\'
  | '/' => some '/'
  | 'b' => some '\x08'
  | 'f' => some '\x0c'
  | 'n' => some '\n'
  | 'r' => some '\r'
  | 't' => some '\t'
  | _ => none

/-- Reads a string literal behind its opening quote, up to and with the closing one. The pieces
come after those in `acc`, which are in reverse order. -/
def pieces? (acc : List Piece) : List Char → Option (List Piece × List Char)
  | [] => none
  | '"' :: r => some (acc.reverse, r)
  | '\\' :: 'u' :: a :: b :: c :: d :: r => match hexUnit? a b c d with
    | some n => pieces? (.unit n :: acc) r
    | none => none
  | '\\' :: e :: r => match escape? e with
    | some c => pieces? (.char c :: acc) r
    | none => none
  | c :: r => if c.toNat < 0x20 then none else pieces? (.char c :: acc) r

/-- The characters that pieces stand for: two code units that form a surrogate pair are one
character, and half of a pair is none. -/
def characters? (acc : List Char) : List Piece → Option (List Char)
  | [] => some acc.reverse
  | .char c :: r => characters? (c :: acc) r
  | .unit n :: r =>
    if n < 0xd800 ∨ 0xdfff < n then characters? (Char.ofNat n :: acc) r
    else match r with
      | .unit m :: r =>
        if n < 0xdc00 ∧ 0xdc00 ≤ m ∧ m ≤ 0xdfff then
          characters? (Char.ofNat (0x10000 + (n - 0xd800) * 0x400 + (m - 0xdc00)) :: acc) r
        else none
      | _ => none

/-- Reads a string literal behind its opening quote. -/
def string? (s : List Char) : Option (Token × List Char) :=
  match pieces? [] s with
  | some (ps, r) => some (.string ((characters? [] ps).map String.ofList), r)
  | none => none

/-! ## Tokens -/

/-- The rest of the text behind the characters `w`. -/
def behind? : List Char → List Char → Option (List Char)
  | [], s => some s
  | a :: w, c :: s => if a = c then behind? w s else none
  | _ :: _, [] => none

/-- Reads the token that starts with `c`. -/
def next? (c : Char) (r : List Char) : Option (Token × List Char) :=
  match c with
  | '[' => some (openArray, r)
  | ']' => some (closeArray, r)
  | '{' => some (openObject, r)
  | '}' => some (closeObject, r)
  | ',' => some (comma, r)
  | ':' => some (colon, r)
  | '"' => string? r
  | 'n' => (behind? ['u', 'l', 'l'] r).map (null, ·)
  | 't' => (behind? ['r', 'u', 'e'] r).map (bool true, ·)
  | 'f' => (behind? ['a', 'l', 's', 'e'] r).map (bool false, ·)
  | c => (numeral? (c :: r)).map fun (n, r) => (number n, r)

/-- Reads tokens behind those in `acc`, which are in reverse order; every token and every blank
costs one unit of fuel. -/
def scanWith (acc : List Token) : Nat → List Char → Option (List Token)
  | _, [] => some acc.reverse
  | 0, _ :: _ => none
  | fuel + 1, c :: r =>
    if isBlank c then scanWith acc fuel r
    else match next? c r with
      | some (t, r) => scanWith (t :: acc) fuel r
      | none => none

/-- The tokens of a text. No token is empty, so there are at most as many as characters. -/
def scan (s : List Char) : Option (List Token) := scanWith [] s.length s

end Token

end StepperMotion.Json
