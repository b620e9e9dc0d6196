import StepperMotion.Numeric.Rounding

/-!
# Numerals

A JSON number as it is written: a sign, a whole part, perhaps a fraction, perhaps an exponent.
Two questions are asked of it. Is it an integer, written as one? And can it be held in double
precision? The second is answered the way a reader does that keeps the digits that fit into 64
bits, drops the others, and scales the result by a power of ten.
-/

namespace StepperMotion

/-- A number as written in JSON. -/
structure Numeral where
  negative : Bool
  /-- The digits before the point. -/
  whole : Nat
  /-- The digits after the point, if there is one. -/
  fraction : Option (List Nat) := none
  /-- The power of ten, if one is given. -/
  exponent : Option Int := none
deriving DecidableEq, Repr

namespace Numeral

def ofInt (x : Int) : Numeral := { negative := decide (x < 0), whole := x.natAbs }

/-- The integer that is written; a fraction, an exponent or a negative zero is none. -/
def toInt? (n : Numeral) : Option Int :=
  match n.fraction, n.exponent with
  | none, none =>
    if n.negative then if n.whole = 0 then none else some (-n.whole) else some n.whole
  | _, _ => none

/-! ## Size -/

/-- The decimal digits of a number, the most significant one first. -/
def decimalDigits (n : Nat) : List Nat :=
  (Nat.toDigits 10 n).map fun c => c.toNat - '0'.toNat

/-- Appends digits to a significand for as long as it stays below `2 ^ 64`, and counts those that
are left over. -/
def absorb (significand : Nat) : List Nat → Nat × Nat
  | [] => (significand, 0)
  | d :: ds =>
    if significand * 10 + d < Nat.pow 2 64 then absorb (significand * 10 + d) ds
    else (significand, ds.length + 1)

/-- The significand that is kept, and the power of ten that the digits give it. -/
def scaled (n : Numeral) : Nat × Int :=
  let (s, skipped) := absorb 0 (decimalDigits n.whole)
  let fraction := n.fraction.getD []
  let (s, unused) := absorb s fraction
  (s, (skipped : Int) - ((fraction.length : Int) - (unused : Int)))

/-- The largest power of ten in double precision. -/
abbrev maxPower : Nat := 308

/-- From here on a magnitude is rounded to infinity in double precision. -/
abbrev infinityThreshold : Nat := Nat.pow 2 1024 - Nat.pow 2 970

/-- The number can be held in double precision; one that is too small counts as zero. -/
def isFinite (n : Numeral) : Bool :=
  let (s, e) := n.scaled
  let power := n.exponent.getD 0
  if 2147483647 < power.natAbs then s == 0 || decide (power < 0)
  else
    let e := e + power
    if s = 0 ∨ e < 0 then true
    else if maxPower < e.toNat then false
    else decide (roundToBits 53 s * roundToBits 53 (Nat.pow 10 e.toNat) < infinityThreshold)

end Numeral

end StepperMotion
