/-!
# Rounding to a number of significant bits

A binary floating-point format of precision `p` holds the integers whose binary form has at most
`p` bits between its first and its last one. `roundToBits p n` is the number of that kind nearest
to `n`; of two that are equally near it is the one whose last kept bit is zero.

The range of exponents plays no part here: the quantities rounded in this library are far from
the largest and the smallest number of their format.
-/

namespace StepperMotion

/-- The multiple of `2 ^ k` nearest to `n`, divided by `2 ^ k`; a tie goes to the even one. -/
def roundShift (n k : Nat) : Nat :=
  let unit := Nat.pow 2 k
  let q := n / unit
  let r := n % unit
  if unit < 2 * r ∨ (2 * r = unit ∧ q % 2 = 1) then q + 1 else q

/-- How many low bits of `n` do not fit into `p` significant bits. -/
def excessBits (p n : Nat) : Nat := n.log2 + 1 - p

/-- The number with at most `p` significant bits that is nearest to `n`, ties to even. -/
def roundToBits (p n : Nat) : Nat :=
  roundShift n (excessBits p n) * Nat.pow 2 (excessBits p n)

end StepperMotion
