/-!
# Integers in single precision

A single-precision number has 24 significant bits.  An integer with more bits is
rounded to the nearest one that fits, a tie to the even neighbour.  `Single.bits`
is the word of the rounded integer, `Single.round` its value.
-/

namespace VoxelCache

section Single

namespace Single

/-- Significant bits behind the leading one. -/
def fractionBits : Nat := 23

/-- Value of a bit, by its place. -/
def placeValue (place : Nat) : Nat :=
  1 <<< place

/-- A quotient by a place value, rounded to nearest, a tie to the even neighbour. -/
def shiftRounded (n place : Nat) : Nat :=
  let quotient := n / placeValue place
  let rest := n % placeValue place
  if placeValue place < 2 * rest ∨ (2 * rest = placeValue place ∧ quotient % 2 = 1) then
    quotient + 1
  else
    quotient

/-- The nearest natural number with 24 significant bits. -/
def roundNat (n : Nat) : Nat :=
  let place := n.log2 - fractionBits
  shiftRounded n place * placeValue place

/-- The nearest integer with 24 significant bits. -/
def round (n : Int) : Int :=
  n.sign * roundNat n.natAbs

/-- The word of a natural number. -/
def bitsNat (n : Nat) : Nat :=
  if n = 0 then
    0
  else
    let exponent := n.log2
    let significand :=
      shiftRounded (n * placeValue (fractionBits - exponent)) (exponent - fractionBits)
    (exponent + 126) * placeValue fractionBits + significand

/-- The word of an integer. -/
def bits (n : Int) : Nat :=
  if n < 0 then placeValue 31 + bitsNat n.natAbs else bitsNat n.natAbs

end Single

end Single

end VoxelCache
