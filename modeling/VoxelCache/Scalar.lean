/-!
# Scalars of the bucket grid

The grid rules need little arithmetic: integers as scalars, product, quotient,
comparison, the fractional part left by whole steps toward zero, and the cell
below a scalar.  They are stated for every type with these operations, so the
same rule runs on floating-point numbers and can be read in exact arithmetic.

Cell coordinates are 32-bit signed integers.  A scalar outside their range
counts as the nearest end of the range, and a scalar that is no number counts
as zero.
-/

namespace VoxelCache

section Scalar

/-- Least cell coordinate. -/
def leastCoordinate : Int := -2147483648

/-- Greatest cell coordinate. -/
def greatestCoordinate : Int := 2147483647

/-- Whether an integer is a cell coordinate. -/
def IsCoordinate (n : Int) : Prop :=
  leastCoordinate ≤ n ∧ n ≤ greatestCoordinate

instance (n : Int) : Decidable (IsCoordinate n) :=
  inferInstanceAs (Decidable (_ ∧ _))

/-- The cell coordinate nearest to an integer. -/
def clampCoordinate (n : Int) : Int :=
  max leastCoordinate (min n greatestCoordinate)

/-- Arithmetic in which the grid rules are stated. -/
class Scalar (R : Type) where
  ofInt : Int → R
  mul : R → R → R
  div : R → R → R
  isBelow : R → R → Bool
  /-- The remainder after whole steps toward zero; it has the sign of the scalar. -/
  fraction : R → R
  /-- The coordinate of the cell that holds the scalar. -/
  cell : R → Int

namespace Scalar

/-- Whole steps of a floating-point number toward zero. -/
def wholeSteps (t : Float) : Float :=
  if t < 0 then t.ceil else t.floor

instance : Scalar Float where
  ofInt := Float.ofInt
  mul := fun a b => a * b
  div := fun a b => a / b
  isBelow := fun a b => a < b
  fraction := fun t => t - wholeSteps t
  cell := fun t => t.floor.toInt32.toInt

end Scalar

theorem leastCoordinate_le_clamp (n : Int) :
    leastCoordinate ≤ clampCoordinate n := by
  unfold clampCoordinate
  omega

theorem clamp_le_greatestCoordinate (n : Int) :
    clampCoordinate n ≤ greatestCoordinate := by
  unfold clampCoordinate leastCoordinate greatestCoordinate
  omega

theorem isCoordinate_clamp (n : Int) : IsCoordinate (clampCoordinate n) :=
  ⟨leastCoordinate_le_clamp n, clamp_le_greatestCoordinate n⟩

theorem clampCoordinate_of_mem
    {n : Int}
    (hlow : leastCoordinate ≤ n)
    (hhigh : n ≤ greatestCoordinate) :
    clampCoordinate n = n := by
  unfold clampCoordinate
  omega

end Scalar

end VoxelCache
