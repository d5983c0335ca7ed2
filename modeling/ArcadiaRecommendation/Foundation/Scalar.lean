import Mathlib.Algebra.Order.Field.Rat
import Mathlib.Data.Rat.Sqrt
import Mathlib.Data.Rat.Cast.Defs

/-! The arithmetic of floating point code: the operations it calls, and no law.
`ExactScalar` adds those of an ordered field, for statements in exact arithmetic. -/
namespace ArcadiaRecommendation

class Scalar (R : Type) extends Zero R, Add R, Mul R, Div R where
  literal : ℚ → R
  /-- The builtin `sum`, which may compensate for rounding. -/
  sum : List R → R
  sqrt : R → R
  /-- `round(value, 6)` -/
  round6 : R → R
  isZero : R → Bool
  less : R → R → Bool

/-- A comparison that is a strict weak order, as that of floats is when no NaN occurs. -/
class OrderedScalar (R : Type) extends Scalar R where
  less_asymm : ∀ left right : R, less left right = true → less right left = false
  less_between : ∀ left middle right : R, less left right = true → less left middle = true ∨ less middle right = true

class ExactScalar (R : Type) extends Field R, LinearOrder R, IsStrictOrderedRing R, Scalar R where
  literal_cast : ∀ value : ℚ, literal value = (value : R)
  sum_exact : ∀ values : List R, sum values = values.sum
  isZero_iff : ∀ value : R, isZero value = true ↔ value = 0
  less_iff : ∀ left right : R, less left right = true ↔ left < right

instance {R : Type} [ExactScalar R] : OrderedScalar R where
  __ := (inferInstance : Scalar R)
  less_asymm left right below := by
    apply Bool.eq_false_of_not_eq_true
    intro above
    exact lt_asymm ((ExactScalar.less_iff left right).mp below) ((ExactScalar.less_iff right left).mp above)
  less_between left middle right below := by
    have apart : left < right := (ExactScalar.less_iff left right).mp below
    rcases lt_or_ge left middle with first | first
    · exact .inl ((ExactScalar.less_iff left middle).mpr first)
    · exact .inr ((ExactScalar.less_iff middle right).mpr (lt_of_le_of_lt first apart))

namespace ExactScalar
variable {R : Type} [ExactScalar R]

theorem literal_eq (value : ℚ) : (Scalar.literal value : R) = (value : R) := literal_cast value

theorem literal_int (value : Int) : (Scalar.literal (value : ℚ) : R) = (value : R) :=
  (literal_eq _).trans (Rat.cast_intCast value)

theorem sum_eq (values : List R) : Scalar.sum values = values.sum := sum_exact values

theorem isZero_eq (value : R) : Scalar.isZero value = true ↔ value = 0 := isZero_iff value

theorem less_eq (left right : R) : Scalar.less left right = true ↔ left < right := less_iff left right

theorem not_less (left right : R) : Scalar.less left right = false ↔ right ≤ left := by
  rw [← Bool.not_eq_true,less_eq,not_lt]

end ExactScalar

/-- Exact real arithmetic: every number that is not negative has its square root. -/
class RealScalar (R : Type) extends ExactScalar R where
  root_nonneg : ∀ value : R, 0 ≤ sqrt value
  root_square : ∀ value : R, 0 ≤ value → sqrt value * sqrt value = value

namespace RealScalar
variable {R : Type} [RealScalar R]

theorem sqrt_nonneg (value : R) : 0 ≤ Scalar.sqrt value := root_nonneg value

theorem sqrt_square (value : R) (nonneg : 0 ≤ value) : Scalar.sqrt value * Scalar.sqrt value = value :=
  root_square value nonneg

end RealScalar

/-- Rationals, with a square root that is exact on the squares of rationals. -/
instance : ExactScalar ℚ where
  __ := (inferInstance : Field ℚ)
  __ := (inferInstance : LinearOrder ℚ)
  __ := (inferInstance : IsStrictOrderedRing ℚ)
  literal := id
  sum := List.sum
  sqrt := Rat.sqrt
  round6 := fun value => value
  isZero := fun value => decide (value = 0)
  less := fun left right => decide (left < right)
  literal_cast := fun _ => rfl
  sum_exact := fun _ => rfl
  isZero_iff := fun _ => decide_eq_true_iff
  less_iff := fun _ _ => decide_eq_true_iff

end ArcadiaRecommendation
