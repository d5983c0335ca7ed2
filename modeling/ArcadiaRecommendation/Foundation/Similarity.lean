import Mathlib.Algebra.Order.BigOperators.Ring.Finset
import Mathlib.Algebra.Order.Field.Basic
import Mathlib.Tactic.FieldSimp
import Mathlib.Tactic.Linarith
import Mathlib.Tactic.Ring

/-! Cosine similarity over an ordered field: a dot product divided by two norms, which is zero
where a norm is. -/
namespace ArcadiaRecommendation
namespace Similarity
variable {I R : Type} [Field R] [LinearOrder R] [IsStrictOrderedRing R] (places : Finset I)

def dot (left right : I → R) : R := ∑ place ∈ places, left place * right place

def moved (left right : I → R) (weight : R) (place : I) : R := left place + right place * weight

structure IsNorm (vector : I → R) (norm : R) : Prop where
  nonneg : 0 ≤ norm
  square : norm * norm = dot places vector vector

def quotient (left right : I → R) (leftNorm rightNorm : R) : R := dot places left right / (leftNorm * rightNorm)

omit [LinearOrder R] [IsStrictOrderedRing R] in
theorem dot_comm (left right : I → R) : dot places left right = dot places right left := by
  unfold dot
  exact Finset.sum_congr rfl fun place _ => mul_comm _ _

omit [LinearOrder R] [IsStrictOrderedRing R] in
theorem dot_scaled (left right : I → R) (factor : R) :
    dot places (fun place => left place * factor) right = dot places left right * factor := by
  unfold dot
  rw [Finset.sum_mul]
  exact Finset.sum_congr rfl fun place _ => by ring

omit [LinearOrder R] [IsStrictOrderedRing R] in
theorem dot_moved (left right other : I → R) (weight : R) : dot places (moved left right weight) other =
    dot places left other + weight * dot places right other := by
  unfold dot moved
  rw [Finset.mul_sum,← Finset.sum_add_distrib]
  exact Finset.sum_congr rfl fun place _ => by ring

omit [LinearOrder R] [IsStrictOrderedRing R] in
theorem square_moved (left right : I → R) (weight : R) :
    dot places (moved left right weight) (moved left right weight) =
      dot places left left + 2 * weight * dot places left right + weight * weight * dot places right right := by
  rw [dot_moved,dot_comm places left,dot_comm places right,dot_moved,dot_moved,dot_comm places right left]
  ring

theorem cauchy (left right : I → R) : dot places left right * dot places left right ≤
    dot places left left * dot places right right := by
  have squares := Finset.sum_mul_sq_le_sq_mul_sq places left right
  unfold dot
  simpa only [pow_two] using squares

variable {places} {left right : I → R} {leftNorm rightNorm : R}

theorem IsNorm.unique {vector : I → R} {first second : R} (one : IsNorm places vector first)
    (two : IsNorm places vector second) : first = second :=
  (mul_self_inj one.nonneg two.nonneg).mp (one.square.trans two.square.symm)

theorem IsNorm.scaled {vector : I → R} {norm factor : R} (known : IsNorm places vector norm) (positive : 0 ≤ factor) :
    IsNorm places (fun place => vector place * factor) (norm * factor) where
  nonneg := mul_nonneg known.nonneg positive
  square := by
    rw [dot_scaled,dot_comm,dot_scaled,← known.square]
    ring

omit [LinearOrder R] [IsStrictOrderedRing R] in
theorem quotient_comm : quotient places left right leftNorm rightNorm =
    quotient places right left rightNorm leftNorm := by
  unfold quotient
  rw [dot_comm,mul_comm leftNorm]

omit [IsStrictOrderedRing R] in
theorem quotient_scaled {factor : R} (positive : 0 < factor) :
    quotient places (fun place => left place * factor) right (leftNorm * factor) rightNorm =
      quotient places left right leftNorm rightNorm := by
  unfold quotient
  rw [dot_scaled,mul_right_comm]
  exact mul_div_mul_right _ _ (ne_of_gt positive)

section
variable (leftKnown : IsNorm places left leftNorm) (rightKnown : IsNorm places right rightNorm)
include leftKnown rightKnown

theorem dot_bounds : -(leftNorm * rightNorm) ≤ dot places left right ∧ dot places left right ≤ leftNorm * rightNorm := by
  apply abs_le_of_sq_le_sq'
  · have bound := cauchy places left right
    rw [← leftKnown.square,← rightKnown.square] at bound
    calc dot places left right ^ 2 = dot places left right * dot places left right := pow_two _
      _ ≤ leftNorm * leftNorm * (rightNorm * rightNorm) := bound
      _ = (leftNorm * rightNorm) ^ 2 := by ring
  · exact mul_nonneg leftKnown.nonneg rightKnown.nonneg

theorem quotient_pos_iff : 0 < quotient places left right leftNorm rightNorm ↔ 0 < dot places left right := by
  have nonneg := mul_nonneg leftKnown.nonneg rightKnown.nonneg
  unfold quotient
  constructor
  · intro positive
    by_contra behind
    exact absurd (div_nonpos_of_nonpos_of_nonneg (not_lt.mp behind) nonneg) (not_le.mpr positive)
  · intro ahead
    exact div_pos ahead (lt_of_lt_of_le ahead (dot_bounds leftKnown rightKnown).2)

theorem quotient_bounds : -1 ≤ quotient places left right leftNorm rightNorm ∧
    quotient places left right leftNorm rightNorm ≤ 1 := by
  obtain ⟨low,high⟩ := dot_bounds leftKnown rightKnown
  have nonneg := mul_nonneg leftKnown.nonneg rightKnown.nonneg
  rcases nonneg.lt_or_eq with positive | zero
  · unfold quotient
    rw [le_div_iff₀ positive,div_le_one positive]
    exact ⟨by linarith,high⟩
  · unfold quotient
    rw [← zero,div_zero]
    exact ⟨by linarith,by linarith⟩

/-- The Cauchy inequality carries it: the slope of the quotient has the sign of the gap. -/
theorem moved_dot_le {weight movedNorm : R} (forward : 0 ≤ weight)
    (movedKnown : IsNorm places (moved left right weight) movedNorm) :
    dot places left right * movedNorm ≤ dot places (moved left right weight) right * leftNorm := by
  have gap := cauchy places left right
  have nonneg : 0 ≤ dot places right right := by
    rw [← rightKnown.square]
    exact mul_self_nonneg rightNorm
  have after := movedKnown.square
  rw [square_moved,← leftKnown.square] at after
  rw [← leftKnown.square] at gap
  rw [dot_moved]
  generalize dot places left right = across at *
  generalize dot places right right = along at *
  have far : 0 ≤ weight * along := mul_nonneg forward nonneg
  have difference : (across + weight * along) * leftNorm * ((across + weight * along) * leftNorm) -
      across * movedNorm * (across * movedNorm) =
        weight * (2 * across + weight * along) * (leftNorm * leftNorm * along - across * across) := by
    have moved : across * movedNorm * (across * movedNorm) = across * across * (movedNorm * movedNorm) := by ring
    rw [moved,after]
    ring
  rcases le_or_gt 0 across with ahead | behind
  · apply nonneg_le_nonneg_of_sq_le_sq
    · exact mul_nonneg (add_nonneg ahead far) leftKnown.nonneg
    · have slope : 0 ≤ weight * (2 * across + weight * along) := mul_nonneg forward (by linarith)
      have product := mul_nonneg slope (sub_nonneg.mpr gap)
      linarith
  · rcases le_or_gt 0 (across + weight * along) with passed | short
    · have low : across * movedNorm ≤ 0 := mul_nonpos_of_nonpos_of_nonneg behind.le movedKnown.nonneg
      have high : 0 ≤ (across + weight * along) * leftNorm := mul_nonneg passed leftKnown.nonneg
      linarith
    · have flipped : -((across + weight * along) * leftNorm) ≤ -(across * movedNorm) := by
        apply nonneg_le_nonneg_of_sq_le_sq
        · have low := mul_nonpos_of_nonpos_of_nonneg behind.le movedKnown.nonneg
          linarith
        · have slope : weight * (2 * across + weight * along) ≤ 0 :=
            mul_nonpos_of_nonneg_of_nonpos forward (by linarith)
          have product := mul_nonpos_of_nonpos_of_nonneg slope (sub_nonneg.mpr gap)
          linarith
      linarith

theorem quotient_mono {weight movedNorm : R} (forward : 0 ≤ weight)
    (movedKnown : IsNorm places (moved left right weight) movedNorm) :
    quotient places left right leftNorm rightNorm ≤
      quotient places (moved left right weight) right movedNorm rightNorm := by
  have crossed := moved_dot_le leftKnown rightKnown forward movedKnown
  have along : 0 ≤ weight * dot places right right := by
    rw [← rightKnown.square]
    exact mul_nonneg forward (mul_self_nonneg rightNorm)
  have from_zero := dot_bounds leftKnown rightKnown
  have to_zero := dot_bounds movedKnown rightKnown
  unfold quotient
  rcases rightKnown.nonneg.lt_or_eq with right_positive | right_zero
  · rcases leftKnown.nonneg.lt_or_eq with left_positive | left_zero
    · rcases movedKnown.nonneg.lt_or_eq with moved_positive | moved_zero
      · rw [div_le_div_iff₀ (mul_pos left_positive right_positive) (mul_pos moved_positive right_positive)]
        calc dot places left right * (movedNorm * rightNorm)
            = dot places left right * movedNorm * rightNorm := by ring
          _ ≤ dot places (moved left right weight) right * leftNorm * rightNorm :=
              mul_le_mul_of_nonneg_right crossed right_positive.le
          _ = dot places (moved left right weight) right * (leftNorm * rightNorm) := by ring
      · -- the sum cancels, so the vector pointed the other way
        rw [← moved_zero,zero_mul,neg_zero] at to_zero
        rw [dot_moved] at to_zero
        rw [← moved_zero,zero_mul,div_zero]
        exact div_nonpos_of_nonpos_of_nonneg (by linarith) (mul_pos left_positive right_positive).le
    · rw [← left_zero,zero_mul,neg_zero] at from_zero
      rw [← left_zero,zero_mul,div_zero,dot_moved]
      exact div_nonneg (by linarith) (mul_nonneg movedKnown.nonneg right_positive.le)
  · rw [← right_zero,mul_zero,mul_zero,div_zero,div_zero]

theorem quotient_anti {weight movedNorm : R} (backward : weight ≤ 0)
    (movedKnown : IsNorm places (moved left right weight) movedNorm) :
    quotient places (moved left right weight) right movedNorm rightNorm ≤
      quotient places left right leftNorm rightNorm := by
  have back : moved (moved left right weight) right (-weight) = left := by
    funext place
    unfold moved
    ring
  have returned : IsNorm places (moved (moved left right weight) right (-weight)) leftNorm := by
    rw [back]
    exact leftKnown
  have forward := quotient_mono movedKnown rightKnown (neg_nonneg.mpr backward) returned
  rwa [back] at forward

end
end Similarity
end ArcadiaRecommendation
