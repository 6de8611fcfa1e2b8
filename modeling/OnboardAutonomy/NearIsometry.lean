import Mathlib.Algebra.Order.BigOperators.Ring.Finset
import Mathlib.Algebra.Order.Chebyshev
import Mathlib.LinearAlgebra.Matrix.DotProduct
import Mathlib.LinearAlgebra.Matrix.NonsingularInverse
import Mathlib.Tactic.Linarith
import Mathlib.Tactic.Ring

namespace NearIsometry
set_option autoImplicit true

variable {K : Type} [Field K] [LinearOrder K] [IsStrictOrderedRing K]
variable {m n : Type} [Fintype m] [Fintype n]

def lengthSq (v : n → K) : K := v ⬝ᵥ v

/-- The matrix changes the square of every length by at most the fraction `e` of it. -/
def Near (e : K) (R : Matrix m n K) : Prop :=
  ∀ v, |lengthSq (R.mulVec v) - lengthSq v| ≤ e * lengthSq v

theorem lengthSq_nonneg (v : n → K) : 0 ≤ lengthSq v :=
  Finset.sum_nonneg fun i _ => mul_self_nonneg (v i)

theorem lengthSq_eq_zero {v : n → K} : lengthSq v = 0 ↔ v = 0 := dotProduct_self_eq_zero

/-- The square of the length is convex. -/
theorem lengthSq_combo_le {a b : K} (ha : 0 ≤ a) (hb : 0 ≤ b) (hab : a + b = 1) (v w : n → K) :
    lengthSq (a • v + b • w) ≤ a * lengthSq v + b * lengthSq w := by
  rw [lengthSq, lengthSq, lengthSq, dotProduct, dotProduct, dotProduct, Finset.mul_sum,
    Finset.mul_sum, ← Finset.sum_add_distrib]
  apply Finset.sum_le_sum
  intro i _
  rw [Pi.add_apply, Pi.smul_apply, Pi.smul_apply, smul_eq_mul, smul_eq_mul]
  have hgap : a * (v i * v i) + b * (w i * w i) - (a * v i + b * w i) * (a * v i + b * w i) =
      a * b * (v i - w i) ^ 2 := by
    rw [eq_sub_of_add_eq' hab]
    ring
  have hnonneg := mul_nonneg (mul_nonneg ha hb) (sq_nonneg (v i - w i))
  linarith

theorem dotProduct_sq_le (v w : n → K) : (v ⬝ᵥ w) ^ 2 ≤ lengthSq v * lengthSq w := by
  have h := Finset.sum_mul_sq_le_sq_mul_sq Finset.univ v w
  simpa only [lengthSq, dotProduct, sq] using h

omit [LinearOrder K] [IsStrictOrderedRing K] in
theorem dotProduct_transpose (R : Matrix m n K) (v : n → K) (w : m → K) :
    w ⬝ᵥ R.mulVec v = R.transpose.mulVec w ⬝ᵥ v := by
  rw [Matrix.dotProduct_mulVec, Matrix.mulVec_transpose]

theorem sum_abs_sq_le (v : n → K) : (∑ i, |v i|) ^ 2 ≤ Fintype.card n * lengthSq v := by
  have h := sq_sum_le_card_mul_sum_sq (s := Finset.univ) (f := fun i => |v i|)
  simpa only [sq_abs, lengthSq, dotProduct, ← sq, Finset.card_univ] using h

theorem quadratic_le (M : Matrix n n K) (h : ∀ i j, |M i j| ≤ d) (v : n → K) :
    |v ⬝ᵥ M.mulVec v| ≤ Fintype.card n * d * lengthSq v := by
  by_cases hn : Nonempty n
  · obtain ⟨i⟩ := hn
    have hd : 0 ≤ d := (abs_nonneg _).trans (h i i)
    calc |v ⬝ᵥ M.mulVec v|
        = |∑ i, ∑ j, v i * (M i j * v j)| := by
          simp only [dotProduct, Matrix.mulVec, Finset.mul_sum]
      _ ≤ ∑ i, ∑ j, |v i * (M i j * v j)| :=
          (Finset.abs_sum_le_sum_abs _ _).trans
            (Finset.sum_le_sum fun i _ => Finset.abs_sum_le_sum_abs _ _)
      _ ≤ ∑ i, ∑ j, d * (|v i| * |v j|) := by
          apply Finset.sum_le_sum
          intro i _
          apply Finset.sum_le_sum
          intro j _
          rw [abs_mul, abs_mul]
          have hentry := mul_le_mul_of_nonneg_right (h i j)
            (mul_nonneg (abs_nonneg (v i)) (abs_nonneg (v j)))
          linarith
      _ = d * (∑ i, |v i|) ^ 2 := by
          simp only [← Finset.mul_sum, ← Finset.sum_mul, sq]
      _ ≤ Fintype.card n * d * lengthSq v := by
          have hsum := mul_le_mul_of_nonneg_left (sum_abs_sq_le v) hd
          linarith
  · rw [not_nonempty_iff] at hn
    simp only [dotProduct, lengthSq, Finset.univ_eq_empty, Finset.sum_empty, abs_zero, mul_zero,
      le_refl]

theorem Near.upper {R : Matrix m n K} (h : Near e R) (v : n → K) :
    lengthSq (R.mulVec v) ≤ (1 + e) * lengthSq v := by
  have hv := (abs_le.1 (h v)).2
  linarith

theorem Near.lower {R : Matrix m n K} (h : Near e R) (v : n → K) :
    (1 - e) * lengthSq v ≤ lengthSq (R.mulVec v) := by
  have hv := (abs_le.1 (h v)).1
  linarith

theorem Near.injective {R : Matrix m n K} (h : Near e R) (he : e < 1) :
    Function.Injective R.mulVec := by
  intro v w hvw
  have hzero : R.mulVec (v - w) = 0 := by rw [Matrix.mulVec_sub, hvw, sub_self]
  have hlower := h.lower (v - w)
  rw [hzero, lengthSq_eq_zero.2 rfl] at hlower
  have hlength : lengthSq (v - w) = 0 := by
    apply le_antisymm _ (lengthSq_nonneg _)
    by_contra hpos
    exact absurd hlower (not_le.2 (mul_pos (sub_pos.2 he) (not_le.1 hpos)))
  exact sub_eq_zero.1 (lengthSq_eq_zero.1 hlength)

section Square

variable [DecidableEq n]

/-- Nearly orthonormal rows make the transpose a near isometry. -/
theorem near_transpose_of_rows (R : Matrix n n K)
    (h : ∀ i j, |(R * R.transpose - 1) i j| ≤ d) : Near (Fintype.card n * d) R.transpose := by
  intro v
  have hform : lengthSq (R.transpose.mulVec v) - lengthSq v =
      v ⬝ᵥ (R * R.transpose - 1).mulVec v := by
    rw [Matrix.sub_mulVec, Matrix.one_mulVec, dotProduct_sub, ← Matrix.mulVec_mulVec,
      dotProduct_transpose]
    rfl
  rw [hform]
  exact quadratic_le _ h v

omit [DecidableEq n] in
theorem upper_of_transpose {R : Matrix n n K} (h : Near e R.transpose) (v : n → K) :
    lengthSq (R.mulVec v) ≤ (1 + e) * lengthSq v := by
  have hcs := dotProduct_sq_le (R.transpose.mulVec (R.mulVec v)) v
  rw [← dotProduct_transpose, sq] at hcs
  have hsq : lengthSq (R.mulVec v) * lengthSq (R.mulVec v) ≤
      lengthSq (R.mulVec v) * ((1 + e) * lengthSq v) := by
    calc lengthSq (R.mulVec v) * lengthSq (R.mulVec v)
        ≤ lengthSq (R.transpose.mulVec (R.mulVec v)) * lengthSq v := hcs
      _ ≤ (1 + e) * lengthSq (R.mulVec v) * lengthSq v :=
          mul_le_mul_of_nonneg_right (h.upper _) (lengthSq_nonneg v)
      _ = lengthSq (R.mulVec v) * ((1 + e) * lengthSq v) := by ring
  rcases (lengthSq_nonneg (R.mulVec v)).eq_or_lt with hzero | hpos
  · rw [← hzero]
    exact (lengthSq_nonneg _).trans (h.upper v)
  · exact le_of_mul_le_mul_left hsq hpos

/-- The transpose reaches every vector, which bounds the length of its image from below. -/
theorem lower_of_transpose {R : Matrix n n K} (h : Near e R.transpose) (v : n → K) :
    (1 - e) * lengthSq v ≤ lengthSq (R.mulVec v) := by
  rcases le_or_gt 1 e with he | he
  · exact (mul_nonpos_of_nonpos_of_nonneg (sub_nonpos.2 he) (lengthSq_nonneg v)).trans
      (lengthSq_nonneg _)
  have hunit := Matrix.mulVec_injective_iff_isUnit.1 (h.injective he)
  obtain ⟨w, hw⟩ := Matrix.mulVec_surjective_iff_isUnit.2 hunit v
  have hcs := dotProduct_sq_le w (R.mulVec v)
  rw [dotProduct_transpose, hw, sq] at hcs
  have hlower := h.lower w
  rw [hw] at hlower
  have hsq : lengthSq v * ((1 - e) * lengthSq v) ≤ lengthSq v * lengthSq (R.mulVec v) := by
    calc lengthSq v * ((1 - e) * lengthSq v)
        = (1 - e) * (lengthSq v * lengthSq v) := by ring
      _ ≤ (1 - e) * (lengthSq w * lengthSq (R.mulVec v)) :=
          mul_le_mul_of_nonneg_left hcs (sub_pos.2 he).le
      _ = (1 - e) * lengthSq w * lengthSq (R.mulVec v) := by ring
      _ ≤ lengthSq v * lengthSq (R.mulVec v) :=
          mul_le_mul_of_nonneg_right hlower (lengthSq_nonneg _)
  rcases (lengthSq_nonneg v).eq_or_lt with hzero | hpos
  · rw [← hzero, mul_zero]
    exact lengthSq_nonneg _
  · exact le_of_mul_le_mul_left hsq hpos

/-- A square matrix is as near to an isometry as its transpose. -/
theorem near_of_transpose {R : Matrix n n K} (h : Near e R.transpose) : Near e R := by
  intro v
  have hupper := upper_of_transpose h v
  have hlower := lower_of_transpose h v
  rw [abs_le]
  exact ⟨by linarith, by linarith⟩

end Square

end NearIsometry
