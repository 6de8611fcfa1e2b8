import Mathlib.Algebra.Order.Field.Basic
import Mathlib.Logic.Function.Iterate
import Mathlib.Tactic.Linarith
import Mathlib.Tactic.Ring

namespace Contraction
set_option autoImplicit true

variable {K : Type} [Field K] [LinearOrder K] [IsStrictOrderedRing K]
variable {b b' e e' x y x' y' : K} {w z : K × K}

/-- Two numbers of bounded size that are not far apart. -/
structure Close (size gap x y : K) : Prop where
  left : |x| ≤ size
  right : |y| ≤ size
  gap : |x - y| ≤ gap

theorem Close.size_nonneg (h : Close b e x y) : 0 ≤ b := (abs_nonneg x).trans h.left

theorem Close.const (c : K) : Close |c| 0 c c :=
  ⟨le_refl _, le_refl _, by rw [sub_self, abs_zero]⟩

theorem Close.add (h : Close b e x y) (h' : Close b' e' x' y') :
    Close (b + b') (e + e') (x + x') (y + y') := by
  refine ⟨?_, ?_, ?_⟩
  · exact (abs_add_le x x').trans (add_le_add h.left h'.left)
  · exact (abs_add_le y y').trans (add_le_add h.right h'.right)
  · rw [add_sub_add_comm]
    exact (abs_add_le _ _).trans (add_le_add h.gap h'.gap)

theorem Close.mul (h : Close b e x y) (h' : Close b' e' x' y') :
    Close (b * b') (b * e' + b' * e) (x * x') (y * y') := by
  have hb := h.size_nonneg
  refine ⟨?_, ?_, ?_⟩
  · rw [abs_mul]
    exact mul_le_mul h.left h'.left (abs_nonneg x') hb
  · rw [abs_mul]
    exact mul_le_mul h.right h'.right (abs_nonneg y') hb
  · have hsplit : x * x' - y * y' = x * (x' - y') + y' * (x - y) := by ring
    rw [hsplit]
    apply (abs_add_le _ _).trans
    rw [abs_mul, abs_mul]
    exact add_le_add (mul_le_mul h.left h'.gap (abs_nonneg _) hb)
      (mul_le_mul h'.right h.gap (abs_nonneg _) h'.size_nonneg)

/-- The points of the plane that are near another one, coordinate by coordinate. -/
def Near (e : K) (z w : K × K) : Prop := |z.1 - w.1| ≤ e ∧ |z.2 - w.2| ≤ e

instance : Decidable (Near e z w) := inferInstanceAs (Decidable (_ ∧ _))

/-- An iteration that brings every point near its goal closer by a factor comes closer by a power
of it. -/
theorem iterate_near {f : K × K → K × K} {q e : K} (hq : 0 ≤ q) (hq1 : q ≤ 1) (he : 0 ≤ e)
    (hstep : ∀ d z, 0 ≤ d → d ≤ e → Near d z w → Near (q * d) (f z) w) (hz : Near e z w)
    (n : Nat) : Near (q ^ n * e) (f^[n] z) w := by
  induction n with
  | zero =>
    rw [pow_zero, one_mul]
    exact hz
  | succ n ih =>
    have hd : 0 ≤ q ^ n * e := mul_nonneg (pow_nonneg hq n) he
    have hle : q ^ n * e ≤ e := mul_le_of_le_one_left he (pow_le_one₀ hq hq1)
    rw [Function.iterate_succ_apply', pow_succ', mul_assoc]
    exact hstep _ _ hd hle ih

end Contraction
