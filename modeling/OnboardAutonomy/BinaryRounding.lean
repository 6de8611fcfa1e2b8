import OnboardAutonomy.DecimalValue

namespace ExactDouble
open DecimalText
set_option autoImplicit true

def powerOfTwo (exponent : Int) : ℚ :=
  if 0 ≤ exponent then ((2 ^ exponent.toNat : Nat) : ℚ) else 1 / ((2 ^ (-exponent).toNat : Nat) : ℚ)

/-- The binary exponent of a positive fraction. -/
def binaryExponent (num den : Nat) : Int :=
  if den ≤ num then (Nat.log 2 (num / den) : Int)
  else -(Nat.clog 2 ((den + num - 1) / num) : Int)

/-- How far apart the doubles around a fraction are. -/
def spacing (q : ℚ) : ℚ := powerOfTwo (max (binaryExponent q.num.natAbs q.den) (-1022) - 52)

namespace Double

/-- The double next to a fraction, to the even side when there are two. -/
def rounded (q : ℚ) : Double :=
  let scaled := |q| / spacing q
  let magnitude := roundHalfEven scaled.num.natAbs scaled.den * spacing q
  if ((2 ^ 1024 : Nat) : ℚ) ≤ magnitude then infinityOf q
  else .finite (if q < 0 then -magnitude else magnitude)

/-- The sum of two doubles as the machine has it. -/
def plus (a b : Double) : Double :=
  match a + b with
  | .finite q => rounded q
  | sum => sum

example : rounded (1 / 10) = .finite (3602879701896397 / 36028797018963968) := by decide +kernel
example : rounded (1 / 8) = .finite (1 / 8) := by decide +kernel

end Double

theorem powerOfTwo_pos (exponent : Int) : 0 < powerOfTwo exponent := by
  rw [powerOfTwo]
  split <;> positivity

theorem powerOfTwo_le {exponent : Int} {n : Nat} (hn : 0 < n) (h : exponent ≤ -n) :
    powerOfTwo exponent ≤ 1 / ((2 ^ n : Nat) : ℚ) := by
  rw [powerOfTwo, if_neg (by omega)]
  have hpow : 2 ^ n ≤ 2 ^ (-exponent).toNat := Nat.pow_le_pow_right (by decide) (by omega)
  exact one_div_le_one_div_of_le (by positivity) (by exact_mod_cast hpow)

theorem natAbs_div_den (q : ℚ) : (q.num.natAbs : ℚ) / q.den = |q| := by
  rw [Nat.cast_natAbs, Int.cast_abs, ← Nat.abs_cast q.den, ← abs_div, Rat.num_div_den]

/-- How far a number below 1024 can be from the double next to it. -/
def roundingError : ℚ := 1 / ((2 ^ 44 : Nat) : ℚ)

theorem spacing_small (h : |q| < 1024) : spacing q ≤ 2 * roundingError := by
  have htwice : 1 / ((2 ^ 43 : Nat) : ℚ) = 2 * roundingError := by
    norm_num [roundingError]
  rw [← htwice]
  have hexponent : binaryExponent q.num.natAbs q.den ≤ 9 := by
    rw [binaryExponent]
    split
    · have hnum : q.num.natAbs < 1024 * q.den := by
        have hden : (0 : ℚ) < q.den := by exact_mod_cast q.pos
        rw [← natAbs_div_den, div_lt_iff₀ hden] at h
        exact_mod_cast h
      have hwhole : q.num.natAbs / q.den < 2 ^ 10 := Nat.div_lt_of_lt_mul (by omega)
      have hlog := Nat.log_lt_of_lt_pow' (b := 2) (by decide) hwhole
      omega
    · omega
  exact powerOfTwo_le (by decide) (by omega)

theorem rounded_near (h : |q| < 1024) :
    ∃ r, Double.rounded q = .finite r ∧ |r - q| ≤ roundingError := by
  have hpos : 0 < spacing q := powerOfTwo_pos _
  have hsmall := spacing_small h
  have hnear := roundHalfEven_near (|q| / spacing q).num.natAbs (|q| / spacing q).pos
  rw [natAbs_div_den, abs_of_nonneg (div_nonneg (abs_nonneg q) hpos.le)] at hnear
  rw [Double.rounded]
  generalize roundHalfEven (|q| / spacing q).num.natAbs (|q| / spacing q).den = steps at hnear ⊢
  have hmoved : |(steps * spacing q - |q| : ℚ)| ≤ roundingError := by
    have hsplit : (steps : ℚ) * spacing q - |q| = (steps - |q| / spacing q) * spacing q := by
      rw [sub_mul, div_mul_cancel₀ _ hpos.ne']
    rw [hsplit, abs_mul, abs_of_pos hpos]
    have hhalf : |(steps : ℚ) - |q| / spacing q| ≤ 1 / 2 := by linarith
    calc |(steps : ℚ) - |q| / spacing q| * spacing q
        ≤ 1 / 2 * (2 * roundingError) := mul_le_mul hhalf hsmall hpos.le (by norm_num)
      _ = roundingError := by ring
  have hfinite : ¬((2 ^ 1024 : Nat) : ℚ) ≤ steps * spacing q := by
    have habove := (abs_le.1 hmoved).2
    have hone : roundingError ≤ 1 := by norm_num [roundingError]
    have hlarge : (1025 : ℚ) < ((2 ^ 1024 : Nat) : ℚ) := by
      exact_mod_cast (by decide +kernel : 1025 < 2 ^ 1024)
    linarith
  refine ⟨_, if_neg hfinite, ?_⟩
  split
  · rename_i hneg
    rw [abs_of_neg hneg] at hmoved
    rwa [← abs_neg, show -(-(steps * spacing q) - q) = steps * spacing q - -q by ring]
  · rename_i hneg
    rwa [abs_of_nonneg (not_lt.1 hneg)] at hmoved

end ExactDouble
