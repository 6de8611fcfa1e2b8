import OnboardAutonomy.NumberTexts
import Mathlib.Data.List.TakeWhile
import Mathlib.Algebra.Order.Field.Basic
import Mathlib.Algebra.Order.Field.Rat
import Mathlib.Tactic.FieldSimp
import Mathlib.Tactic.Linarith
import Mathlib.Tactic.NormNum
import Mathlib.Tactic.Positivity
import Mathlib.Tactic.Ring

namespace DecimalText
open ExactDouble JsonText
set_option autoImplicit true

/-- The value of digits with or without a decimal point among them. -/
def unsignedValue (text : List Char) : ℚ :=
  let whole := text.takeWhile (· ≠ '.')
  let fraction := (text.dropWhile (· ≠ '.')).drop 1
  (Nat.ofDigitChars 10 (whole ++ fraction) 0 : ℚ) / 10 ^ fraction.length

def decimalValue : List Char → ℚ
  | '-' :: text => -unsignedValue text
  | text => unsignedValue text

theorem toList_toString {n : Nat} : (toString n).toList = Nat.toDigits 10 n := Nat.toList_repr

theorem digits_no_point (h : Digits digits) : ∀ c ∈ digits, decide (c ≠ '.') = true := by
  intro c hc
  have hne : c ≠ '.' := digit_ne (h.2 c hc) (by decide)
  exact decide_eq_true hne

theorem padLeft_length (h : n < 10 ^ width) (hwidth : 0 < width) :
    (padLeft width (toString n)).toList.length = width := by
  have hlength : (toString n).length ≤ width := by
    rw [← String.length_toList, toList_toString]
    exact (Nat.length_toDigits_le_iff (by decide) hwidth).2 h
  rw [padLeft, String.toList_append, String.toList_ofList, List.length_append,
    List.length_replicate, String.length_toList]
  omega

theorem padLeft_value (init : Nat) (h : n < 10 ^ width) (hwidth : 0 < width) :
    Nat.ofDigitChars 10 (padLeft width (toString n)).toList init = init * 10 ^ width + n := by
  have hlength := padLeft_length h hwidth
  rw [Nat.ofDigitChars_eq_ofDigitChars_zero, hlength, padLeft, String.toList_append,
    String.toList_ofList, Nat.ofDigitChars_append, Nat.ofDigitChars_replicate_zero, Nat.mul_zero,
    toList_toString, Nat.ofDigitChars_ten_toDigits, Nat.mul_comm]

theorem unsignedValue_digits (h : Digits digits) :
    unsignedValue digits = Nat.ofDigitChars 10 digits 0 := by
  have hfree := digits_no_point h
  rw [unsignedValue, List.takeWhile_eq_self_iff.2 hfree, List.dropWhile_eq_nil_iff.2 hfree]
  simp

theorem unsignedValue_pointed (h : Digits digits) (fraction : List Char) :
    unsignedValue (digits ++ '.' :: fraction) =
      (Nat.ofDigitChars 10 (digits ++ fraction) 0 : ℚ) / 10 ^ fraction.length := by
  have hfree := digits_no_point h
  rw [unsignedValue, List.takeWhile_append_of_pos hfree, List.dropWhile_append_of_pos hfree]
  simp

theorem pointed_value : unsignedValue (pointed precision scaled).toList =
    (scaled : ℚ) / 10 ^ precision := by
  by_cases hp : precision = 0
  · subst hp
    rw [pointed, if_pos rfl, unsignedValue_digits toString_digits, toList_toString,
      Nat.ofDigitChars_ten_toDigits, pow_zero, div_one]
  · have hpos : 0 < precision := Nat.pos_of_ne_zero hp
    have hlt : scaled % 10 ^ precision < 10 ^ precision := Nat.mod_lt _ (Nat.pow_pos (by decide))
    rw [pointed_toList hp, unsignedValue_pointed toString_digits, padLeft_length hlt hpos,
      Nat.ofDigitChars_append, toList_toString, Nat.ofDigitChars_ten_toDigits,
      padLeft_value _ hlt hpos, Nat.div_add_mod']

theorem roundHalfEven_cases (num den : Nat) :
    (roundHalfEven num den = num / den ∧ 2 * (num % den) ≤ den) ∨
      (roundHalfEven num den = num / den + 1 ∧ den ≤ 2 * (num % den)) := by
  rw [roundHalfEven]
  split
  · exact .inl ⟨rfl, by omega⟩
  · split
    · exact .inr ⟨rfl, by omega⟩
    · split
      · exact .inl ⟨rfl, by omega⟩
      · exact .inr ⟨rfl, by omega⟩

theorem roundHalfEven_near (num : Nat) (hden : 0 < den) :
    2 * |(roundHalfEven num den : ℚ) - (num : ℚ) / den| ≤ 1 := by
  have hq : (0 : ℚ) < den := by exact_mod_cast hden
  have hsplit : (num : ℚ) = den * (num / den : ℕ) + (num % den : ℕ) := by
    exact_mod_cast (Nat.div_add_mod num den).symm
  have hvalue : (num : ℚ) / den = (num / den : ℕ) + ((num % den : ℕ) : ℚ) / den := by
    rw [hsplit]
    field_simp
  have hlow : (0 : ℚ) ≤ ((num % den : ℕ) : ℚ) / den := by positivity
  have hhigh : ((num % den : ℕ) : ℚ) / den < 1 := by
    rw [div_lt_one hq]
    exact_mod_cast Nat.mod_lt num hden
  rcases roundHalfEven_cases num den with ⟨hround, hrest⟩ | ⟨hround, hrest⟩
  · have hhalf : 2 * (((num % den : ℕ) : ℚ) / den) ≤ 1 := by
      rw [← mul_div_assoc, div_le_one hq]
      exact_mod_cast hrest
    rw [hround, hvalue, sub_add_cancel_left, abs_neg, abs_of_nonneg hlow]
    exact hhalf
  · have hhalf : 1 ≤ 2 * (((num % den : ℕ) : ℚ) / den) := by
      rw [← mul_div_assoc, one_le_div hq]
      exact_mod_cast hrest
    rw [hround, hvalue, Nat.cast_add, Nat.cast_one, add_sub_add_left_eq_sub,
      abs_of_nonneg (by linarith)]
    linarith

theorem signed_value {text : String} (hdigit : text.toList.head? ≠ some '-') :
    decimalValue (signed q text).toList =
      if q < 0 then -unsignedValue text.toList else unsignedValue text.toList := by
  rw [signed]
  split
  · rw [String.toList_append]
    rfl
  · rw [decimalValue]
    intro rest h
    rw [h] at hdigit
    exact hdigit rfl

theorem digits_front (h : Digits digits) (rest : List Char) :
    (digits ++ rest).head? ≠ some '-' := by
  obtain ⟨c, cs, rfl⟩ := List.exists_cons_of_ne_nil h.1
  have hne : c ≠ '-' := digit_ne (h.2 c List.mem_cons_self) (by decide)
  exact fun hc => hne (Option.some.inj hc)

theorem pointed_front : (pointed precision scaled).toList.head? ≠ some '-' := by
  by_cases hp : precision = 0
  · rw [pointed, if_pos hp, ← List.append_nil (toString scaled).toList]
    exact digits_front toString_digits []
  · rw [pointed_toList hp]
    exact digits_front toString_digits _

/-- A finite double is printed within half a unit of the last digit. -/
theorem fixed_near (precision : Nat) (q : ℚ) :
    2 * 10 ^ precision * |decimalValue (fixed precision (.finite q)).toList - q| ≤ 1 := by
  have hpos : (0 : ℚ) < 10 ^ precision := by positivity
  have hnear := roundHalfEven_near (q.num.natAbs * 10 ^ precision) q.pos
  have habs : ((q.num.natAbs * 10 ^ precision : ℕ) : ℚ) / q.den = |q| * 10 ^ precision := by
    have hq : |q| = (q.num.natAbs : ℚ) / q.den := by
      rw [← Rat.num_div_den |q|]
      simp
    rw [hq, Nat.cast_mul, Nat.cast_pow, Nat.cast_ofNat]
    ring
  rw [habs] at hnear
  rw [fixed, signed_value pointed_front, pointed_value]
  generalize roundHalfEven (q.num.natAbs * 10 ^ precision) q.den = scaled at hnear ⊢
  have hscale : 10 ^ precision * |(scaled : ℚ) / 10 ^ precision - abs q| =
      |(scaled : ℚ) - |q| * 10 ^ precision| := by
    rw [← abs_of_pos hpos, ← abs_mul, abs_of_pos hpos, mul_sub, mul_div_cancel₀ _ hpos.ne',
      mul_comm _ |q|]
  rw [← hscale, ← mul_assoc] at hnear
  rcases lt_or_ge q 0 with hq | hq
  · have hflip : -((scaled : ℚ) / 10 ^ precision) - q =
        -((scaled : ℚ) / 10 ^ precision - abs q) := by
      rw [abs_of_neg hq]
      ring
    rw [if_pos hq, hflip, abs_neg]
    exact hnear
  · rw [if_neg (not_lt.2 hq)]
    rw [abs_of_nonneg hq] at hnear
    exact hnear

theorem toString_value {n : Nat} : decimalValue (toString n).toList = n := by
  have hdigits : Digits (toString n).toList := toString_digits
  have hfront := digits_front hdigits []
  rw [List.append_nil] at hfront
  have hvalue : decimalValue (signed 0 (toString n)).toList = _ := signed_value hfront
  rw [signed, if_neg (lt_irrefl 0), if_neg (lt_irrefl 0)] at hvalue
  rw [hvalue, unsignedValue_digits hdigits, toList_toString, Nat.ofDigitChars_ten_toDigits]

theorem int_value {n : Int} : decimalValue (toString n).toList = n := by
  cases n with
  | ofNat n => exact_mod_cast toString_value (n := n)
  | negSucc n =>
    have htext : (toString (Int.negSucc n)).toList = '-' :: (toString (n + 1)).toList :=
      String.toList_append
    have hdigits : Digits (toString (n + 1)).toList := toString_digits
    rw [htext, decimalValue, unsignedValue_digits hdigits, toList_toString,
      Nat.ofDigitChars_ten_toDigits, Int.cast_negSucc]

end DecimalText
