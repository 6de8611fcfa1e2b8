import OnboardAutonomy.JsonText
import OnboardAutonomy.DecimalText

namespace DecimalText
open ExactDouble JsonText
set_option autoImplicit true

theorem toDigits_digits : Digits (Nat.toDigits 10 n) :=
  ⟨Nat.toDigits_ne_nil, fun _ h => Nat.isDigit_of_mem_toDigits (by decide) (by decide) h⟩

theorem toString_digits {n : Nat} : Digits (toString n).toList := by
  rw [Nat.toString_eq_repr, Nat.toList_repr]
  exact toDigits_digits

theorem toDigits_head : (Nat.toDigits 10 n).head? = some '0' → n = 0 := by
  induction n using Nat.strongRecOn with
  | ind n ih =>
    intro h
    by_cases hlt : n < 10
    · have hall : ∀ m < 10, [Nat.digitChar m].head? = some '0' → m = 0 := by decide
      rw [Nat.toDigits_of_lt_base hlt] at h
      exact hall n hlt h
    · have hle : 10 ≤ n := Nat.le_of_not_lt hlt
      rw [Nat.toDigits_of_base_le (by decide) hle,
        List.head?_append_of_ne_nil _ Nat.toDigits_ne_nil] at h
      have := ih (n / 10) (by omega) h
      omega

theorem toString_whole {n : Nat} : Whole (toString n).toList := by
  by_cases hn : n = 0
  · subst hn
    exact .inl (by decide)
  · refine .inr ⟨toString_digits, fun h => hn ?_⟩
    rw [Nat.toString_eq_repr, Nat.toList_repr] at h
    exact toDigits_head h

theorem padLeft_digits {n : Nat} : Digits (padLeft width (toString n)).toList := by
  rw [padLeft, String.toList_append, String.toList_ofList]
  refine ⟨fun h => toString_digits.1 (List.append_eq_nil_iff.mp h).2, fun c hc => ?_⟩
  rcases List.mem_append.mp hc with hc | hc
  · obtain ⟨-, rfl⟩ := List.mem_replicate.mp hc
    decide
  · exact toString_digits.2 c hc

/-- A whole part, with or without a fraction. -/
def Decimal (text : List Char) : Prop :=
  ∃ whole fraction, Whole whole ∧ Fraction fraction ∧ text = whole ++ fraction

theorem pointed_toList (hp : precision ≠ 0) : (pointed precision scaled).toList =
    (toString (scaled / 10 ^ precision)).toList ++
      '.' :: (padLeft precision (toString (scaled % 10 ^ precision))).toList := by
  rw [pointed, if_neg hp, String.toList_append, String.toList_append, List.append_assoc]
  rfl

theorem pointed_decimal : Decimal (pointed precision scaled).toList := by
  by_cases hp : precision = 0
  · rw [pointed, if_pos hp]
    exact ⟨_, [], toString_whole, .inl rfl, (List.append_nil _).symm⟩
  · rw [pointed_toList hp]
    exact ⟨_, _, toString_whole, .inr ⟨_, padLeft_digits, rfl⟩, rfl⟩

/-- Trailing zeros go with the point when nothing is left behind it. -/
theorem dropTrailingZeros_decimal (hp : precision ≠ 0) :
    Decimal (dropTrailingZeros (pointed precision scaled)).toList := by
  have hwhole := toString_whole (n := scaled / 10 ^ precision)
  have hdigits := toString_digits (n := scaled / 10 ^ precision)
  have hfraction : Digits (padLeft precision (toString (scaled % 10 ^ precision))).toList :=
    padLeft_digits
  rw [dropTrailingZeros, pointed_toList hp, String.toList_ofList]
  generalize (toString (scaled / 10 ^ precision)).toList = whole at hwhole hdigits
  generalize (padLeft precision (toString (scaled % 10 ^ precision))).toList = digits at hfraction
  have hpoint : whole.reverse.dropWhile (· = '.') = whole.reverse := by
    obtain ⟨c, cs, hlast⟩ := List.exists_cons_of_ne_nil
      (fun h => hdigits.1 (List.reverse_eq_nil_iff.mp h) : whole.reverse ≠ [])
    have hc : c ≠ '.' := digit_ne (hdigits.2 c
      (List.mem_reverse.mp (hlast ▸ List.mem_cons_self))) (by decide)
    rw [hlast, List.dropWhile_cons_of_neg (by simpa using hc)]
  rw [List.reverse_append, List.reverse_cons, List.append_assoc, List.dropWhile_append]
  cases hrest : digits.reverse.dropWhile (· = '0') with
  | nil =>
    refine ⟨whole, [], hwhole, .inl rfl, ?_⟩
    simp [hpoint]
  | cons c cs =>
    have hsub : ∀ d ∈ c :: cs, d ∈ digits := fun d hd =>
      List.mem_reverse.mp ((List.dropWhile_sublist _).subset (hrest ▸ hd))
    have hc : c ≠ '.' := digit_ne (hfraction.2 c (hsub c List.mem_cons_self)) (by decide)
    refine ⟨whole, '.' :: (c :: cs).reverse, hwhole,
      .inr ⟨(c :: cs).reverse, ⟨by simp, ?_⟩, rfl⟩, ?_⟩
    · exact fun d hd => hfraction.2 d (hsub d (List.mem_reverse.mp hd))
    · simp [hc]

theorem number_of_decimal (h : Decimal text) (hminus : minus = [] ∨ minus = ['-'])
    (hexponent : Exponent exponent) : Number (minus ++ (text ++ exponent)) := by
  obtain ⟨whole, fraction, hwhole, hfraction, rfl⟩ := h
  exact ⟨minus, whole, fraction, exponent, hminus, hwhole, hfraction, hexponent, by simp⟩

theorem signed_number (h : Decimal decimal) (hexponent : Exponent exponent)
    (ht : text.toList = decimal ++ exponent) : Number (signed q text).toList := by
  rw [signed]
  split
  · rw [String.toList_append, ht]
    exact number_of_decimal h (.inr rfl) hexponent
  · rw [ht]
    exact number_of_decimal h (.inl rfl) hexponent

theorem fixed_number : Number (fixed precision (.finite q)).toList :=
  signed_number pointed_decimal (.inl rfl) (List.append_nil _).symm

theorem scientific_exponent (exponent : Int) : Exponent ("e".toList ++
    ((if exponent < 0 then "-" else "+").toList ++
      (padLeft 2 (toString exponent.natAbs)).toList)) := by
  refine .inr ⟨'e', (if exponent < 0 then "-" else "+").toList, _, .inl rfl, ?_,
    padLeft_digits, rfl⟩
  split
  · exact .inr (.inr rfl)
  · exact .inr (.inl rfl)

theorem general_number : Number (general (.finite q)).toList := by
  rw [general]
  split
  · exact ⟨[], ['0'], [], [], .inl rfl, .inl rfl, .inl rfl, .inl rfl, rfl⟩
  · generalize significant q.num.natAbs q.den = figures
    obtain ⟨digits, exponent⟩ := figures
    simp only
    split
    · have hdecimal : Decimal (dropTrailingZeros (pointed 5 digits)).toList :=
        dropTrailingZeros_decimal (by decide)
      refine signed_number hdecimal (scientific_exponent exponent) ?_
      simp only [String.toList_append, List.append_assoc]
    · split
      · exact signed_number ⟨_, [], toString_whole, .inl rfl, (List.append_nil _).symm⟩ (.inl rfl)
          (List.append_nil _).symm
      · split
        · exact signed_number (dropTrailingZeros_decimal (by omega)) (.inl rfl)
            (List.append_nil _).symm
        · exact signed_number (dropTrailingZeros_decimal (by omega)) (.inl rfl)
            (List.append_nil _).symm

theorem toString_number {n : Nat} : Number (toString n).toList :=
  ⟨[], (toString n).toList, [], [], .inl rfl, toString_whole, .inl rfl, .inl rfl, by simp⟩

theorem int_number {n : Int} : Number (toString n).toList := by
  cases n with
  | ofNat n => exact toString_number (n := n)
  | negSucc n =>
    exact ⟨['-'], (toString (n + 1)).toList, [], [], .inr rfl, toString_whole, .inl rfl, .inl rfl,
      by simp [toString, Int.repr]⟩

theorem unreadable_nan : Unreadable "nan".toList := by
  refine ⟨⟨'n', "an".toList, rfl, by decide, by decide⟩, fun rest j rest' h => ?_⟩
  generalize ht : "nan".toList ++ rest = t at h
  cases h with
  | number h => exact number_not (by decide) h ht
  | _ => cases ht

theorem unreadable_inf : Unreadable "inf".toList := by
  refine ⟨⟨'i', "nf".toList, rfl, by decide, by decide⟩, fun rest j rest' h => ?_⟩
  generalize ht : "inf".toList ++ rest = t at h
  cases h with
  | number h => exact number_not (by decide) h ht
  | _ => cases ht

theorem unreadable_negInf : Unreadable "-inf".toList := by
  refine ⟨⟨'-', "inf".toList, rfl, by decide, by decide⟩, fun rest j rest' h => ?_⟩
  have htext : "-inf".toList = ['-', 'i', 'n', 'f'] := rfl
  rw [htext] at h
  generalize ht : ['-', 'i', 'n', 'f'] ++ rest = t at h
  cases h with
  | number h =>
    obtain ⟨d, ds, rfl | rfl, hd⟩ := h.head
    · rw [← (List.cons.inj ht).1] at hd
      exact absurd hd (by decide)
    · rw [← (List.cons.inj (List.cons.inj ht).2).1] at hd
      exact absurd hd (by decide)
  | _ => cases ht

end DecimalText
