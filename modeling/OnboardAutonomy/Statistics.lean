import Mathlib.Algebra.Order.BigOperators.Group.List
import Mathlib.Algebra.Order.Field.Basic

namespace Statistics
set_option autoImplicit true

/-- What is kept of a row of samples: how many there are, their sum, the largest and the newest. -/
@[ext] structure Summary (α : Type u) [Zero α] where
  count : Nat := 0
  total : α := 0
  maximum : α := 0
  latest : Option α := none

section Samples
variable {α : Type u} [Field α] [LinearOrder α]

def Summary.add (s : Summary α) (x : α) : Summary α where
  count := s.count + 1
  total := s.total + x
  maximum := max s.maximum x
  latest := some x

/-- The summary of some samples, newest first. -/
def summary (xs : List α) : Summary α := xs.foldr (fun x s => s.add x) {}

theorem summary_cons (x : α) (xs : List α) : summary (x :: xs) = (summary xs).add x := rfl

theorem summary_count (xs : List α) : (summary xs).count = xs.length := by
  induction xs with
  | nil => rfl
  | cons x xs ih => exact congrArg (· + 1) ih

theorem summary_total (xs : List α) : (summary xs).total = xs.sum := by
  induction xs with
  | nil => rfl
  | cons x xs ih =>
    rw [List.sum_cons, ← ih, add_comm]
    rfl

theorem summary_latest (xs : List α) : (summary xs).latest = xs.head? := by
  cases xs with
  | nil => rfl
  | cons x xs => rfl

theorem le_maximum {xs : List α} (hx : x ∈ xs) : x ≤ (summary xs).maximum := by
  induction xs with
  | nil => cases hx
  | cons y xs ih =>
    rw [summary_cons, Summary.add]
    rcases List.mem_cons.1 hx with rfl | hx
    · exact le_max_right _ _
    · exact (ih hx).trans (le_max_left _ _)

theorem maximum_mem {xs : List α} (hne : xs ≠ []) (hx : ∀ x ∈ xs, 0 ≤ x) :
    (summary xs).maximum ∈ xs := by
  induction xs with
  | nil => exact absurd rfl hne
  | cons x xs ih =>
    rw [List.forall_mem_cons] at hx
    rw [summary_cons, Summary.add]
    cases xs with
    | nil => rw [summary, List.foldr_nil, max_eq_right hx.1, List.mem_singleton]
    | cons y xs =>
      rcases max_cases (summary (y :: xs)).maximum x with ⟨hmax, _⟩ | ⟨hmax, _⟩
      · rw [hmax]
        exact List.mem_cons_of_mem _ (ih (List.cons_ne_nil y xs) hx.2)
      · rw [hmax]
        exact List.mem_cons_self

/-- What is read off the summary of some samples. -/
structure Summarises (xs : List α) (latest average maximum : Option α) : Prop where
  latest : latest = xs.head?
  absent : xs = [] → average = none ∧ maximum = none
  present : xs ≠ [] → ∃ mean most, average = some mean ∧ maximum = some most ∧
    mean * xs.length = xs.sum ∧ (∀ x ∈ xs, x ≤ most) ∧ mean ≤ most ∧ (∃ x ∈ xs, x ≤ mean) ∧
    ((∀ x ∈ xs, 0 ≤ x) → most ∈ xs)

theorem Summarises.maximum_mem {xs : List α} {latest average maximum : Option α}
    (hs : Summarises xs latest average maximum) (hx : ∀ x ∈ xs, 0 ≤ x) (hm : most ∈ maximum) :
    most ∈ xs := by
  by_cases hne : xs = []
  · rw [(hs.absent hne).2] at hm
    cases hm
  · obtain ⟨_, _, _, hmaximum, _, _, _, _, hmem⟩ := hs.present hne
    rw [← Option.some.inj (hmaximum.symm.trans hm)]
    exact hmem hx

end Samples

section Means
variable {α : Type u} [Field α] [LinearOrder α] [IsStrictOrderedRing α] {xs : List α}

theorem mean_mul (hne : xs ≠ []) : xs.sum / (xs.length : α) * xs.length = xs.sum := by
  apply div_mul_cancel₀
  rw [Nat.cast_ne_zero]
  exact fun h => hne (List.eq_nil_of_length_eq_zero h)

theorem mean_le (hne : xs ≠ []) (hx : ∀ x ∈ xs, x ≤ b) : xs.sum / (xs.length : α) ≤ b := by
  have hpos : (0 : α) < xs.length := Nat.cast_pos.2 (List.length_pos_of_ne_nil hne)
  rw [div_le_iff₀ hpos, mul_comm, ← nsmul_eq_mul]
  exact List.sum_le_card_nsmul xs b hx

theorem exists_le_mean (hne : xs ≠ []) : ∃ x ∈ xs, x ≤ xs.sum / (xs.length : α) := by
  apply List.exists_le_of_sum_le hne id fun _ => xs.sum / (xs.length : α)
  rw [List.map_id, List.map_const', List.sum_replicate, nsmul_eq_mul, mul_comm, mean_mul hne]

theorem summary_summarises (xs : List α) :
    Summarises xs (summary xs).latest
      (if 0 < (summary xs).count then some ((summary xs).total / (summary xs).count) else none)
      (if 0 < (summary xs).count then some (summary xs).maximum else none) := by
  rw [summary_count, summary_total]
  refine ⟨summary_latest xs, fun hnil => ?_, fun hne => ?_⟩
  · rw [hnil]
    exact ⟨rfl, rfl⟩
  · have hpos := List.length_pos_of_ne_nil hne
    rw [if_pos hpos, if_pos hpos]
    exact ⟨_, _, rfl, rfl, mean_mul hne, fun x hx => le_maximum hx,
      mean_le hne fun x hx => le_maximum hx, exists_le_mean hne, maximum_mem hne⟩

/-- A rate that was measured over some gaps: one over their mean. -/
structure Paced (gaps : List α) (rate : Option α) : Prop where
  measured : rate.isSome = true ↔ 0 < gaps.sum
  exact : ∀ r ∈ rate, 0 < r ∧ r * gaps.sum = gaps.length ∧ (∃ gap ∈ gaps, gap * r ≤ 1) ∧
    ∀ most, (∀ gap ∈ gaps, gap ≤ most) → 1 ≤ most * r

theorem rate_paced (xs : List α) :
    Paced xs (if 0 < xs.sum then some (xs.length / xs.sum) else none) := by
  split
  · rename_i hsum
    have hne : xs ≠ [] := fun hnil => by
      rw [hnil, List.sum_nil] at hsum
      exact lt_irrefl _ hsum
    have hlength : (0 : α) < xs.length := Nat.cast_pos.2 (List.length_pos_of_ne_nil hne)
    have hmean : xs.sum / (xs.length : α) * (xs.length / xs.sum) = 1 := by
      rw [div_mul_div_comm, mul_comm]
      exact div_self (mul_pos hlength hsum).ne'
    have hrate : 0 < (xs.length : α) / xs.sum := div_pos hlength hsum
    refine ⟨⟨fun _ => hsum, fun _ => rfl⟩, fun r hr => ?_⟩
    obtain rfl := Option.some.inj hr
    refine ⟨hrate, div_mul_cancel₀ _ hsum.ne', ?_, fun most hmost => ?_⟩
    · obtain ⟨gap, hgap, hle⟩ := exists_le_mean hne
      exact ⟨gap, hgap, (mul_le_mul_of_nonneg_right hle hrate.le).trans hmean.le⟩
    · rw [← hmean]
      exact mul_le_mul_of_nonneg_right (mean_le hne hmost) hrate.le
  · rename_i hsum
    exact ⟨⟨fun h => (by cases h), fun h => absurd h hsum⟩, fun r hr => by cases hr⟩

end Means

/-- How far each of some times, newest first, is from the one before it. -/
def gaps : List Int → List Int
  | [] => []
  | [_] => []
  | later :: earlier :: times => (later - earlier) :: gaps (earlier :: times)

theorem gaps_length (times : List Int) : (gaps times).length = times.length - 1 := by
  induction times using gaps.induct with
  | case1 => rfl
  | case2 => rfl
  | case3 later earlier times ih =>
    rw [gaps, List.length_cons, ih]
    rfl

theorem gaps_sum {times : List Int} (hlast : last ∈ times.head?) (hfirst : first ∈ times.getLast?) :
    (gaps times).sum = last - first := by
  induction times generalizing last with
  | nil => cases hlast
  | cons time times ih =>
    have htime : time = last := Option.some.inj hlast
    cases times with
    | nil =>
      have honly : time = first := Option.some.inj hfirst
      rw [← htime, ← honly, Int.sub_self]
      rfl
    | cons earlier times =>
      rw [List.getLast?_cons_cons] at hfirst
      rw [gaps, List.sum_cons, ih rfl hfirst, htime]
      omega

end Statistics
