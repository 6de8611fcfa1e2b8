import Mathlib.Data.List.Induction
import Mathlib.Order.Lattice

namespace Selection
set_option autoImplicit true

/-- One pass over a list that keeps the best of the wanted elements seen so far. -/
def select (wanted : α → Bool) (below : α → α → Bool) (xs : List α) : Option α :=
  xs.foldl (fun selected x =>
    if !wanted x then selected
    else match selected with
      | none => some x
      | some best => if below best x then some x else some best) none

/-- The first of the wanted elements with the largest score, where the list is split at it. -/
structure Foremost [LT κ] [LE κ] (wanted : α → Bool) (score : α → κ) (before : List α) (winner : α)
    (rest : List α) : Prop where
  chosen : wanted winner = true
  above : ∀ x ∈ before, wanted x = true → score x < score winner
  least : ∀ x ∈ rest, wanted x = true → score x ≤ score winner

variable [LinearOrder κ] {wanted : α → Bool} {below : α → α → Bool} {score : α → κ}

theorem Foremost.le (h : Foremost wanted score before winner rest)
    (hx : x ∈ before ++ winner :: rest) (hw : wanted x = true) : score x ≤ score winner := by
  rcases List.mem_append.1 hx with hx | hx
  · exact le_of_lt (h.above x hx hw)
  · rcases List.mem_cons.1 hx with hx | hx
    · rw [hx]
    · exact h.least x hx hw

theorem Foremost.not_unwanted (h : Foremost wanted score before winner rest)
    (hall : ∀ x ∈ before ++ winner :: rest, wanted x = false) : False := by
  have hnot := hall winner (List.mem_append_right _ List.mem_cons_self)
  rw [h.chosen] at hnot
  cases hnot

theorem Foremost.not_behind (h : Foremost wanted score before winner (mid ++ winner' :: rest'))
    (h' : Foremost wanted score (before ++ winner :: mid) winner' rest') : False := by
  have hlt : score winner < score winner' :=
    h'.above winner (List.mem_append_right _ List.mem_cons_self) h.chosen
  have hle : score winner' ≤ score winner :=
    h.least winner' (List.mem_append_right _ List.mem_cons_self) h'.chosen
  exact absurd hlt (not_lt.2 hle)

theorem Foremost.unique (h : Foremost wanted score before winner rest)
    (h' : Foremost wanted score before' winner' rest')
    (he : before ++ winner :: rest = before' ++ winner' :: rest') :
    before = before' ∧ winner = winner' ∧ rest = rest' := by
  rcases List.append_eq_append_iff.1 he with ⟨mid, rfl, hrest⟩ | ⟨mid, rfl, hrest⟩
  · cases mid with
    | nil =>
      rw [List.nil_append, List.cons.injEq] at hrest
      exact ⟨(List.append_nil _).symm, hrest⟩
    | cons x mid =>
      rw [List.cons_append, List.cons.injEq] at hrest
      obtain ⟨rfl, rfl⟩ := hrest
      exact (h.not_behind h').elim
  · cases mid with
    | nil =>
      rw [List.nil_append, List.cons.injEq] at hrest
      exact ⟨List.append_nil _, hrest.1.symm, hrest.2.symm⟩
    | cons x mid =>
      rw [List.cons_append, List.cons.injEq] at hrest
      obtain ⟨rfl, rfl⟩ := hrest
      exact (h'.not_behind h).elim

/-- Where the comparison is the one of the scores, the pass finds the first maximum. -/
theorem select_foremost
    (hbelow : ∀ a b, wanted a = true → wanted b = true → (below a b = true ↔ score a < score b))
    (xs : List α) :
    (select wanted below xs = none ∧ ∀ x ∈ xs, wanted x = false) ∨
      ∃ before winner rest, xs = before ++ winner :: rest ∧
        select wanted below xs = some winner ∧ Foremost wanted score before winner rest := by
  induction xs using List.reverseRecOn with
  | nil => exact .inl ⟨rfl, fun x hx => absurd hx List.not_mem_nil⟩
  | append_singleton xs y ih =>
    have hstep : select wanted below (xs ++ [y]) =
        if !wanted y then select wanted below xs
        else match select wanted below xs with
          | none => some y
          | some best => if below best y then some y else some best := by
      rw [select, List.foldl_append]
      rfl
    rw [hstep]
    cases hy : wanted y with
    | false =>
      rcases ih with ⟨hnone, hall⟩ | ⟨before, winner, rest, hsplit, hsome, hmax⟩
      · refine .inl ⟨hnone, fun x hx => ?_⟩
        rcases List.mem_append.1 hx with hx | hx
        · exact hall x hx
        · rw [List.mem_singleton.1 hx]
          exact hy
      · refine .inr ⟨before, winner, rest ++ [y], ?_, hsome, hmax.chosen, hmax.above, ?_⟩
        · rw [hsplit, List.append_assoc]
          rfl
        · intro x hx hw
          rcases List.mem_append.1 hx with hx | hx
          · exact hmax.least x hx hw
          · rw [List.mem_singleton.1 hx, hy] at hw
            cases hw
    | true =>
      rcases ih with ⟨hnone, hall⟩ | ⟨before, winner, rest, hsplit, hsome, hmax⟩
      · rw [hnone]
        refine .inr ⟨xs, y, [], rfl, rfl, hy, fun x hx hw => ?_, fun x hx => ?_⟩
        · rw [hall x hx] at hw
          cases hw
        · cases hx
      · rw [hsome]
        cases hb : below winner y with
        | true =>
          have hlt := (hbelow winner y hmax.chosen hy).1 hb
          refine .inr ⟨xs, y, [], rfl, by simp only [hb]; rfl, hy, fun x hx hw => ?_,
            fun x hx => ?_⟩
          · rw [hsplit] at hx
            exact lt_of_le_of_lt (hmax.le hx hw) hlt
          · cases hx
        | false =>
          refine .inr ⟨before, winner, rest ++ [y], ?_, by simp only [hb]; rfl, hmax.chosen,
            hmax.above, ?_⟩
          · rw [hsplit, List.append_assoc]
            rfl
          · intro x hx hw
            rcases List.mem_append.1 hx with hx | hx
            · exact hmax.least x hx hw
            · rw [List.mem_singleton.1 hx]
              by_contra hgt
              have hlt := (hbelow winner y hmax.chosen hy).2 (not_le.1 hgt)
              rw [hb] at hlt
              cases hlt

end Selection
