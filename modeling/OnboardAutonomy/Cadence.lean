import Mathlib.Algebra.Order.Monoid.Unbundled.Basic
import Mathlib.Algebra.Order.Group.Defs

namespace Cadence
set_option autoImplicit true

variable [AddCommMonoid τ] [LinearOrder τ] [IsOrderedCancelAddMonoid τ]

/-- The interval since the last firing has passed, or there is none yet. -/
def due (interval : τ) (last : Option τ) (t : τ) : Bool := last.all fun u => u + interval ≤ t

/-- The ticks at which a periodic timer fires: the first one, and each later one that is due. Ticks
and firings are listed newest first. -/
def firings (interval : τ) : List τ → List τ
  | [] => []
  | t :: ticks =>
    if due interval (firings interval ticks).head? t then t :: firings interval ticks
    else firings interval ticks

omit [IsOrderedCancelAddMonoid τ] in
theorem firings_due {interval : τ} (h : due interval (firings interval ticks).head? t = true) :
    firings interval (t :: ticks) = t :: firings interval ticks := if_pos h

omit [IsOrderedCancelAddMonoid τ] in
theorem firings_early {interval : τ} (h : due interval (firings interval ticks).head? t = false) :
    firings interval (t :: ticks) = firings interval ticks :=
  if_neg (by rw [h]; exact Bool.false_ne_true)

omit [IsOrderedCancelAddMonoid τ] in
theorem due_some (interval u t : τ) : due interval (some u) t = true ↔ u + interval ≤ t :=
  decide_eq_true_iff

omit [IsOrderedCancelAddMonoid τ] in
theorem firings_sublist (interval : τ) (ticks : List τ) :
    (firings interval ticks).Sublist ticks := by
  induction ticks with
  | nil => exact .slnil
  | cons t ticks ih =>
    rw [firings]
    split
    · exact ih.cons_cons t
    · exact ih.cons t

/-- A tick never finds the last firing a whole interval back. -/
theorem firings_recent {interval : τ} (hi : 0 < interval) (t : τ) (ticks : List τ) :
    ∃ u, (firings interval (t :: ticks)).head? = some u ∧ t < u + interval := by
  cases hd : due interval (firings interval ticks).head? t with
  | true =>
    rw [firings_due hd]
    exact ⟨t, rfl, lt_add_of_pos_right t hi⟩
  | false =>
    rw [firings_early hd]
    cases hu : (firings interval ticks).head? with
    | none =>
      rw [hu] at hd
      cases hd
    | some u =>
      rw [hu] at hd
      refine ⟨u, rfl, lt_of_not_ge fun hle => ?_⟩
      rw [(due_some interval u t).2 hle] at hd
      cases hd

theorem firings_spaced {interval : τ} (hi : 0 ≤ interval) (ticks : List τ) :
    (firings interval ticks).Pairwise fun later earlier => earlier + interval ≤ later := by
  induction ticks with
  | nil => exact .nil
  | cons t ticks ih =>
    cases hd : due interval (firings interval ticks).head? t with
    | false =>
      rw [firings_early hd]
      exact ih
    | true =>
      rw [firings_due hd]
      cases hf : firings interval ticks with
      | nil => exact List.pairwise_singleton _ _
      | cons u earlier =>
        rw [hf] at hd ih
        have hu : u + interval ≤ t := (due_some interval u t).1 hd
        apply List.Pairwise.cons _ ih
        intro v hv
        rcases List.mem_cons.1 hv with hv | hv
        · rw [hv]
          exact hu
        · exact (List.rel_of_pairwise_cons ih hv).trans
            ((le_add_of_nonneg_right hi).trans hu)

end Cadence
