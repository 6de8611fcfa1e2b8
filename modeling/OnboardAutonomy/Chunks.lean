import Mathlib.Data.List.Basic
import Mathlib.Order.Lattice

namespace Chunks
set_option autoImplicit true

section
variable [BEq α]

/-- The pieces that a separator ends, in order. -/
def terminated (sep : α) (xs : List α) : List (List α) := (xs.splitOn sep).dropLast

/-- What stands behind the last separator. -/
def remainder (sep : α) (xs : List α) : List α :=
  (xs.splitOn sep).getLast (List.splitOn_ne_nil sep xs)

/-- The terminated pieces and what stands behind them, if anything does. -/
def pieces (sep : α) (xs : List α) : List (List α) :=
  terminated sep xs ++ if remainder sep xs = [] then [] else [remainder sep xs]

end

/-- The consecutive blocks of a size that a list is long enough for. -/
def blocks (size : Nat) (xs : List α) : List (List α) :=
  (List.range (xs.length / size)).map fun i => (xs.drop (i * size)).take size

section
variable [BEq α] [LawfulBEq α] {sep : α}

theorem terminated_of_not_mem (h : sep ∉ xs) : terminated sep xs = [] := by
  rw [terminated, List.splitOn_eq_singleton h]
  rfl

theorem remainder_of_not_mem (h : sep ∉ xs) : remainder sep xs = xs := by
  simp only [remainder, List.splitOn_eq_singleton h, List.getLast_singleton]

theorem terminated_append_cons (h : sep ∉ xs) :
    terminated sep (xs ++ sep :: ys) = xs :: terminated sep ys := by
  rw [terminated, List.splitOn_append_cons_self_of_not_mem h,
    List.dropLast_cons_of_ne_nil (List.splitOn_ne_nil sep ys)]
  rfl

theorem remainder_append_cons (h : sep ∉ xs) :
    remainder sep (xs ++ sep :: ys) = remainder sep ys := by
  simp only [remainder, List.splitOn_append_cons_self_of_not_mem h]
  exact List.getLast_cons (List.splitOn_ne_nil sep ys)

/-- A list is without a separator, or it is a piece without one, the separator and a list. -/
@[elab_as_elim]
theorem piece_induction {motive : List α → Prop} (sep : α) (xs : List α)
    (rest : ∀ xs, sep ∉ xs → motive xs)
    (piece : ∀ front back, sep ∉ front → motive back → motive (front ++ sep :: back)) :
    motive xs := by
  by_cases h : sep ∈ xs
  · obtain ⟨front, back, he, hfront⟩ := List.eq_append_cons_of_mem h
    rw [he]
    exact piece front back hfront (piece_induction sep back rest piece)
  · exact rest xs h
termination_by xs.length
decreasing_by
  rw [he, List.length_append, List.length_cons]
  omega

theorem remainder_not_mem (xs : List α) : sep ∉ remainder sep xs := by
  induction xs using piece_induction sep with
  | rest xs h =>
    rw [remainder_of_not_mem h]
    exact h
  | piece front back h ih =>
    rw [remainder_append_cons h]
    exact ih

/-- What comes in later is split together with what was left over. -/
theorem terminated_append (xs ys : List α) :
    terminated sep (xs ++ ys) = terminated sep xs ++ terminated sep (remainder sep xs ++ ys) := by
  induction xs using piece_induction sep with
  | rest xs h =>
    rw [terminated_of_not_mem h, remainder_of_not_mem h]
    rfl
  | piece front back h ih =>
    rw [List.append_assoc, List.cons_append, terminated_append_cons h, terminated_append_cons h,
      remainder_append_cons h, ih]
    rfl

theorem remainder_append (xs ys : List α) :
    remainder sep (xs ++ ys) = remainder sep (remainder sep xs ++ ys) := by
  induction xs using piece_induction sep with
  | rest xs h => rw [remainder_of_not_mem h]
  | piece front back h ih =>
    rw [List.append_assoc, List.cons_append, remainder_append_cons h, remainder_append_cons h, ih]

theorem pieces_append (xs ys : List α) :
    pieces sep (xs ++ ys) = terminated sep xs ++ pieces sep (remainder sep xs ++ ys) := by
  rw [pieces, pieces, terminated_append, remainder_append, List.append_assoc]

theorem pieces_of_not_mem (h : sep ∉ xs) : pieces sep xs = if xs = [] then [] else [xs] := by
  rw [pieces, terminated_of_not_mem h, remainder_of_not_mem h]
  rfl

theorem pieces_append_cons (h : sep ∉ xs) :
    pieces sep (xs ++ sep :: ys) = xs :: pieces sep ys := by
  rw [pieces, terminated_append_cons h, remainder_append_cons h]
  rfl

/-- Lines that are each written with the separator behind them are read back as they were. -/
theorem pieces_lines {lines : List (List α)} (h : ∀ line ∈ lines, sep ∉ line) :
    pieces sep (lines.flatMap (· ++ [sep])) = lines := by
  induction lines with
  | nil => exact pieces_of_not_mem List.not_mem_nil
  | cons line lines ih =>
    rw [List.forall_mem_cons] at h
    rw [List.flatMap_cons, List.append_assoc, List.singleton_append, pieces_append_cons h.1, ih h.2]

end

theorem blocks_of_lt (h : xs.length < size) : blocks size xs = [] := by
  rw [blocks, Nat.div_eq_of_lt h]
  rfl

theorem blocks_append (hsize : 0 < size) (h : xs.length = size) :
    blocks size (xs ++ ys) = xs :: blocks size ys := by
  have hcount : (xs ++ ys).length / size = ys.length / size + 1 := by
    rw [List.length_append, h, Nat.add_div_left _ hsize]
  have hdrop (i : Nat) : (xs ++ ys).drop ((i + 1) * size) = ys.drop (i * size) := by
    rw [Nat.succ_mul, Nat.add_comm, ← h, List.drop_append, h]
    rw [List.drop_eq_nil_of_le (by omega), Nat.add_sub_cancel_left]
    rfl
  rw [blocks, hcount, List.range_succ_eq_map, List.map_cons, List.map_map, Nat.zero_mul,
    List.drop_zero, ← h, List.take_left, h]
  congr 1
  apply List.map_congr_left
  intro i _
  rw [Function.comp_apply, hdrop]

theorem length_of_mem_blocks (h : block ∈ blocks size xs) : block.length = size := by
  rw [blocks, List.mem_map] at h
  obtain ⟨i, hi, rfl⟩ := h
  rw [List.mem_range] at hi
  have hsize : 0 < size := by
    rcases Nat.eq_zero_or_pos size with rfl | hsize
    · rw [Nat.div_zero] at hi
      exact absurd hi (Nat.not_lt_zero i)
    · exact hsize
  have hle := (Nat.le_div_iff_mul_le hsize).1 (Nat.succ_le_of_lt hi)
  rw [Nat.succ_mul] at hle
  rw [List.length_take, List.length_drop]
  omega

end Chunks
