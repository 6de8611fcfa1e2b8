import Mathlib.Data.List.DropRight
import Mathlib.Data.List.TakeWhile

namespace Trimming
set_option autoImplicit true

section
variable (p : α → Bool)

/-- A list without what stands at either end of it. -/
def trim (xs : List α) : List α := (xs.dropWhile p).rdropWhile p

/-- Nothing to be trimmed stands at either end. -/
def Trimmed (xs : List α) : Prop :=
  (∀ x ∈ xs.head?, p x = false) ∧ ∀ x ∈ xs.getLast?, p x = false

/-- What stands in front of the last separator, and behind it. -/
def splitLast : List α → Option (List α × List α)
  | [] => none
  | x :: xs =>
    match splitLast xs with
    | some (front, back) => some (x :: front, back)
    | none => if p x then some ([], xs) else none

end

variable {p : α → Bool}

/-- A list is its trimmed middle between what was trimmed. -/
theorem trim_split (p : α → Bool) (xs : List α) : ∃ l r, xs = l ++ (trim p xs ++ r) ∧
    (∀ x ∈ l, p x = true) ∧ (∀ x ∈ r, p x = true) ∧ Trimmed p (trim p xs) := by
  refine ⟨xs.takeWhile p, (xs.dropWhile p).rtakeWhile p, ?_, ?_, ?_, ?_, ?_⟩
  · rw [trim, List.rdropWhile_append_rtakeWhile, List.takeWhile_append_dropWhile]
  · exact fun x hx => List.mem_takeWhile_imp hx
  · exact fun x hx => List.mem_rtakeWhile_imp hx
  · intro x hx
    obtain ⟨t, ht⟩ : trim p xs <+: xs.dropWhile p := List.rdropWhile_prefix p _
    have hhead := List.head?_dropWhile_not p xs
    rw [← ht, List.head?_append, Option.mem_def.1 hx] at hhead
    exact hhead
  · intro x hx
    have hne : trim p xs ≠ [] := by
      intro h
      rw [h] at hx
      cases hx
    have hlast := List.rdropWhile_last_not p (xs.dropWhile p) hne
    rw [Option.mem_def, List.getLast?_eq_some_getLast hne, Option.some.injEq] at hx
    rw [← hx]
    exact Bool.eq_false_iff.2 hlast

theorem dropWhile_of_head {xs : List α} (h : ∀ x ∈ xs.head?, p x = false) :
    xs.dropWhile p = xs := by
  cases xs with
  | nil => rfl
  | cons x xs => rw [List.dropWhile_cons_of_neg (Bool.eq_false_iff.1 (h x rfl))]

theorem rdropWhile_append {m r : List α} (hr : ∀ x ∈ r, p x = true)
    (hm : ∀ x ∈ m.getLast?, p x = false) : (m ++ r).rdropWhile p = m := by
  have hreverse : ∀ x ∈ r.reverse, p x = true := fun x hx => hr x (List.mem_reverse.1 hx)
  rw [List.rdropWhile, List.reverse_append, List.dropWhile_append_of_pos hreverse,
    dropWhile_of_head (by rwa [List.head?_reverse]), List.reverse_reverse]

theorem trim_eq (hl : ∀ x ∈ l, p x = true) (hr : ∀ x ∈ r, p x = true) (hm : Trimmed p m) :
    trim p (l ++ (m ++ r)) = m := by
  rw [trim, List.dropWhile_append_of_pos hl]
  cases m with
  | nil =>
    have hnil : ([] ++ r).dropWhile p = [] := List.dropWhile_eq_nil_iff.2 hr
    rw [hnil]
    rfl
  | cons x m =>
    have hhead : (x :: m ++ r).dropWhile p = x :: m ++ r := dropWhile_of_head hm.1
    rw [hhead, rdropWhile_append hr hm.2]

theorem trimmed_trim (p : α → Bool) (xs : List α) : Trimmed p (trim p xs) := by
  obtain ⟨l, r, -, -, -, h⟩ := trim_split p xs
  exact h

theorem Trimmed.trim_eq (h : Trimmed p xs) : trim p xs = xs := by
  have htrim := Trimming.trim_eq (List.forall_mem_nil _) (List.forall_mem_nil _) h
  rwa [List.append_nil, List.nil_append] at htrim

@[simp] theorem trim_trim (p : α → Bool) (xs : List α) : trim p (trim p xs) = trim p xs :=
  (trimmed_trim p xs).trim_eq

theorem trim_append (hblank : ∀ x ∈ blanks, p x = true) (xs : List α) :
    trim p (xs ++ blanks) = trim p xs := by
  obtain ⟨l, r, hxs, hl, hr, hm⟩ := trim_split p xs
  have hback : ∀ x ∈ r ++ blanks, p x = true := by
    intro x hx
    rcases List.mem_append.1 hx with h | h
    · exact hr x h
    · exact hblank x h
  have htrim := trim_eq hl hback hm
  rwa [← List.append_assoc, ← List.append_assoc, List.append_assoc l, ← hxs] at htrim

theorem trim_prepend (hblank : ∀ x ∈ blanks, p x = true) (h : Trimmed p xs) :
    trim p (blanks ++ xs) = xs := by
  have htrim := trim_eq hblank (List.forall_mem_nil _) h
  rwa [List.append_nil] at htrim

theorem splitLast_append (hsep : p sep = true) (hback : ∀ x ∈ back, p x = false)
    (front : List α) : splitLast p (front ++ sep :: back) = some (front, back) := by
  have hnone (xs : List α) (h : ∀ x ∈ xs, p x = false) : splitLast p xs = none := by
    induction xs with
    | nil => rfl
    | cons x xs ih =>
      rw [List.forall_mem_cons] at h
      rw [splitLast, ih h.2]
      dsimp only
      rw [h.1]
      rfl
  induction front with
  | nil =>
    rw [List.nil_append, splitLast, hnone back hback]
    dsimp only
    rw [hsep]
    rfl
  | cons x front ih =>
    rw [List.cons_append, splitLast, ih]

theorem splitLast_cases (p : α → Bool) (xs : List α) :
    (splitLast p xs = none ∧ ∀ x ∈ xs, p x = false) ∨
      ∃ front sep back, xs = front ++ sep :: back ∧ p sep = true ∧ (∀ x ∈ back, p x = false) ∧
        splitLast p xs = some (front, back) := by
  induction xs with
  | nil => exact .inl ⟨rfl, List.forall_mem_nil _⟩
  | cons x xs ih =>
    rcases ih with ⟨hnone, hall⟩ | ⟨front, sep, back, rfl, hsep, hback, -⟩
    · cases hx : p x with
      | true =>
        exact .inr ⟨[], x, xs, rfl, hx, hall, splitLast_append hx hall []⟩
      | false =>
        left
        refine ⟨?_, List.forall_mem_cons.2 ⟨hx, hall⟩⟩
        rw [splitLast, hnone]
        dsimp only
        rw [hx]
        rfl
    · exact .inr ⟨x :: front, sep, back, rfl, hsep, hback,
        splitLast_append hsep hback (x :: front)⟩

end Trimming
