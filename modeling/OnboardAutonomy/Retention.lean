import Mathlib.Algebra.Order.BigOperators.Group.List
import Mathlib.Algebra.Order.Group.Nat
import Mathlib.Algebra.GroupWithZero.Nat

namespace Retention
set_option autoImplicit true

section
variable (size : α → Nat) (maxCount maxTotal : Nat)

/-- The items kept of a list, after some of a total size have been kept: the first of all, and each
for which there is room. -/
def retained : Nat → Nat → List α → List α
  | _, _, [] => []
  | count, total, x :: xs =>
    if count = 0 ∨ (count < maxCount ∧ total + size x ≤ maxTotal) then
      x :: retained (count + 1) (total + size x) xs
    else retained count total xs

/-- What never needs to be cut: within both limits, or a single item. -/
def Bounded (xs : List α) : Prop :=
  xs.length ≤ maxCount ∧ ((xs.map size).sum ≤ maxTotal ∨ xs.length ≤ 1)

end

theorem retained_sublist : (retained size maxCount maxTotal count total xs).Sublist xs := by
  induction xs generalizing count total with
  | nil => exact .slnil
  | cons x xs ih =>
    rw [retained]
    split
    · exact ih.cons_cons x
    · exact ih.cons x

theorem retained_count (total : Nat) (h : count ≤ maxCount) (hc : 0 < count) :
    count + (retained size maxCount maxTotal count total xs).length ≤ maxCount := by
  induction xs generalizing count total with
  | nil => simpa [retained] using h
  | cons x xs ih =>
    rw [retained]
    split
    · rename_i hroom
      have hrest := ih (total + size x) (by omega : count + 1 ≤ maxCount) (by omega)
      rw [List.length_cons]
      omega
    · exact ih total h hc

theorem retained_total (h : total ≤ bound) (hb : maxTotal ≤ bound) (hc : 0 < count) :
    total + ((retained size maxCount maxTotal count total xs).map size).sum ≤ bound := by
  induction xs generalizing count total with
  | nil => simpa [retained] using h
  | cons x xs ih =>
    rw [retained]
    split
    · rename_i hroom
      have hrest := ih (by omega : total + size x ≤ bound) (by omega : 0 < count + 1)
      rw [List.map_cons, List.sum_cons]
      omega
    · exact ih h hc

theorem retained_cons : retained size maxCount maxTotal 0 0 (x :: xs) =
    x :: retained size maxCount maxTotal 1 (size x) xs := by
  simp [retained]

theorem retained_full (h : maxTotal < total) (hc : 0 < count) :
    retained size maxCount maxTotal count total xs = [] := by
  induction xs with
  | nil => rfl
  | cons x xs ih =>
    rw [retained, if_neg (by omega)]
    exact ih

theorem retained_bounded (hcount : 0 < maxCount) :
    Bounded size maxCount maxTotal (retained size maxCount maxTotal 0 0 xs) := by
  cases xs with
  | nil => exact ⟨Nat.zero_le _, .inr (Nat.zero_le _)⟩
  | cons x xs =>
    rw [retained_cons]
    constructor
    · rw [List.length_cons, Nat.add_comm]
      exact retained_count _ hcount Nat.one_pos
    · by_cases hfull : maxTotal < size x
      · rw [retained_full hfull Nat.one_pos]
        exact .inr Nat.le.refl
      · left
        rw [List.map_cons, List.sum_cons]
        exact retained_total (Nat.le_of_not_lt hfull) Nat.le.refl Nat.one_pos

theorem retained_fits (hcount : count + xs.length ≤ maxCount)
    (htotal : total + (xs.map size).sum ≤ maxTotal) :
    retained size maxCount maxTotal count total xs = xs := by
  induction xs generalizing count total with
  | nil => rfl
  | cons x xs ih =>
    rw [List.length_cons] at hcount
    rw [List.map_cons, List.sum_cons] at htotal
    rw [retained, if_pos (.inr (by omega)), ih (by omega) (by omega)]

theorem Bounded.retained_eq (h : Bounded size maxCount maxTotal xs) :
    retained size maxCount maxTotal 0 0 xs = xs := by
  obtain ⟨hcount, htotal | hone⟩ := h
  · exact retained_fits (by omega) (by omega)
  · match xs with
    | [] => rfl
    | [x] => simp [retained]
    | x :: y :: xs =>
      simp only [List.length_cons] at hone
      omega

theorem Bounded.sublist (h : Bounded size maxCount maxTotal xs) (hs : ys.Sublist xs) :
    Bounded size maxCount maxTotal ys := by
  have hlength := hs.length_le
  have hsum : (ys.map size).sum ≤ (xs.map size).sum :=
    (hs.map size).sum_le_sum fun _ _ => Nat.zero_le _
  obtain ⟨hcount, htotal | hone⟩ := h
  · exact ⟨by omega, .inl (by omega)⟩
  · exact ⟨by omega, .inr (by omega)⟩

theorem Bounded.perm (h : Bounded size maxCount maxTotal xs) (hp : ys.Perm xs) :
    Bounded size maxCount maxTotal ys := by
  rw [Bounded, hp.length_eq, (hp.map size).sum_eq]
  exact h

theorem retained_append : retained size maxCount maxTotal count total (xs ++ ys) =
    retained size maxCount maxTotal count total xs ++
      retained size maxCount maxTotal
        (count + (retained size maxCount maxTotal count total xs).length)
        (total + ((retained size maxCount maxTotal count total xs).map size).sum) ys := by
  induction xs generalizing count total with
  | nil => simp [retained]
  | cons x xs ih =>
    rw [List.cons_append, retained]
    conv_rhs => rw [retained]
    split
    · rw [ih, List.cons_append, List.length_cons, List.map_cons, List.sum_cons]
      simp only [Nat.add_assoc, Nat.add_comm 1]
    · exact ih

/-- An item behind a bounded group is kept exactly when the group is empty or leaves room for it. -/
theorem mem_retained_iff (h : Bounded size maxCount maxTotal xs)
    (hx : x ∉ xs) (hy : x ∉ ys) :
    x ∈ retained size maxCount maxTotal 0 0 (xs ++ x :: ys) ↔
      xs = [] ∨ (xs.length < maxCount ∧ (xs.map size).sum + size x ≤ maxTotal) := by
  rw [retained_append, h.retained_eq, Nat.zero_add, Nat.zero_add, List.mem_append, retained,
    ← List.length_eq_zero_iff]
  split
  · rename_i hroom
    exact ⟨fun _ => hroom, fun _ => .inr List.mem_cons_self⟩
  · rename_i hroom
    refine ⟨fun hmem => ?_, fun h => absurd h hroom⟩
    exact absurd (hmem.resolve_left hx) fun hmem => hy (retained_sublist.subset hmem)

theorem retained_eq_nil_iff (hc : 0 < count) :
    retained size maxCount maxTotal count total xs = [] ↔
      ∀ x ∈ xs, ¬(count < maxCount ∧ total + size x ≤ maxTotal) := by
  induction xs with
  | nil => exact ⟨fun _ x hx => (by cases hx), fun _ => rfl⟩
  | cons x xs ih =>
    rw [retained]
    split
    · rename_i hroom
      constructor
      · intro h
        cases h
      · intro h
        exact absurd (hroom.resolve_left (Nat.ne_of_gt hc)) (h x List.mem_cons_self)
    · rename_i hroom
      rw [ih, List.forall_mem_cons]
      exact ⟨fun h => ⟨fun hx => hroom (.inr hx), h⟩, fun h => h.2⟩

theorem retained_head (hc : 0 < count)
    (h : retained size maxCount maxTotal count total xs = y :: ys) :
    count < maxCount ∧ total + size y ≤ maxTotal := by
  induction xs with
  | nil => cases h
  | cons x xs ih =>
    rw [retained] at h
    split at h
    · rename_i hroom
      rw [← (List.cons.inj h).1]
      exact hroom.resolve_left (Nat.ne_of_gt hc)
    · exact ih h

theorem retained_cons_of_room {size : α → Nat} (h : count < maxCount ∧ total + size x ≤ maxTotal) :
    retained size maxCount maxTotal count total (x :: xs) =
      x :: retained size maxCount maxTotal (count + 1) (total + size x) xs := by
  rw [retained, if_pos (.inr h)]

theorem retained_cons_of_no_room {size : α → Nat} (hc : 0 < count)
    (h : ¬(count < maxCount ∧ total + size x ≤ maxTotal)) :
    retained size maxCount maxTotal count total (x :: xs) =
      retained size maxCount maxTotal count total xs := by
  rw [retained, if_neg]
  rintro (hzero | hroom)
  · exact Nat.ne_of_gt hc hzero
  · exact h hroom

theorem retained_prefix_cons (hc : 0 < count)
    (h : ¬(count < maxCount ∧ total + size x ≤ maxTotal)) :
    retained size maxCount maxTotal count total xs <+: x :: xs ↔
      retained size maxCount maxTotal count total xs = [] := by
  constructor
  · intro hfront
    cases hhead : retained size maxCount maxTotal count total xs with
    | nil => rfl
    | cons y ys =>
      rw [hhead, List.cons_prefix_cons] at hfront
      have hroom := retained_head hc hhead
      rw [hfront.1] at hroom
      exact absurd hroom h
  · intro hnil
    rw [hnil]
    exact List.nil_prefix

theorem retained_prefix_iff_from {size : α → Nat} (hc : 0 < count) :
    retained size maxCount maxTotal count total xs <+: xs ↔
      ∀ front x back, xs = front ++ x :: back →
        retained size maxCount maxTotal count total front = front →
        ¬(count + front.length < maxCount ∧
          total + (front.map size).sum + size x ≤ maxTotal) →
        ∀ y ∈ back, ¬(count + front.length < maxCount ∧
          total + (front.map size).sum + size y ≤ maxTotal) := by
  induction xs generalizing count total with
  | nil =>
    refine ⟨fun _ front x back h => ?_, fun _ => List.nil_prefix⟩
    exact absurd h.symm (List.append_ne_nil_of_right_ne_nil _ (List.cons_ne_nil x back))
  | cons a xs ih =>
    by_cases hroom : count < maxCount ∧ total + size a ≤ maxTotal
    · rw [retained_cons_of_room hroom, List.cons_prefix_cons, and_iff_right rfl,
        ih (Nat.succ_pos count)]
      constructor
      · intro h front x back hsplit hfront hx
        cases front with
        | nil =>
          rw [← (List.cons.inj hsplit).1] at hx
          exact absurd hroom hx
        | cons b front =>
          obtain ⟨rfl, htail⟩ := List.cons.inj hsplit
          rw [retained_cons_of_room hroom, List.cons.injEq, and_iff_right rfl] at hfront
          have hrest := h front x back htail hfront
          rw [List.length_cons, List.map_cons, List.sum_cons, Nat.add_comm front.length,
            ← Nat.add_assoc, ← Nat.add_assoc] at hx ⊢
          exact hrest hx
      · intro h front x back hsplit hfront hx
        have hrest := h (a :: front) x back (by rw [hsplit]; rfl)
          (by rw [retained_cons_of_room hroom, hfront])
        rw [List.length_cons, List.map_cons, List.sum_cons, Nat.add_comm front.length,
          ← Nat.add_assoc, ← Nat.add_assoc] at hrest
        exact hrest hx
    · rw [retained_cons_of_no_room hc hroom, retained_prefix_cons hc hroom,
        retained_eq_nil_iff hc]
      constructor
      · intro h front x back hsplit hfront hx
        cases front with
        | nil =>
          rw [(List.cons.inj hsplit).2] at h
          exact h
        | cons b front =>
          obtain ⟨rfl, -⟩ := List.cons.inj hsplit
          rw [retained_cons_of_no_room hc hroom] at hfront
          exact absurd (retained_head hc hfront) hroom
      · exact fun h y hy => h [] a xs rfl rfl hroom y hy

theorem retained_eq_iff (hcount : 0 < maxCount) :
    retained size maxCount maxTotal 0 0 xs = xs ↔ Bounded size maxCount maxTotal xs := by
  constructor
  · intro h
    rw [← h]
    exact retained_bounded hcount
  · exact Bounded.retained_eq

/-- Behind the first item that does not fit, none would fit in its place. -/
def NoLaterFits (size : α → Nat) (maxCount maxTotal : Nat) (xs : List α) : Prop :=
  ∀ front x back, xs = front ++ x :: back → front ≠ [] → Bounded size maxCount maxTotal front →
    ¬(front.length < maxCount ∧ (front.map size).sum + size x ≤ maxTotal) →
    ∀ y ∈ back, ¬(front.length < maxCount ∧ (front.map size).sum + size y ≤ maxTotal)

/-- What is kept is the front of the list exactly when nothing fits behind what is left out. -/
theorem retained_prefix_iff {size : α → Nat} (hcount : 0 < maxCount) :
    retained size maxCount maxTotal 0 0 xs <+: xs ↔ NoLaterFits size maxCount maxTotal xs := by
  cases xs with
  | nil =>
    refine ⟨fun _ front x back h => ?_, fun _ => List.nil_prefix⟩
    exact absurd h.symm (List.append_ne_nil_of_right_ne_nil _ (List.cons_ne_nil x back))
  | cons a xs =>
    have hbounded (front : List α) : retained size maxCount maxTotal 1 (size a) front = front ↔
        Bounded size maxCount maxTotal (a :: front) := by
      rw [← retained_eq_iff hcount, retained_cons, List.cons.injEq, and_iff_right rfl]
    rw [retained_cons, List.cons_prefix_cons, and_iff_right rfl,
      retained_prefix_iff_from Nat.one_pos]
    constructor
    · intro h front x back hsplit hne hfront hx
      cases front with
      | nil => exact absurd rfl hne
      | cons b front =>
        obtain ⟨rfl, htail⟩ := List.cons.inj hsplit
        have hrest := h front x back htail ((hbounded front).2 hfront)
        rw [List.length_cons, List.map_cons, List.sum_cons, Nat.add_comm front.length] at hx ⊢
        exact hrest hx
    · intro h front x back hsplit hfront hx
      have hrest := h (a :: front) x back (by rw [hsplit]; rfl) (List.cons_ne_nil a front)
        ((hbounded front).1 hfront)
      rw [List.length_cons, List.map_cons, List.sum_cons, Nat.add_comm front.length] at hrest
      exact hrest hx

theorem sublist_prefix_iff {r : α → α → Prop} (hr : ∀ a b, r a b → ¬r b a) (hp : xs.Pairwise r)
    (hs : ys.Sublist xs) : ys <+: xs ↔ ∀ y ∈ ys, ∀ x ∈ xs, x ∉ ys → r y x := by
  induction hs with
  | slnil => exact ⟨fun _ y hy => (by cases hy), fun _ => List.nil_prefix⟩
  | @cons ys xs a hs ih =>
    obtain ⟨ha, hp⟩ := List.pairwise_cons.1 hp
    have hnot : a ∉ ys := fun h => hr a a (ha a (hs.subset h)) (ha a (hs.subset h))
    cases ys with
    | nil => exact ⟨fun _ y hy => (by cases hy), fun _ => List.nil_prefix⟩
    | cons y ys =>
      constructor
      · intro h
        rw [List.cons_prefix_cons] at h
        rw [h.1] at hnot
        exact absurd List.mem_cons_self hnot
      · intro h
        have hya := h y List.mem_cons_self a List.mem_cons_self hnot
        exact absurd (ha y (hs.subset List.mem_cons_self)) (hr y a hya)
  | @cons_cons ys xs a hs ih =>
    obtain ⟨ha, hp⟩ := List.pairwise_cons.1 hp
    rw [List.cons_prefix_cons, and_iff_right rfl, ih hp]
    constructor
    · intro h y hy x hx hnot
      rw [List.mem_cons, not_or] at hnot
      have hx := (List.mem_cons.1 hx).resolve_left hnot.1
      rcases List.mem_cons.1 hy with hy | hy
      · rw [hy]
        exact ha x hx
      · exact h y hy x hx hnot.2
    · intro h y hy x hx hnot
      apply h y (List.mem_cons_of_mem _ hy) x (List.mem_cons_of_mem _ hx)
      rw [List.mem_cons, not_or]
      refine ⟨fun he => ?_, hnot⟩
      rw [he] at hx
      exact hr a a (ha a hx) (ha a hx)

end Retention
