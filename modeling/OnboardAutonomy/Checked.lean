import Mathlib.Data.List.Basic

namespace Checked
set_option autoImplicit true

/-- The difference of two unsigned numbers, where it does not wrap. -/
def minus (a b : Nat) : Option Nat := if b ≤ a then some (a - b) else none

/-- A computation comes to a result, and to one of which this is known. -/
def Yields (result : Option α) (P : α → Prop) : Prop := ∃ a, result = some a ∧ P a

theorem yields_some {a : α} : Yields (some a) P ↔ P a := by
  constructor
  · rintro ⟨b, he, hb⟩
    rw [Option.some.inj he]
    exact hb
  · intro h
    exact ⟨a, rfl, h⟩

theorem yields_minus (h : b ≤ a) : Yields (minus a b) fun d => d + b = a := by
  rw [minus, if_pos h, yields_some]
  exact Nat.sub_add_cancel h

theorem Yields.mono {result : Option α} (h : Yields result P) (hPQ : ∀ a, P a → Q a) :
    Yields result Q := by
  obtain ⟨a, he, ha⟩ := h
  exact ⟨a, he, hPQ a ha⟩

theorem Yields.bind {result : Option α} {next : α → Option β} (h : Yields result P)
    (hnext : ∀ a, P a → Yields (next a) Q) : Yields (result >>= next) Q := by
  obtain ⟨a, rfl, ha⟩ := h
  exact hnext a ha

theorem Yields.map {result : Option α} {f : α → β} (h : Yields result P)
    (hf : ∀ a, P a → Q (f a)) : Yields (result.map f) Q := by
  obtain ⟨a, rfl, ha⟩ := h
  exact ⟨f a, rfl, hf a ha⟩

theorem Yields.mapM {f : α → Option β} {R : γ → β → Prop}
    (h : List.Forall₂ (fun a c => Yields (f a) (R c)) as cs) :
    Yields (as.mapM f) fun bs => List.Forall₂ R cs bs := by
  induction h with
  | nil => exact yields_some.2 .nil
  | cons hhead _ ih =>
    rw [List.mapM_cons]
    apply hhead.bind
    intro b hb
    apply ih.bind
    intro bs hbs
    exact yields_some.2 (.cons hb hbs)

end Checked
