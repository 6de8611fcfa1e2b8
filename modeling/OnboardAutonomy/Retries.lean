import OnboardAutonomy.Histories
import Mathlib.Algebra.Order.Group.Defs
import Mathlib.Data.List.Range

namespace Retries
open Histories
set_option autoImplicit true

/-- What a call means to a request that is repeated until it is answered. -/
inductive Event (τ : Type u) where
  | asked (confirmation : Nat) (now : τ)
  | unsent
  | progress (now : τ)
  | settled
  | silent

def Event.time : Event τ → Option τ
  | .asked _ now | .progress now => some now
  | .unsent | .settled | .silent => none

def Event.confirmation : Event τ → Option Nat
  | .asked confirmation _ => some confirmation
  | .unsent | .progress _ | .settled | .silent => none

/-- How often was asked, until when the answer is waited for, and whether one was given. -/
structure Asking (τ : Type u) where
  attempt : Nat := 0
  pending : Option τ := none
  closed : Bool := false

def Asking.next [Add τ] (gap : τ) (a : Asking τ) : Event τ → Asking τ
  | .asked _ now => { a with attempt := a.attempt + 1, pending := some (now + gap) }
  | .unsent => { a with pending := none }
  | .progress now => { a with pending := a.pending.map fun _ => now + gap }
  | .settled => { a with pending := none, closed := true }
  | .silent => a

/-- What is known after a history of events, newest first. -/
def Asking.after [Add τ] (gap : τ) (h : List (Event τ)) : Asking τ :=
  h.foldr (fun e a => a.next gap e) {}

/-- The events that keep to the protocol: asking is numbered, limited, and waits its turn. -/
def Asking.Allows [LE τ] (limit : Nat) (a : Asking τ) : Event τ → Prop
  | .asked confirmation now => confirmation = a.attempt ∧ a.attempt < limit ∧ a.closed = false ∧
      ∀ deadline, a.pending = some deadline → deadline ≤ now
  | .progress _ => a.pending.isSome = true
  | .unsent | .settled | .silent => True

/-- A history in which every event was allowed when it came, at times that never go back. -/
inductive Orderly [Add τ] [LE τ] (limit : Nat) (gap : τ) : List (Event τ) → Prop where
  | nil : Orderly limit gap []
  | cons : Orderly limit gap h → (Asking.after gap h).Allows limit e →
      (∀ x ∈ h, ∀ u ∈ x.time, ∀ t ∈ e.time, u ≤ t) → Orderly limit gap (e :: h)

/-- The answer is waited for, or will be, from a time on. -/
def Asks (t : τ) (e : Event τ) : Prop := ∃ confirmation, e = .asked confirmation t

/-- An event that restarts the wait: a request or a report of progress. -/
def Waits (t : τ) (e : Event τ) : Prop := e.time = some t

/-- Requests are limited, numbered from zero, spaced, and end with an answer. -/
structure Disciplined [Add τ] [LE τ] (limit : Nat) (gap : τ) (h : List (Event τ)) : Prop where
  bounded : (h.filterMap Event.confirmation).length ≤ limit
  numbered : h.reverse.filterMap Event.confirmation =
    List.range (h.filterMap Event.confirmation).length
  ended : At h m .settled → Shown h n (Asks t) → n < m
  spaced : Shown h m (Waits t) → Shown h n (Asks u) → m < n →
    t + gap ≤ u ∨ ∃ k, m < k ∧ k < n ∧ At h k .unsent

theorem after_closed [Add τ] {gap : τ} (hs : At h m .settled) :
    (Asking.after gap h).closed = true := by
  induction h with
  | nil => cases hs.lt_length
  | cons e h ih =>
    rcases hs.cons_cases with hs | ⟨_, he⟩
    · have hclosed := ih hs
      cases e with
      | settled => rfl
      | asked _ _ | unsent | progress _ | silent => exact hclosed
    · rw [← he]
      rfl

theorem after_unasked [Add τ] {gap : τ} {h : List (Event τ)}
    (hn : ∀ e ∈ h, e.confirmation = none) : (Asking.after gap h).pending = none := by
  induction h with
  | nil => rfl
  | cons e h ih =>
    have hpending := ih fun x hx => hn x (List.mem_cons_of_mem e hx)
    cases e with
    | asked confirmation now => cases hn _ List.mem_cons_self
    | progress now =>
      show (Asking.after gap h).pending.map _ = none
      rw [hpending]
      rfl
    | unsent | settled => rfl
    | silent => exact hpending

section Counting
variable [AddCommGroup τ] [LinearOrder τ] {limit : Nat} {gap : τ}

/-- The attempts are the requests so far, numbered from zero. -/
theorem Orderly.counted (ho : Orderly limit gap h) :
    (Asking.after gap h).attempt ≤ limit ∧
      h.reverse.filterMap Event.confirmation = List.range (Asking.after gap h).attempt := by
  induction ho with
  | nil => exact ⟨Nat.zero_le limit, rfl⟩
  | @cons h e _ ha _ ih =>
    obtain ⟨hle, hrange⟩ := ih
    rw [List.reverse_cons, List.filterMap_append, hrange]
    cases e with
    | asked confirmation now =>
      obtain ⟨hnumber, hlt, _, _⟩ := ha
      refine ⟨hlt, ?_⟩
      rw [hnumber]
      exact List.range_succ.symm
    | unsent | progress _ | settled | silent => exact ⟨hle, List.append_nil _⟩

theorem Orderly.attempt_eq (ho : Orderly limit gap h) :
    (h.filterMap Event.confirmation).length = (Asking.after gap h).attempt := by
  have hrange := congrArg List.length ho.counted.2
  rwa [List.filterMap_reverse, List.length_reverse, List.length_range] at hrange

theorem Orderly.ended (ho : Orderly limit gap h) (hs : At h m .settled)
    (ha : Shown h n (Asks u)) : n < m := by
  induction ho with
  | nil => cases hs.lt_length
  | @cons h e ho hallow _ ih =>
    obtain ⟨y, hy, hask⟩ := ha
    rcases hs.cons_cases with hs | ⟨hm, he⟩
    · rcases hy.cons_cases with hy | ⟨_, hy⟩
      · exact ih hs ⟨y, hy, hask⟩
      · obtain ⟨confirmation, hask⟩ := hask
        rw [← hy, hask] at hallow
        have hclosed : (Asking.after gap h).closed = true := after_closed hs
        rw [hallow.2.2.1] at hclosed
        cases hclosed
    · rcases hy.cons_cases with hy | ⟨_, hy⟩
      · rw [hm]
        exact hy.lt_length
      · obtain ⟨confirmation, hask⟩ := hask
        rw [← he, hask] at hy
        cases hy

end Counting

theorem Orderly.call [Add τ] [LE τ] {limit : Nat} {gap : τ} {view : Entry σ ι ο → Event τ}
    {times : ι → List τ} (hview : ∀ e, ∀ t ∈ (view e).time, t ∈ times e.input)
    {h recent : List (Entry σ ι ο)} (hrecent : recent ⊆ h)
    (ho : Orderly limit gap (recent.map view)) {e : Entry σ ι ο} (ht : Timed times h e.input)
    (ha : (Asking.after gap (recent.map view)).Allows limit (view e)) :
    Orderly limit gap ((e :: recent).map view) := by
  refine .cons ho ha ?_
  intro x hx u hu t hlater
  obtain ⟨y, hy, hxy⟩ := List.mem_map.1 hx
  rw [← hxy] at hu
  exact ht.2 y (hrecent hy) u (hview y u hu) t (hview e t hlater)

section Spacing
variable [AddCommGroup τ] [LinearOrder τ] [IsOrderedAddMonoid τ] {limit : Nat} {gap : τ}

/-- Whatever started the wait, the answer is still waited for, or one was given, or a request was
not sent. -/
theorem Orderly.waiting (ho : Orderly limit gap h) (hw : Shown h m (Waits t)) :
    (Asking.after gap h).closed = true ∨ (∃ k, m < k ∧ k < h.length ∧ At h k .unsent) ∨
      ∃ deadline, (Asking.after gap h).pending = some deadline ∧ t + gap ≤ deadline := by
  induction ho with
  | nil => cases hw.lt_length
  | @cons h e ho ha hpast ih =>
    obtain ⟨x, hat, hwait⟩ := hw
    rcases hat.cons_cases with hx | ⟨_, hx⟩
    · rcases ih ⟨x, hx, hwait⟩ with hclosed | ⟨k, hm, hk, hu⟩ | ⟨deadline, hpending, hle⟩
      · cases e with
        | settled => exact .inl rfl
        | asked _ _ | unsent | progress _ | silent => exact .inl hclosed
      · exact .inr (.inl ⟨k, hm, Nat.lt_succ_of_lt hk, hu.cons e⟩)
      · have hmem : x ∈ h := by
          have hmem := List.mem_of_getElem? hx
          rwa [List.mem_reverse] at hmem
        have hlater {now : τ} (he : e.time = some now) : t + gap ≤ now + gap :=
          add_le_add_left (hpast x hmem t hwait now he) gap
        cases e with
        | asked _ now => exact .inr (.inr ⟨_, rfl, hlater rfl⟩)
        | unsent =>
          exact .inr (.inl ⟨h.length, hx.lt_length, Nat.lt_succ_self _, At.newest _ h⟩)
        | progress now =>
          refine .inr (.inr ⟨now + gap, ?_, hlater rfl⟩)
          show (Asking.after gap h).pending.map _ = _
          rw [hpending]
          rfl
        | settled => exact .inl rfl
        | silent => exact .inr (.inr ⟨deadline, hpending, hle⟩)
    · rw [hx] at hwait
      cases e with
      | asked _ now =>
        cases hwait
        exact .inr (.inr ⟨_, rfl, le_rfl⟩)
      | progress now =>
        cases hwait
        refine .inr (.inr ⟨t + gap, ?_, le_rfl⟩)
        obtain ⟨deadline, hpending⟩ := Option.isSome_iff_exists.1 ha
        show (Asking.after gap h).pending.map _ = _
        rw [hpending]
        rfl
      | unsent | settled | silent => cases hwait

theorem Orderly.spaced (ho : Orderly limit gap h) (hw : Shown h m (Waits t))
    (ha : Shown h n (Asks u)) (hlt : m < n) :
    t + gap ≤ u ∨ ∃ k, m < k ∧ k < n ∧ At h k .unsent := by
  induction ho with
  | nil => cases hw.lt_length
  | @cons h e ho hallow _ ih =>
    obtain ⟨x, hx, hwait⟩ := hw
    obtain ⟨y, hy, hask⟩ := ha
    rcases hy.cons_cases with hy | ⟨hn, hy⟩
    · rcases hx.cons_cases with hx | ⟨hm, _⟩
      · rcases ih ⟨x, hx, hwait⟩ ⟨y, hy, hask⟩ with hle | ⟨k, hm, hk, hu⟩
        · exact .inl hle
        · exact .inr ⟨k, hm, hk, hu.cons e⟩
      · rw [hm] at hlt
        exact absurd (hlt.trans hy.lt_length) (Nat.lt_irrefl _)
    · have hx : At h m x := by
        rcases hx.cons_cases with hx | ⟨hm, _⟩
        · exact hx
        · rw [hm, hn] at hlt
          exact absurd hlt (Nat.lt_irrefl _)
      obtain ⟨confirmation, hask⟩ := hask
      rw [← hy, hask] at hallow
      obtain ⟨_, _, hopen, hdue⟩ := hallow
      rcases ho.waiting ⟨x, hx, hwait⟩ with hclosed | ⟨k, hm, hk, hu⟩ | ⟨deadline, hpending, hle⟩
      · rw [hopen] at hclosed
        cases hclosed
      · rw [hn]
        exact .inr ⟨k, hm, hk, hu.cons e⟩
      · exact .inl (hle.trans (hdue deadline hpending))

/-- Events that are allowed one by one keep the discipline. -/
theorem Orderly.disciplined (ho : Orderly limit gap h) : Disciplined limit gap h where
  bounded := by
    rw [ho.attempt_eq]
    exact ho.counted.1
  numbered := by
    rw [ho.attempt_eq]
    exact ho.counted.2
  ended := ho.ended
  spaced := ho.spaced

end Spacing
end Retries
