import Mathlib.Data.List.Basic
import Mathlib.Order.Basic

namespace Histories
set_option autoImplicit true

/-- One call of a machine: the state it found, what it was given and what it returned. -/
structure Entry (σ : Type u) (ι : Type v) (ο : Type w) where
  before : σ
  input : ι
  output : ο

def Entry.after (step : σ → ι → σ × ο) (e : Entry σ ι ο) : σ := (step e.before e.input).1

/-- The runs of a machine: its calls, newest first, and the state it is left in. A call is legal
or not in view of what came before it. -/
inductive Run (step : σ → ι → σ × ο) (legal : List (Entry σ ι ο) → σ → ι → Prop) (init : σ) :
    List (Entry σ ι ο) → σ → Prop where
  | start : Run step legal init [] init
  | next : Run step legal init h s → legal h s i →
      Run step legal init (⟨s, i, (step s i).2⟩ :: h) (step s i).1

section Runs
variable {step : σ → ι → σ × ο} {legal : List (Entry σ ι ο) → σ → ι → Prop} {init : σ}

/-- A property of history and state holds along every run when it holds at the start and every
legal call keeps it. -/
theorem Run.history_invariant (hr : Run step legal init h s) (inv : List (Entry σ ι ο) → σ → Prop)
    (hstart : inv [] init)
    (hnext : ∀ h s i, Run step legal init h s → inv h s → legal h s i →
      inv (⟨s, i, (step s i).2⟩ :: h) (step s i).1) : inv h s := by
  induction hr with
  | start => exact hstart
  | next hr hl ih => exact hnext _ _ _ hr ih hl

theorem Run.invariant (hr : Run step legal init h s) (inv : σ → Prop) (hstart : inv init)
    (hnext : ∀ s i, inv s → inv (step s i).1) : inv s :=
  hr.history_invariant (fun _ s => inv s) hstart fun _ s i _ hi _ => hnext s i hi

/-- What came before a call of a run is a run, and the call is the next one in it. -/
theorem Run.before (hr : Run step legal init h s) (he : e :: older <:+ h) :
    Run step legal init older e.before ∧ legal older e.before e.input ∧
      e.output = (step e.before e.input).2 := by
  induction hr with
  | start => cases List.suffix_nil.1 he
  | next hr hl ih =>
    rcases List.suffix_cons_iff.1 he with heq | he
    · obtain ⟨hhead, htail⟩ := List.cons.inj heq
      rw [hhead, htail]
      exact ⟨hr, hl, rfl⟩
    · exact ih he

/-- Every call of a run finds the machine in a state the machine can be in. -/
theorem Run.reached (hr : Run step legal init h s) (he : e ∈ h) :
    ∃ h', h' ⊆ h ∧ Run step legal init h' e.before ∧ legal h' e.before e.input ∧
      e.output = (step e.before e.input).2 := by
  obtain ⟨newer, older, hsplit⟩ := List.append_of_mem he
  have hsuffix : e :: older <:+ h := by
    rw [hsplit]
    exact List.suffix_append newer (e :: older)
  exact ⟨older, fun x hx => hsuffix.subset (List.mem_cons_of_mem _ hx), hr.before hsuffix⟩

end Runs

/-- The times calls read never go back. -/
def Timed [LE τ] (times : ι → List τ) (h : List (Entry σ ι ο)) (i : ι) : Prop :=
  (times i).Pairwise (· ≤ ·) ∧ ∀ e ∈ h, ∀ u ∈ times e.input, ∀ t ∈ times i, u ≤ t

/-- A machine that calls another one at most once in each of its steps runs that machine. -/
theorem Run.project {step : σ → ι → σ × ο} {legal : List (Entry σ ι ο) → σ → ι → Prop}
    {step' : σ' → ι' → σ' × ο'} {legal' : List (Entry σ' ι' ο') → σ' → ι' → Prop}
    (hr : Run step legal init h s) (inner : σ → σ')
    (call : Entry σ ι ο → Option (Entry σ' ι' ο'))
    (hnext : ∀ h s i, legal h s i →
      (call ⟨s, i, (step s i).2⟩ = none ∧ inner (step s i).1 = inner s) ∨
      ∃ i', legal' (h.filterMap call) (inner s) i' ∧
        call ⟨s, i, (step s i).2⟩ = some ⟨inner s, i', (step' (inner s) i').2⟩ ∧
        inner (step s i).1 = (step' (inner s) i').1) :
    Run step' legal' (inner init) (h.filterMap call) (inner s) := by
  induction hr with
  | start => exact .start
  | next hr hl ih =>
    rcases hnext _ _ _ hl with ⟨hnone, hsame⟩ | ⟨i', hlegal, hcall, hafter⟩
    · rw [List.filterMap_cons_none hnone, hsame]
      exact ih
    · rw [List.filterMap_cons_some hcall, hafter]
      exact .next ih hlegal

theorem Timed.project [LE τ] {times : ι → List τ} {times' : ι' → List τ}
    {h : List (Entry σ ι ο)} {call : Entry σ ι ο → Option (Entry σ' ι' ο')}
    (hl : Timed times h i) (hi : times' i' = times i)
    (hcall : ∀ e ∈ h, ∀ e' ∈ call e, times' e'.input = times e.input) :
    Timed times' (h.filterMap call) i' := by
  rw [Timed, hi]
  refine ⟨hl.1, fun e' he' u hu t ht => ?_⟩
  obtain ⟨e, he, hc⟩ := List.mem_filterMap.1 he'
  rw [hcall e he e' hc] at hu
  exact hl.2 e he u hu t ht

/-- The history and the state after further calls, oldest call first. -/
def play (step : σ → ι → σ × ο) (h : List (Entry σ ι ο)) (s : σ) :
    List ι → List (Entry σ ι ο) × σ
  | [] => (h, s)
  | i :: is => play step (⟨s, i, (step s i).2⟩ :: h) (step s i).1 is

/-- Every further call is legal in the state it finds. -/
def playable (step : σ → ι → σ × ο) (legal : σ → ι → Bool) (s : σ) : List ι → Bool
  | [] => true
  | i :: is => legal s i && playable step legal (step s i).1 is

theorem Run.play_legal {step : σ → ι → σ × ο} {legal : σ → ι → Bool} {init : σ}
    (hr : Run step (fun _ s i => legal s i = true) init h s)
    (hp : playable step legal s is = true) :
    Run step (fun _ s i => legal s i = true) init (play step h s is).1 (play step h s is).2 := by
  induction is generalizing h s with
  | nil => exact hr
  | cons i is ih =>
    rw [playable, Bool.and_eq_true] at hp
    exact ih (.next hr hp.1) hp.2

/-- Where every call is legal, any calls extend a run. -/
theorem Run.play_free {step : σ → ι → σ × ο} {legal : List (Entry σ ι ο) → σ → ι → Prop} {init : σ}
    (hl : ∀ h s i, legal h s i) (hr : Run step legal init h s) (is : List ι) :
    Run step legal init (play step h s is).1 (play step h s is).2 := by
  induction is generalizing h s with
  | nil => exact hr
  | cons i is ih => exact ih (.next hr (hl h s i))

/-- Calls in the order of their times extend a run. -/
theorem Run.play_timed [LE τ] {step : σ → ι → σ × ο} {times : ι → List τ} {init : σ}
    (hr : Run step (fun h _ i => Timed times h i) init h s)
    (hpast : ∀ e ∈ h, ∀ u ∈ times e.input, ∀ t ∈ is.flatMap times, u ≤ t)
    (hp : (is.flatMap times).Pairwise (· ≤ ·)) :
    Run step (fun h _ i => Timed times h i) init (play step h s is).1 (play step h s is).2 := by
  induction is generalizing h s with
  | nil => exact hr
  | cons i is ih =>
    rw [List.flatMap_cons, List.pairwise_append] at hp
    obtain ⟨hi, his, hcross⟩ := hp
    have hl : Timed times h i := by
      refine ⟨hi, ?_⟩
      intro e he u hu t ht
      exact hpast e he u hu t (by rw [List.flatMap_cons]; exact List.mem_append_left _ ht)
    apply ih (.next hr hl) _ his
    intro e he u hu t ht
    rcases List.mem_cons.1 he with he | he
    · rw [he] at hu
      exact hcross u hu t ht
    · exact hpast e he u hu t (by rw [List.flatMap_cons]; exact List.mem_append_right _ ht)

theorem Run.play_checked [LE τ] {step : σ → ι → σ × ο} {check : σ → ι → Bool} {times : ι → List τ}
    {good : ι → Prop} {init : σ}
    (hr : Run step (fun h s i => check s i = true ∧ Timed times h i ∧ good i) init h s)
    (hc : playable step check s is = true) (hg : ∀ i ∈ is, good i)
    (hpast : ∀ e ∈ h, ∀ u ∈ times e.input, ∀ t ∈ is.flatMap times, u ≤ t)
    (hp : (is.flatMap times).Pairwise (· ≤ ·)) :
    Run step (fun h s i => check s i = true ∧ Timed times h i ∧ good i) init
      (play step h s is).1 (play step h s is).2 := by
  induction is generalizing h s with
  | nil => exact hr
  | cons i is ih =>
    rw [playable, Bool.and_eq_true] at hc
    rw [List.forall_mem_cons] at hg
    rw [List.flatMap_cons] at hpast hp
    rw [List.pairwise_append] at hp
    obtain ⟨hi, his, hcross⟩ := hp
    have hl : Timed times h i :=
      ⟨hi, fun e he u hu t ht => hpast e he u hu t (List.mem_append_left _ ht)⟩
    apply ih (.next hr ⟨hc.1, hl, hg.1⟩) hc.2 hg.2 _ his
    intro e he u hu t ht
    rcases List.mem_cons.1 he with he | he
    · rw [he] at hu
      exact hcross u hu t ht
    · exact hpast e he u hu t (List.mem_append_right _ ht)

/-- A machine hears of each of its requests, in order, whether it was carried out. -/
inductive Reported (report : σ → ρ → Bool → σ) : σ → List ρ → σ → Prop where
  | nil : Reported report s [] s
  | cons : Reported report (report s r sent) rs s' → Reported report s (r :: rs) s'

theorem Reported.keeps {report : σ → ρ → Bool → σ} (hr : Reported report s rs s')
    {P : σ → Prop} (hstep : ∀ s r sent, P s → P (report s r sent)) (hs : P s) : P s' := by
  induction hr with
  | nil => exact hs
  | cons _ ih => exact ih (hstep _ _ _ hs)

/-- The event at a position of a history, counted from the oldest. -/
def At (h : List ε) (n : Nat) (e : ε) : Prop := h.reverse[n]? = some e

theorem At.cons {h : List ε} (hn : At h n e) (x : ε) : At (x :: h) n e := by
  have hlt : n < h.reverse.length := (List.getElem?_eq_some_iff.1 hn).1
  rw [At, List.reverse_cons, List.getElem?_append_left hlt]
  exact hn

theorem At.newest (x : ε) (h : List ε) : At (x :: h) h.length x := by
  rw [At, List.reverse_cons, List.getElem?_append_right (Nat.le_of_eq List.length_reverse),
    List.length_reverse, Nat.sub_self]
  rfl

theorem At.lt_length (hn : At h n e) : n < h.length := by
  have hlt := (List.getElem?_eq_some_iff.1 hn).1
  rwa [List.length_reverse] at hlt

theorem At.cons_cases (hn : At (x :: h) n e) : At h n e ∨ (n = h.length ∧ e = x) := by
  rcases Nat.lt_or_ge n h.length with hlt | hge
  · rw [At, List.reverse_cons, List.getElem?_append_left (by rwa [List.length_reverse])] at hn
    exact .inl hn
  · have he : n = h.length := by
      have hlt := hn.lt_length
      rw [List.length_cons] at hlt
      exact Nat.le_antisymm (Nat.le_of_lt_succ hlt) hge
    subst he
    have hx := At.newest x h
    rw [At] at hn hx
    rw [hn] at hx
    exact .inr ⟨rfl, Option.some.inj hx⟩

/-- Every event from a position on satisfies a property. -/
def FromOn (h : List ε) (n : Nat) (P : ε → Prop) : Prop := ∀ m e, n ≤ m → At h m e → P e

theorem FromOn.cons (hp : FromOn h n P) (hx : P x) : FromOn (x :: h) n P := by
  intro m e hm he
  rcases he.cons_cases with he | ⟨_, he⟩
  · exact hp m e hm he
  · rw [he]; exact hx

theorem FromOn.newest (hx : P x) : FromOn (x :: h) h.length P := by
  intro m e hm he
  rcases he.cons_cases with he | ⟨_, he⟩
  · exact absurd he.lt_length (Nat.not_lt_of_ge hm)
  · rw [he]; exact hx

/-- Every event between two positions satisfies a property. -/
def Between (h : List ε) (m n : Nat) (P : ε → Prop) : Prop :=
  ∀ k e, m ≤ k → k ≤ n → At h k e → P e

theorem FromOn.between (hp : FromOn h m P) (n : Nat) : Between h m n P :=
  fun k e hm _ he => hp k e hm he

theorem Between.cons {h : List ε} (hb : Between h m n P) (hn : n < h.length) (x : ε) :
    Between (x :: h) m n P := by
  intro k e hm hk he
  rcases he.cons_cases with he | ⟨hlast, _⟩
  · exact hb k e hm hk he
  · rw [hlast] at hk
    exact absurd hn (Nat.not_lt_of_ge hk)

/-- The event at a position satisfies a property. -/
def Shown (h : List ε) (n : Nat) (P : ε → Prop) : Prop := ∃ e, At h n e ∧ P e

theorem Shown.cons {h : List ε} (hs : Shown h n P) (x : ε) : Shown (x :: h) n P := by
  obtain ⟨e, he, hp⟩ := hs
  exact ⟨e, he.cons x, hp⟩

theorem Shown.newest (h : List ε) (hx : P x) : Shown (x :: h) h.length P :=
  ⟨x, At.newest x h, hx⟩

theorem Shown.lt_length (hs : Shown h n P) : n < h.length := by
  obtain ⟨e, he, _⟩ := hs
  exact he.lt_length

theorem Shown.older (hs : Shown (x :: h) n P) (hx : ¬P x) : n < h.length := by
  obtain ⟨e, he, hp⟩ := hs
  rcases he.cons_cases with he | ⟨_, he⟩
  · exact he.lt_length
  · rw [he] at hp
    exact absurd hp hx

/-- The events after the newest one that cuts the history, judged by what came before it. -/
def since (cuts : List ε → ε → Bool) : List ε → List ε
  | [] => []
  | e :: h => if cuts h e then [] else e :: since cuts h

theorem since_cut (h : List ε) (hc : cuts h e = true) : since cuts (e :: h) = [] := by
  simp only [since, hc, ↓reduceIte]

theorem since_keep (h : List ε) (hc : cuts h e = false) :
    since cuts (e :: h) = e :: since cuts h := by
  simp only [since, hc, Bool.false_eq_true, ↓reduceIte]

theorem since_subset (cuts : List ε → ε → Bool) (h : List ε) : since cuts h ⊆ h := by
  induction h with
  | nil => exact fun _ hx => hx
  | cons e h ih =>
    intro x hx
    rw [since] at hx
    split at hx
    · cases hx
    · rcases List.mem_cons.1 hx with hx | hx
      · exact List.mem_cons.2 (.inl hx)
      · exact List.mem_cons_of_mem e (ih hx)

/-- What the newest event that reports something reported. -/
def latest (report : ε → Option β) (h : List ε) : Option β := h.findSome? report

@[simp] theorem latest_nil (report : ε → Option β) : latest report [] = none := rfl

theorem latest_report (h : List ε) (hr : report e = some b) :
    latest report (e :: h) = some b := by
  simp only [latest, List.findSome?_cons, hr]

theorem latest_silent (h : List ε) (hr : report e = none) :
    latest report (e :: h) = latest report h := by
  simp only [latest, List.findSome?_cons, hr]

theorem latest_cons (report : ε → Option β) (e : ε) (h : List ε) :
    latest report (e :: h) = (report e).or (latest report h) := by
  simp only [latest, List.findSome?_cons]
  cases report e <;> rfl

theorem latest_filterMap (f : α → Option ε) (report : ε → Option β) (h : List α) :
    latest report (h.filterMap f) = latest (fun x => (f x).bind report) h := by
  induction h with
  | nil => rfl
  | cons x h ih =>
    rw [List.filterMap_cons, latest_cons]
    cases f x with
    | none => exact ih
    | some e => rw [latest_cons, ih]; rfl

theorem latest_filter {keep : ε → Bool} {h : List ε}
    (hs : ∀ e ∈ h, keep e = false → report e = none) :
    latest report (h.filter keep) = latest report h := by
  induction h with
  | nil => rfl
  | cons e h ih =>
    have ih := ih fun e he => hs e (List.mem_cons_of_mem _ he)
    cases hk : keep e with
    | true => rw [List.filter_cons_of_pos hk, latest_cons, latest_cons, ih]
    | false =>
      rw [List.filter_cons_of_neg (by rw [hk]; exact Bool.false_ne_true), ih,
        latest_silent h (hs e List.mem_cons_self hk)]

theorem filterMap_cons_toList (f : α → Option β) (x : α) (h : List α) :
    (x :: h).filterMap f = (f x).toList ++ h.filterMap f := by
  rw [List.filterMap_cons]
  cases f x <;> rfl

/-- When the newest verdicts that agree began, the one given now included. -/
def streakStart [DecidableEq β] (verdict : β) (now : τ) : List (τ × β) → τ
  | [] => now
  | (t, v) :: h => if v = verdict then streakStart verdict t h else now

@[simp] theorem streakStart_same [DecidableEq β] (verdict : β) (now t : τ) (h : List (τ × β)) :
    streakStart verdict now ((t, verdict) :: h) = streakStart verdict t h := if_pos rfl

theorem streakStart_change [DecidableEq β] {verdict v : β} (hv : v ≠ verdict) (now t : τ)
    (h : List (τ × β)) : streakStart verdict now ((t, v) :: h) = now := if_neg hv

/-- How often the verdict changed. -/
def changes [DecidableEq β] : List (τ × β) → Nat
  | [] | [_] => 0
  | (_, v) :: (t, w) :: h => changes ((t, w) :: h) + if v = w then 0 else 1

end Histories
