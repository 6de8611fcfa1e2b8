import Mathlib.Algebra.Order.Ring.Rat

namespace ExactDouble
set_option autoImplicit true

/-- A double with exact finite values: rounding and signed zeros are left out, the non-finite
values and the way comparisons treat them are kept. -/
inductive Double where
  | finite (q : ℚ)
  | posInf
  | negInf
  | nan
deriving DecidableEq, Repr

namespace Double

instance : Inhabited Double := ⟨.finite 0⟩

def isFinite : Double → Bool
  | .finite _ => true
  | _ => false

/-- A finite value, zero for the others. -/
def value : Double → ℚ
  | .finite q => q
  | _ => 0

/-- The comparison `<`, false as soon as one side is not a number. -/
def blt : Double → Double → Bool
  | .finite a, .finite b => decide (a < b)
  | .negInf, .finite _ => true
  | .negInf, .posInf => true
  | .finite _, .posInf => true
  | _, _ => false

/-- The comparison `==`, under which `nan` differs from itself. -/
def beq : Double → Double → Bool
  | .finite a, .finite b => decide (a = b)
  | .posInf, .posInf => true
  | .negInf, .negInf => true
  | _, _ => false

/-- The comparison `<=`. -/
def ble (a b : Double) : Bool := blt a b || beq a b

def neg : Double → Double
  | .finite a => .finite (-a)
  | .posInf => .negInf
  | .negInf => .posInf
  | .nan => .nan

def add : Double → Double → Double
  | .finite a, .finite b => .finite (a + b)
  | .nan, _ => .nan
  | _, .nan => .nan
  | .posInf, .negInf => .nan
  | .negInf, .posInf => .nan
  | .finite _, b => b
  | a, _ => a

/-- An infinity of the sign of the argument, not a number at zero. -/
def infinityOf (q : ℚ) : Double :=
  if 0 < q then .posInf else if q < 0 then .negInf else .nan

def mul : Double → Double → Double
  | .finite a, .finite b => .finite (a * b)
  | .nan, _ => .nan
  | _, .nan => .nan
  | .posInf, .finite b => infinityOf b
  | .negInf, .finite b => infinityOf (-b)
  | .finite a, .posInf => infinityOf a
  | .finite a, .negInf => infinityOf (-a)
  | .posInf, .posInf => .posInf
  | .negInf, .negInf => .posInf
  | .posInf, .negInf => .negInf
  | .negInf, .posInf => .negInf

/-- Division; a zero divisor counts as positive. -/
def div : Double → Double → Double
  | .finite a, .finite b => if b = 0 then infinityOf a else .finite (a / b)
  | .nan, _ => .nan
  | _, .nan => .nan
  | .finite _, .posInf => .finite 0
  | .finite _, .negInf => .finite 0
  | .posInf, .finite b => if b < 0 then .negInf else .posInf
  | .negInf, .finite b => if b < 0 then .posInf else .negInf
  | _, _ => .nan

instance : Add Double := ⟨add⟩
instance : Mul Double := ⟨mul⟩
instance : Div Double := ⟨div⟩
instance : Neg Double := ⟨neg⟩
instance : Sub Double := ⟨fun a b => a + -b⟩

/-- `std::max`: the first argument unless it is below the second. -/
def max (a b : Double) : Double := if blt a b then b else a

def abs (a : Double) : Double := if blt a (.finite 0) then -a else a

@[simp] theorem isFinite_finite (q : ℚ) : (Double.finite q).isFinite = true := rfl

theorem isFinite_iff (a : Double) : a.isFinite = true ↔ ∃ q, a = .finite q := by
  constructor
  · intro h
    cases a with
    | finite q => exact ⟨q, rfl⟩
    | posInf => cases h
    | negInf => cases h
    | nan => cases h
  · intro ⟨q, h⟩
    rw [h]
    rfl

@[simp] theorem value_finite (q : ℚ) : value (.finite q) = q := rfl

@[simp] theorem blt_finite (a b : ℚ) : blt (.finite a) (.finite b) = decide (a < b) := rfl

theorem ble_finite (a b : ℚ) : ble (.finite a) (.finite b) = decide (a ≤ b) := by
  rw [ble, blt_finite, beq]
  by_cases h : a ≤ b
  · rw [decide_eq_true h]
    rcases lt_or_eq_of_le h with h | h
    · rw [decide_eq_true h, Bool.true_or]
    · rw [decide_eq_true h, Bool.or_true]
  · rw [decide_eq_false h, decide_eq_false fun hlt => h (le_of_lt hlt),
      decide_eq_false fun heq => h (le_of_eq heq), Bool.or_false]

@[simp] theorem add_finite (a b : ℚ) : Double.finite a + .finite b = .finite (a + b) := rfl

@[simp] theorem mul_finite (a b : ℚ) : Double.finite a * .finite b = .finite (a * b) := rfl

theorem div_finite {b : ℚ} (hb : b ≠ 0) (a : ℚ) :
    Double.finite a / .finite b = .finite (a / b) := if_neg hb

@[simp] theorem sub_finite (a b : ℚ) : Double.finite a - .finite b = .finite (a - b) := by
  rw [sub_eq_add_neg]
  rfl

end Double

end ExactDouble
