import OnboardAutonomy.Contraction

namespace LensDistortion
open Contraction
set_option autoImplicit true

/-- The radial and tangential coefficients of a lens. -/
structure Lens (K : Type u) where
  k1 : K
  k2 : K
  p1 : K
  p2 : K
  k3 : K

section Model
variable {K : Type} [Field K]

def radiusSquared (z : K × K) : K := z.1 * z.1 + z.2 * z.2

namespace Lens

def radial (l : Lens K) (z : K × K) : K :=
  1 + l.k1 * radiusSquared z + l.k2 * (radiusSquared z * radiusSquared z) +
    l.k3 * (radiusSquared z * radiusSquared z * radiusSquared z)

def tangential (l : Lens K) (z : K × K) : K × K :=
  (2 * l.p1 * z.1 * z.2 + l.p2 * (radiusSquared z + 2 * z.1 * z.1),
    l.p1 * (radiusSquared z + 2 * z.2 * z.2) + 2 * l.p2 * z.1 * z.2)

/-- Where the lens moves a point of the plane. -/
def distort (l : Lens K) (z : K × K) : K × K :=
  (z.1 * l.radial z + (l.tangential z).1, z.2 * l.radial z + (l.tangential z).2)

/-- A guess at the point that was moved to `d`, made from the guess `z`. -/
def refine (l : Lens K) (d z : K × K) : K × K :=
  ((d.1 - (l.tangential z).1) / l.radial z, (d.2 - (l.tangential z).2) / l.radial z)

end Lens

end Model

section Bounds
variable {K : Type} [Field K] [LinearOrder K] [IsStrictOrderedRing K]

namespace Lens

/-- How far the radial scale is from one within a distance of the axis. -/
def deviation (l : Lens K) (r : K) : K :=
  2 * r ^ 2 * |l.k1| + 4 * r ^ 4 * |l.k2| + 8 * r ^ 6 * |l.k3|

/-- How fast the radial scale changes within a distance of the axis. -/
def slope (l : Lens K) (r : K) : K :=
  4 * r * |l.k1| + 16 * r ^ 3 * |l.k2| + 48 * r ^ 5 * |l.k3|

/-- How fast the tangential shift changes within a distance of the axis. -/
def shear (l : Lens K) (r : K) : K := 8 * r * (|l.p1| + |l.p2|)

/-- Coefficients small enough, beside the least radial scale, for the lens to be inverted within a
distance of the axis, each guess being better by a factor. -/
structure Mild (l : Lens K) (r q least : K) : Prop where
  positive : 0 < least
  scale : l.deviation r + least ≤ 1
  factor : 0 ≤ q ∧ q ≤ 1
  contracts : r * l.slope r + l.shear r ≤ q * least

end Lens

variable {l : Lens K} {r e x : K} {w z : K × K}

/-- Two points within a distance of the axis that are near each other. -/
structure Neighbours (r e : K) (z w : K × K) : Prop where
  fst : Close r e z.1 w.1
  snd : Close r e z.2 w.2

theorem Neighbours.radiusSquared (h : Neighbours r e z w) :
    Close (2 * r ^ 2) (4 * r * e) (radiusSquared z) (radiusSquared w) := by
  have hsum := (h.fst.mul h.fst).add (h.snd.mul h.snd)
  have hsize : r * r + r * r = 2 * r ^ 2 := by ring
  have hgap : r * e + r * e + (r * e + r * e) = 4 * r * e := by ring
  rw [hsize, hgap] at hsum
  exact hsum

theorem Neighbours.radial (h : Neighbours r e z w) :
    |l.radial z - l.radial w| ≤ l.slope r * e := by
  have hs := h.radiusSquared
  have h1 := (Close.const l.k1).mul hs
  have h2 := (Close.const l.k2).mul (hs.mul hs)
  have h3 := (Close.const l.k3).mul ((hs.mul hs).mul hs)
  have hsum := ((((Close.const 1).add h1).add h2).add h3).gap
  apply hsum.trans_eq
  rw [Lens.slope]
  ring

theorem Neighbours.deviation (h : Neighbours r e z w) : |l.radial z - 1| ≤ l.deviation r := by
  have hs := h.radiusSquared
  have h1 := (Close.const l.k1).mul hs
  have h2 := (Close.const l.k2).mul (hs.mul hs)
  have h3 := (Close.const l.k3).mul ((hs.mul hs).mul hs)
  have hleft := ((h1.add h2).add h3).left
  have hradial : l.radial z - 1 = l.k1 * LensDistortion.radiusSquared z +
      l.k2 * (LensDistortion.radiusSquared z * LensDistortion.radiusSquared z) +
      l.k3 * (LensDistortion.radiusSquared z * LensDistortion.radiusSquared z *
        LensDistortion.radiusSquared z) := by
    rw [Lens.radial]
    ring
  rw [hradial]
  apply hleft.trans_eq
  rw [Lens.deviation]
  ring

theorem Neighbours.tangential (h : Neighbours r e z w) :
    Near (l.shear r * e) (l.tangential z) (l.tangential w) := by
  have hs := h.radiusSquared
  have hr := h.fst.size_nonneg
  have he := (abs_nonneg _).trans h.fst.gap
  have hp1 := mul_nonneg (mul_nonneg hr he) (abs_nonneg l.p1)
  have hp2 := mul_nonneg (mul_nonneg hr he) (abs_nonneg l.p2)
  have h2 : |(2 : K)| = 2 := abs_two
  have hfirst := ((((Close.const (2 * l.p1)).mul h.fst).mul h.snd).add ((Close.const l.p2).mul
    (hs.add (((Close.const 2).mul h.fst).mul h.fst)))).gap
  have hsecond := (((Close.const l.p1).mul (hs.add (((Close.const 2).mul h.snd).mul h.snd))).add
    (((Close.const (2 * l.p2)).mul h.fst).mul h.snd)).gap
  rw [abs_mul, h2] at hfirst hsecond
  rw [Lens.shear]
  refine ⟨hfirst.trans ?_, hsecond.trans ?_⟩
  · linarith
  · linarith

theorem refine_coordinate {scale scale' shift shift' ds dt bound : K} (hx : |x| ≤ r)
    (hpositive : 0 < scale) (hs : |scale - scale'| ≤ ds) (ht : |shift - shift'| ≤ dt)
    (hbound : r * ds + dt ≤ bound * scale) :
    |(x * scale' + shift' - shift) / scale - x| ≤ bound := by
  have hsplit : (x * scale' + shift' - shift) / scale - x =
      (x * (scale' - scale) + (shift' - shift)) / scale := by
    rw [div_sub' hpositive.ne']
    congr 1
    ring
  rw [hsplit, abs_div, abs_of_pos hpositive, div_le_iff₀ hpositive]
  rw [abs_sub_comm] at hs ht
  calc |x * (scale' - scale) + (shift' - shift)|
      ≤ |x * (scale' - scale)| + |shift' - shift| := abs_add_le _ _
    _ ≤ r * ds + dt := by
        rw [abs_mul]
        exact add_le_add (mul_le_mul hx hs (abs_nonneg _) ((abs_nonneg x).trans hx)) ht
    _ ≤ bound * scale := hbound

/-- A guess near the point that was moved is made better by the factor. -/
theorem Lens.Mild.refine_near {q least : K} (hl : l.Mild r q least) (hz : Neighbours r e z w) :
    least ≤ l.radial z ∧ Near (q * e) (l.refine (l.distort w) z) w := by
  have hradial : least ≤ l.radial z := by
    have hdeviation := abs_le.1 (hz.deviation (l := l))
    linarith [hl.scale, hdeviation.1]
  have hpositive := hl.positive.trans_le hradial
  have he := (abs_nonneg _).trans hz.fst.gap
  have hslope := hz.radial (l := l)
  obtain ⟨htx, hty⟩ := hz.tangential (l := l)
  have hbound : r * (l.slope r * e) + l.shear r * e ≤ q * e * l.radial z := by
    have hcontracts := mul_le_mul_of_nonneg_right hl.contracts he
    have hscale := mul_le_mul_of_nonneg_left hradial (mul_nonneg hl.factor.1 he)
    linarith
  exact ⟨hradial, refine_coordinate hz.fst.right hpositive hslope htx hbound,
    refine_coordinate hz.snd.right hpositive hslope hty hbound⟩

theorem neighbours_of_near {d : K} (hw : |w.1| + e ≤ r ∧ |w.2| + e ≤ r) (hde : d ≤ e)
    (hz : Near d z w) : Neighbours r d z w := by
  have hcoordinate : ∀ x y : K, |y| + e ≤ r → |x - y| ≤ d → Close r d x y := by
    intro x y hy hgap
    have hx := abs_sub_abs_le_abs_sub x y
    have hd := (abs_nonneg _).trans hgap
    refine ⟨?_, ?_, hgap⟩
    · linarith
    · linarith
  exact ⟨hcoordinate z.1 w.1 hw.1 hz.1, hcoordinate z.2 w.2 hw.2 hz.2⟩

/-- Where a lens is mild around a point, the guesses from where it was moved to come closer to it
by a power of the factor, and none of them is at a degenerate scale. -/
theorem Lens.Mild.guesses_near {q least : K} (hl : l.Mild r q least)
    (hw : |w.1| + e ≤ r ∧ |w.2| + e ≤ r) (hmoved : Near e (l.distort w) w) (n : Nat) :
    Near (q ^ n * e) ((l.refine (l.distort w))^[n] (l.distort w)) w ∧
      least ≤ l.radial ((l.refine (l.distort w))^[n] (l.distort w)) := by
  have he := (abs_nonneg _).trans hmoved.1
  have hnear : Near (q ^ n * e) ((l.refine (l.distort w))^[n] (l.distort w)) w := by
    apply iterate_near hl.factor.1 hl.factor.2 he _ hmoved
    intro d z _ hde hz
    exact (hl.refine_near (neighbours_of_near hw hde hz)).2
  have hle : q ^ n * e ≤ e :=
    mul_le_of_le_one_left he (pow_le_one₀ hl.factor.1 hl.factor.2)
  exact ⟨hnear, (hl.refine_near (neighbours_of_near hw hle hnear)).1⟩

end Bounds

end LensDistortion
