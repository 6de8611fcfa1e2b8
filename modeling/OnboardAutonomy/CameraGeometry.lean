import OnboardAutonomy.CameraCalibration
import OnboardAutonomy.LensDistortion
import OnboardAutonomy.TargetTracker

namespace OnboardAutonomy
open CameraCalibrationLoader Contraction ExactDouble LensDistortion
set_option autoImplicit true

def kIterationCount : Nat := 10

def kMinimumRadialScale : ℚ := 1 / 10 ^ 12

section Undistortion
variable (distortion : Vector Double 5)

/-- The coefficients come in the order k1, k2, p1, p2, k3. -/
def radialScale (x y : Double) : Double :=
  let radiusSquared := x * x + y * y
  let radiusFourth := radiusSquared * radiusSquared
  let radiusSixth := radiusFourth * radiusSquared
  .finite 1 + distortion[0] * radiusSquared + distortion[1] * radiusFourth +
    distortion[4] * radiusSixth

def tangentialX (x y : Double) : Double :=
  let radiusSquared := x * x + y * y
  .finite 2 * distortion[2] * x * y + distortion[3] * (radiusSquared + .finite 2 * x * x)

def tangentialY (x y : Double) : Double :=
  let radiusSquared := x * x + y * y
  distortion[2] * (radiusSquared + .finite 2 * y * y) + .finite 2 * distortion[3] * x * y

/-- One round of the inversion. -/
def undistortStep (distortedX distortedY x y : Double) :
    Except CalibrationError (Double × Double) :=
  let scale := radialScale distortion x y
  if !scale.isFinite || scale.abs.blt (.finite kMinimumRadialScale) then
    .error (.runtime "camera distortion cannot be inverted")
  else
    .ok ((distortedX - tangentialX distortion x y) / scale,
      (distortedY - tangentialY distortion x y) / scale)

def undistortRounds (distortedX distortedY : Double) :
    Nat → Double × Double → Except CalibrationError (Double × Double)
  | 0, point => .ok point
  | rounds + 1, point =>
    match undistortStep distortion distortedX distortedY point.1 point.2 with
    | .error error => .error error
    | .ok better => undistortRounds distortedX distortedY rounds better

end Undistortion

def undistortImagePoint (distorted : ImagePoint) (calibration : CameraCalibration) :
    Except CalibrationError ImagePoint :=
  match validateCameraCalibration calibration with
  | .error error => .error error
  | .ok _ =>
    if !distorted.xPx.isFinite || !distorted.yPx.isFinite then
      .error (.invalidArgument "distorted image point must be finite")
    else
      let distortedX := (distorted.xPx - calibration.cxPx) / calibration.fxPx
      let distortedY := (distorted.yPx - calibration.cyPx) / calibration.fyPx
      match undistortRounds calibration.distortion distortedX distortedY kIterationCount
          (distortedX, distortedY) with
      | .error error => .error error
      | .ok point =>
        let result : ImagePoint := {
          xPx := calibration.fxPx * point.1 + calibration.cxPx
          yPx := calibration.fyPx * point.2 + calibration.cyPx }
        if !result.xPx.isFinite || !result.yPx.isFinite then
          .error (.runtime "camera undistortion produced a non-finite point")
        else .ok result

/-- The coefficients are those of a lens. -/
structure Coefficients (distortion : Vector Double 5) (l : Lens ℚ) : Prop where
  k1 : distortion[0] = .finite l.k1
  k2 : distortion[1] = .finite l.k2
  p1 : distortion[2] = .finite l.p1
  p2 : distortion[3] = .finite l.p2
  k3 : distortion[4] = .finite l.k3

/-- The lens of a calibration. -/
def lensOf (c : CameraCalibration) : Lens ℚ where
  k1 := c.distortion[0].value
  k2 := c.distortion[1].value
  p1 := c.distortion[2].value
  p2 := c.distortion[3].value
  k3 := c.distortion[4].value

/-- Where a point of the plane is in the picture. -/
def pixel (c : CameraCalibration) (z : ℚ × ℚ) : ImagePoint where
  xPx := .finite (c.fxPx.value * z.1 + c.cxPx.value)
  yPx := .finite (c.fyPx.value * z.2 + c.cyPx.value)

/-- What a valid calibration has exact values for. -/
structure Calibrated (c : CameraCalibration) : Prop where
  fxPx : c.fxPx = .finite c.fxPx.value ∧ 0 < c.fxPx.value
  fyPx : c.fyPx = .finite c.fyPx.value ∧ 0 < c.fyPx.value
  cxPx : c.cxPx = .finite c.cxPx.value
  cyPx : c.cyPx = .finite c.cyPx.value
  distortion : Coefficients c.distortion (lensOf c)

theorem finite_value {d : Double} (hd : d.isFinite = true) : d = .finite d.value := by
  obtain ⟨q, hq⟩ := (Double.isFinite_iff d).1 hd
  rw [hq]
  rfl

theorem calibrated_of_valid {c : CameraCalibration} (hc : validateCameraCalibration c = .ok ()) :
    Calibrated c := by
  rw [validateCameraCalibration] at hc
  split at hc
  · cases hc
  rename_i hvalid
  simp only [not_or, Bool.not_eq_false, Bool.not_eq_true, Bool.and_eq_true] at hvalid
  obtain ⟨_, _, _, _, _, ⟨⟨⟨hfx, hfy⟩, hcx⟩, hcy⟩, hall, hfxp, hfyp, _⟩ := hvalid
  have hfx := finite_value hfx
  have hfy := finite_value hfy
  have hcoefficient : ∀ n, (hn : n < 5) → c.distortion[n] = .finite c.distortion[n].value := by
    intro n hn
    have hmem : c.distortion[n] ∈ c.distortion.toList :=
      Vector.mem_toList_iff.2 (Vector.getElem_mem hn)
    exact finite_value (List.all_eq_true.1 hall _ hmem)
  rw [hfx, Double.ble_finite, decide_eq_false_iff_not, not_le] at hfxp
  rw [hfy, Double.ble_finite, decide_eq_false_iff_not, not_le] at hfyp
  exact ⟨⟨hfx, hfxp⟩, ⟨hfy, hfyp⟩, finite_value hcx, finite_value hcy,
    hcoefficient 0 (by decide), hcoefficient 1 (by decide), hcoefficient 2 (by decide),
      hcoefficient 3 (by decide), hcoefficient 4 (by decide)⟩

section Exact
variable {distortion : Vector Double 5} {l : Lens ℚ}

theorem radialScale_finite (hd : Coefficients distortion l) (x y : ℚ) :
    radialScale distortion (.finite x) (.finite y) = .finite (l.radial (x, y)) := by
  simp only [radialScale, hd.k1, hd.k2, hd.k3, Double.add_finite, Double.mul_finite]
  rfl

theorem tangential_finite (hd : Coefficients distortion l) (x y : ℚ) :
    tangentialX distortion (.finite x) (.finite y) = .finite (l.tangential (x, y)).1 ∧
      tangentialY distortion (.finite x) (.finite y) = .finite (l.tangential (x, y)).2 := by
  simp only [tangentialX, tangentialY, hd.p1, hd.p2, Double.add_finite, Double.mul_finite]
  exact ⟨rfl, rfl⟩

theorem undistortStep_finite (hd : Coefficients distortion l) (d z : ℚ × ℚ)
    (hs : kMinimumRadialScale ≤ l.radial z) :
    undistortStep distortion (.finite d.1) (.finite d.2) (.finite z.1) (.finite z.2) =
      .ok (.finite (l.refine d z).1, .finite (l.refine d z).2) := by
  have hpositive : 0 < l.radial z := lt_of_lt_of_le (by decide +kernel) hs
  obtain ⟨htx, hty⟩ := tangential_finite hd z.1 z.2
  have habs : (Double.finite (l.radial z)).abs = .finite (l.radial z) := by
    rw [Double.abs, Double.blt_finite, decide_eq_false (not_lt.2 hpositive.le)]
    rfl
  rw [undistortStep, radialScale_finite hd, htx, hty]
  rw [habs, Double.blt_finite, decide_eq_false (not_lt.2 hs), Double.sub_finite,
    Double.sub_finite, Double.div_finite hpositive.ne', Double.div_finite hpositive.ne']
  rfl

/-- As long as the radial scale does not degenerate the rounds are exact guesses. -/
theorem undistortRounds_finite (hd : Coefficients distortion l) (d z : ℚ × ℚ) (rounds : Nat)
    (hs : ∀ n < rounds, kMinimumRadialScale ≤ l.radial ((l.refine d)^[n] z)) :
    undistortRounds distortion (.finite d.1) (.finite d.2) rounds (.finite z.1, .finite z.2) =
      .ok (.finite ((l.refine d)^[rounds] z).1, .finite ((l.refine d)^[rounds] z).2) := by
  induction rounds generalizing z with
  | zero => rfl
  | succ rounds ih =>
    rw [undistortRounds, undistortStep_finite hd d z (hs 0 (Nat.succ_pos rounds))]
    exact ih _ fun n hn => hs (n + 1) (Nat.succ_lt_succ hn)

end Exact

/-- What a lens with mild coefficients has moved by at most `e` is moved back, up to a power of the
factor by which it contracts. -/
theorem undistorts_near {c : CameraCalibration} {r q e least : ℚ} {z : ℚ × ℚ}
    (hc : validateCameraCalibration c = .ok ()) (hl : (lensOf c).Mild r q least)
    (hleast : kMinimumRadialScale ≤ least) (hz : |z.1| + e ≤ r ∧ |z.2| + e ≤ r)
    (hmoved : Near e ((lensOf c).distort z) z) :
    ∃ x y, undistortImagePoint (pixel c ((lensOf c).distort z)) c = .ok (pixel c (x, y)) ∧
      Near (q ^ kIterationCount * e) (x, y) z := by
  have hcalibrated := calibrated_of_valid hc
  have hguesses := hl.guesses_near hz hmoved
  have hrounds := undistortRounds_finite hcalibrated.distortion ((lensOf c).distort z)
    ((lensOf c).distort z) kIterationCount fun n _ => hleast.trans (hguesses n).2
  have hback : ∀ f o d : ℚ, 0 < f → (f * d + o - o) / f = d := by
    intro f o d hf
    rw [add_sub_cancel_right, mul_div_cancel_left₀ d hf.ne']
  obtain ⟨hfx, hfxp⟩ := hcalibrated.fxPx
  obtain ⟨hfy, hfyp⟩ := hcalibrated.fyPx
  have hnear := (hguesses kIterationCount).1
  generalize ((lensOf c).refine ((lensOf c).distort z))^[kIterationCount] ((lensOf c).distort z) =
    guess at hnear hrounds
  refine ⟨guess.1, guess.2, ?_, hnear⟩
  rw [undistortImagePoint, hc, pixel, hfx, hfy, hcalibrated.cxPx, hcalibrated.cyPx]
  simp only [Double.value_finite, Double.sub_finite, Double.div_finite hfxp.ne',
    Double.div_finite hfyp.ne', hback _ _ _ hfxp, hback _ _ _ hfyp, hrounds]
  rfl

/-- The calibration and the point that the round trip is tested with. -/
def distortedCalibration : CameraCalibration where
  cameraModel := "synthetic"
  imageWidth := 320
  imageHeight := 240
  focusMode := "fixed"
  lensPosition := "test"
  fxPx := .finite 300
  fyPx := .finite 300
  cxPx := .finite (319 / 2)
  cyPx := .finite (239 / 2)
  distortion := #v[.finite (8 / 100), .finite (-3 / 100), .finite (2 / 1000), .finite (-1 / 1000),
    .finite (1 / 100)]

theorem undistorts_near_source :
    let lens := lensOf distortedCalibration
    let source : ℚ × ℚ := (31 / 100, -24 / 100)
    ∃ x y, undistortImagePoint (pixel distortedCalibration (lens.distort source))
        distortedCalibration = .ok (pixel distortedCalibration (x, y)) ∧
      Near ((1 / 10) ^ kIterationCount * (1 / 100)) (x, y) source := by
  have hvalid : validateCameraCalibration distortedCalibration = .ok () :=
    if_neg (by decide +kernel)
  have hmild : (lensOf distortedCalibration).Mild (2 / 5) (1 / 10) (9 / 10) :=
    ⟨by decide +kernel, by decide +kernel, by decide +kernel, by decide +kernel⟩
  exact undistorts_near hvalid hmild (by decide +kernel) (by decide +kernel) (by decide +kernel)

end OnboardAutonomy
