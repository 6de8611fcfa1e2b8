import OnboardAutonomy.NearIsometry
import OnboardAutonomy.TargetTransform
import Mathlib.Algebra.BigOperators.Fin

namespace OnboardAutonomy
open ExactDouble NearIsometry
set_option autoImplicit true

/-- The extrinsics are a rotation and an origin in exact numbers. -/
structure CameraExtrinsics.Exact (extrinsics : CameraExtrinsics)
    (rotation : Matrix (Fin 3) (Fin 3) ℚ) (origin : Fin 3 → ℚ) : Prop where
  rotation : ∀ row column,
    rotationEntry extrinsics.rotationCameraToBody row column = .finite (rotation row column)
  origin : extrinsics.cameraOriginInBody = .exact origin

theorem validateCameraExtrinsics_exact (h : validateCameraExtrinsics extrinsics = none) :
    ∃ rotation origin, extrinsics.Exact rotation origin := by
  rw [validateCameraExtrinsics] at h
  dsimp only at h
  split at h
  · cases h
  rename_i hfinite
  simp only [Bool.or_eq_true, Bool.not_eq_true', not_or, Bool.not_eq_false, List.all_eq_true,
    List.mem_finRange, true_implies, Double.isFinite_iff] at hfinite
  obtain ⟨⟨⟨hrotation, x, hx⟩, y, hy⟩, z, hz⟩ := hfinite
  choose entry hentry using hrotation
  refine ⟨fun row column => entry ⟨row.val * 3 + column.val, by omega⟩, ![x, y, z], ?_, ?_⟩
  · intro row column
    exact hentry _
  · cases ho : extrinsics.cameraOriginInBody
    rw [ho] at hx hy hz
    dsimp only at hx hy hz
    rw [hx, hy, hz]
    rfl

theorem rotateRow_exact {rotation : Matrix (Fin 3) (Fin 3) ℚ}
    (he : CameraExtrinsics.Exact extrinsics rotation origin) (v : Fin 3 → ℚ) (row : Fin 3) :
    rotateRow extrinsics.rotationCameraToBody (.exact v) row =
      .finite (rotation.mulVec v row) := by
  have hcoordinate (column : Fin 3) : cameraCoordinate (.exact v) column = .finite (v column) := by
    match column with
    | 0 => rfl
    | 1 => rfl
    | 2 => rfl
  have hcolumns : List.finRange 3 = [0, 1, 2] := rfl
  rw [rotateRow, hcolumns]
  simp only [List.foldl_cons, List.foldl_nil, he.rotation, hcoordinate, Double.mul_finite,
    Double.add_finite, Matrix.mulVec, dotProduct, Fin.sum_univ_three, zero_add]

/-- What the transform computes is the rigid transform. -/
theorem cameraToBodyFrd_exact (v : Fin 3 → ℚ)
    (h : cameraToBodyFrd (.exact v) extrinsics = .ok target) :
    ∃ rotation origin, extrinsics.Exact rotation origin ∧
      target = .exact (rotation.mulVec v + origin) := by
  rw [cameraToBodyFrd] at h
  split at h
  · cases h
  rename_i hvalid
  split at h
  · cases h
  obtain ⟨rotation, origin, he⟩ := validateCameraExtrinsics_exact hvalid
  refine ⟨rotation, origin, he, ?_⟩
  cases h
  rw [rotateRow_exact he, rotateRow_exact he, rotateRow_exact he, he.origin]
  rfl

theorem rowDot_exact {rotation : Matrix (Fin 3) (Fin 3) ℚ}
    (he : CameraExtrinsics.Exact extrinsics rotation origin) (first second : Fin 3) :
    rowDot extrinsics.rotationCameraToBody first second =
      .finite ((rotation * rotation.transpose) first second) := by
  have hcolumns : List.finRange 3 = [0, 1, 2] := rfl
  rw [rowDot, hcolumns]
  simp only [List.foldl_cons, List.foldl_nil, he.rotation, Double.mul_finite, Double.add_finite,
    Matrix.mul_apply, Matrix.transpose_apply, Fin.sum_univ_three, zero_add]

theorem beyondTolerance_exact (a b : ℚ) :
    beyondTolerance (.finite a) (.finite b) = decide (1 / 1000000 < |a - b|) := by
  rw [beyondTolerance, Double.sub_finite, Double.abs, Double.blt_finite]
  by_cases h : a - b < 0
  · rw [decide_eq_true h, if_pos rfl, abs_of_neg h]
    rfl
  · rw [decide_eq_false h, if_neg (by decide), abs_of_nonneg (not_lt.1 h)]
    rfl

theorem validateCameraExtrinsics_rows {rotation : Matrix (Fin 3) (Fin 3) ℚ}
    (h : validateCameraExtrinsics extrinsics = none)
    (he : CameraExtrinsics.Exact extrinsics rotation origin) (i j : Fin 3) :
    |(rotation * rotation.transpose - 1) i j| ≤ 1 / 1000000 := by
  rw [validateCameraExtrinsics] at h
  dsimp only at h
  split at h
  · cases h
  rw [Option.or_eq_none_iff, List.findSome?_eq_none_iff] at h
  have hrow (row : Fin 3) := h.1 row (List.mem_finRange row)
  have hunit (row : Fin 3) : |(rotation * rotation.transpose - 1) row row| ≤ 1 / 1000000 := by
    have hr := hrow row
    split at hr
    · cases hr
    rename_i hlength
    rw [rowDot_exact he, beyondTolerance_exact, decide_eq_true_eq, not_lt] at hlength
    simpa only [Matrix.sub_apply, Matrix.one_apply_eq] using hlength
  have hbelow (row other : Fin 3) (hlt : row < other) :
      |(rotation * rotation.transpose - 1) row other| ≤ 1 / 1000000 := by
    have hr := hrow row
    split at hr
    · cases hr
    split at hr
    · cases hr
    rename_i hothers
    rw [Bool.not_eq_true, List.any_eq_false] at hothers
    have hother := hothers other (List.mem_finRange other)
    rw [rowDot_exact he, beyondTolerance_exact, Bool.and_eq_true, decide_eq_true_eq,
      decide_eq_true_eq, not_and, not_lt] at hother
    simpa only [Matrix.sub_apply, Matrix.one_apply_ne hlt.ne] using hother hlt
  rcases lt_trichotomy i j with hlt | rfl | hlt
  · exact hbelow i j hlt
  · exact hunit i
  · have hsymm : (rotation * rotation.transpose - 1).transpose =
        rotation * rotation.transpose - 1 := by
      rw [Matrix.transpose_sub, Matrix.transpose_mul, Matrix.transpose_transpose,
        Matrix.transpose_one]
    have hji := hbelow j i hlt
    rwa [← hsymm, Matrix.transpose_apply] at hji

/-- Valid extrinsics apply a rotation that nearly keeps lengths, and add the origin. -/
theorem validateCameraExtrinsics_near (h : validateCameraExtrinsics extrinsics = none) :
    ∃ (rotation : Matrix (Fin 3) (Fin 3) ℚ) (origin : Fin 3 → ℚ),
      extrinsics.cameraOriginInBody = .exact origin ∧ Near (3 / 1000000) rotation ∧
      ∀ v, cameraToBodyFrd (.exact v) extrinsics = .ok (.exact (rotation.mulVec v + origin)) := by
  obtain ⟨rotation, origin, he⟩ := validateCameraExtrinsics_exact h
  have hnear := near_of_transpose
    (near_transpose_of_rows rotation (validateCameraExtrinsics_rows h he))
  have hbound : (Fintype.card (Fin 3) : ℚ) * (1 / 1000000) = 3 / 1000000 := by
    rw [Fintype.card_fin]
    norm_num
  rw [hbound] at hnear
  refine ⟨rotation, origin, he.origin, hnear, ?_⟩
  intro v
  have hfinite : finitePosition (.exact v) = true := rfl
  simp only [cameraToBodyFrd, h, hfinite, Bool.not_true, Bool.false_eq_true, if_false]
  rw [rotateRow_exact he, rotateRow_exact he, rotateRow_exact he, he.origin]
  rfl

/-- Accepted extrinsics change the square of a distance by at most three millionths of it, lose
no point and put the camera where they say it is. -/
theorem camera_to_body_nearly_rigid (h : validateCameraExtrinsics extrinsics = none) :
    ∃ T : (Fin 3 → ℚ) → (Fin 3 → ℚ),
      (∀ p, cameraToBodyFrd (.exact p) extrinsics = .ok (.exact (T p))) ∧
      (∀ p q, |lengthSq (T p - T q) - lengthSq (p - q)| ≤ 3 / 1000000 * lengthSq (p - q)) ∧
      Function.Injective T ∧ .exact (T 0) = extrinsics.cameraOriginInBody := by
  obtain ⟨rotation, origin, horigin, hnear, htransform⟩ := validateCameraExtrinsics_near h
  refine ⟨fun v => rotation.mulVec v + origin, htransform, ?_, ?_, ?_⟩
  · intro p q
    rw [add_sub_add_right_eq_sub, ← Matrix.mulVec_sub]
    exact hnear (p - q)
  · intro p q hpq
    exact hnear.injective (by norm_num) (add_right_cancel hpq)
  · dsimp only
    rw [Matrix.mulVec_zero, zero_add, horigin]

/-- A camera that looks down from below the vehicle. -/
def downwardCamera : CameraExtrinsics where
  rotationCameraToBody := fun i => .finite (![0, -1, 0, 1, 0, 0, 0, 0, 1] i)
  cameraOriginInBody := { downM := .finite (16 / 100) }

theorem camera_to_body_nearly_rigid_downward :
    validateCameraExtrinsics downwardCamera = none ∧ ∃ T : (Fin 3 → ℚ) → (Fin 3 → ℚ),
      (∀ p, cameraToBodyFrd (.exact p) downwardCamera = .ok (.exact (T p))) ∧
      (∀ p q, |lengthSq (T p - T q) - lengthSq (p - q)| ≤ 3 / 1000000 * lengthSq (p - q)) ∧
      Function.Injective T ∧ .exact (T 0) = downwardCamera.cameraOriginInBody :=
  ⟨by decide +kernel, camera_to_body_nearly_rigid (by decide +kernel)⟩

end OnboardAutonomy
