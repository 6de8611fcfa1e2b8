import OnboardAutonomy.CameraCalibration
import Mathlib.Tactic.Positivity

namespace OnboardAutonomy
open ExactDouble JsonDocument
set_option autoImplicit true

/-- The matrix of a pinhole camera with finite entries. -/
def pinhole (fx fy cx cy : ℚ) : List (List Double) :=
  [[.finite fx, .finite 0, .finite cx], [.finite 0, .finite fy, .finite cy],
    [.finite 0, .finite 0, .finite 1]]

namespace CameraCalibrationLoader

section Documents
variable {tools : CalibrationTools} {a : CalibrationArguments} {m : Double}
  {accepted : List Value} {fx fy cx cy : ℚ}

theorem close_self (q : ℚ) : close (.finite q) (.finite q) = true := by
  have hzero : Double.abs (.finite 0) = .finite 0 := rfl
  rw [close, Double.sub_finite, sub_self, hzero, Double.ble_finite, decide_eq_true_iff,
    kMatrixTolerance]
  positivity

theorem supportedSchema (fx fy cx cy : Double) :
    requireSupportedSchema (calibrationDocument tools a m accepted fx fy cx cy) = .ok () := rfl

theorem qualityPass (fx fy cx cy : Double) :
    requireQualityPass (calibrationDocument tools a m accepted fx fy cx cy) =
      if (qualityChecks a m).all then .ok ()
      else .error (.runtime "camera calibration did not pass its quality gates") := by
  have htests : requireQualityPass (calibrationDocument tools a m accepted fx fy cx cy) =
      require "camera calibration did not pass its quality gates" [
        .ok ((if (qualityChecks a m).all then "PASS" else "FAIL") == "PASS"),
        .ok (qualityChecks a m).minimumViewsReached, .ok (qualityChecks a m).rmsErrorWithinLimit,
        .ok (qualityChecks a m).everyViewErrorWithinLimit] := rfl
  rw [htests, QualityChecks.all]
  cases (qualityChecks a m).minimumViewsReached with
  | false => rfl
  | true =>
    cases (qualityChecks a m).rmsErrorWithinLimit with
    | false => rfl
    | true => cases (qualityChecks a m).everyViewErrorWithinLimit <;> rfl

/-- What the loader makes of the members of a document. -/
def loaded (a : CalibrationArguments) (fx fy cx cy : ℚ) (distortion : Vector Double 5) :
    CameraCalibration where
  cameraModel := a.cameraModel
  imageWidth := .ofInt a.views.imageSize.1
  imageHeight := .ofInt a.views.imageSize.2
  focusMode := a.focusMode
  lensPosition := a.lensPosition
  fxPx := .finite fx
  fyPx := .finite fy
  cxPx := .finite cx
  cyPx := .finite cy
  distortion := distortion

theorem consistentMatrix {intrinsics : Value} {distortion : Vector Double 5}
    (h : intrinsics.find ["camera_matrix"] =
      .ok (.array ((pinhole fx fy cx cy).map fun row => .array (row.map .float)))) :
    requireConsistentMatrix intrinsics (loaded a fx fy cx cy distortion) = .ok () := by
  have hmatrix : intrinsics.getArrayAt ["camera_matrix"] 3 (Value.getArray 3 Value.getDouble) =
      .ok #v[#v[.finite fx, .finite 0, .finite cx], #v[.finite 0, .finite fy, .finite cy],
        #v[.finite 0, .finite 0, .finite 1]] := by
    rw [Value.getArrayAt, h]
    rfl
  rw [requireConsistentMatrix, hmatrix]
  change (if close (.finite fx) (.finite fx) && close (.finite fy) (.finite fy) &&
    close (.finite cx) (.finite cx) && close (.finite cy) (.finite cy) &&
    close (.finite 0) (.finite 0) && close (.finite 0) (.finite 0) &&
    close (.finite 0) (.finite 0) && close (.finite 0) (.finite 0) &&
    close (.finite 1) (.finite 1) then _ else _) = _
  rw [close_self, close_self, close_self, close_self, close_self, close_self]
  rfl

theorem parseDocument_eq (hm : a.solution.cameraMatrix = pinhole fx fy cx cy) :
    parseDocument (calibrationDocument tools a m accepted (.finite fx) (.finite fy) (.finite cx)
      (.finite cy)) =
    if (qualityChecks a m).all then
      (json (Value.getArray 5 Value.getDouble
        (.array (a.solution.distortionCoefficients.map .float)))).bind fun distortion =>
        (validateCameraCalibration (loaded a fx fy cx cy distortion)).map
          fun _ => loaded a fx fy cx cy distortion
    else .error (.runtime "camera calibration did not pass its quality gates") := by
  rw [parseDocument, supportedSchema, qualityPass]
  split
  · let intrinsics : Value := .object [
      ("fx_px", .float (.finite fx)),
      ("fy_px", .float (.finite fy)),
      ("cx_px", .float (.finite cx)),
      ("cy_px", .float (.finite cy)),
      ("camera_matrix", .array (a.solution.cameraMatrix.map fun row => .array (row.map .float)))]
    have hmatrix : intrinsics.find ["camera_matrix"] =
        .ok (.array ((pinhole fx fy cx cy).map fun row => .array (row.map .float))) := by
      rw [← hm]
      rfl
    change ((json (Value.getArray 5 Value.getDouble
        (.array (a.solution.distortionCoefficients.map .float)))).bind fun distortion =>
      (requireConsistentMatrix intrinsics (loaded a fx fy cx cy distortion)).bind fun _ =>
        (validateCameraCalibration (loaded a fx fy cx cy distortion)).bind fun _ =>
          .ok (loaded a fx fy cx cy distortion)) = _
    congr 1
    funext distortion
    rw [consistentMatrix hmatrix]
    cases validateCameraCalibration (loaded a fx fy cx cy distortion) <;> rfl
  · rfl

/-- The principal point lies in the picture. -/
def InPicture (c : ℚ) (size : UInt32) : Prop := 0 ≤ c ∧ c < size.toNat

theorem InPicture.size_ne (h : InPicture c size) : size ≠ 0 := by
  rintro rfl
  exact absurd (lt_of_le_of_lt h.1 h.2) (lt_irrefl 0)

theorem validate_loaded_iff {distortion : Vector Double 5} (fx fy cx cy : ℚ)
    (hmodel : a.cameraModel ≠ "") (hfocus : a.focusMode ≠ "") (hlens : a.lensPosition ≠ "")
    (hdistortion : ∀ c ∈ distortion.toList, c.isFinite = true) :
    validateCameraCalibration (loaded a fx fy cx cy distortion) = .ok () ↔
      0 < fx ∧ 0 < fy ∧ InPicture cx (.ofInt a.views.imageSize.1) ∧
        InPicture cy (.ofInt a.views.imageSize.2) := by
  have hall : (loaded a fx fy cx cy distortion).distortion.toList.all Double.isFinite = true :=
    List.all_eq_true.2 hdistortion
  rw [validateCameraCalibration, hall]
  simp only [loaded, Double.isFinite_finite, Bool.and_true, Double.ble_finite, Double.blt_finite,
    decide_eq_true_iff, reduceCtorEq, false_or, hmodel, hfocus, hlens]
  constructor
  · intro h
    split at h
    · cases h
    · rename_i hvalid
      simp only [not_or, not_le, not_lt] at hvalid
      obtain ⟨-, -, hfx, hfy, hcx, hcy, hw, hh⟩ := hvalid
      exact ⟨hfx, hfy, ⟨hcx, hw⟩, ⟨hcy, hh⟩⟩
  · rintro ⟨hfx, hfy, hx, hy⟩
    rw [if_neg]
    simp only [not_or, not_le, not_lt]
    exact ⟨hx.size_ne, hy.size_ne, hfx, hfy, hx.1, hy.1, hx.2, hy.2⟩

theorem build_ok (hbuild : buildDocument tools a = .ok document)
    (hm : a.solution.cameraMatrix = pinhole fx fy cx cy) :
    ∃ m accepted, document = calibrationDocument tools a m accepted (.finite fx) (.finite fy)
      (.finite cx) (.finite cy) := by
  rw [buildDocument] at hbuild
  split at hbuild
  · cases hbuild
  · cases hmax : maximum a.solution.perViewRmsErrorPx with
    | error what =>
      rw [hmax] at hbuild
      cases hbuild
    | ok m =>
      cases hviews : (a.views.accepted.zip a.solution.perViewRmsErrorPx).mapM
          (acceptedView tools) with
      | error what =>
        rw [hmax, hviews] at hbuild
        cases hbuild
      | ok accepted =>
        rw [hmax, hviews, hm] at hbuild
        refine ⟨m, accepted, ?_⟩
        exact (Except.ok.inj hbuild).symm

theorem rethrow_ok_iff (result : Except CalibrationError α) :
    rethrow result = .ok x ↔ result = .ok x := by
  cases result with
  | ok c => rfl
  | error e => cases e <;> exact ⟨fun h => (by cases h), fun h => (by cases h)⟩

theorem fromStream_ok_iff (hm : a.solution.cameraMatrix = pinhole fx fy cx cy)
    (hparse : parse text = .ok (calibrationDocument tools a m accepted (.finite fx) (.finite fy)
      (.finite cx) (.finite cy))) (calibration : CameraCalibration) :
    fromStream parse text = .ok calibration ↔
      (qualityChecks a m).all = true ∧ ∃ distortion,
        Value.getArray 5 Value.getDouble
          (.array (a.solution.distortionCoefficients.map .float)) = .ok distortion ∧
        validateCameraCalibration (loaded a fx fy cx cy distortion) = .ok () ∧
        loaded a fx fy cx cy distortion = calibration := by
  have hresult : (json (parse text)).bind parseDocument = parseDocument _ :=
    congrArg (fun value => (json value).bind parseDocument) hparse
  rw [fromStream, rethrow_ok_iff, hresult, parseDocument_eq hm]
  split
  · rename_i hall
    rw [and_iff_right hall]
    cases hget : Value.getArray 5 Value.getDouble
        (.array (a.solution.distortionCoefficients.map .float)) with
    | error what => exact ⟨fun h => (by cases h), fun ⟨_, h, _⟩ => (by cases h)⟩
    | ok distortion =>
      change (validateCameraCalibration (loaded a fx fy cx cy distortion)).map
        (fun _ => loaded a fx fy cx cy distortion) = .ok calibration ↔ _
      cases hvalid : validateCameraCalibration (loaded a fx fy cx cy distortion) with
      | error e =>
        refine ⟨fun h => (by cases h), ?_⟩
        rintro ⟨d, hd, hv, -⟩
        rw [← Except.ok.inj hd, hvalid] at hv
        cases hv
      | ok u =>
        constructor
        · intro h
          exact ⟨distortion, rfl, hvalid, Except.ok.inj h⟩
        · rintro ⟨d, hd, -, hc⟩
          rw [← Except.ok.inj hd] at hc
          exact congrArg Except.ok hc
  · rename_i hall
    exact ⟨fun h => (by cases h), fun h => absurd h.1 hall⟩

/-- A calibration is what a document says, sizes taken modulo 2^32 and the coefficients in their
order. -/
structure Agrees (document : Value) (calibration : CameraCalibration) : Prop where
  cameraModel : document.find ["camera", "model"] = .ok (.string calibration.cameraModel)
  imageWidth : ∃ width, document.find ["camera", "width"] = .ok (.integer width) ∧
    calibration.imageWidth = .ofInt width
  imageHeight : ∃ height, document.find ["camera", "height"] = .ok (.integer height) ∧
    calibration.imageHeight = .ofInt height
  focusMode : document.find ["camera", "focus_mode"] = .ok (.string calibration.focusMode)
  lensPosition : document.find ["camera", "lens_position"] = .ok (.string calibration.lensPosition)
  fxPx : document.find ["intrinsics", "fx_px"] = .ok (.float calibration.fxPx)
  fyPx : document.find ["intrinsics", "fy_px"] = .ok (.float calibration.fyPx)
  cxPx : document.find ["intrinsics", "cx_px"] = .ok (.float calibration.cxPx)
  cyPx : document.find ["intrinsics", "cy_px"] = .ok (.float calibration.cyPx)
  order : document.find ["distortion", "coefficient_order"] =
    .ok (.array (["k1", "k2", "p1", "p2", "k3"].map .string))
  distortion : ∃ coefficients : List Double,
    document.find ["distortion", "coefficients"] = .ok (.array (coefficients.map .float)) ∧
      calibration.distortion.toList = coefficients.take 5

theorem loaded_agrees {distortion : Vector Double 5}
    (h : distortion.toList = a.solution.distortionCoefficients.take 5) :
    Agrees (calibrationDocument tools a m accepted (.finite fx) (.finite fy) (.finite cx)
      (.finite cy)) (loaded a fx fy cx cy distortion) where
  cameraModel := rfl
  imageWidth := ⟨_, rfl, rfl⟩
  imageHeight := ⟨_, rfl, rfl⟩
  focusMode := rfl
  lensPosition := rfl
  fxPx := rfl
  fyPx := rfl
  cxPx := rfl
  cyPx := rfl
  order := rfl
  distortion := ⟨_, rfl, h⟩

/-- A quality check of a document holds. -/
def Passed (document : Value) (check : String) : Prop :=
  document.find ["quality", "checks", check] = .ok (.bool true)

theorem passed_iff (fx fy cx cy : Double) :
    (Passed (calibrationDocument tools a m accepted fx fy cx cy) "minimum_views_reached" ∧
      Passed (calibrationDocument tools a m accepted fx fy cx cy) "rms_error_within_limit" ∧
      Passed (calibrationDocument tools a m accepted fx fy cx cy)
        "every_view_error_within_limit") ↔ (qualityChecks a m).all = true := by
  have hpassed (b : Bool) : Except.ok (Value.bool b) = (.ok (.bool true) : Except String Value) ↔
      b = true := by
    rw [Except.ok.injEq, Value.bool.injEq]
  rw [QualityChecks.all, Bool.and_eq_true, Bool.and_eq_true, and_assoc]
  exact and_congr (hpassed _) (and_congr (hpassed _) (hpassed _))

/-- The loader takes a document exactly when its checks hold, it has five coefficients and the
intrinsics are those of a camera, and it then returns what the document says. -/
theorem loads_document (hbuild : buildDocument tools a = .ok document)
    (hparse : parse text = .ok document)
    (hm : a.solution.cameraMatrix = pinhole fx fy cx cy)
    (hfinite : ∀ c ∈ a.solution.distortionCoefficients, c.isFinite = true)
    (hmodel : a.cameraModel ≠ "") (hfocus : a.focusMode ≠ "") (hlens : a.lensPosition ≠ "") :
    ((∃ calibration, fromStream parse text = .ok calibration) ↔
      (Passed document "minimum_views_reached" ∧ Passed document "rms_error_within_limit" ∧
        Passed document "every_view_error_within_limit") ∧
      5 ≤ a.solution.distortionCoefficients.length ∧ 0 < fx ∧ 0 < fy ∧
      InPicture cx (.ofInt a.views.imageSize.1) ∧ InPicture cy (.ofInt a.views.imageSize.2)) ∧
    ∀ calibration, fromStream parse text = .ok calibration → Agrees document calibration := by
  obtain ⟨m, accepted, rfl⟩ := build_ok hbuild hm
  simp only [fromStream_ok_iff hm hparse, passed_iff]
  have hfloat : ∀ d : Double, Value.getDouble (.float d) = .ok d := fun _ => rfl
  rcases Value.getArray_map hfloat 5 a.solution.distortionCoefficients with
    ⟨distortion, hget, hlist⟩ | ⟨hshort, what, hget⟩
  · have hvalid := validate_loaded_iff fx fy cx cy hmodel hfocus hlens
      fun c hc => hfinite c (List.mem_of_mem_take (hlist ▸ hc))
    have hlength : 5 ≤ a.solution.distortionCoefficients.length := by
      have hcount := congrArg List.length hlist
      rw [Vector.length_toList, List.length_take] at hcount
      omega
    rw [hget, and_iff_right hlength, ← hvalid]
    constructor
    · constructor
      · rintro ⟨calibration, hall, d, hd, hok, -⟩
        rw [← Except.ok.inj hd] at hok
        exact ⟨hall, hok⟩
      · rintro ⟨hall, hok⟩
        exact ⟨loaded a fx fy cx cy distortion, hall, distortion, rfl, hok, rfl⟩
    · rintro calibration ⟨-, d, hd, -, rfl⟩
      rw [← Except.ok.inj hd]
      exact loaded_agrees hlist
  · rw [hget]
    constructor
    · constructor
      · rintro ⟨calibration, -, d, hd, -⟩
        cases hd
      · rintro ⟨-, hlength, -⟩
        omega
    · rintro calibration ⟨-, d, hd, -⟩
      cases hd

end Documents

def sampleTools : CalibrationTools where
  sha256 := fun _ => .ok "cf11084641596c0c36044ebad2afe7c5e73071212895f5c2e1cc2a6757cb1998"
  createdAtUtc := "2026-07-30T12:00:00+00:00"
  opencvVersion := "4.10.0"

/-- One view that is good enough, and a picture of a size. -/
def sampleArguments (imageSize : Int × Int) : CalibrationArguments where
  cameraModel := "test-camera"
  focusMode := "manual"
  lensPosition := "default"
  patternSize := (9, 6)
  squareSizeM := .finite (1 / 2)
  minimumViews := 1
  maximumRmsErrorPx := .finite 1
  maximumViewErrorPx := .finite (3 / 2)
  views := { imageSize := imageSize, accepted := [{ name := "view001.jpg" }] }
  solution := {
    cameraMatrix := pinhole 500 501 320 240
    distortionCoefficients := [.finite (1 / 4), .finite (-1 / 2), .finite 0, .finite 0,
      .finite (1 / 8)]
    rmsErrorPx := .finite (1 / 2)
    perViewRmsErrorPx := [.finite (1 / 2)] }

/-- The document of the sample as the writer prints it. -/
def sampleText : String :=
  "\x7b\"schema_version\": 1, \"result\": \"PASS\", " ++
  "\"created_at_utc\": \"2026-07-30T12:00:00+00:00\", " ++
  "\"camera\": \x7b\"model\": \"test-camera\", \"width\": 640, \"height\": 480, " ++
  "\"focus_mode\": \"manual\", \"lens_position\": \"default\"\x7d, " ++
  "\"model\": \"opencv_pinhole_brown_conrady_5\", " ++
  "\"pattern\": \x7b\"inner_corners_columns\": 9, \"inner_corners_rows\": 6, " ++
  "\"square_size_m\": 0.5\x7d, \"intrinsics\": \x7b\"fx_px\": 500.0, " ++
  "\"fy_px\": 501.0, \"cx_px\": 320.0, \"cy_px\": 240.0, \"camera_matrix\": [[500.0, " ++
  "0.0, 320.0], [0.0, 501.0, 240.0], [0.0, 0.0, 1.0]]\x7d, " ++
  "\"distortion\": \x7b\"coefficient_order\": [\"k1\", \"k2\", \"p1\", \"p2\", " ++
  "\"k3\"], \"coefficients\": [0.25, -0.5, 0.0, 0.0, 0.125]\x7d, " ++
  "\"quality\": \x7b\"rms_reprojection_error_px\": 0.5, " ++
  "\"mean_view_rms_error_px\": 0.5, \"maximum_view_rms_error_px\": 0.5, " ++
  "\"maximum_allowed_rms_error_px\": 1.0, \"maximum_allowed_view_error_px\": 1.5, " ++
  "\"checks\": \x7b\"minimum_views_reached\": true, " ++
  "\"rms_error_within_limit\": true, " ++
  "\"every_view_error_within_limit\": true\x7d\x7d, \"views\": \x7b\"provided\": 1, " ++
  "\"accepted\": [\x7b\"file\": \"view001.jpg\", \"sha256\": " ++
  "\"cf11084641596c0c36044ebad2afe7c5e73071212895f5c2e1cc2a6757cb1998\", " ++
  "\"rms_reprojection_error_px\": 0.5\x7d], \"rejected\": []\x7d, " ++
  "\"tool\": \x7b\"name\": \"OnboardAutonomy camera calibration\", " ++
  "\"opencv_version\": \"4.10.0\"\x7d\x7d"

def sampleDocument (imageSize : Int × Int) : Value :=
  calibrationDocument sampleTools (sampleArguments imageSize) (.finite (1 / 2))
    [.object [
      ("file", .string "view001.jpg"),
      ("sha256", .string "cf11084641596c0c36044ebad2afe7c5e73071212895f5c2e1cc2a6757cb1998"),
      ("rms_reprojection_error_px", .float (.finite (1 / 2)))]]
    (.finite 500) (.finite 501) (.finite 320) (.finite 240)

theorem sample_built (imageSize : Int × Int) :
    buildDocument sampleTools (sampleArguments imageSize) = .ok (sampleDocument imageSize) := rfl

theorem sample_checks (imageSize : Int × Int) :
    (qualityChecks (sampleArguments imageSize) (.finite (1 / 2))).all = true := by
  have hrms : Double.ble (.finite (1 / 2)) (.finite 1) = true := by decide +kernel
  have hview : Double.ble (.finite (1 / 2)) (.finite (3 / 2)) = true := by decide +kernel
  rw [QualityChecks.all, qualityChecks, sampleArguments, hrms, hview]
  rfl

theorem sample_finite (imageSize : Int × Int) :
    ∀ c ∈ (sampleArguments imageSize).solution.distortionCoefficients, c.isFinite = true := by
  simp only [sampleArguments, List.forall_mem_cons, Double.isFinite_finite, true_and]
  exact List.forall_mem_nil _

/-- A library that reads one text. -/
def readsBack (text : String) (document : Value) (input : String) : Except String Value :=
  if input = text then .ok document else .error "parse error"

theorem readsBack_self (text : String) (document : Value) :
    readsBack text document text = .ok document :=
  if_pos rfl

theorem sample_passed (imageSize : Int × Int) :
    Passed (sampleDocument imageSize) "minimum_views_reached" ∧
      Passed (sampleDocument imageSize) "rms_error_within_limit" ∧
      Passed (sampleDocument imageSize) "every_view_error_within_limit" :=
  (passed_iff _ _ _ _).2 (sample_checks imageSize)

/-- The sample of 640 by 480 pixels is loaded. -/
theorem loads_document_sample : ∃ calibration,
    fromStream (readsBack sampleText (sampleDocument (640, 480))) sampleText = .ok calibration ∧
      Agrees (sampleDocument (640, 480)) calibration := by
  obtain ⟨hiff, hagrees⟩ := loads_document (sample_built (640, 480)) (readsBack_self sampleText _)
    rfl (sample_finite (640, 480)) (by decide) (by decide) (by decide)
  obtain ⟨calibration, hloaded⟩ := hiff.2 ⟨sample_passed (640, 480), by decide, by decide,
    by decide, ⟨by decide, by decide +kernel⟩, ⟨by decide, by decide +kernel⟩⟩
  exact ⟨calibration, hloaded, hagrees calibration hloaded⟩

/-- A width of 2^32 + 640 pixels is read as 640. -/
theorem wide_picture_cut :
    buildDocument sampleTools (sampleArguments (4294967936, 480)) =
        .ok (sampleDocument (4294967936, 480)) ∧
      ∀ (parse : String → Except String Value) (text : String),
        parse text = .ok (sampleDocument (4294967936, 480)) →
        ∃ calibration, fromStream parse text = .ok calibration ∧
          (calibration.imageWidth.toNat : Int) ≠ 4294967936 := by
  refine ⟨sample_built _, fun parse text hparse => ?_⟩
  refine ⟨loaded (sampleArguments (4294967936, 480)) 500 501 320 240
    #v[.finite (1 / 4), .finite (-1 / 2), .finite 0, .finite 0, .finite (1 / 8)], ?_,
    by decide +kernel⟩
  apply (fromStream_ok_iff (a := sampleArguments (4294967936, 480)) rfl hparse _).2
  refine ⟨sample_checks _, _, rfl, ?_, rfl⟩
  apply (validate_loaded_iff _ _ _ _ (by decide) (by decide) (by decide) (by decide)).2
  exact ⟨by decide, by decide, ⟨by decide, by decide +kernel⟩, ⟨by decide, by decide +kernel⟩⟩

end CameraCalibrationLoader

end OnboardAutonomy
