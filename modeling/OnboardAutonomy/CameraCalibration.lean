import OnboardAutonomy.JsonDocument

namespace OnboardAutonomy
open ExactDouble JsonDocument
set_option autoImplicit true

def distortionOrder : List String := ["k1", "k2", "p1", "p2", "k3"]

structure ImagePath where
  parent : String := ""
  name : String

structure CalibrationViews where
  imageSize : Int × Int
  accepted : List ImagePath
  rejected : List (List (String × String)) := []

structure CalibrationSolution where
  cameraMatrix : List (List Double)
  distortionCoefficients : List Double
  rmsErrorPx : Double
  perViewRmsErrorPx : List Double

structure CalibrationArguments where
  cameraModel : String
  focusMode : String
  lensPosition : String
  patternSize : Int × Int
  squareSizeM : Double
  minimumViews : Int
  maximumRmsErrorPx : Double
  maximumViewErrorPx : Double
  views : CalibrationViews
  solution : CalibrationSolution

/-- What the document takes from its surroundings. -/
structure CalibrationTools where
  sha256 : ImagePath → Except String String
  createdAtUtc : String
  opencvVersion : String

structure QualityChecks where
  minimumViewsReached : Bool
  rmsErrorWithinLimit : Bool
  everyViewErrorWithinLimit : Bool

def QualityChecks.all (checks : QualityChecks) : Bool :=
  checks.minimumViewsReached && checks.rmsErrorWithinLimit && checks.everyViewErrorWithinLimit

def qualityChecks (a : CalibrationArguments) (maximumViewError : Double) : QualityChecks where
  minimumViewsReached := a.minimumViews ≤ a.views.accepted.length
  rmsErrorWithinLimit := a.solution.rmsErrorPx.ble a.maximumRmsErrorPx
  everyViewErrorWithinLimit := maximumViewError.ble a.maximumViewErrorPx

/-- `max` of a list. -/
def maximum : List Double → Except String Double
  | [] => .error "max() arg is an empty sequence"
  | x :: xs => .ok (xs.foldl Double.max x)

/-- `statistics.fmean` -/
def fmean (xs : List Double) : Double :=
  xs.foldl (· + ·) (.finite 0) * .finite (1 / xs.length)

/-- An entry of a matrix of numpy. -/
def entry (matrix : List (List Double)) (row column : Nat) : Except String Double :=
  match matrix[row]? with
  | none => .error ("index " ++ toString row ++ " is out of bounds for axis 0")
  | some values =>
    match values[column]? with
    | none => .error ("index " ++ toString column ++ " is out of bounds for axis 1")
    | some value => .ok value

def acceptedView (tools : CalibrationTools) (view : ImagePath × Double) : Except String Value :=
  (tools.sha256 view.1).map fun digest => .object [
    ("file", .string view.1.name),
    ("sha256", .string digest),
    ("rms_reprojection_error_px", .float view.2)]

/-- The document from what was computed for it. -/
def calibrationDocument (tools : CalibrationTools) (a : CalibrationArguments)
    (maximumViewError : Double) (accepted : List Value) (fx fy cx cy : Double) : Value :=
  let checks := qualityChecks a maximumViewError
  .object [
    ("schema_version", .integer 1),
    ("result", .string (if checks.all then "PASS" else "FAIL")),
    ("created_at_utc", .string tools.createdAtUtc),
    ("camera", .object [
      ("model", .string a.cameraModel),
      ("width", .integer a.views.imageSize.1),
      ("height", .integer a.views.imageSize.2),
      ("focus_mode", .string a.focusMode),
      ("lens_position", .string a.lensPosition)]),
    ("model", .string "opencv_pinhole_brown_conrady_5"),
    ("pattern", .object [
      ("inner_corners_columns", .integer a.patternSize.1),
      ("inner_corners_rows", .integer a.patternSize.2),
      ("square_size_m", .float a.squareSizeM)]),
    ("intrinsics", .object [
      ("fx_px", .float fx),
      ("fy_px", .float fy),
      ("cx_px", .float cx),
      ("cy_px", .float cy),
      ("camera_matrix", .array (a.solution.cameraMatrix.map fun row => .array (row.map .float)))]),
    ("distortion", .object [
      ("coefficient_order", .array (distortionOrder.map .string)),
      ("coefficients", .array (a.solution.distortionCoefficients.map .float))]),
    ("quality", .object [
      ("rms_reprojection_error_px", .float a.solution.rmsErrorPx),
      ("mean_view_rms_error_px", .float (fmean a.solution.perViewRmsErrorPx)),
      ("maximum_view_rms_error_px", .float maximumViewError),
      ("maximum_allowed_rms_error_px", .float a.maximumRmsErrorPx),
      ("maximum_allowed_view_error_px", .float a.maximumViewErrorPx),
      ("checks", .object [
        ("minimum_views_reached", .bool checks.minimumViewsReached),
        ("rms_error_within_limit", .bool checks.rmsErrorWithinLimit),
        ("every_view_error_within_limit", .bool checks.everyViewErrorWithinLimit)])]),
    ("views", .object [
      ("provided", .integer (a.views.accepted.length + a.views.rejected.length)),
      ("accepted", .array accepted),
      ("rejected", .array (a.views.rejected.map fun view =>
        .object (view.map fun (key, text) => (key, .string text))))]),
    ("tool", .object [
      ("name", .string "OnboardAutonomy camera calibration"),
      ("opencv_version", .string tools.opencvVersion)])]

def buildDocument (tools : CalibrationTools) (a : CalibrationArguments) : Except String Value :=
  if a.views.accepted.length ≠ a.solution.perViewRmsErrorPx.length then
    .error "accepted views and reprojection errors are not aligned"
  else do
    let maximumViewError ← maximum a.solution.perViewRmsErrorPx
    let accepted ←
      (a.views.accepted.zip a.solution.perViewRmsErrorPx).mapM (acceptedView tools)
    let fx ← entry a.solution.cameraMatrix 0 0
    let fy ← entry a.solution.cameraMatrix 1 1
    let cx ← entry a.solution.cameraMatrix 0 2
    let cy ← entry a.solution.cameraMatrix 1 2
    return calibrationDocument tools a maximumViewError accepted fx fy cx cy

namespace CameraCalibrationLoader

/-- A calibration with all that is read of it. -/
structure CameraCalibration where
  cameraModel : String
  imageWidth : UInt32
  imageHeight : UInt32
  focusMode : String
  lensPosition : String
  fxPx : Double
  fyPx : Double
  cxPx : Double
  cyPx : Double
  distortion : Vector Double 5

/-- What the loader throws: an exception of the JSON library, which it catches itself, or one of
its own. -/
inductive CalibrationError where
  | json (what : String)
  | runtime (what : String)
  | invalidArgument (what : String)

def validateCameraCalibration (calibration : CameraCalibration) : Except CalibrationError Unit :=
  let finiteIntrinsics := calibration.fxPx.isFinite && calibration.fyPx.isFinite &&
    calibration.cxPx.isFinite && calibration.cyPx.isFinite
  let finiteDistortion := calibration.distortion.toList.all Double.isFinite
  if calibration.cameraModel = "" ∨ calibration.focusMode = "" ∨ calibration.lensPosition = "" ∨
      calibration.imageWidth = 0 ∨ calibration.imageHeight = 0 ∨
      finiteIntrinsics = false ∨ finiteDistortion = false ∨
      calibration.fxPx.ble (.finite 0) ∨ calibration.fyPx.ble (.finite 0) ∨
      calibration.cxPx.blt (.finite 0) ∨ calibration.cyPx.blt (.finite 0) ∨
      Double.ble (.finite calibration.imageWidth.toNat) calibration.cxPx ∨
      Double.ble (.finite calibration.imageHeight.toNat) calibration.cyPx then
    .error (.invalidArgument "invalid camera calibration")
  else .ok ()

def kMatrixTolerance : ℚ := 1 / 10 ^ 9

/-- A value that the JSON library hands over or refuses. -/
def json (value : Except String α) : Except CalibrationError α := value.mapError .json

/-- Tests made one after the other: the first that does not hold, or whose value is missing,
ends them. -/
def require (what : String) : List (Except String Bool) → Except CalibrationError Unit
  | [] => .ok ()
  | .ok true :: tests => require what tests
  | .ok false :: _ => .error (.runtime what)
  | .error missing :: _ => .error (.json missing)

def requireQualityPass (document : Value) : Except CalibrationError Unit := do
  let checks ← json (document.find ["quality", "checks"])
  require "camera calibration did not pass its quality gates" [
    (document.getStringAt ["result"]).map (· == "PASS"),
    checks.getBoolAt ["minimum_views_reached"],
    checks.getBoolAt ["rms_error_within_limit"],
    checks.getBoolAt ["every_view_error_within_limit"]]

def requireSupportedSchema (document : Value) : Except CalibrationError Unit := do
  require "unsupported camera calibration schema or model" [
    (document.getUInt32At ["schema_version"]).map (· == 1),
    (document.getStringAt ["model"]).map (· == "opencv_pinhole_brown_conrady_5")]
  require "unsupported camera distortion coefficient order" [
    (document.getArrayAt ["distortion", "coefficient_order"] 5 Value.getString).map
      (· == #v["k1", "k2", "p1", "p2", "k3"])]

def close (left right : Double) : Bool := (left - right).abs.ble (.finite kMatrixTolerance)

def requireConsistentMatrix (intrinsics : Value) (calibration : CameraCalibration) :
    Except CalibrationError Unit := do
  let matrix ← json (intrinsics.getArrayAt ["camera_matrix"] 3 (Value.getArray 3 Value.getDouble))
  if close matrix[0][0] calibration.fxPx && close matrix[1][1] calibration.fyPx &&
      close matrix[0][2] calibration.cxPx && close matrix[1][2] calibration.cyPx &&
      close matrix[0][1] (.finite 0) && close matrix[1][0] (.finite 0) &&
      close matrix[2][0] (.finite 0) && close matrix[2][1] (.finite 0) &&
      close matrix[2][2] (.finite 1) then
    .ok ()
  else .error (.runtime "camera matrix disagrees with scalar intrinsics")

def parseDocument (document : Value) : Except CalibrationError CameraCalibration := do
  requireSupportedSchema document
  requireQualityPass document
  let camera ← json (document.find ["camera"])
  let intrinsics ← json (document.find ["intrinsics"])
  let cameraModel ← json (camera.getStringAt ["model"])
  let imageWidth ← json (camera.getUInt32At ["width"])
  let imageHeight ← json (camera.getUInt32At ["height"])
  let focusMode ← json (camera.getStringAt ["focus_mode"])
  let lensPosition ← json (camera.getStringAt ["lens_position"])
  let fxPx ← json (intrinsics.getDoubleAt ["fx_px"])
  let fyPx ← json (intrinsics.getDoubleAt ["fy_px"])
  let cxPx ← json (intrinsics.getDoubleAt ["cx_px"])
  let cyPx ← json (intrinsics.getDoubleAt ["cy_px"])
  let distortion ← json (document.getArrayAt ["distortion", "coefficients"] 5 Value.getDouble)
  let calibration := {
    cameraModel, imageWidth, imageHeight, focusMode, lensPosition, fxPx, fyPx, cxPx, cyPx,
    distortion }
  requireConsistentMatrix intrinsics calibration
  validateCameraCalibration calibration
  return calibration

/-- An exception of the JSON library becomes one of the loader. -/
def rethrow : Except CalibrationError α → Except CalibrationError α
  | .error (.json what) => .error (.runtime ("invalid camera calibration JSON: " ++ what))
  | result => result

def fromStream (parse : String → Except String Value) (input : String) :
    Except CalibrationError CameraCalibration :=
  rethrow ((json (parse input)).bind parseDocument)

end CameraCalibrationLoader

end OnboardAutonomy
