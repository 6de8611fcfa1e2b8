import OnboardAutonomy.TargetTracker

namespace OnboardAutonomy
open ExactDouble
set_option autoImplicit true

structure BodyFramePosition where
  forwardM : Double := .finite 0
  rightM : Double := .finite 0
  downM : Double := .finite 0
deriving DecidableEq

/-- Row-major rotation from camera right, down, forward to body forward, right, down. -/
structure CameraExtrinsics where
  rotationCameraToBody : Fin 9 → Double
  cameraOriginInBody : BodyFramePosition

def kRotationTolerance : Double := .finite (1 / 1000000)

def rotationEntry (rotation : Fin 9 → Double) (row column : Fin 3) : Double :=
  rotation ⟨row.val * 3 + column.val, by omega⟩

/-- The scalar product of two rows, summed over their columns. -/
def rowDot (rotation : Fin 9 → Double) (first second : Fin 3) : Double :=
  (List.finRange 3).foldl (fun result column =>
    result + rotationEntry rotation first column * rotationEntry rotation second column)
    (.finite 0)

def determinant (rotation : Fin 9 → Double) : Double :=
  rotation 0 * (rotation 4 * rotation 8 - rotation 5 * rotation 7) -
    rotation 1 * (rotation 3 * rotation 8 - rotation 5 * rotation 6) +
    rotation 2 * (rotation 3 * rotation 7 - rotation 4 * rotation 6)

/-- The distance of two values is above the rotation tolerance. -/
def beyondTolerance (value expected : Double) : Bool :=
  kRotationTolerance.blt (Double.abs (value - expected))

/-- The message of the exception thrown, if any. Rows are checked in order, each for its length
and then against the later ones. -/
def validateCameraExtrinsics (extrinsics : CameraExtrinsics) : Option String :=
  let rotation := extrinsics.rotationCameraToBody
  let origin := extrinsics.cameraOriginInBody
  if !((List.finRange 9).all fun i => (rotation i).isFinite) || !origin.forwardM.isFinite ||
      !origin.rightM.isFinite || !origin.downM.isFinite then
    some "camera extrinsics must contain finite values"
  else
    let rowError (row : Fin 3) : Option String :=
      if beyondTolerance (rowDot rotation row row) (.finite 1) then
        some "camera rotation rows must have unit length"
      else if (List.finRange 3).any fun other =>
          row < other && beyondTolerance (rowDot rotation row other) (.finite 0) then
        some "camera rotation rows must be orthogonal"
      else none
    ((List.finRange 3).findSome? rowError).or
      (if beyondTolerance (determinant rotation) (.finite 1) then
        some "camera rotation must be a right-handed rigid transform"
      else none)

/-- The coordinates in the order of the rotation's columns. -/
def cameraCoordinate (position : CameraFramePosition) : Fin 3 → Double
  | 0 => position.rightM
  | 1 => position.downM
  | 2 => position.forwardM

/-- One row of the rotation applied to a camera position. -/
def rotateRow (rotation : Fin 9 → Double) (position : CameraFramePosition) (row : Fin 3) : Double :=
  (List.finRange 3).foldl (fun body column =>
    body + rotationEntry rotation row column * cameraCoordinate position column) (.finite 0)

def cameraToBodyFrd (cameraPosition : CameraFramePosition) (extrinsics : CameraExtrinsics) :
    Except String BodyFramePosition :=
  match validateCameraExtrinsics extrinsics with
  | some error => .error error
  | none =>
    if !finitePosition cameraPosition then .error "camera target position must be finite"
    else
      let body := rotateRow extrinsics.rotationCameraToBody cameraPosition
      .ok {
        forwardM := body 0 + extrinsics.cameraOriginInBody.forwardM
        rightM := body 1 + extrinsics.cameraOriginInBody.rightM
        downM := body 2 + extrinsics.cameraOriginInBody.downM }

/-- A position in exact numbers. -/
def CameraFramePosition.exact (v : Fin 3 → ℚ) : CameraFramePosition where
  rightM := .finite (v 0)
  downM := .finite (v 1)
  forwardM := .finite (v 2)

/-- The distance in front of the camera, the last coordinate of a camera position. -/
def depth (v : Fin 3 → ℚ) : ℚ := v 2

def BodyFramePosition.exact (v : Fin 3 → ℚ) : BodyFramePosition where
  forwardM := .finite (v 0)
  rightM := .finite (v 1)
  downM := .finite (v 2)

end OnboardAutonomy
