import OnboardAutonomy.VehicleState

namespace OnboardAutonomy
open ExactDouble
set_option autoImplicit true

structure ImagePoint where
  xPx : Double := .finite 0
  yPx : Double := .finite 0

structure CameraFramePosition where
  rightM : Double := .finite 0
  downM : Double := .finite 0
  forwardM : Double := .finite 0
deriving DecidableEq

structure TargetPose where
  position : CameraFramePosition
  rotationTagToCamera : Fin 9 → Double := fun _ => .finite 0
  objectSpaceError : Double := .finite 0

structure TargetObservation where
  id : Int := 0
  family : String := ""
  center : ImagePoint := {}
  corners : Fin 4 → ImagePoint := fun _ => {}
  correctedBits : Int := 0
  decisionMargin : Double := .finite 0
  pose : Option TargetPose := none

inductive TargetTrackPhase where
  | searching
  | acquiring
  | tracking
deriving DecidableEq

structure TargetTrackerConfig where
  requiredConsecutiveObservations : Nat := 3
  lossTimeout : Duration := milliseconds 500
  positionSmoothingFactor : Double := .finite (35 / 100)
  minimumDecisionMargin : Double := .finite 20
deriving DecidableEq

structure TargetTrackSnapshot where
  phase : TargetTrackPhase := .searching
  targetId : Option Int := none
  consecutiveObservations : Nat := 0
  requiredObservations : Nat := 0
  acceptedObservations : Nat := 0
  observationAgeMs : Option ℚ := none
  latestDecisionMargin : Option Double := none
  position : Option CameraFramePosition := none

structure TargetTracker where
  config : TargetTrackerConfig := {}
  targetId : Option Int := none
  consecutiveObservations : Nat := 0
  acceptedObservations : Nat := 0
  lastObservedAt : Option TimePoint := none
  latestDecisionMargin : Option Double := none
  position : Option CameraFramePosition := none

def finitePosition (p : CameraFramePosition) : Bool :=
  p.rightM.isFinite && p.downM.isFinite && p.forwardM.isFinite

def validObservation (observation : TargetObservation) (minimumDecisionMargin : Double) : Bool :=
  match observation.pose with
  | none => false
  | some pose =>
    observation.correctedBits == 0 && observation.decisionMargin.isFinite &&
      !observation.decisionMargin.blt minimumDecisionMargin &&
      finitePosition pose.position && Double.blt (.finite 0) pose.position.forwardM

def smoothPosition (previous measurement : CameraFramePosition) (factor : Double) :
    CameraFramePosition :=
  let retained := .finite 1 - factor
  { rightM := retained * previous.rightM + factor * measurement.rightM
    downM := retained * previous.downM + factor * measurement.downM
    forwardM := retained * previous.forwardM + factor * measurement.forwardM }

/-- The first of the observations with the largest decision margin among the wanted ones. -/
def selectObservation (wanted : TargetObservation → Bool) (observations : List TargetObservation) :
    Option TargetObservation :=
  observations.foldl (fun selected observation =>
    if !wanted observation then selected
    else match selected with
      | none => some observation
      | some best =>
        if best.decisionMargin.blt observation.decisionMargin then some observation
        else some best) none

namespace TargetTracker

/-- The constructor, with the message it throws for an unusable configuration. -/
def new (config : TargetTrackerConfig) : Except String TargetTracker :=
  if config.requiredConsecutiveObservations = 0 then
    .error "target tracker requires at least one observation"
  else if config.lossTimeout ≤ 0 then .error "target tracker loss timeout must be positive"
  else if !config.positionSmoothingFactor.isFinite ||
      config.positionSmoothingFactor.ble (.finite 0) ||
      Double.blt (.finite 1) config.positionSmoothingFactor then
    .error "target tracker smoothing factor must be in (0, 1]"
  else if !config.minimumDecisionMargin.isFinite ||
      config.minimumDecisionMargin.blt (.finite 0) then
    .error "target tracker minimum decision margin must be non-negative"
  else .ok { config := config }

def expired (t : TargetTracker) (now : TimePoint) : Bool :=
  match t.lastObservedAt with
  | some last => last ≤ now && t.config.lossTimeout < now - last
  | none => false

def reset (t : TargetTracker) : TargetTracker := { config := t.config }

/-- Valid observations, of the current target once there is one. -/
def wants (t : TargetTracker) (observation : TargetObservation) : Bool :=
  validObservation observation t.config.minimumDecisionMargin &&
    match t.targetId with
    | some id => observation.id == id
    | none => true

/-- The counter of consecutive observations stays at its largest value. -/
def countObservation (n : Nat) : Nat := if n < 4294967295 then n + 1 else n

def accept (t : TargetTracker) (selected : TargetObservation) (measurement : CameraFramePosition)
    (now : TimePoint) : TargetTracker :=
  match t.targetId, t.position with
  | some id, some position => { t with
      targetId := some id
      consecutiveObservations := countObservation t.consecutiveObservations
      acceptedObservations := t.acceptedObservations + 1
      position := some
        (smoothPosition position measurement t.config.positionSmoothingFactor)
      lastObservedAt := some now
      latestDecisionMargin := some selected.decisionMargin }
  | _, _ => { t with
      targetId := some selected.id
      consecutiveObservations := 1
      acceptedObservations := 1
      position := some measurement
      lastObservedAt := some now
      latestDecisionMargin := some selected.decisionMargin }

/-- The second selection of the source runs only without a target, where it repeats the first. -/
def update (t : TargetTracker) (observations : List TargetObservation) (now : TimePoint) :
    TargetTracker :=
  let t := if t.expired now then t.reset else t
  match selectObservation t.wants observations with
  | none =>
    if t.targetId.isSome then
      if t.consecutiveObservations < t.config.requiredConsecutiveObservations then t.reset else t
    else
      match selectObservation (validObservation · t.config.minimumDecisionMargin) observations with
      | none => t
      | some selected =>
        match selected.pose with
        | none => t
        | some pose => t.accept selected pose.position now
  | some selected =>
    match selected.pose with
    | none => t
    | some pose => t.accept selected pose.position now

def snapshot (t : TargetTracker) (now : TimePoint) : TargetTrackSnapshot :=
  if t.targetId.isNone || t.expired now then
    { requiredObservations := t.config.requiredConsecutiveObservations }
  else
    { phase := if t.config.requiredConsecutiveObservations ≤ t.consecutiveObservations
        then .tracking else .acquiring
      targetId := t.targetId
      consecutiveObservations := t.consecutiveObservations
      requiredObservations := t.config.requiredConsecutiveObservations
      acceptedObservations := t.acceptedObservations
      latestDecisionMargin := t.latestDecisionMargin
      position := t.position
      observationAgeMs := t.lastObservedAt.map fun last =>
        ((if last ≤ now then now - last else 0 : Int) : ℚ) / 1000000 }

end TargetTracker

end OnboardAutonomy
