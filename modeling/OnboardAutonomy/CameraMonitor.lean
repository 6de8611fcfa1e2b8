import OnboardAutonomy.TargetTransform

namespace OnboardAutonomy
open ExactDouble
set_option autoImplicit true

/-- What a detector answers for one frame; the processing time is in microseconds. -/
structure TargetDetectionBatch where
  processingTime : Int := 0
  targets : List TargetObservation := []

/-- Capture and receive times are nanoseconds on the system clock. -/
structure CameraFrame where
  sequence : Nat := 0
  width : UInt32 := 0
  height : UInt32 := 0
  yuv420 : List UInt8 := []
  capturedAt : Option Int := none
  receivedAt : Int := 0

inductive CameraSourcePhase where
  | starting
  | streaming
  | reconnecting
  | stopped
  | failed
deriving DecidableEq

/-- What a camera source says about itself. -/
structure CameraSourceStatus where
  phase : CameraSourcePhase := .starting
  description : String := ""
  error : String := ""
  producedFrames : Nat := 0
  overwrittenFrames : Nat := 0
  restartCount : Nat := 0

structure CameraSnapshot where
  phase : CameraSourcePhase := .starting
  source : String := ""
  error : String := ""
  width : UInt32 := 0
  height : UInt32 := 0
  receivedFrames : Nat := 0
  droppedBeforeProcessing : Nat := 0
  cameraRestarts : Nat := 0
  framesWithCaptureTimestamp : Nat := 0
  measuredFps : Option ℚ := none
  latestLatencyMs : Option ℚ := none
  averageLatencyMs : Option ℚ := none
  maximumLatencyMs : Option ℚ := none
  latestFrameAgeMs : Option ℚ := none

structure VisionMonitor where
  targetTracker : TargetTracker := {}
  processedFrames : Nat := 0
  framesWithTargets : Nat := 0
  totalTargets : Nat := 0
  lastDetectionAt : Option TimePoint := none
  latestProcessingMs : Option ℚ := none
  totalProcessingMs : ℚ := 0
  maximumProcessingMs : ℚ := 0
  latestTargets : List TargetObservation := []

structure VisionSnapshot where
  detector : String := ""
  processedFrames : Nat := 0
  framesWithTargets : Nat := 0
  totalTargets : Nat := 0
  latestProcessingMs : Option ℚ := none
  averageProcessingMs : Option ℚ := none
  maximumProcessingMs : Option ℚ := none
  lastDetectionAgeMs : Option ℚ := none
  latestTargets : List TargetObservation := []
  targetTrack : TargetTrackSnapshot := {}

def durationMs (d : Duration) : ℚ := (d : ℚ) / 1000000

/-- The first observation of the tracked id that has a pose gets the smoothed position. -/
def overlayTrack (id : Int) (position : CameraFramePosition) :
    List TargetObservation → List TargetObservation
  | [] => []
  | target :: targets =>
    match target.pose with
    | some pose =>
      if target.id = id then
        { target with pose := some { pose with position := position } } :: targets
      else target :: overlayTrack id position targets
    | none => target :: overlayTrack id position targets

namespace VisionMonitor

/-- The detector is asked outside; its answer for the frame comes in as `batch`. -/
def process (v : VisionMonitor) (batch : TargetDetectionBatch) (now : TimePoint) : VisionMonitor :=
  let processingMs : ℚ := (batch.processingTime : ℚ) / 1000
  let targetTracker := v.targetTracker.update batch.targets now
  let track := targetTracker.snapshot now
  { targetTracker := targetTracker
    processedFrames := v.processedFrames + 1
    latestProcessingMs := some processingMs
    totalProcessingMs := v.totalProcessingMs + processingMs
    maximumProcessingMs := max v.maximumProcessingMs processingMs
    totalTargets := v.totalTargets + batch.targets.length
    framesWithTargets :=
      if batch.targets.isEmpty then v.framesWithTargets else v.framesWithTargets + 1
    lastDetectionAt := if batch.targets.isEmpty then v.lastDetectionAt else some now
    latestTargets := match track.targetId, track.position with
      | some id, some position => overlayTrack id position batch.targets
      | _, _ => batch.targets }

def snapshot (v : VisionMonitor) (detector : String) (now : TimePoint) : VisionSnapshot where
  detector := detector
  processedFrames := v.processedFrames
  framesWithTargets := v.framesWithTargets
  totalTargets := v.totalTargets
  latestProcessingMs := v.latestProcessingMs
  averageProcessingMs :=
    if 0 < v.processedFrames then some (v.totalProcessingMs / v.processedFrames) else none
  maximumProcessingMs := if 0 < v.processedFrames then some v.maximumProcessingMs else none
  lastDetectionAgeMs := v.lastDetectionAt.bind fun last =>
    if last ≤ now then some (durationMs (now - last)) else none
  latestTargets := v.latestTargets
  targetTrack := v.targetTracker.snapshot now

end VisionMonitor

structure CameraMonitor where
  visionMonitor : Option VisionMonitor := none
  receivedFrames : Nat := 0
  droppedBeforeProcessing : Nat := 0
  framesWithCaptureTimestamp : Nat := 0
  validLatencySamples : Nat := 0
  width : UInt32 := 0
  height : UInt32 := 0
  lastSequence : Option Nat := none
  lastFrameObservedAt : Option TimePoint := none
  firstCaptureAt : Option Int := none
  lastCaptureAt : Option Int := none
  latestLatencyMs : Option ℚ := none
  totalLatencyMs : ℚ := 0
  maximumLatencyMs : ℚ := 0

namespace CameraMonitor

/-- The frame is counted, with the ones missing before it. -/
def countFrame (m : CameraMonitor) (frame : CameraFrame) (now : TimePoint) : CameraMonitor :=
  { m with
    droppedBeforeProcessing := match m.lastSequence with
      | some last =>
        if last + 1 < frame.sequence then m.droppedBeforeProcessing + (frame.sequence - last - 1)
        else m.droppedBeforeProcessing
      | none => m.droppedBeforeProcessing
    lastSequence := some frame.sequence
    receivedFrames := m.receivedFrames + 1
    width := frame.width
    height := frame.height
    lastFrameObservedAt := some now }

def recordLatency (m : CameraMonitor) (frame : CameraFrame) : CameraMonitor :=
  match frame.capturedAt with
  | none => m
  | some capturedAt =>
    let m := { m with
      framesWithCaptureTimestamp := m.framesWithCaptureTimestamp + 1
      firstCaptureAt := m.firstCaptureAt.or (some capturedAt)
      lastCaptureAt := some capturedAt }
    let latencyMs := durationMs (frame.receivedAt - capturedAt)
    if 0 ≤ latencyMs then
      { m with
        validLatencySamples := m.validLatencySamples + 1
        latestLatencyMs := some latencyMs
        totalLatencyMs := m.totalLatencyMs + latencyMs
        maximumLatencyMs := max m.maximumLatencyMs latencyMs }
    else m

/-- The frame the source has ready, if any, comes in with the detector's answer for it. -/
def poll (m : CameraMonitor) (frame : Option (CameraFrame × TargetDetectionBatch))
    (now : TimePoint) : CameraMonitor :=
  match frame with
  | none => m
  | some (frame, batch) =>
    let m := m.countFrame frame now
    let m := { m with visionMonitor := m.visionMonitor.map (VisionMonitor.process · batch now) }
    m.recordLatency frame

/-- The rate of the captured frames, once two of them lie apart. -/
def measuredFps (m : CameraMonitor) : Option ℚ :=
  match m.firstCaptureAt, m.lastCaptureAt with
  | some first, some last =>
    if 1 < m.framesWithCaptureTimestamp ∧ first < last then
      some ((m.framesWithCaptureTimestamp - 1 : Nat) / ((last - first : Int) / 1000000000))
    else none
  | _, _ => none

def snapshot (m : CameraMonitor) (source : CameraSourceStatus) (now : TimePoint) :
    CameraSnapshot where
  phase := source.phase
  source := source.description
  error := source.error
  width := m.width
  height := m.height
  receivedFrames := m.receivedFrames
  droppedBeforeProcessing := max m.droppedBeforeProcessing source.overwrittenFrames
  cameraRestarts := source.restartCount
  framesWithCaptureTimestamp := m.framesWithCaptureTimestamp
  measuredFps := m.measuredFps
  latestLatencyMs := m.latestLatencyMs
  averageLatencyMs :=
    if 0 < m.validLatencySamples then some (m.totalLatencyMs / m.validLatencySamples) else none
  maximumLatencyMs := if 0 < m.validLatencySamples then some m.maximumLatencyMs else none
  latestFrameAgeMs := m.lastFrameObservedAt.bind fun last =>
    if last ≤ now then some (durationMs (now - last)) else none

def visionSnapshot (m : CameraMonitor) (detector : String) (now : TimePoint) :
    Option VisionSnapshot :=
  m.visionMonitor.map (VisionMonitor.snapshot · detector now)

end CameraMonitor

end OnboardAutonomy
