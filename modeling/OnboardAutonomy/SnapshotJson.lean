import OnboardAutonomy.CompanionApplication

namespace OnboardAutonomy
open ExactDouble DecimalText
set_option autoImplicit true

/-- A string stream: what was written to it, and how it prints a double. -/
structure Ostringstream where
  text : List Char := []
  isFixed : Bool := false
  precision : Nat := 6

/-- One case of `json_escape`. -/
def escapeChar : Char → List Char
  | '\\' => ['\\', '\\']
  | '"' => ['\\', '"']
  | '\n' => ['\\', 'n']
  | '\r' => ['\\', 'r']
  | '\t' => ['\\', 't']
  | character => [character]

/-- The two serialisers have the same one. -/
def jsonEscape (value : String) : List Char := value.toList.flatMap escapeChar

namespace Ostringstream

def chars (o : Ostringstream) (text : List Char) : Ostringstream :=
  { o with text := o.text ++ text }

def char (o : Ostringstream) (character : Char) : Ostringstream := o.chars [character]

def put (o : Ostringstream) (text : String) : Ostringstream := o.chars text.toList

/-- `"name":`, as the first of an object. -/
def firstKey (o : Ostringstream) (name : String) : Ostringstream :=
  o.chars ('"' :: (name.toList ++ ['"', ':']))

/-- `,"name":` -/
def key (o : Ostringstream) (name : String) : Ostringstream :=
  o.chars (',' :: '"' :: (name.toList ++ ['"', ':']))

def quoted (o : Ostringstream) (text : List Char) : Ostringstream :=
  o.chars ('"' :: (text ++ ['"']))

/-- Under `std::boolalpha`. -/
def bool (o : Ostringstream) (b : Bool) : Ostringstream := o.put (if b then "true" else "false")

def number [ToString α] (o : Ostringstream) (n : α) : Ostringstream := o.put (toString n)

/-- `std::fixed << std::setprecision(precision)` -/
def setFixed (o : Ostringstream) (precision : Nat) : Ostringstream :=
  { o with isFixed := true, precision := precision }

def setPrecision (o : Ostringstream) (precision : Nat) : Ostringstream :=
  { o with precision := precision }

/-- What is printed for a double. The precision is six until the stream is fixed. -/
def doubleText (o : Ostringstream) (d : Double) : String :=
  if o.isFixed then fixed o.precision d else general d

def double (o : Ostringstream) (d : Double) : Ostringstream := o.put (o.doubleText d)

def writeOptionalNumber [ToString α] (o : Ostringstream) (value : Option α) : Ostringstream :=
  match value with
  | some n => o.number n
  | none => o.put "null"

/-- With two digits for a vehicle and with three for the application. -/
def writeOptionalDecimal (o : Ostringstream) (precision : Nat) (value : Option Double) :
    Ostringstream :=
  match value with
  | some d => (o.setFixed precision).double d
  | none => o.put "null"

/-- A loop by index that writes a comma before every item but the first. -/
def each (write : Ostringstream → α → Ostringstream) (o : Ostringstream) (items : List α) :
    Ostringstream :=
  items.zipIdx.foldl (fun o (item, index) => write (if index > 0 then o.char ',' else o) item) o

end Ostringstream

def VehicleSnapshot.toJson (v : VehicleSnapshot) : List Char :=
  let output : Ostringstream := {}
  let output := output.char '{'
    |>.firstKey "connected" |>.bool v.connected
    |>.key "gps_ready" |>.bool v.gpsReady
    |>.key "battery_ready" |>.bool v.batteryReady
    |>.key "system_health_known" |>.bool v.systemHealthKnown
    |>.key "system_health_ok" |>.bool v.systemHealthOk
    |>.key "armable" |>.bool v.armable
    |>.key "armed" |>.bool v.armed
    |>.key "system_id" |>.writeOptionalNumber v.systemId
    |>.key "component_id" |>.writeOptionalNumber v.componentId
    |>.key "vehicle_type" |>.writeOptionalNumber v.vehicleType
    |>.key "autopilot_type" |>.writeOptionalNumber v.autopilotType
    |>.key "system_status" |>.writeOptionalNumber v.systemStatus
    |>.key "flight_mode" |>.writeOptionalNumber v.flightMode
    |>.key "gps_fix_type" |>.writeOptionalNumber v.gpsFixType
    |>.key "satellites_visible" |>.writeOptionalNumber v.satellitesVisible
    |>.key "relative_altitude_m" |>.writeOptionalDecimal 2 v.relativeAltitudeM
    |>.key "local_north_m" |>.writeOptionalDecimal 2 v.localNorthM
    |>.key "local_east_m" |>.writeOptionalDecimal 2 v.localEastM
    |>.key "local_down_m" |>.writeOptionalDecimal 2 v.localDownM
    |>.key "roll_rad" |>.writeOptionalDecimal 2 v.rollRad
    |>.key "pitch_rad" |>.writeOptionalDecimal 2 v.pitchRad
    |>.key "yaw_rad" |>.writeOptionalDecimal 2 v.yawRad
    |>.key "battery_voltage_v" |>.writeOptionalDecimal 2 v.batteryVoltageV
    |>.key "battery_current_a" |>.writeOptionalDecimal 2 v.batteryCurrentA
    |>.key "battery_remaining_pct" |>.writeOptionalNumber (v.batteryRemainingPct.map Int8.toInt)
    |>.key "battery_arming_voltage_v" |>.writeOptionalDecimal 2 v.batteryArmingVoltageV
    |>.key "firmware_major" |>.writeOptionalNumber (v.autopilotMetadata.map (·.firmwareMajor))
    |>.key "firmware_minor" |>.writeOptionalNumber (v.autopilotMetadata.map (·.firmwareMinor))
    |>.key "firmware_patch" |>.writeOptionalNumber (v.autopilotMetadata.map (·.firmwarePatch))
    |>.key "firmware_release_type"
    |>.writeOptionalNumber (v.autopilotMetadata.map (·.firmwareReleaseType))
    |>.key "autopilot_capabilities"
    |>.writeOptionalNumber (v.autopilotMetadata.map (·.capabilities))
    |>.key "board_version" |>.writeOptionalNumber (v.autopilotMetadata.map (·.boardVersion))
    |>.key "board_vendor_id" |>.writeOptionalNumber (v.autopilotMetadata.map (·.vendorId))
    |>.key "board_product_id" |>.writeOptionalNumber (v.autopilotMetadata.map (·.productId))
    |>.key "warnings" |>.char '['
  let output := output.each (fun output warning => output.quoted (jsonEscape warning)) v.warnings
  (output.char ']' |>.char '}').text

def cameraPhaseName : CameraSourcePhase → String
  | .starting => "starting"
  | .streaming => "streaming"
  | .reconnecting => "reconnecting"
  | .stopped => "stopped"
  | .failed => "failed"

def targetTrackPhaseName : TargetTrackPhase → String
  | .searching => "searching"
  | .acquiring => "acquiring"
  | .tracking => "tracking"

def flightStartupPhaseName : FlightStartupPhase → String
  | .disabled => "disabled"
  | .waitingForVehicle => "waiting_for_vehicle"
  | .waitingForReadiness => "waiting_for_readiness"
  | .settingGuided => "setting_guided"
  | .arming => "arming"
  | .takingOff => "taking_off"
  | .completed => "completed"
  | .failed => "failed"

def autonomyPhaseName : AutonomyRuntimePhase → String
  | .disabled => "disabled"
  | .waitingForStartup => "waiting_for_startup"
  | .active => "active"
  | .landing => "landing"
  | .completed => "completed"
  | .failed => "failed"

def companionLinkFailsafePhaseName : CompanionLinkFailsafePhase → String
  | .waitingForVehicle => "waiting_for_vehicle"
  | .readingParameters => "reading_parameters"
  | .accepted => "accepted"
  | .rejected => "rejected"

def ardupilotGcsFailsafeActionName : ArduPilotGcsFailsafeAction → String
  | .disabled => "disabled"
  | .rtl => "rtl"
  | .removedContinueMission => "removed_continue_mission"
  | .smartRtlOrRtl => "smart_rtl_or_rtl"
  | .smartRtlOrLand => "smart_rtl_or_land"
  | .land => "land"
  | .autoLandStartOrRtl => "auto_land_start_or_rtl"
  | .brakeOrLand => "brake_or_land"

/-- The snapshots as they are written out. Here the times and averages of camera and vision are
doubles like all others, which need not be finite. -/
structure Serialised.CameraSnapshot where
  phase : CameraSourcePhase := .starting
  source : String := ""
  error : String := ""
  width : UInt32 := 0
  height : UInt32 := 0
  receivedFrames : Nat := 0
  droppedBeforeProcessing : Nat := 0
  cameraRestarts : Nat := 0
  framesWithCaptureTimestamp : Nat := 0
  measuredFps : Option Double := none
  latestLatencyMs : Option Double := none
  averageLatencyMs : Option Double := none
  maximumLatencyMs : Option Double := none
  latestFrameAgeMs : Option Double := none

structure Serialised.TargetTrackSnapshot where
  phase : TargetTrackPhase := .searching
  targetId : Option Int := none
  consecutiveObservations : Nat := 0
  requiredObservations : Nat := 0
  acceptedObservations : Nat := 0
  observationAgeMs : Option Double := none
  latestDecisionMargin : Option Double := none
  position : Option CameraFramePosition := none

structure Serialised.VisionSnapshot where
  detector : String := ""
  processedFrames : Nat := 0
  framesWithTargets : Nat := 0
  totalTargets : Nat := 0
  latestProcessingMs : Option Double := none
  averageProcessingMs : Option Double := none
  maximumProcessingMs : Option Double := none
  lastDetectionAgeMs : Option Double := none
  latestTargets : List TargetObservation := []
  targetTrack : Serialised.TargetTrackSnapshot := {}

structure Serialised.AppSnapshot where
  vehicle : VehicleSnapshot := {}
  companionHeartbeatActive : Bool := false
  companionLinkFailsafe : CompanionLinkFailsafeSnapshot := {}
  camera : Option Serialised.CameraSnapshot := none
  vision : Option Serialised.VisionSnapshot := none
  flightStartup : FlightStartupSnapshot := {}
  autonomy : AutonomyRuntimeSnapshot := {}
  motionCommandsAllowed : Bool := false

namespace Ostringstream

def companionLinkFailsafe (o : Ostringstream) (f : CompanionLinkFailsafeSnapshot) :
    Ostringstream :=
  let o := o.char '{'
    |>.firstKey "phase" |>.quoted (companionLinkFailsafePhaseName f.phase).toList
    |>.key "detail" |>.quoted (jsonEscape f.detail)
    |>.key "heartbeat_system_id" |>.writeOptionalNumber f.heartbeatSystemId
    |>.key "configured_gcs_system_id" |>.writeOptionalNumber f.configuredGcsSystemId
    |>.key "action"
  let o :=
    match f.action with
    | some action => o.quoted (ardupilotGcsFailsafeActionName action).toList
    | none => o.put "null"
  o.key "timeout_s" |>.writeOptionalDecimal 3 f.timeoutS
    |>.key "options" |>.writeOptionalNumber f.options
    |>.key "parameters_received" |>.number f.parametersReceived
    |>.key "parameters_required" |>.number f.parametersRequired
    |>.char '}'

def camera (o : Ostringstream) (camera : Option Serialised.CameraSnapshot) : Ostringstream :=
  match camera with
  | none => o.put "null"
  | some camera =>
    o.char '{'
      |>.firstKey "phase" |>.quoted (cameraPhaseName camera.phase).toList
      |>.key "source" |>.quoted (jsonEscape camera.source)
      |>.key "error" |>.quoted (jsonEscape camera.error)
      |>.key "width" |>.number camera.width
      |>.key "height" |>.number camera.height
      |>.key "received_frames" |>.number camera.receivedFrames
      |>.key "dropped_before_processing" |>.number camera.droppedBeforeProcessing
      |>.key "camera_restarts" |>.number camera.cameraRestarts
      |>.key "frames_with_capture_timestamp" |>.number camera.framesWithCaptureTimestamp
      |>.key "measured_fps" |>.writeOptionalDecimal 3 camera.measuredFps
      |>.key "latest_latency_ms" |>.writeOptionalDecimal 3 camera.latestLatencyMs
      |>.key "average_latency_ms" |>.writeOptionalDecimal 3 camera.averageLatencyMs
      |>.key "maximum_latency_ms" |>.writeOptionalDecimal 3 camera.maximumLatencyMs
      |>.key "latest_frame_age_ms" |>.writeOptionalDecimal 3 camera.latestFrameAgeMs
      |>.char '}'

def pose (o : Ostringstream) (pose : Option TargetPose) : Ostringstream :=
  match pose with
  | none => o.put "null"
  | some pose =>
    let o := o.setPrecision 4
      |>.char '{' |>.firstKey "frame" |>.quoted "camera_optical".toList
      |>.key "right_m" |>.double pose.position.rightM
      |>.key "down_m" |>.double pose.position.downM
      |>.key "forward_m" |>.double pose.position.forwardM
      |>.key "object_space_error" |>.double pose.objectSpaceError
      |>.key "rotation_tag_to_camera" |>.char '['
    (o.each double (List.ofFn pose.rotationTagToCamera)).char ']' |>.char '}'

def target (o : Ostringstream) (target : TargetObservation) : Ostringstream :=
  o.char '{'
    |>.firstKey "id" |>.number target.id
    |>.key "family" |>.quoted (jsonEscape target.family)
    |>.key "center_x_px" |>.setFixed 2 |>.double target.center.xPx
    |>.key "center_y_px" |>.double target.center.yPx
    |>.key "corrected_bits" |>.number target.correctedBits
    |>.key "decision_margin" |>.double target.decisionMargin
    |>.key "pose" |>.pose target.pose
    |>.char '}'

def trackPosition (o : Ostringstream) (position : Option CameraFramePosition) : Ostringstream :=
  match position with
  | none => o.put "null"
  | some position =>
    o.char '{' |>.firstKey "frame" |>.quoted "camera_optical".toList
      |>.key "right_m" |>.writeOptionalDecimal 3 (some position.rightM)
      |>.key "down_m" |>.writeOptionalDecimal 3 (some position.downM)
      |>.key "forward_m" |>.writeOptionalDecimal 3 (some position.forwardM)
      |>.char '}'

def targetTrack (o : Ostringstream) (track : Serialised.TargetTrackSnapshot) : Ostringstream :=
  o.char '{'
    |>.firstKey "phase" |>.quoted (targetTrackPhaseName track.phase).toList
    |>.key "target_id" |>.writeOptionalNumber track.targetId
    |>.key "consecutive_observations" |>.number track.consecutiveObservations
    |>.key "required_observations" |>.number track.requiredObservations
    |>.key "accepted_observations" |>.number track.acceptedObservations
    |>.key "observation_age_ms" |>.writeOptionalDecimal 3 track.observationAgeMs
    |>.key "latest_decision_margin" |>.writeOptionalDecimal 3 track.latestDecisionMargin
    |>.key "position" |>.trackPosition track.position
    |>.char '}'

def vision (o : Ostringstream) (vision : Option Serialised.VisionSnapshot) : Ostringstream :=
  match vision with
  | none => o.put "null"
  | some vision =>
    let o := o.char '{'
      |>.firstKey "detector" |>.quoted (jsonEscape vision.detector)
      |>.key "processed_frames" |>.number vision.processedFrames
      |>.key "frames_with_targets" |>.number vision.framesWithTargets
      |>.key "total_targets" |>.number vision.totalTargets
      |>.key "latest_processing_ms" |>.writeOptionalDecimal 3 vision.latestProcessingMs
      |>.key "average_processing_ms" |>.writeOptionalDecimal 3 vision.averageProcessingMs
      |>.key "maximum_processing_ms" |>.writeOptionalDecimal 3 vision.maximumProcessingMs
      |>.key "last_detection_age_ms" |>.writeOptionalDecimal 3 vision.lastDetectionAgeMs
      |>.key "targets" |>.char '['
    (o.each target vision.latestTargets).char ']'
      |>.key "target_track" |>.targetTrack vision.targetTrack
      |>.char '}'

def flightStartup (o : Ostringstream) (f : FlightStartupSnapshot) : Ostringstream :=
  o.char '{'
    |>.firstKey "phase" |>.quoted (flightStartupPhaseName f.phase).toList
    |>.key "detail" |>.quoted (jsonEscape f.detail)
    |>.key "target_altitude_m" |>.double f.targetAltitudeM
    |>.key "attempt" |>.number f.attempt
    |>.char '}'

def autonomy (o : Ostringstream) (a : AutonomyRuntimeSnapshot) : Ostringstream :=
  o.char '{'
    |>.firstKey "phase" |>.quoted (autonomyPhaseName a.phase).toList
    |>.key "detail" |>.quoted (jsonEscape a.detail)
    |>.key "vision_landing_target_active" |>.bool a.visionLandingTargetActive
    |>.key "land_attempt" |>.number a.landAttempt
    |>.char '}'

end Ostringstream

/-- The object of the vehicle without its closing brace. -/
def openVehicle (vehicleJson : List Char) : List Char :=
  if vehicleJson.getLast? = some '}' then vehicleJson.dropLast else vehicleJson

/-- The stream when the state of the start-up is next. -/
def Serialised.AppSnapshot.toFlightStartup (s : Serialised.AppSnapshot) : Ostringstream :=
  let output : Ostringstream := {}
  output.chars (openVehicle s.vehicle.toJson)
    |>.key "companion_heartbeat_active" |>.bool s.companionHeartbeatActive
    |>.key "companion_link_failsafe" |>.companionLinkFailsafe s.companionLinkFailsafe
    |>.key "camera" |>.camera s.camera
    |>.key "vision" |>.vision s.vision
    |>.key "flight_startup"

def Serialised.AppSnapshot.toJson (s : Serialised.AppSnapshot) : String :=
  let output := s.toFlightStartup
    |>.flightStartup s.flightStartup
    |>.key "autonomy" |>.autonomy s.autonomy
    |>.key "motion_commands_allowed" |>.bool s.motionCommandsAllowed
    |>.char '}'
  String.ofList output.text

/-- The snapshot of the application, with its exact numbers for doubles. -/
def AppSnapshot.serialised (s : AppSnapshot) : Serialised.AppSnapshot where
  vehicle := s.vehicle
  companionHeartbeatActive := s.companionHeartbeatActive
  companionLinkFailsafe := s.companionLinkFailsafe
  camera := s.camera.map fun camera => {
    phase := camera.phase
    source := camera.source
    error := camera.error
    width := camera.width
    height := camera.height
    receivedFrames := camera.receivedFrames
    droppedBeforeProcessing := camera.droppedBeforeProcessing
    cameraRestarts := camera.cameraRestarts
    framesWithCaptureTimestamp := camera.framesWithCaptureTimestamp
    measuredFps := camera.measuredFps.map .finite
    latestLatencyMs := camera.latestLatencyMs.map .finite
    averageLatencyMs := camera.averageLatencyMs.map .finite
    maximumLatencyMs := camera.maximumLatencyMs.map .finite
    latestFrameAgeMs := camera.latestFrameAgeMs.map .finite }
  vision := s.vision.map fun vision => {
    detector := vision.detector
    processedFrames := vision.processedFrames
    framesWithTargets := vision.framesWithTargets
    totalTargets := vision.totalTargets
    latestProcessingMs := vision.latestProcessingMs.map .finite
    averageProcessingMs := vision.averageProcessingMs.map .finite
    maximumProcessingMs := vision.maximumProcessingMs.map .finite
    lastDetectionAgeMs := vision.lastDetectionAgeMs.map .finite
    latestTargets := vision.latestTargets
    targetTrack := {
      phase := vision.targetTrack.phase
      targetId := vision.targetTrack.targetId
      consecutiveObservations := vision.targetTrack.consecutiveObservations
      requiredObservations := vision.targetTrack.requiredObservations
      acceptedObservations := vision.targetTrack.acceptedObservations
      observationAgeMs := vision.targetTrack.observationAgeMs.map .finite
      latestDecisionMargin := vision.targetTrack.latestDecisionMargin
      position := vision.targetTrack.position } }
  flightStartup := s.flightStartup
  autonomy := s.autonomy
  motionCommandsAllowed := s.motionCommandsAllowed

end OnboardAutonomy
