import OnboardAutonomy.SnapshotJson
import OnboardAutonomy.BoardTypeCatalog
import OnboardAutonomy.Checked

namespace OnboardAutonomy
open ExactDouble DecimalText Checked
set_option autoImplicit true

/-- The snapshot as it is shown, its numbers doubles that need not be finite. -/
structure Console.AppSnapshot extends Serialised.AppSnapshot where
  telemetry : TelemetryStatus := {}
  elapsed : Int := 0
  txActivity : Option LinkActivity := none
  rxActivity : Option LinkActivity := none

namespace Console

abbrev BoardTypeResolver := UInt16 → Option BoardTypeMatch

def kConsoleWidth : Nat := 88
def kInnerWidth : Nat := kConsoleWidth - 2
def kDeviceWidth : Nat := 22
def kLinkWidth : Nat := 40

/-- In milliseconds. -/
def kActivityVisibleFor : Int := 550

def kBlinkHalfPeriod : Int := 120

inductive Tone where
  | normal
  | good
  | waiting
  | bad
  | accent
  | controller
  | chrome
  | dim
deriving DecidableEq

def ansiCode : Tone → String
  | .normal => "\x1b[97m"
  | .good => "\x1b[92m"
  | .waiting => "\x1b[93m"
  | .bad => "\x1b[91m"
  | .accent => "\x1b[96m"
  | .controller => "\x1b[93m"
  | .chrome => "\x1b[94m"
  | .dim => "\x1b[90m"

/-- A part of what is written. A text holds one character for each byte, and an escape sequence is
told apart from the same bytes in a text. -/
inductive Span where
  | text (value : List Char)
  | escape (code : String)

def Span.bytes : Span → List Char
  | .text value => value
  | .escape code => code.toList

def Span.shown : Span → List Char
  | .text value => value
  | .escape _ => []

/-- All that is written. -/
def written (spans : List Span) : List Char := spans.flatMap Span.bytes

/-- What is written without the escape sequences. -/
def shown (spans : List Span) : List Char := spans.flatMap Span.shown

def paint (value : List Char) (tone : Tone) (useColor : Bool) : List Span :=
  if useColor then [.escape (ansiCode tone), .text value, .escape "\x1b[0m"] else [.text value]

def clipped (value : List Char) (width : Nat) : Option (List Char) :=
  if value.length ≤ width then some value
  else if width ≤ 3 then some (value.take width)
  else do
    let kept ← minus width 3
    some (value.take kept ++ "...".toList)

def fitted (value : List Char) (width : Nat) : Option (List Char) := do
  let result ← clipped value width
  let padding ← minus width result.length
  some (result ++ List.replicate padding ' ')

def centered (value : List Char) (width : Nat) : Option (List Char) := do
  let content ← clipped value width
  let margin ← minus width content.length
  let left := margin / 2
  let right ← minus margin left
  some (List.replicate left ' ' ++ content ++ List.replicate right ' ')

/-- What is written for one line, with colour or without. There is none if a width computation
wraps. -/
abbrev Row := Bool → Option (List Span)

def endOfLine : List Span := [.text ['\n']]

def writeBorder (fill : Char) : Row := fun useColor =>
  some (paint (['+'] ++ List.replicate kInnerWidth fill ++ ['+']) .chrome useColor ++ endOfLine)

def writeLine (value : String) (tone : Tone) : Row := fun useColor => do
  let text ← fitted value.toList kInnerWidth
  some (paint ['|'] .chrome useColor ++ paint text tone useColor ++
    paint ['|'] .chrome useColor ++ endOfLine)

def writeCenteredLine (value : String) (tone : Tone) : Row := fun useColor => do
  let text ← centered value.toList kInnerWidth
  some (paint ['|'] .chrome useColor ++ paint text tone useColor ++
    paint ['|'] .chrome useColor ++ endOfLine)

def deviceLine (value : String) : Option (List Char) := do
  let text ← centered value.toList (← minus kDeviceWidth 2)
  some (['|'] ++ text ++ ['|'])

/-- The three texts are worked out before the line is written. -/
def writeTopologyLine (companion : Option (List Char)) (companionTone : Tone)
    (link : Option (List Char)) (linkTone : Tone)
    (controller : Option (List Char)) (controllerTone : Tone) : Row := fun useColor => do
  let companionText ← fitted (← companion) kDeviceWidth
  let linkText ← fitted (← link) kLinkWidth
  let controllerText ← fitted (← controller) kDeviceWidth
  some (paint ['|', ' '] .chrome useColor ++ paint companionText companionTone useColor ++
    paint linkText linkTone useColor ++ paint controllerText controllerTone useColor ++
    paint [' ', '|'] .chrome useColor ++ endOfLine)

def writeHeader (linkStatus transportDescription : String) (connected : Bool) : Row :=
  fun useColor => do
    let title := " ONBOARD AUTONOMY   ".toList
    let linkLabel := "LINK: ".toList
    let transport := "   ".toList ++ transportDescription.toList
    let remaining ←
      minus (← minus (← minus kInnerWidth title.length) linkLabel.length) linkStatus.toList.length
    let text ← fitted transport remaining
    some (paint ['|'] .chrome useColor ++ paint title .accent useColor ++
      paint linkLabel .normal useColor ++
      paint linkStatus.toList (if connected then .good else .dim) useColor ++
      paint text .dim useColor ++ paint ['|'] .chrome useColor ++ endOfLine)

def gpsFixName : Option UInt8 → String
  | none => "WAITING"
  | some 0 => "UNAVAILABLE"
  | some 1 => "NO FIX"
  | some 2 => "2D"
  | some 3 => "3D"
  | some 4 => "DGPS"
  | some 5 => "RTK FLOAT"
  | some 6 => "RTK FIXED"
  | some 7 => "STATIC FIXED"
  | some 8 => "PPP"
  | some _ => "UNKNOWN"

def flightModeName : Option UInt32 → String
  | none => "UNKNOWN"
  | some 0 => "STABILIZE"
  | some 3 => "AUTO"
  | some 4 => "GUIDED"
  | some 5 => "LOITER"
  | some 6 => "RTL"
  | some 9 => "LAND"
  | some 16 => "POSITION HOLD"
  | some mode => "MODE " ++ toString mode

def autopilotName : Option UInt8 → String
  | none => "WAITING"
  | some type => if type = 3 then "ARDUPILOT" else "AUTOPILOT " ++ toString type

def firmwareReleaseName (releaseType : UInt8) : String :=
  if releaseType = 255 then "OFFICIAL"
  else if 192 ≤ releaseType then "RC"
  else if 128 ≤ releaseType then "BETA"
  else if 64 ≤ releaseType then "ALPHA"
  else "DEV"

def firmwareDetail (vehicle : VehicleSnapshot) : String :=
  if vehicle.connected then
    match vehicle.autopilotMetadata with
    | none => "FIRMWARE REQUESTING"
    | some metadata =>
      "FIRMWARE " ++ toString metadata.firmwareMajor ++ "." ++ toString metadata.firmwareMinor ++
        "." ++ toString metadata.firmwarePatch ++ " " ++
        firmwareReleaseName metadata.firmwareReleaseType
  else "FIRMWARE WAITING"

def boardTypeId (boardVersion : UInt32) : UInt16 := (boardVersion >>> 16).toUInt16

def resolveBoardType (boardVersion : UInt32) (resolver : Option BoardTypeResolver) :
    Option BoardTypeMatch :=
  match resolver with
  | none => none
  | some resolve => resolve (boardTypeId boardVersion)

def boardTypeName (boardVersion : UInt32) (resolver : Option BoardTypeResolver) : String :=
  match resolveBoardType boardVersion resolver with
  | some found => found.preferredName
  | none => "BOARD TYPE " ++ toString (boardTypeId boardVersion)

def controllerHardwareName (vehicle : VehicleSnapshot) (resolver : Option BoardTypeResolver) :
    String :=
  match vehicle.connected, vehicle.autopilotMetadata with
  | true, some metadata =>
    if metadata.boardVersion = 0 then "FLIGHT CONTROLLER"
    else boardTypeName metadata.boardVersion resolver
  | _, _ => "FLIGHT CONTROLLER"

/-- What is added for a board type with several names. -/
def aliasesDetail : Option BoardTypeMatch → String
  | some found =>
    if 1 < found.aliases.length then " / " ++ toString found.aliases.length ++ " ALIASES" else ""
  | none => ""

def boardDetail (vehicle : VehicleSnapshot) (resolver : Option BoardTypeResolver) : String :=
  match vehicle.connected, vehicle.autopilotMetadata with
  | true, some metadata =>
    if metadata.boardVersion = 0 then "BOARD UNREPORTED"
    else
      boardTypeName metadata.boardVersion resolver ++
        " / ID " ++ toString (boardTypeId metadata.boardVersion) ++
        " / SILICON " ++ toString (metadata.boardVersion &&& 0xFF) ++
        aliasesDetail (resolveBoardType metadata.boardVersion resolver)
  | _, _ => "BOARD WAITING"

def telemetryDetail (telemetry : TelemetryStatus) : String :=
  let progress := toString telemetry.completedRequests ++ "/" ++ toString telemetry.totalRequests
  match telemetry.state with
  | .waitingForVehicle => "TELEMETRY WAITING"
  | .configuring => "TELEMETRY SETUP " ++ progress ++ " ACCEPTED"
  | .active => "TELEMETRY READY / " ++ toString telemetry.totalRequests ++ " STREAMS"
  | .failed => "TELEMETRY FAILED / " ++ progress ++ " ACCEPTED"

/-- What is written of a value that need not be there. -/
def optionally (value : Option α) (text : α → String) : String :=
  match value with
  | some a => text a
  | none => ""

def companionLinkFailsafeDetail (failsafe : CompanionLinkFailsafeSnapshot) : String :=
  if failsafe.accepted then
    "LINK FAILSAFE READY / ARDUPILOT LAND" ++
      optionally failsafe.timeoutS (fun timeout => " / " ++ fixed 1 timeout ++ " S") ++
      optionally failsafe.configuredGcsSystemId (fun id => " / SYSID " ++ toString id)
  else "LINK FAILSAFE / " ++ failsafe.detail

def companionLinkFailsafeTone (failsafe : CompanionLinkFailsafeSnapshot) : Tone :=
  match failsafe.phase with
  | .accepted => .good
  | .rejected => .bad
  | .readingParameters => .waiting
  | .waitingForVehicle => .dim

def metadataTone (snapshot : AppSnapshot) : Tone :=
  if snapshot.telemetry.state = .failed then .bad
  else if snapshot.telemetry.state = .active ∧ snapshot.vehicle.autopilotMetadata.isSome then .good
  else if snapshot.vehicle.connected then .waiting else .dim

def cameraPhaseName (camera : Serialised.CameraSnapshot) : String :=
  match camera.phase with
  | .starting => "CAMERA STARTING"
  | .streaming => "CAMERA STREAMING"
  | .reconnecting => "CAMERA RECONNECTING"
  | .stopped => "CAMERA STOPPED"
  | .failed => "CAMERA FAILED"

def cameraTone (camera : Serialised.CameraSnapshot) : Tone :=
  match camera.phase with
  | .starting => .waiting
  | .streaming => .good
  | .reconnecting => .waiting
  | .stopped => .dim
  | .failed => .bad

def cameraStreamDetail (camera : Serialised.CameraSnapshot) : String :=
  cameraPhaseName camera ++
    (if 0 < camera.width ∧ 0 < camera.height then
      "   |   " ++ toString camera.width ++ "x" ++ toString camera.height ++ " YUV420" else "") ++
    optionally camera.measuredFps (fun fps => "   |   " ++ fixed 1 fps ++ " FPS") ++
    "   |   " ++ toString camera.receivedFrames ++ " FRAMES" ++
    (if 0 < camera.cameraRestarts then
      "   |   " ++ toString camera.cameraRestarts ++ " RESTARTS" else "")

def cameraLatencyDetail (camera : Serialised.CameraSnapshot) : String :=
  if camera.error = "" then
    match camera.latestLatencyMs with
    | none => "WAITING FOR FRAMEWALLCLOCK METADATA"
    | some latest =>
      "CAMERA LATENCY " ++ fixed 1 latest ++ " MS LATEST" ++
        optionally camera.averageLatencyMs (fun average => " / " ++ fixed 1 average ++ " MS AVG") ++
        optionally camera.maximumLatencyMs (fun maximum => " / " ++ fixed 1 maximum ++ " MS MAX") ++
        "   |   DROP " ++ toString camera.droppedBeforeProcessing
  else camera.error

def visionPipelineDetail (vision : Serialised.VisionSnapshot) : String :=
  "VISION " ++ vision.detector ++ "   |   " ++ toString vision.processedFrames ++ " FRAMES" ++
    optionally vision.averageProcessingMs (fun average => "   |   " ++ fixed 1 average ++ " MS AVG")

/-- The three coordinates, with two digits behind the point. -/
def positionDetail (position : CameraFramePosition) : String :=
  "   |   X RIGHT " ++ fixed 2 position.rightM ++ " M" ++
    "   |   Y DOWN " ++ fixed 2 position.downM ++ " M" ++
    "   |   Z FORWARD " ++ fixed 2 position.forwardM ++ " M"

def observationDetail (target : TargetObservation) : String :=
  "TARGET ID " ++ toString target.id ++
    match target.pose with
    | some pose => positionDetail pose.position
    | none =>
      "   |   CENTER " ++ fixed 1 target.center.xPx ++ "/" ++ fixed 1 target.center.yPx ++ " PX" ++
        "   |   MARGIN " ++ fixed 1 target.decisionMargin ++
        "   |   CORRECTED " ++ toString target.correctedBits

def visionTargetDetail (vision : Serialised.VisionSnapshot) : String :=
  match vision.targetTrack.phase, vision.targetTrack.position, vision.latestTargets with
  | .acquiring, some position, _ => "TARGET POSITION" ++ positionDetail position
  | .tracking, some position, _ => "TARGET POSITION" ++ positionDetail position
  | _, _, [] => "TARGET NOT VISIBLE"
  | _, _, target :: targets =>
    observationDetail target ++
      if 1 < (target :: targets).length then
        "   |   " ++ toString (target :: targets).length ++ " TAGS" else ""

def visionTrackStatusDetail (vision : Serialised.VisionSnapshot) : Option String :=
  let track := vision.targetTrack
  match track.phase, track.targetId with
  | .searching, _ => none
  | _, none => none
  | phase, some targetId =>
    some ("TARGET ID " ++ toString targetId ++
      (if phase = .acquiring then
        "   |   ACQUIRING " ++ toString track.consecutiveObservations ++ "/" ++
          toString track.requiredObservations
      else "   |   TRACKING") ++
      optionally track.observationAgeMs (fun age => "   |   AGE " ++ fixed 0 age ++ " MS"))

def visionTargetTone (vision : Serialised.VisionSnapshot) : Tone :=
  match vision.targetTrack.phase with
  | .tracking => .good
  | .acquiring => .waiting
  | .searching => if vision.latestTargets.isEmpty then .dim else .good

def altitudeDetail (vehicle : VehicleSnapshot) : String :=
  match vehicle.relativeAltitudeM with
  | none => "--"
  | some altitude => fixed 2 altitude ++ " M"

def gpsDetail (vehicle : VehicleSnapshot) : String :=
  gpsFixName vehicle.gpsFixType ++
    optionally vehicle.satellitesVisible (fun satellites => " / " ++ toString satellites ++ " SAT")

def batteryDetail (vehicle : VehicleSnapshot) : String :=
  let parts :=
    (vehicle.batteryVoltageV.map fun voltage => fixed 2 voltage ++ " V").toList ++
    (vehicle.batteryRemainingPct.map fun remaining => toString remaining.toInt ++ "%").toList
  if parts = [] then "WAITING" else " / ".intercalate parts

def startupPhaseName : FlightStartupPhase → String
  | .disabled => "IDLE"
  | .waitingForVehicle => "WAITING"
  | .waitingForReadiness => "WAITING"
  | .settingGuided => "GUIDED"
  | .arming => "ARMING"
  | .takingOff => "TAKEOFF"
  | .completed => "COMPLETE"
  | .failed => "FAILED"

def autonomyPhaseName : AutonomyRuntimePhase → String
  | .disabled => "IDLE"
  | .waitingForStartup => "WAITING"
  | .active => "ACTIVE"
  | .landing => "LANDING"
  | .completed => "COMPLETE"
  | .failed => "FAILED"

def autonomyTone : AutonomyRuntimePhase → Tone
  | .completed => .good
  | .failed => .bad
  | .active => .accent
  | .landing => .accent
  | .disabled => .dim
  | .waitingForStartup => .waiting

/-- The activity, while it is fresh enough to be shown. -/
def freshActivity (activity : Option LinkActivity) (elapsed : Int) : Option LinkActivity :=
  activity.filter fun activity =>
    activity.observedAt ≤ elapsed && elapsed - activity.observedAt ≤ kActivityVisibleFor

def activityIsFresh (activity : Option LinkActivity) (elapsed : Int) : Bool :=
  (freshActivity activity elapsed).isSome

def blinkIsBright (elapsed : Int) : Bool := (elapsed.tdiv kBlinkHalfPeriod).tmod 2 = 0

def activityTone (activity : Option LinkActivity) (elapsed : Int) (groupTone : Tone) : Tone :=
  if activityIsFresh activity elapsed && blinkIsBright elapsed then groupTone else .dim

def activityLabel (activity : LinkActivity) : String :=
  if activity.detail = "" then activity.messageName
  else activity.messageName ++ ": " ++ activity.detail

/-- The packet on a wire. -/
def packetText (activity : LinkActivity) : Option (List Char) := do
  let decorationWidth := 7
  let label ← clipped (activityLabel activity).toList (← minus kLinkWidth decorationWidth)
  some ("[ ".toList ++ label ++ " ]".toList)

def outboundWire (activity : Option LinkActivity) (elapsed : Int) : Option (List Char) :=
  match freshActivity activity elapsed with
  | none => do
    let length ← minus kLinkWidth 1
    some (List.replicate length '-' ++ ['>'])
  | some activity => do
    let packet ← packetText activity
    let pulse := if blinkIsBright elapsed then '=' else '-'
    let length ← minus (← minus kLinkWidth packet.length) 3
    some (List.replicate 2 pulse ++ packet ++ List.replicate length pulse ++ ['>'])

def inboundWire (activity : Option LinkActivity) (elapsed : Int) : Option (List Char) :=
  match freshActivity activity elapsed with
  | none => do
    let length ← minus kLinkWidth 1
    some (['<'] ++ List.replicate length '-')
  | some activity => do
    let packet ← packetText activity
    let pulse := if blinkIsBright elapsed then '=' else '-'
    let length ← minus (← minus kLinkWidth packet.length) 3
    some (['<'] ++ List.replicate length pulse ++ packet ++ List.replicate 2 pulse)

def overallStatus (snapshot : AppSnapshot) : String :=
  let vehicle := snapshot.vehicle
  let phase := snapshot.autonomy.phase
  let telemetryComplete :=
    vehicle.gpsFixType.isSome && vehicle.batteryVoltageV.isSome && vehicle.systemHealthKnown
  if phase = .completed then "FLIGHT COMPLETE"
  else if phase = .failed ∨ snapshot.flightStartup.phase = .failed then "FLIGHT FAILED"
  else if phase ≠ .disabled then "AUTONOMY RUNNING"
  else if !vehicle.connected then "WAITING FOR FLIGHT CONTROLLER"
  else if !telemetryComplete then "CHECKING TELEMETRY"
  else if vehicle.armable then "READY" else "NOT READY"

def overallTone (snapshot : AppSnapshot) : Tone :=
  let status := overallStatus snapshot
  if status = "READY" ∨ status = "FLIGHT COMPLETE" then .good
  else if status = "NOT READY" ∨ status = "FLIGHT FAILED" then .bad
  else if status = "AUTONOMY RUNNING" then .accent
  else .waiting

def cameraRows : Option Serialised.CameraSnapshot → List Row
  | none => []
  | some camera =>
    [writeCenteredLine (cameraStreamDetail camera) (cameraTone camera),
      writeCenteredLine (cameraLatencyDetail camera) (cameraTone camera)]

def trackRows (vision : Serialised.VisionSnapshot) : List Row :=
  match visionTrackStatusDetail vision with
  | none => []
  | some status => [writeCenteredLine status (visionTargetTone vision)]

def visionRows : Option Serialised.VisionSnapshot → List Row
  | none => []
  | some vision =>
    [writeCenteredLine (visionPipelineDetail vision) .accent] ++ trackRows vision ++
      [writeCenteredLine (visionTargetDetail vision) (visionTargetTone vision)]

def controllerMode (vehicle : VehicleSnapshot) : String :=
  if vehicle.connected then
    flightModeName vehicle.flightMode ++ (if vehicle.armed then " / ARMED" else " / DISARMED")
  else "WAITING FOR LINK"

def topologyRows (snapshot : AppSnapshot) (resolver : Option BoardTypeResolver) : List Row :=
  let vehicle := snapshot.vehicle
  let companionHeartbeat :=
    if snapshot.companionHeartbeatActive then "HEARTBEAT ON" else "HEARTBEAT WAIT"
  [writeTopologyLine (some "+--o--------------o--+".toList) .accent
      (centered "MAVLINK".toList kLinkWidth) .dim
      (some "/--o--------------o--\\".toList) .controller,
    writeTopologyLine (deviceLine "RASPBERRY PI 5") .accent
      (outboundWire snapshot.txActivity snapshot.elapsed)
      (activityTone snapshot.txActivity snapshot.elapsed .accent)
      (deviceLine (controllerHardwareName vehicle resolver)) .controller,
    writeTopologyLine (deviceLine "COMPANION COMPUTER") .accent
      (inboundWire snapshot.rxActivity snapshot.elapsed)
      (activityTone snapshot.rxActivity snapshot.elapsed .controller)
      (deviceLine "FLIGHT CONTROLLER") .controller,
    writeTopologyLine (deviceLine companionHeartbeat) (if vehicle.connected then .accent else .dim)
      (some []) .dim
      (deviceLine (controllerMode vehicle)) (if vehicle.connected then .controller else .dim),
    writeTopologyLine (deviceLine "ONBOARD AUTONOMY") .accent (some []) .dim
      (deviceLine (autopilotName vehicle.autopilotType)) .controller,
    writeTopologyLine (some "+--o--------------o--+".toList) .accent (some []) .dim
      (some "\\--o--------------o--/".toList) .controller]

def modeDetail (vehicle : VehicleSnapshot) : String :=
  "MODE " ++ flightModeName vehicle.flightMode ++
    "   |   ALT " ++ altitudeDetail vehicle ++
    "   |   GPS " ++ gpsDetail vehicle ++
    "   |   BAT " ++ batteryDetail vehicle

def warningRow (vehicle : VehicleSnapshot) : Row :=
  match vehicle.warnings with
  | [] =>
    writeCenteredLine
      (if vehicle.connected then "NO ACTIVE WARNINGS" else "WARNINGS AVAILABLE AFTER CONNECTION")
      (if vehicle.connected then .good else .dim)
  | warning :: _ => writeCenteredLine ("! " ++ warning) .bad

def runDetail (snapshot : AppSnapshot) : String :=
  let startup := snapshot.flightStartup
  if startup.phase = .completed ∨ startup.phase = .disabled then snapshot.autonomy.detail
  else startup.detail

/-- The calls that write the screen, in order. -/
def rows (snapshot : AppSnapshot) (transportDescription : String)
    (resolver : Option BoardTypeResolver) : List Row :=
  let vehicle := snapshot.vehicle
  let autonomy := snapshot.autonomy
  [writeBorder '=',
    writeHeader (if vehicle.connected then "ONLINE" else "WAITING") transportDescription
      vehicle.connected,
    writeBorder '-',
    writeLine "" .normal] ++
  topologyRows snapshot resolver ++
  [writeLine "" .normal,
    writeCenteredLine ("[ " ++ overallStatus snapshot ++ " ]") (overallTone snapshot),
    writeCenteredLine (telemetryDetail snapshot.telemetry ++ "   |   " ++ firmwareDetail vehicle)
      (metadataTone snapshot),
    writeCenteredLine (boardDetail vehicle resolver) (metadataTone snapshot),
    writeCenteredLine (companionLinkFailsafeDetail snapshot.companionLinkFailsafe)
      (companionLinkFailsafeTone snapshot.companionLinkFailsafe)] ++
  cameraRows snapshot.camera ++
  visionRows snapshot.vision ++
  [writeCenteredLine (modeDetail vehicle) (if vehicle.connected then .normal else .dim),
    warningRow vehicle,
    writeBorder '-',
    writeLine (" AUTONOMY: " ++ autonomyPhaseName autonomy.phase ++
      " | STARTUP: " ++ startupPhaseName snapshot.flightStartup.phase)
      (autonomyTone autonomy.phase),
    writeLine (" " ++ runDetail snapshot) (autonomyTone autonomy.phase),
    writeCenteredLine
      (if snapshot.motionCommandsAllowed then "[S] START AGAIN     [Q] QUIT"
        else "LIVE VIEW     MOTION KEYS DISABLED     CTRL+C EXIT")
      (if snapshot.motionCommandsAllowed then .normal else .dim),
    writeBorder '=']

/-- There is no screen when a width computation wraps. -/
def renderConsole (snapshot : AppSnapshot) (transportDescription : String) (useColor : Bool)
    (resolver : Option BoardTypeResolver) : Option (List Span) :=
  let parts := (rows snapshot transportDescription resolver).mapM fun row : Row => row useColor
  parts.map List.flatten

end Console
end OnboardAutonomy
