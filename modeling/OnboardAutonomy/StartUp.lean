import OnboardAutonomy.OptionDependencies
import OnboardAutonomy.CompanionApplication

namespace OnboardAutonomy
open ExactDouble
set_option autoImplicit true

inductive RuntimeEnvironment where
  | hardwareOrUnknown
  | sitl
deriving DecidableEq

inductive MavlinkTransport where
  | udp
  | serial
deriving DecidableEq

structure MotionSafetyDecision where
  configurationValid : Bool := false
  motionCommandsAllowed : Bool := false
  reason : String

def evaluateMotionSafety (environment : RuntimeEnvironment) (transport : MavlinkTransport)
    (motionRequested : Bool) : MotionSafetyDecision :=
  if environment = .sitl ∧ transport ≠ .udp then
    { reason := "--sitl requires UDP transport" }
  else if !motionRequested then
    { configurationValid := true, reason := "observation-only mode" }
  else if environment ≠ .sitl then
    { reason := "motion commands require explicit --sitl mode" }
  else
    { configurationValid := true, motionCommandsAllowed := true
      reason := "explicit SITL motion mode" }

/-- Motion is allowed when it is requested, and a request is valid only towards a simulator. -/
theorem evaluateMotionSafety_spec
    (h : (evaluateMotionSafety environment transport requested).configurationValid = true) :
    (evaluateMotionSafety environment transport requested).motionCommandsAllowed = requested ∧
      (environment = .sitl → transport = .udp) ∧ (requested = true → environment = .sitl) := by
  revert h
  cases environment <;> cases transport <;> cases requested <;> decide

/-- What the detector needs to know of a calibration. -/
structure CameraCalibration where
  imageWidth : UInt32
  imageHeight : UInt32

/-- What the program meets when it starts: files, the terminal, and the parts it makes. Each part
may throw. -/
structure Machine where
  isRegularFile : String → Bool
  installedBoardTypes : String
  installedPreviewPage : String
  rawTerminal : Bool
  boardTypeCatalog : String → Except String Unit
  makeUdpTransport : String → UInt16 → Except String Unit
  makeSerialTransport : String → UInt32 → Except String Unit
  makeRpicamCameraSource : UInt32 → UInt32 → UInt32 → Except String Unit
  makeGstreamerCameraSource : UInt32 → UInt32 → UInt16 → Except String Unit
  cameraCalibration : String → Except String CameraCalibration
  makeApriltagTargetDetector : Option (CameraCalibration × Option Double) → Except String Unit
  cameraExtrinsics : String → Except String CameraExtrinsics
  makeHttpCameraPreviewServer : UInt16 → String → Except String Unit

namespace Machine

def loadBoardTypeCatalog (machine : Machine) (options : CommandLineOptions) :
    Except String Unit :=
  let candidates :=
    if options.boardTypesFile ≠ "" then [options.boardTypesFile]
    else [machine.installedBoardTypes, "third_party/ardupilot/board_types.txt"]
  match candidates.find? machine.isRegularFile with
  | some candidate => machine.boardTypeCatalog candidate
  | none => reject (options.boardTypesFile != "")
      ("board type table not found: " ++ options.boardTypesFile)

def findCameraPreviewPage (machine : Machine) : Except String String :=
  match [machine.installedPreviewPage, "assets/camera-preview/index.html"].find?
    machine.isRegularFile with
  | some candidate => .ok candidate
  | none => .error "camera preview page was not found"

/-- The console input switches a terminal to raw mode when it is enabled. -/
def consoleInputActive (machine : Machine) (enabled : Bool) : Bool := enabled && machine.rawTerminal

/-- The table of boards is only for the console. -/
def loadConsoleTables (machine : Machine) (options : CommandLineOptions) : Except String Unit :=
  if options.jsonOutput then .ok () else machine.loadBoardTypeCatalog options

def motionSafety (options : CommandLineOptions) : MotionSafetyDecision :=
  evaluateMotionSafety (if options.sitlMode then .sitl else .hardwareOrUnknown)
    (if options.transport = .udp then .udp else .serial)
    (options.autonomous || options.interactive)

/-- What comes before the transport. Nothing is left to run after the help. -/
def beforeTransport (machine : Machine) (arguments : List String) :
    Except String (Option CommandLineOptions) := do
  let options ← parseCommandLine arguments
  if options.showHelp then return none
  machine.loadConsoleTables options
  reject (!(motionSafety options).configurationValid) (motionSafety options).reason
  reject (options.interactive &&
      !machine.consoleInputActive (options.interactive && !options.jsonOutput))
    "--interactive requires a live terminal"
  return some options

def openTransport (machine : Machine) (options : CommandLineOptions) : Except String Unit :=
  match options.transport with
  | .udp => machine.makeUdpTransport options.udpBind options.udpPort
  | .serial => machine.makeSerialTransport options.serialDevice options.baudRate

def openCamera (machine : Machine) (options : CommandLineOptions) : Except String Unit :=
  if options.cameraEnabled then
    match options.cameraBackend with
    | .rpicam =>
      machine.makeRpicamCameraSource options.cameraWidth options.cameraHeight options.cameraFps
    | .gstreamer =>
      machine.makeGstreamerCameraSource options.cameraWidth options.cameraHeight
        options.cameraUdpPort
  else .ok ()

/-- The pose needs a calibration made at the resolution the camera runs at. -/
def loadPose (machine : Machine) (options : CommandLineOptions) :
    Except String (Option (CameraCalibration × Option Double)) :=
  if hasCalibration options then do
    let calibration ← machine.cameraCalibration options.cameraCalibrationFile
    reject (calibration.imageWidth != options.cameraWidth ||
        calibration.imageHeight != options.cameraHeight)
      "camera runtime resolution does not match calibration"
    return some (calibration, options.apriltagTagSizeM)
  else .ok none

def makeDetector (machine : Machine) (options : CommandLineOptions) : Except String Unit :=
  if options.apriltagEnabled then do
    machine.makeApriltagTargetDetector (← machine.loadPose options)
  else .ok ()

def loadExtrinsics (machine : Machine) (options : CommandLineOptions) :
    Except String (Option CameraExtrinsics) :=
  if hasExtrinsics options then
    (machine.cameraExtrinsics options.cameraExtrinsicsFile).map some
  else .ok none

def makePreview (machine : Machine) (options : CommandLineOptions) : Except String Unit :=
  if options.cameraPreviewEnabled then do
    machine.makeHttpCameraPreviewServer options.cameraPreviewPort
      (← machine.findCameraPreviewPage)
  else .ok ()

/-- The transport and the other parts, and what the application is constructed from. -/
def makeParts (machine : Machine) (options : CommandLineOptions) :
    Except String CompanionApplicationOptions := do
  machine.openTransport options
  machine.openCamera options
  machine.makeDetector options
  let cameraExtrinsics ← machine.loadExtrinsics options
  machine.makePreview options
  return {
    flightStartup := { enabled := options.autonomous, takeoffAltitudeM := .finite 8 }
    autonomyRuntime := { enabled := options.autonomous }
    motionCommandsAllowed := (motionSafety options).motionCommandsAllowed
    cameraSource := options.cameraEnabled
    targetDetector := options.apriltagEnabled
    cameraPreviewSink := options.cameraPreviewEnabled
    cameraExtrinsics := cameraExtrinsics }

/-- How far start-up came: the transport it went on to open, what it constructed the application
from, and the application, nothing after the help, or the reason it was refused. -/
structure StartUp where
  transport : Option TransportBackend := none
  applicationOptions : Option CompanionApplicationOptions := none
  outcome : Except String (Option CompanionApplication)

/-- The program up to its main loop. -/
def startUp (machine : Machine) (arguments : List String) : StartUp :=
  match machine.beforeTransport arguments with
  | .error reason => { outcome := .error reason }
  | .ok none => { outcome := .ok none }
  | .ok (some options) =>
    match machine.makeParts options with
    | .error reason => { transport := some options.transport, outcome := .error reason }
    | .ok applicationOptions =>
      { transport := some options.transport
        applicationOptions := some applicationOptions
        outcome := (CompanionApplication.new applicationOptions).map some }

theorem beforeTransport_ok {machine : Machine}
    (h : machine.beforeTransport arguments = .ok (some options)) :
    ∃ p, parseArguments arguments {} = .ok p ∧ p.options = options ∧
      (motionSafety options).configurationValid = true := by
  obtain ⟨options', hparse, h⟩ := bind_ok.mp h
  split at h
  · cases h
  · obtain ⟨-, -, h⟩ := bind_ok.mp h
    simp only [reject_bind] at h
    obtain ⟨hvalid, -, h⟩ := h
    cases h
    obtain ⟨p, hp, -, hoptions⟩ := parseCommandLine_ok hparse
    exact ⟨p, hp, hoptions, by simpa using hvalid⟩

theorem beforeTransport_help {machine : Machine}
    (h : machine.beforeTransport arguments = .ok none) : given arguments .help = true := by
  obtain ⟨options, hparse, h⟩ := bind_ok.mp h
  obtain ⟨p, hp, -, rfl⟩ := parseCommandLine_ok hparse
  split at h
  · rename_i hhelp
    exact (parseArguments_reading hp).help ▸ hhelp
  · obtain ⟨-, -, h⟩ := bind_ok.mp h
    simp only [reject_bind] at h
    cases h.2.2

theorem makeParts_motion {machine : Machine}
    (h : machine.makeParts options = .ok applicationOptions) :
    applicationOptions.motionCommandsAllowed = (motionSafety options).motionCommandsAllowed := by
  obtain ⟨_, _, h⟩ := bind_ok.mp h
  obtain ⟨_, _, h⟩ := bind_ok.mp h
  obtain ⟨_, _, h⟩ := bind_ok.mp h
  obtain ⟨_, _, h⟩ := bind_ok.mp h
  obtain ⟨_, _, h⟩ := bind_ok.mp h
  cases h
  rfl

/-- Motion is requested by one of two switches. -/
def motionRequested (arguments : List String) : Bool :=
  given arguments .autonomous || given arguments .interactive

theorem beforeTransport_policy {machine : Machine}
    (h : machine.beforeTransport arguments = .ok (some options)) :
    (motionSafety options).motionCommandsAllowed = motionRequested arguments ∧
      (given arguments .sitl = true → effectiveTransport arguments = .udp) ∧
      (motionRequested arguments = true → given arguments .sitl = true) := by
  obtain ⟨p, hp, rfl, hvalid⟩ := beforeTransport_ok h
  have hr := parseArguments_reading hp
  have hspec := evaluateMotionSafety_spec hvalid
  rw [← hr.sitl, ← hr.transport, motionRequested, ← hr.autonomous, ← hr.interactive]
  refine ⟨hspec.1, fun hsitl => ?_, fun hrequested => ?_⟩
  · simpa [hsitl] using hspec.2.1
  · simpa [hrequested] using hspec.2.2

/-- Motion is permitted exactly when it was asked for, and then towards a simulator over UDP; a
request that is not of this kind is refused before any transport is opened. -/
theorem motion_permission (machine : Machine) (arguments : List String) :
    (∀ options, (machine.startUp arguments).applicationOptions = some options →
      (options.motionCommandsAllowed = true ↔
        given arguments .autonomous = true ∨ given arguments .interactive = true) ∧
      (options.motionCommandsAllowed = true →
        given arguments .sitl = true ∧ effectiveTransport arguments = .udp)) ∧
    ((given arguments .autonomous = true ∨ given arguments .interactive = true) ∧
        given arguments .sitl = false ∨
      given arguments .sitl = true ∧ effectiveTransport arguments = .serial →
      (machine.startUp arguments).transport = none ∧
        ((∃ reason, (machine.startUp arguments).outcome = .error reason) ∨
          given arguments .help = true ∧ (machine.startUp arguments).outcome = .ok none)) := by
  have hrequested : motionRequested arguments = true ↔
      given arguments .autonomous = true ∨ given arguments .interactive = true := by
    rw [motionRequested, Bool.or_eq_true]
  rw [← hrequested, startUp]
  split
  · rename_i reason hbefore
    exact ⟨fun options h => (by cases h), fun _ => ⟨rfl, .inl ⟨reason, rfl⟩⟩⟩
  · rename_i hbefore
    exact ⟨fun options h => (by cases h), fun _ => ⟨rfl, .inr ⟨beforeTransport_help hbefore, rfl⟩⟩⟩
  · rename_i options hbefore
    obtain ⟨hallowed, hudp, hsitl⟩ := beforeTransport_policy hbefore
    constructor
    · intro applicationOptions happlication
      split at happlication
      · cases happlication
      · rename_i hparts
        cases happlication
        rw [makeParts_motion hparts, hallowed]
        exact ⟨Iff.rfl, fun h => ⟨hsitl h, hudp (hsitl h)⟩⟩
    · rintro (⟨hasked, hno⟩ | ⟨hgiven, hserial⟩)
      · exact absurd (hsitl hasked) (by rw [hno]; decide)
      · exact absurd (hudp hgiven) (by rw [hserial]; decide)

/-- A machine with a terminal, on which every part can be made. -/
def bench : Machine where
  isRegularFile _ := true
  installedBoardTypes := "board-types.txt"
  installedPreviewPage := "camera-preview.html"
  rawTerminal := true
  boardTypeCatalog _ := .ok ()
  makeUdpTransport _ _ := .ok ()
  makeSerialTransport _ _ := .ok ()
  makeRpicamCameraSource _ _ _ := .ok ()
  makeGstreamerCameraSource _ _ _ := .ok ()
  cameraCalibration _ := .ok { imageWidth := 640, imageHeight := 480 }
  makeApriltagTargetDetector _ := .ok ()
  cameraExtrinsics _ := .error "cannot open camera extrinsics"
  makeHttpCameraPreviewServer _ _ := .ok ()

theorem motion_permission_simulated :
    ∃ options, (bench.startUp ["--interactive", "--sitl"]).applicationOptions = some options ∧
      options.motionCommandsAllowed = true ∧
      effectiveTransport ["--interactive", "--sitl"] = .udp := by
  have hstarted : (bench.startUp ["--interactive", "--sitl"]).applicationOptions.isSome = true := by
    decide +kernel
  obtain ⟨options, hoptions⟩ := Option.isSome_iff_exists.mp hstarted
  obtain ⟨hiff, hudp⟩ := (motion_permission bench ["--interactive", "--sitl"]).1 options hoptions
  have hallowed : options.motionCommandsAllowed = true := hiff.mpr (.inr (by decide))
  exact ⟨options, hoptions, hallowed, (hudp hallowed).2⟩

end Machine
end OnboardAutonomy
