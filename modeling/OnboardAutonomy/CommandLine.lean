import OnboardAutonomy.ExactDouble
import Mathlib.Algebra.Order.Field.Rat

namespace OnboardAutonomy
open ExactDouble
set_option autoImplicit true

inductive TransportBackend where
  | udp
  | serial
deriving DecidableEq

inductive CameraBackend where
  | rpicam
  | gstreamer
deriving DecidableEq

structure CommandLineOptions where
  transport : TransportBackend := .udp
  udpBind : String := "0.0.0.0"
  udpPort : UInt16 := 14550
  serialDevice : String := ""
  baudRate : UInt32 := 115200
  snapshotIntervalMs : UInt32 := 1000
  cameraEnabled : Bool := false
  cameraBackend : CameraBackend := .rpicam
  cameraUdpPort : UInt16 := 5601
  apriltagEnabled : Bool := false
  cameraCalibrationFile : String := ""
  cameraExtrinsicsFile : String := ""
  apriltagTagSizeM : Option Double := none
  cameraPreviewEnabled : Bool := false
  cameraPreviewPort : UInt16 := 8080
  cameraWidth : UInt32 := 640
  cameraHeight : UInt32 := 480
  cameraFps : UInt32 := 30
  boardTypesFile : String := ""
  jsonOutput : Bool := false
  sitlMode : Bool := false
  autonomous : Bool := false
  exitAfterAutonomy : Bool := false
  interactive : Bool := false
  showHelp : Bool := false
deriving DecidableEq

structure ExplicitOptions where
  udpBind : Bool := false
  udpPort : Bool := false
  serialDevice : Bool := false
  baudRate : Bool := false
  cameraSource : Bool := false
  cameraUdpPort : Bool := false
  cameraWidth : Bool := false
  cameraHeight : Bool := false
  cameraFps : Bool := false
  cameraPreviewPort : Bool := false
deriving DecidableEq

/-- The value of a text of digits. -/
def digitsValue (digits : List Char) : Option Nat :=
  if digits ≠ [] ∧ digits.all Char.isDigit then
    some (digits.foldl (fun value c => 10 * value + (c.toNat - '0'.toNat)) 0)
  else none

theorem digitsValue_digits (h : digitsValue digits = some value) :
    digits ≠ [] ∧ ∀ c ∈ digits, c.isDigit = true := by
  rw [digitsValue] at h
  split at h
  · rename_i hdigits
    exact ⟨hdigits.1, List.all_eq_true.1 hdigits.2⟩
  · cases h

/-- `std::from_chars` for an unsigned type of a width, over the whole text. -/
def parseUnsigned (width : Nat) (text : String) : Option Nat :=
  (digitsValue text.toList).bind fun value => if value < 2 ^ width then some value else none

def parseExponent : List Char → Option Int
  | [] => none
  | '-' :: digits => (digitsValue digits).map fun value => -(value : Int)
  | '+' :: digits => (digitsValue digits).map Int.ofNat
  | digits => (digitsValue digits).map Int.ofNat

/-- Digits with an optional point and exponent. -/
def parseDecimal (text : List Char) : Option ℚ :=
  let (mantissa, exponent) := text.span fun c => c ≠ 'e' && c ≠ 'E'
  let (whole, fraction) := mantissa.span (· ≠ '.')
  do
    let digits ← digitsValue (whole ++ fraction.tail)
    let power ← if exponent = [] then some 0 else parseExponent exponent.tail
    return (digits : ℚ) * (10 : ℚ) ^ (power - fraction.tail.length)

def isNan (text : List Char) : Bool :=
  text = "nan".toList ||
    (text.take 4 = "nan(".toList && text.getLast? = some ')' &&
      (text.drop 4).dropLast.all fun c => c.isAlphanum || c = '_')

/-- `std::from_chars` for `double` without the sign, over the whole text: what rounds to an infinity
or to zero is out of range. -/
def parseMagnitude (text : List Char) : Option Double :=
  let lower := text.map Char.toLower
  if lower = "inf".toList || lower = "infinity".toList then some .posInf
  else if isNan lower then some .nan
  else (parseDecimal text).bind fun q =>
    if q = 0 ∨ ((1 / 2 : ℚ) ^ 1075 < q ∧ q < 2 ^ 1024 - 2 ^ 970) then some (.finite q) else none

def parseDouble (text : String) : Option Double :=
  match text.toList with
  | '-' :: magnitude => (parseMagnitude magnitude).map Double.neg
  | magnitude => parseMagnitude magnitude

/-- `parse_number` with the value its type has for a text, or none. -/
def parseNumber (value : Option α) (option : String) : Except String α :=
  match value with
  | some value => .ok value
  | none => .error ("Invalid numeric value for " ++ option)

def parsePort (text option : String) : Except String UInt16 :=
  parseNumber ((parseUnsigned 16 text).map UInt16.ofNat) option

def parseCount (text option : String) : Except String UInt32 :=
  parseNumber ((parseUnsigned 32 text).map UInt32.ofNat) option

/-- The size in metres of one in millimetres; what is too small to be told from zero becomes
zero. -/
def metres : Double → Double
  | .finite q => .finite (if |q| ≤ 1000 * (1 / 2 : ℚ) ^ 1075 then 0 else q / 1000)
  | size => size

example : parseCount "57600" "--baud" = .ok 57600 := by decide +kernel
example : parseDouble "-1.5e2" = some (.finite (-150)) := by decide +kernel

inductive Switch where
  | transport
  | udpBind
  | udpPort
  | serialDevice
  | baud
  | snapshotMs
  | camera
  | cameraSource
  | cameraUdpPort
  | cameraWidth
  | cameraHeight
  | cameraFps
  | apriltag
  | cameraCalibration
  | cameraExtrinsics
  | apriltagSizeMm
  | cameraPreview
  | cameraPreviewPort
  | boardTypes
  | json
  | sitl
  | autonomous
  | exitAfterAutonomy
  | interactive
  | help
deriving DecidableEq

def Switch.ofText (argument : String) : Option Switch :=
  match argument with
  | "--transport" => some .transport
  | "--udp-bind" => some .udpBind
  | "--udp-port" => some .udpPort
  | "--serial-device" => some .serialDevice
  | "--baud" => some .baud
  | "--snapshot-ms" => some .snapshotMs
  | "--camera" => some .camera
  | "--camera-source" => some .cameraSource
  | "--camera-udp-port" => some .cameraUdpPort
  | "--camera-width" => some .cameraWidth
  | "--camera-height" => some .cameraHeight
  | "--camera-fps" => some .cameraFps
  | "--apriltag" => some .apriltag
  | "--camera-calibration" => some .cameraCalibration
  | "--camera-extrinsics" => some .cameraExtrinsics
  | "--apriltag-size-mm" => some .apriltagSizeMm
  | "--camera-preview" => some .cameraPreview
  | "--camera-preview-port" => some .cameraPreviewPort
  | "--board-types" => some .boardTypes
  | "--json" => some .json
  | "--sitl" => some .sitl
  | "--autonomous" => some .autonomous
  | "--exit-after-autonomy" => some .exitAfterAutonomy
  | "--interactive" => some .interactive
  | "--help" | "-h" => some .help
  | _ => none

/-- The switches that consume the argument after them. -/
def Switch.takesValue : Switch → Bool
  | .transport | .udpBind | .udpPort | .serialDevice | .baud | .snapshotMs | .cameraSource
  | .cameraUdpPort | .cameraWidth | .cameraHeight | .cameraFps | .cameraCalibration
  | .cameraExtrinsics | .apriltagSizeMm | .cameraPreviewPort | .boardTypes => true
  | .camera | .apriltag | .cameraPreview | .json | .sitl | .autonomous | .exitAfterAutonomy
  | .interactive | .help => false

/-- The two records the loop fills. -/
structure ParsedOptions where
  options : CommandLineOptions := {}
  explicit : ExplicitOptions := {}
deriving DecidableEq

def parseTransport : String → Except String TransportBackend
  | "udp" => .ok .udp
  | "serial" => .ok .serial
  | _ => .error "--transport must be udp or serial"

def parseCameraSource : String → Except String CameraBackend
  | "rpicam" => .ok .rpicam
  | "gstreamer" => .ok .gstreamer
  | _ => .error "--camera-source must be rpicam or gstreamer"

/-- A switch with the value it consumed, empty for one that consumes none. -/
def ParsedOptions.set (p : ParsedOptions) (switch : Switch) (argument value : String) :
    Except String ParsedOptions :=
  match switch with
  | .transport => do return { p with options.transport := ← parseTransport value }
  | .udpBind => .ok { p with options.udpBind := value, explicit.udpBind := true }
  | .udpPort => do
    return { p with options.udpPort := ← parsePort value argument, explicit.udpPort := true }
  | .serialDevice =>
    .ok { p with options.serialDevice := value, explicit.serialDevice := true }
  | .baud => do
    return { p with options.baudRate := ← parseCount value argument, explicit.baudRate := true }
  | .snapshotMs => do
    return { p with options.snapshotIntervalMs := ← parseCount value argument }
  | .camera => .ok { p with options.cameraEnabled := true }
  | .cameraSource => do
    return { p with
      options.cameraBackend := ← parseCameraSource value, explicit.cameraSource := true }
  | .cameraUdpPort => do
    return { p with
      options.cameraUdpPort := ← parsePort value argument, explicit.cameraUdpPort := true }
  | .cameraWidth => do
    return { p with
      options.cameraWidth := ← parseCount value argument, explicit.cameraWidth := true }
  | .cameraHeight => do
    return { p with
      options.cameraHeight := ← parseCount value argument, explicit.cameraHeight := true }
  | .cameraFps => do
    return { p with
      options.cameraFps := ← parseCount value argument, explicit.cameraFps := true }
  | .apriltag => .ok { p with options.apriltagEnabled := true }
  | .cameraCalibration => .ok { p with options.cameraCalibrationFile := value }
  | .cameraExtrinsics => .ok { p with options.cameraExtrinsicsFile := value }
  | .apriltagSizeMm => do
    let size ← parseNumber (parseDouble value) argument
    return { p with options.apriltagTagSizeM := some (metres size) }
  | .cameraPreview => .ok { p with options.cameraPreviewEnabled := true }
  | .cameraPreviewPort => do
    return { p with
      options.cameraPreviewPort := ← parsePort value argument
      explicit.cameraPreviewPort := true }
  | .boardTypes => .ok { p with options.boardTypesFile := value }
  | .json => .ok { p with options.jsonOutput := true }
  | .sitl => .ok { p with options.sitlMode := true }
  | .autonomous => .ok { p with options.autonomous := true }
  | .exitAfterAutonomy => .ok { p with options.exitAfterAutonomy := true }
  | .interactive => .ok { p with options.interactive := true }
  | .help => .ok { p with options.showHelp := true }

/-- Why an argument that is no switch is rejected. -/
def unknownArgument (argument : String) : String :=
  if argument = "--serial" then
    "--serial was renamed; use --transport serial --serial-device DEVICE"
  else if argument ∈ ["--scenario", "--demo-flight", "--exit-after-scenario"] then
    argument ++ " was removed; use --autonomous"
  else "Unknown argument: " ++ argument

/-- The loop over the arguments. -/
def parseArguments : List String → ParsedOptions → Except String ParsedOptions
  | [], p => .ok p
  | argument :: rest, p =>
    match Switch.ofText argument with
    | none => .error (unknownArgument argument)
    | some switch =>
      if switch.takesValue then
        match rest with
        | [] => .error ("Missing value after " ++ argument)
        | value :: rest =>
          match p.set switch argument value with
          | .error message => .error message
          | .ok p => parseArguments rest p
      else
        match p.set switch argument "" with
        | .error message => .error message
        | .ok p => parseArguments rest p

/-- A check that throws. -/
def reject (condition : Bool) (message : String) : Except String Unit :=
  if condition then .error message else .ok ()

def validateTransport (options : CommandLineOptions) (explicit : ExplicitOptions) :
    Except String Unit :=
  match options.transport with
  | .udp => do
    reject (explicit.serialDevice || explicit.baudRate)
      "--serial-device and --baud require --transport serial"
    reject (options.udpBind == "") "--udp-bind cannot be empty"
    reject (options.udpPort == 0) "--udp-port must be positive"
  | .serial => do
    reject (explicit.udpBind || explicit.udpPort)
      "--udp-bind and --udp-port require --transport udp"
    reject (options.serialDevice == "") "--transport serial requires --serial-device DEVICE"
    reject (options.baudRate == 0) "--baud must be positive"
    reject options.sitlMode "--sitl cannot be combined with --transport serial"

def hasCalibration (options : CommandLineOptions) : Bool := options.cameraCalibrationFile != ""

def hasExtrinsics (options : CommandLineOptions) : Bool := options.cameraExtrinsicsFile != ""

def cameraSettingUsed (options : CommandLineOptions) (explicit : ExplicitOptions) : Bool :=
  explicit.cameraSource || explicit.cameraUdpPort || explicit.cameraWidth ||
    explicit.cameraHeight || explicit.cameraFps || explicit.cameraPreviewPort ||
    options.apriltagEnabled || options.cameraPreviewEnabled || hasCalibration options ||
    hasExtrinsics options || options.apriltagTagSizeM.isSome

/-- The tag size, where there is one, is finite and positive. -/
def badTagSize (options : CommandLineOptions) : Bool :=
  match options.apriltagTagSizeM with
  | some size => !size.isFinite || size.ble (.finite 0)
  | none => false

/-- The checks of an enabled camera, in their order. -/
def validateEnabledCamera (options : CommandLineOptions) (explicit : ExplicitOptions) :
    Except String Unit := do
  reject (options.cameraWidth == 0 || options.cameraHeight == 0 ||
      options.cameraWidth % 2 != 0 || options.cameraHeight % 2 != 0)
    "camera width and height must be positive even values"
  reject (options.cameraBackend == .rpicam && explicit.cameraUdpPort)
    "--camera-udp-port requires --camera-source gstreamer"
  reject (options.cameraBackend == .gstreamer && explicit.cameraFps)
    "--camera-fps is available only for --camera-source rpicam"
  reject (options.cameraBackend == .rpicam && options.cameraFps == 0)
    "--camera-fps must be positive"
  reject (options.cameraBackend == .gstreamer && options.cameraUdpPort == 0)
    "--camera-udp-port must be positive"
  reject (explicit.cameraPreviewPort && !options.cameraPreviewEnabled)
    "--camera-preview-port requires --camera-preview"
  reject (options.cameraPreviewEnabled && options.cameraPreviewPort == 0)
    "--camera-preview-port must be positive"
  reject (hasCalibration options != options.apriltagTagSizeM.isSome)
    "--camera-calibration and --apriltag-size-mm must be provided together"
  reject (hasCalibration options && !options.apriltagEnabled)
    "calibrated AprilTag pose requires --apriltag"
  reject (badTagSize options) "--apriltag-size-mm must be finite and positive"
  reject (hasExtrinsics options && !hasCalibration options)
    "--camera-extrinsics requires calibrated AprilTag pose"
  reject (options.autonomous && !hasExtrinsics options)
    "--autonomous requires --camera-extrinsics"

/-- Without a camera nothing more is checked. -/
def validateCamera (options : CommandLineOptions) (explicit : ExplicitOptions) :
    Except String Unit := do
  reject (cameraSettingUsed options explicit && !options.cameraEnabled)
    "camera, vision, and preview options require --camera"
  if !options.cameraEnabled then return
  validateEnabledCamera options explicit

def validateOptions (options : CommandLineOptions) (explicit : ExplicitOptions) :
    Except String Unit := do
  if options.showHelp then return
  reject (options.snapshotIntervalMs == 0) "--snapshot-ms must be positive"
  reject (options.exitAfterAutonomy && !options.autonomous)
    "--exit-after-autonomy requires --autonomous"
  reject (options.interactive && options.jsonOutput) "--interactive cannot be combined with --json"
  validateTransport options explicit
  validateCamera options explicit

def parseCommandLine (arguments : List String) : Except String CommandLineOptions := do
  let p ← parseArguments arguments {}
  validateOptions p.options p.explicit
  return p.options

theorem reject_bind {rest : Except String α} :
    (reject condition message >>= fun _ => rest) = .ok result ↔
      condition = false ∧ rest = .ok result := by
  rw [reject]
  cases condition with
  | true => exact ⟨fun h => (by cases h), fun h => (by cases h.1)⟩
  | false => exact ⟨fun h => ⟨rfl, h⟩, fun h => h.2⟩

theorem reject_ok : reject condition message = .ok () ↔ condition = false := by
  rw [reject]
  cases condition with
  | true => exact ⟨fun h => (by cases h), fun h => (by cases h)⟩
  | false => exact ⟨fun _ => rfl, fun _ => rfl⟩

end OnboardAutonomy
