import OnboardAutonomy.CompanionLinkFailsafe
import OnboardAutonomy.VehicleState

namespace OnboardAutonomy
open ExactDouble
set_option autoImplicit true

inductive FlightAction where
  | setGuidedMode
  | arm
  | takeoff
  | returnToLaunch
  | land
  | landingTarget
deriving DecidableEq

inductive FlightCommandAckOutcome where
  | accepted
  | inProgress
  | rejected
deriving DecidableEq

structure FlightActionRequest where
  action : FlightAction
  vehicleSystemId : UInt8 := 0
  confirmation : UInt8 := 0
  altitudeM : Double := .finite 0
  xM : Double := .finite 0
  yM : Double := .finite 0
  zM : Double := .finite 0
  timeUsec : UInt64 := 0
deriving DecidableEq

/-- A piece of a method body: the method goes on with the state, or returns from here. -/
inductive Flow (σ : Type u) (α : Type v) where
  | next (s : σ)
  | done (s : σ) (result : α)

/-- What a piece of a method body leads to, whether it goes on or returns. -/
def Flow.Leads (P : σ → Prop) (Q : σ → α → Prop) : Flow σ α → Prop
  | .next s => P s
  | .done s result => Q s result

inductive FlightStartupPhase where
  | disabled
  | waitingForVehicle
  | waitingForReadiness
  | settingGuided
  | arming
  | takingOff
  | completed
  | failed
deriving DecidableEq

structure FlightStartupConfig where
  enabled : Bool := false
  takeoffAltitudeM : Double := .finite 8

structure FlightStartupSnapshot where
  phase : FlightStartupPhase := .disabled
  detail : String := "Flight startup disabled"
  targetAltitudeM : Double := .finite 0
  attempt : Nat := 0
  failureResult : Option UInt8 := none

structure FlightStartupController where
  config : FlightStartupConfig
  phase : FlightStartupPhase := .disabled
  detail : String := "Flight startup disabled"
  vehicleSystemId : Option UInt8 := none
  attempt : Nat := 0
  awaitingAck : Bool := false
  commandAccepted : Bool := false
  acknowledgementDeadline : TimePoint := 0
  phaseDeadline : TimePoint := 0
  failureResult : Option UInt8 := none

def kArduPilotAutopilotType : UInt8 := 3
def kCopterGuidedMode : UInt32 := 4
def kMaximumActionAttempts : Nat := 3
def kAcknowledgementTimeout : Duration := seconds 2
def kReadinessTimeout : Duration := seconds 90
def kModeChangeTimeout : Duration := seconds 10
def kArmingTimeout : Duration := seconds 10
def kTakeoffTimeout : Duration := seconds 45
def kAltitudeToleranceM : Double := .finite (35 / 100)

def isMulticopter (vehicleType : Option UInt8) : Bool :=
  match vehicleType with
  | none => false
  | some type => type ∈ ([2, 3, 4, 13, 14, 15] : List UInt8)

def actionName : FlightAction → String
  | .setGuidedMode => "GUIDED mode"
  | .arm => "arm"
  | .takeoff => "takeoff"
  | .returnToLaunch => "RTL"
  | .land => "land"
  | .landingTarget => "landing target"

/-- The target is printed with two decimals only after an altitude was: the stream keeps the
format the altitude set. -/
def altitudeDetail (altitudeM : Option Double) (targetM : Double) : String :=
  match altitudeM with
  | some altitude => DecimalText.fixed 2 altitude ++ " m" ++ " / target " ++
      DecimalText.fixed 2 targetM ++ " m"
  | none => "waiting for altitude" ++ " / target " ++ DecimalText.general targetM ++ " m"

namespace FlightStartupController

def snapshot (c : FlightStartupController) : FlightStartupSnapshot where
  phase := c.phase
  detail := c.detail
  targetAltitudeM := c.config.takeoffAltitudeM
  attempt := c.attempt
  failureResult := c.failureResult

def restart (c : FlightStartupController) : FlightStartupController where
  config := c.config
  phase := if c.config.enabled then .waitingForVehicle else .disabled
  detail := if c.config.enabled then "Waiting for the flight-controller heartbeat"
    else "Flight startup disabled"

/-- The constructor, with the message it throws for an unusable configuration. -/
def new (config : FlightStartupConfig) : Except String FlightStartupController :=
  if !config.takeoffAltitudeM.isFinite || config.takeoffAltitudeM.ble (.finite 0) then
    .error "takeoff altitude must be finite and positive"
  else if config.enabled then .ok (restart { config := config })
  else .ok { config := config }

def fail (c : FlightStartupController) (detail : String) : FlightStartupController :=
  { c with
    phase := .failed
    detail := detail
    awaitingAck := false
    commandAccepted := false }

def enterPhase (c : FlightStartupController) (phase : FlightStartupPhase) (now : TimePoint) :
    FlightStartupController :=
  let c := { c with
    phase := phase
    attempt := 0
    awaitingAck := false
    commandAccepted := false }
  match phase with
  | .waitingForReadiness => { c with
      phaseDeadline := now + kReadinessTimeout
      detail := "Waiting for telemetry and pre-arm readiness" }
  | .settingGuided => { c with
      phaseDeadline := now + kModeChangeTimeout
      detail := "Preparing GUIDED mode" }
  | .arming => { c with
      phaseDeadline := now + kArmingTimeout
      detail := "Preparing to arm" }
  | .takingOff => { c with
      phaseDeadline := now + kTakeoffTimeout
      detail := "Preparing takeoff" }
  | .disabled | .waitingForVehicle | .completed | .failed => c

def readinessDetail (vehicle : VehicleSnapshot) (telemetryReady : Bool)
    (failsafe : CompanionLinkFailsafeSnapshot) : String :=
  if !telemetryReady then "Waiting for telemetry stream setup"
  else if !failsafe.accepted then "Autonomy blocked: " ++ failsafe.detail
  else if vehicle.armed then "Waiting for the vehicle to be disarmed"
  else if !vehicle.gpsReady then "Waiting for a 3D GPS fix"
  else if !vehicle.batteryReady then "Waiting for valid battery data"
  else if !vehicle.systemHealthOk then "Waiting for healthy onboard sensors"
  else if !vehicle.armable then "Waiting for active PreArm warnings to clear"
  else if vehicle.relativeAltitudeM.isNone then "Waiting for relative altitude"
  else "Checking readiness"

def updateReadinessDetail (c : FlightStartupController) (vehicle : VehicleSnapshot)
    (telemetryReady : Bool) (failsafe : CompanionLinkFailsafeSnapshot) : FlightStartupController :=
  { c with detail := readinessDetail vehicle telemetryReady failsafe }

/-- The next request for the action, when the previous one is no longer waited for. -/
def updateCommand (c : FlightStartupController) (action : FlightAction) (now : TimePoint) :
    FlightStartupController × Option FlightActionRequest :=
  if c.commandAccepted then (c, none)
  else if c.awaitingAck && now < c.acknowledgementDeadline then (c, none)
  else if kMaximumActionAttempts ≤ c.attempt then
    (fail { c with awaitingAck := false }
      ("No COMMAND_ACK for " ++ actionName action ++ " after 3 attempts"), none)
  else
    ({ c with
        attempt := c.attempt + 1
        awaitingAck := true
        acknowledgementDeadline := now + kAcknowledgementTimeout
        detail := "Sending " ++ actionName action ++ " | attempt " ++ toString (c.attempt + 1) ++
          "/3" },
      some {
        action := action
        vehicleSystemId := c.vehicleSystemId.getD 0
        confirmation := UInt8.ofNat c.attempt })

def expectedAction (c : FlightStartupController) : Option FlightAction :=
  match c.phase with
  | .settingGuided => some .setGuidedMode
  | .arming => some .arm
  | .takingOff => some .takeoff
  | .disabled | .waitingForVehicle | .waitingForReadiness | .completed | .failed => none

/-- What a phase waits for before the next one may begin. -/
def ready (vehicle : VehicleSnapshot) (telemetryReady : Bool)
    (failsafe : CompanionLinkFailsafeSnapshot) : Bool :=
  telemetryReady && vehicle.armable && !vehicle.armed && failsafe.accepted &&
    vehicle.relativeAltitudeM.isSome

/-- The altitude at which the takeoff counts as done. -/
def reachedAltitude (c : FlightStartupController) (vehicle : VehicleSnapshot) : Bool :=
  match vehicle.relativeAltitudeM with
  | some altitude => (c.config.takeoffAltitudeM - kAltitudeToleranceM).ble altitude
  | none => false

/-- The end of a commanding phase: at most one request, the phase stays. -/
def command (c : FlightStartupController) (action : FlightAction) (now : TimePoint) :
    Flow FlightStartupController (List FlightActionRequest) :=
  let (c, request) := c.updateCommand action now
  .done c request.toList

/-- One round of the loop in `update`. -/
def updatePhase (c : FlightStartupController) (vehicle : VehicleSnapshot) (telemetryReady : Bool)
    (failsafe : CompanionLinkFailsafeSnapshot) (now : TimePoint) :
    Flow FlightStartupController (List FlightActionRequest) :=
  match c.phase with
  | .waitingForVehicle =>
    if !vehicle.connected || vehicle.systemId.isNone then .done c []
    else if vehicle.autopilotType ≠ some kArduPilotAutopilotType ∨
        !isMulticopter vehicle.vehicleType then
      .done (c.fail "Autonomy requires an ArduPilot multicopter") []
    else .next (enterPhase { c with vehicleSystemId := vehicle.systemId } .waitingForReadiness now)
  | .waitingForReadiness =>
    if c.phaseDeadline ≤ now then
      .done (c.fail "Vehicle did not become ready within 90 seconds") []
    else if ready vehicle telemetryReady failsafe then .next (c.enterPhase .settingGuided now)
    else .done (c.updateReadinessDetail vehicle telemetryReady failsafe) []
  | .settingGuided =>
    if c.commandAccepted && vehicle.flightMode == some kCopterGuidedMode then
      .next (c.enterPhase .arming now)
    else if c.phaseDeadline ≤ now then .done (c.fail "ArduCopter did not enter GUIDED mode") []
    else c.command .setGuidedMode now
  | .arming =>
    if c.commandAccepted && vehicle.armed then .next (c.enterPhase .takingOff now)
    else if c.phaseDeadline ≤ now then .done (c.fail "ArduCopter did not become armed") []
    else c.command .arm now
  | .takingOff =>
    if !vehicle.armed && c.commandAccepted then
      .done (c.fail "Vehicle disarmed during takeoff") []
    else if c.commandAccepted && c.reachedAltitude vehicle then
      .done { c with
        phase := .completed
        detail := "Takeoff complete; autonomy may start"
        attempt := 0
        awaitingAck := false } []
    else if c.phaseDeadline ≤ now then
      .done (c.fail "Vehicle did not reach takeoff altitude") []
    else
      let c := if c.commandAccepted then { c with
          detail := "Climbing: " ++
            altitudeDetail vehicle.relativeAltitudeM c.config.takeoffAltitudeM }
        else c
      let (c, request) := c.updateCommand .takeoff now
      .done c (request.toList.map fun request =>
        { request with altitudeM := c.config.takeoffAltitudeM })
  | .disabled | .completed | .failed => .done c []

/-- The rounds of the loop in `update`, as many as are left. -/
def transitions (c : FlightStartupController) (vehicle : VehicleSnapshot) (telemetryReady : Bool)
    (failsafe : CompanionLinkFailsafeSnapshot) (now : TimePoint) :
    Nat → FlightStartupController × List FlightActionRequest
  | 0 => (c.fail "Flight startup made too many immediate transitions", [])
  | rounds + 1 =>
    match c.updatePhase vehicle telemetryReady failsafe now with
    | .next c => transitions c vehicle telemetryReady failsafe now rounds
    | .done c actions => (c, actions)

def update (c : FlightStartupController) (vehicle : VehicleSnapshot) (telemetryReady : Bool)
    (failsafe : CompanionLinkFailsafeSnapshot) (now : TimePoint) :
    FlightStartupController × List FlightActionRequest :=
  if c.phase = .disabled ∨ c.phase = .completed ∨ c.phase = .failed then (c, [])
  else if c.phase ≠ .waitingForVehicle ∧ !vehicle.connected then
    (c.fail "Flight-controller heartbeat was lost during startup", [])
  else if c.phase ≠ .waitingForVehicle ∧ c.phase ≠ .waitingForReadiness ∧ !failsafe.accepted then
    (c.fail ("Companion-link failsafe is no longer valid: " ++ failsafe.detail), [])
  else c.transitions vehicle telemetryReady failsafe now 8

def onActionSent (c : FlightStartupController) (request : FlightActionRequest) (sent : Bool)
    (_now : TimePoint) : FlightStartupController :=
  if c.expectedAction ≠ some request.action ∨ sent then c
  else
    let c := { c with awaitingAck := false }
    if kMaximumActionAttempts ≤ c.attempt then
      c.fail ("Failed to send " ++ actionName request.action)
    else c

/-- The acknowledgement answers the request that is waited for. -/
def awaits (c : FlightStartupController) (action : FlightAction) (sourceSystem : UInt8) : Bool :=
  c.expectedAction == some action && c.awaitingAck && c.vehicleSystemId == some sourceSystem

def onCommandAck (c : FlightStartupController) (action : FlightAction)
    (outcome : FlightCommandAckOutcome) (rawResult sourceSystem : UInt8) (now : TimePoint) :
    FlightStartupController :=
  if !c.awaits action sourceSystem then c
  else
    match outcome with
    | .accepted => { c with
        awaitingAck := false
        commandAccepted := true
        detail := actionName action ++ " accepted; verifying vehicle state" }
    | .inProgress => { c with
        acknowledgementDeadline := now + kAcknowledgementTimeout
        detail := actionName action ++ " is in progress" }
    | .rejected =>
      fail { c with failureResult := some rawResult }
        (actionName action ++ " was rejected with MAV_RESULT " ++ toString rawResult.toNat)

end FlightStartupController

end OnboardAutonomy
