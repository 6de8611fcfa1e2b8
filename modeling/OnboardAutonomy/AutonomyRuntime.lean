import OnboardAutonomy.FlightStartupController
import OnboardAutonomy.TargetTransform

namespace OnboardAutonomy
open ExactDouble
set_option autoImplicit true

structure WorldState where
  flightControllerConnected : Bool := false
  vehicleArmed : Bool := false
  vehicleSystemId : Option UInt8 := none
  landingTarget : Option BodyFramePosition := none
  observedAt : TimePoint

def makeWorldState (vehicle : VehicleSnapshot) (landingTarget : Option BodyFramePosition)
    (observedAt : TimePoint) : WorldState where
  flightControllerConnected := vehicle.connected
  vehicleArmed := vehicle.armed
  vehicleSystemId := vehicle.systemId
  landingTarget := landingTarget
  observedAt := observedAt

inductive DesiredMotionType where
  | precisionLand
deriving DecidableEq

structure DesiredMotion where
  type : DesiredMotionType := .precisionLand
  vehicleSystemId : UInt8 := 0
  landingTarget : BodyFramePosition
  createdAt : TimePoint
  validUntil : TimePoint

def kIntentLifetime : Duration := milliseconds 250

def DecisionEngine.decide (world : WorldState) : Option DesiredMotion :=
  match world.vehicleSystemId, world.landingTarget with
  | some id, some target => some {
      vehicleSystemId := id
      landingTarget := target
      createdAt := world.observedAt
      validUntil := world.observedAt + kIntentLifetime }
  | _, _ => none

inductive MotionSafetyStatus where
  | allowed
  | noIntent
  | flightControllerDisconnected
  | vehicleDisarmed
  | staleIntent
  | invalidTarget
deriving DecidableEq

structure SupervisedMotion where
  status : MotionSafetyStatus := .noIntent
  approved : Option DesiredMotion := none
  detail : String

def validTarget (target : BodyFramePosition) : Bool :=
  target.forwardM.isFinite && target.rightM.isFinite && target.downM.isFinite &&
    Double.blt (.finite 0) target.downM

def SafetySupervisor.supervise (world : WorldState) (desired : Option DesiredMotion)
    (now : TimePoint) : SupervisedMotion :=
  match desired with
  | none => { status := .noIntent, detail := "waiting for a desired motion" }
  | some motion =>
    if !world.flightControllerConnected then {
      status := .flightControllerDisconnected
      detail := "flight-controller heartbeat is stale" }
    else if !world.vehicleArmed then {
      status := .vehicleDisarmed
      detail := "vehicle is disarmed" }
    else if motion.validUntil < now then {
      status := .staleIntent
      detail := "desired motion expired" }
    else if !validTarget motion.landingTarget then {
      status := .invalidTarget
      detail := "landing target is invalid" }
    else {
      status := .allowed
      approved := some motion
      detail := "motion intent allowed" }

inductive AutonomyRuntimePhase where
  | disabled
  | waitingForStartup
  | active
  | landing
  | completed
  | failed
deriving DecidableEq

structure AutonomyRuntimeConfig where
  enabled : Bool := false
  targetLossLandAfter : Duration := seconds 5

structure AutonomyRuntimeSnapshot where
  phase : AutonomyRuntimePhase := .disabled
  detail : String := "Autonomy runtime disabled"
  motionSafetyStatus : MotionSafetyStatus := .noIntent
  visionLandingTargetActive : Bool := false
  landAttempt : Nat := 0
  failureResult : Option UInt8 := none

/-- The last field is a history variable: the reason last given to `fail` since the last restart.
The program has no such field and no definition reads it. -/
structure AutonomyRuntime where
  config : AutonomyRuntimeConfig
  phase : AutonomyRuntimePhase := .disabled
  detail : String := "Autonomy runtime disabled"
  motionSafetyStatus : MotionSafetyStatus := .noIntent
  vehicleSystemId : Option UInt8 := none
  landCommandAfter : Option TimePoint := none
  targetMissingSince : Option TimePoint := none
  nextLandingTarget : TimePoint := 0
  acknowledgementDeadline : TimePoint := 0
  landingDeadline : TimePoint := 0
  landAttempt : Nat := 0
  awaitingLandAck : Bool := false
  visionLandingTargetActive : Bool := false
  failureResult : Option UInt8 := none
  failReason : Option String := none

namespace AutonomyRuntime

def kLandingTargetInterval : Duration := milliseconds 200
def kLandingTargetWarmup : Duration := seconds 1
def kAcknowledgementTimeout : Duration := seconds 2
def kLandingTimeout : Duration := seconds 90
def kMaximumLandAttempts : Nat := 3
def kTargetStopAltitudeM : Double := .finite (20 / 100)

def snapshot (r : AutonomyRuntime) : AutonomyRuntimeSnapshot where
  phase := r.phase
  detail := r.detail
  motionSafetyStatus := r.motionSafetyStatus
  visionLandingTargetActive := r.visionLandingTargetActive
  landAttempt := r.landAttempt
  failureResult := r.failureResult

def restart (r : AutonomyRuntime) : AutonomyRuntime where
  config := r.config
  phase := if r.config.enabled then .waitingForStartup else .disabled
  detail := if r.config.enabled then "Waiting for verified flight startup"
    else "Autonomy runtime disabled"

/-- The constructor, with the message it throws for an unusable configuration. -/
def new (config : AutonomyRuntimeConfig) : Except String AutonomyRuntime :=
  if config.targetLossLandAfter ≤ 0 then .error "target-loss LAND timeout must be positive"
  else if config.enabled then .ok (restart { config := config })
  else .ok { config := config }

def fail (r : AutonomyRuntime) (detail : String) : AutonomyRuntime :=
  { r with
    phase := .failed
    detail := detail
    awaitingLandAck := false
    visionLandingTargetActive := false
    failReason := some detail }

/-- The next LAND request, when the previous one is no longer waited for. -/
def updateLandCommand (r : AutonomyRuntime) (now : TimePoint) :
    AutonomyRuntime × Option FlightActionRequest :=
  if r.phase ≠ .active then (r, none)
  else if r.awaitingLandAck && now < r.acknowledgementDeadline then (r, none)
  else if kMaximumLandAttempts ≤ r.landAttempt then
    (fail { r with awaitingLandAck := false } "No COMMAND_ACK for LAND after 3 attempts", none)
  else
    ({ r with
        landAttempt := r.landAttempt + 1
        awaitingLandAck := true
        acknowledgementDeadline := now + kAcknowledgementTimeout },
      some {
        action := .land
        vehicleSystemId := r.vehicleSystemId.getD 0
        confirmation := UInt8.ofNat r.landAttempt })

/-- The first part of `update`: the runtime becomes active once startup is completed. -/
def awaitStartup (r : AutonomyRuntime) (startup : FlightStartupSnapshot)
    (failsafe : CompanionLinkFailsafeSnapshot) (now : TimePoint) :
    Flow AutonomyRuntime (List FlightActionRequest) :=
  if r.phase ≠ .waitingForStartup then .next r
  else if startup.phase = .failed then
    .done (r.fail ("Flight startup failed: " ++ startup.detail)) []
  else if startup.phase ≠ .completed then
    .done { r with detail := "Waiting for verified flight startup" } []
  else if !failsafe.accepted then
    .done (r.fail ("Companion-link failsafe is not valid: " ++ failsafe.detail)) []
  else .next { r with
    phase := .active
    detail := "Autonomy active; waiting for vision target"
    targetMissingSince := some now
    nextLandingTarget := now }

def touchedDown (vehicle : VehicleSnapshot) : Bool :=
  match vehicle.relativeAltitudeM with
  | some altitude => altitude.ble kTargetStopAltitudeM
  | none => false

/-- The second part of `update`: link, failsafe, disarming, landing deadline and touchdown. -/
def checkVehicle (r : AutonomyRuntime) (vehicle : VehicleSnapshot)
    (failsafe : CompanionLinkFailsafeSnapshot) (now : TimePoint) :
    Flow AutonomyRuntime (List FlightActionRequest) :=
  if !vehicle.connected || vehicle.systemId.isNone then
    .done (r.fail "Flight-controller heartbeat was lost during autonomy") []
  else if !failsafe.accepted then
    .done (r.fail ("Companion-link failsafe is no longer valid: " ++ failsafe.detail)) []
  else
    let r := { r with vehicleSystemId := vehicle.systemId }
    if r.phase = .landing ∧ !vehicle.armed then
      .done { r with
        phase := .completed
        detail := "Landing complete; vehicle disarmed"
        visionLandingTargetActive := false } []
    else if r.phase = .active ∧ !vehicle.armed then
      .done (r.fail "Vehicle disarmed while autonomy was active") []
    else if r.phase = .landing ∧ r.landingDeadline ≤ now then
      .done (r.fail "Vehicle did not complete landing") []
    else if r.phase = .landing ∧ touchedDown vehicle then
      .done { r with
        visionLandingTargetActive := false
        detail := "Touchdown detected; waiting for ArduPilot auto-disarm" } []
    else .next r

/-- The end of `update` without an approved intent. -/
def search (r : AutonomyRuntime) (now : TimePoint) : AutonomyRuntime × List FlightActionRequest :=
  let missingSince := r.targetMissingSince.getD now
  let r := { r with
    visionLandingTargetActive := false
    landCommandAfter := none
    nextLandingTarget := now
    targetMissingSince := some missingSince }
  if r.phase = .landing then ({ r with detail := "Landing without a fresh vision target" }, [])
  else if r.config.targetLossLandAfter ≤ now - missingSince then
    let r := { r with detail := "Vision unavailable; requesting fallback LAND" }
    let (r, land) := r.updateLandCommand now
    (r, land.toList)
  else ({ r with detail := "Waiting for a fresh confirmed vision target" }, [])

/-- The time since the clock's epoch in whole microseconds, as an unsigned number. -/
def timeUsec (now : TimePoint) : UInt64 :=
  UInt64.ofNat ((now.tdiv 1000) % 2 ^ 64).toNat

def landingTargetRequest (intent : DesiredMotion) (now : TimePoint) : FlightActionRequest where
  action := .landingTarget
  vehicleSystemId := intent.vehicleSystemId
  xM := intent.landingTarget.forwardM
  yM := intent.landingTarget.rightM
  zM := intent.landingTarget.downM
  timeUsec := timeUsec now

def targetDetail (target : BodyFramePosition) : String :=
  "Vision target F/R/D " ++ DecimalText.fixed 1 target.forwardM ++ "/" ++
    DecimalText.fixed 1 target.rightM ++ "/" ++ DecimalText.fixed 1 target.downM ++ " m"

/-- The first approved intent while active starts the warm-up. -/
def startWarmup (r : AutonomyRuntime) (now : TimePoint) : AutonomyRuntime :=
  let r := { r with targetMissingSince := none }
  if r.landCommandAfter.isNone ∧ r.phase = .active then
    { r with
      landCommandAfter := some (now + kLandingTargetWarmup)
      nextLandingTarget := now }
  else r

def streamTarget (r : AutonomyRuntime) (intent : DesiredMotion) (now : TimePoint) :
    AutonomyRuntime × List FlightActionRequest :=
  if r.nextLandingTarget ≤ now then
    ({ r with nextLandingTarget := now + kLandingTargetInterval },
      [landingTargetRequest intent now])
  else (r, [])

/-- The warm-up of a continuously approved target is over. -/
def warmedUp (r : AutonomyRuntime) (now : TimePoint) : Bool :=
  match r.landCommandAfter with
  | some after => r.phase == .active && after ≤ now
  | none => false

/-- The end of `update` with an approved intent. The detail is set last, whatever
`updateLandCommand` did. -/
def guide (r : AutonomyRuntime) (intent : DesiredMotion) (now : TimePoint) :
    AutonomyRuntime × List FlightActionRequest :=
  let r := r.startWarmup now
  let (r, actions) := r.streamTarget intent now
  let (r, land) := if r.warmedUp now then r.updateLandCommand now else (r, none)
  ({ r with detail := targetDetail intent.landingTarget }, actions ++ land.toList)

/-- The supervised intent of one decision cycle. -/
def supervised (vehicle : VehicleSnapshot) (landingTarget : Option BodyFramePosition)
    (now : TimePoint) : SupervisedMotion :=
  let world := makeWorldState vehicle landingTarget now
  SafetySupervisor.supervise world (DecisionEngine.decide world) now

/-- The third part of `update`: decide, supervise, and act on the outcome. -/
def act (r : AutonomyRuntime) (vehicle : VehicleSnapshot)
    (landingTarget : Option BodyFramePosition) (now : TimePoint) :
    AutonomyRuntime × List FlightActionRequest :=
  let motion := supervised vehicle landingTarget now
  let r := { r with motionSafetyStatus := motion.status }
  match motion.approved with
  | none => r.search now
  | some intent => r.guide intent now

def update (r : AutonomyRuntime) (vehicle : VehicleSnapshot) (startup : FlightStartupSnapshot)
    (failsafe : CompanionLinkFailsafeSnapshot) (now : TimePoint)
    (landingTarget : Option BodyFramePosition) : AutonomyRuntime × List FlightActionRequest :=
  if r.phase = .disabled ∨ r.phase = .completed ∨ r.phase = .failed then (r, [])
  else
    match r.awaitStartup startup failsafe now with
    | .done r actions => (r, actions)
    | .next r =>
      match r.checkVehicle vehicle failsafe now with
      | .done r actions => (r, actions)
      | .next r => r.act vehicle landingTarget now

def onActionSent (r : AutonomyRuntime) (request : FlightActionRequest) (sent : Bool)
    (_now : TimePoint) : AutonomyRuntime :=
  if request.action = .landingTarget then
    let r := { r with visionLandingTargetActive := sent }
    if sent then r else { r with detail := "Failed to send vision LANDING_TARGET" }
  else if request.action ≠ .land ∨ sent then r
  else
    let r := { r with awaitingLandAck := false }
    if kMaximumLandAttempts ≤ r.landAttempt then r.fail "Failed to send fallback LAND" else r

/-- The acknowledgement answers the LAND request that is waited for. -/
def awaits (r : AutonomyRuntime) (action : FlightAction) (sourceSystem : UInt8) : Bool :=
  action == .land && r.awaitingLandAck && r.vehicleSystemId == some sourceSystem

def onCommandAck (r : AutonomyRuntime) (action : FlightAction) (outcome : FlightCommandAckOutcome)
    (rawResult sourceSystem : UInt8) (now : TimePoint) : AutonomyRuntime :=
  if !r.awaits action sourceSystem then r
  else
    match outcome with
    | .accepted => { r with
        awaitingLandAck := false
        phase := .landing
        landingDeadline := now + kLandingTimeout
        detail := "LAND accepted; monitoring descent" }
    | .inProgress => { r with
        acknowledgementDeadline := now + kAcknowledgementTimeout
        detail := "LAND is in progress" }
    | .rejected =>
      fail { r with failureResult := some rawResult }
        ("LAND was rejected with MAV_RESULT " ++ toString rawResult.toNat)

end AutonomyRuntime

end OnboardAutonomy
