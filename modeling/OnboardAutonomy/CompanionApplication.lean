import OnboardAutonomy.TelemetryStreamConfigurator
import OnboardAutonomy.CameraMonitor
import OnboardAutonomy.AutonomyRuntime
import OnboardAutonomy.LinkLog

namespace OnboardAutonomy
open ExactDouble
set_option autoImplicit true

/-- The components an application is made of, and the permissions they run under. -/
structure Components where
  motionCommandsAllowed : Bool
  autonomyScenarioConfigured : Bool
  vehicleState : VehicleState := {}
  companionLinkFailsafe : CompanionLinkFailsafe := {}
  telemetryConfigurator : TelemetryStreamConfigurator := {}
  flightStartup : FlightStartupController
  autonomyRuntime : AutonomyRuntime
  cameraMonitor : Option CameraMonitor
  cameraExtrinsics : Option CameraExtrinsics

/-- The timers of the periodic messages, and what the last poll saw of the vehicle. -/
structure Schedule where
  nextHeartbeat : TimePoint := 0
  nextBatteryParameterRequest : TimePoint := 0
  nextFailsafeParameterRequest : TimePoint := 0
  nextAutopilotVersionRequest : TimePoint := 0
  failsafeParameterIndex : Nat := 0
  companionHeartbeatActive : Bool := false
  vehicleWasConnected : Bool := false
  previousFlightMode : Option UInt32 := none
  previousArmed : Option Bool := none
  autopilotMetadataWasAvailable : Bool := false

structure CompanionApplication extends Components, Schedule where
  log : LinkLog := {}

structure TelemetryStatus where
  state : TelemetrySetupPhase := .waitingForVehicle
  completedRequests : Nat := 0
  totalRequests : Nat := 0
  currentStream : String := ""
  attempt : Nat := 0
  failureResult : Option UInt8 := none

structure AppSnapshot where
  vehicle : VehicleSnapshot
  companionHeartbeatActive : Bool := false
  companionLinkFailsafe : CompanionLinkFailsafeSnapshot
  telemetry : TelemetryStatus
  camera : Option CameraSnapshot := none
  vision : Option VisionSnapshot := none
  flightStartup : FlightStartupSnapshot
  autonomy : AutonomyRuntimeSnapshot
  motionCommandsAllowed : Bool := false
  linkEvents : List LinkEvent := []
  elapsed : Int := 0
  txActivity : Option LinkActivity := none
  rxActivity : Option LinkActivity := none

/-- Camera source, detector and preview are given or not; what they produce comes in with each
poll. -/
structure CompanionApplicationOptions where
  flightStartup : FlightStartupConfig := {}
  autonomyRuntime : AutonomyRuntimeConfig := {}
  motionCommandsAllowed : Bool := false
  cameraSource : Bool := false
  targetDetector : Bool := false
  cameraPreviewSink : Bool := false
  cameraExtrinsics : Option CameraExtrinsics := none

/-- The content of a frame handed to the transport. -/
inductive OutboundFrame where
  | companionHeartbeat (systemId : UInt8)
  | setMessageInterval (request : MessageIntervalRequest)
  | parameterRequestRead (vehicleSystemId : UInt8) (parameterId : String)
  | autopilotVersionRequest (vehicleSystemId : UInt8)
  | flightAction (request : FlightActionRequest)

/-- What the outside provides for one poll: the clock before and after the read, the frame the
camera has ready with the detector's answer, the messages decoded from the bytes read, and for
each frame the poll writes whether the transport took all of it. -/
structure PollInput where
  cameraNow : TimePoint
  now : TimePoint
  camera : Option (CameraFrame × TargetDetectionBatch) := none
  inbound : List MavlinkMessage := []
  writes : List Bool := []

/-- What one poll did: the snapshots it worked with, the requests of the two state machines, the
frames written with their outcome, and the exception that ended it early. -/
structure PollOutcome where
  vehicle : VehicleSnapshot
  failsafe : CompanionLinkFailsafeSnapshot
  startupActions : List FlightActionRequest
  autonomyActions : List FlightActionRequest
  written : List (OutboundFrame × Bool)
  thrown : Option String

/-- An application in the middle of a poll. -/
structure PollState where
  app : CompanionApplication
  writes : List Bool
  written : List (OutboundFrame × Bool) := []

def kHeartbeatInterval : Duration := seconds 1
def kBatteryParameterRetryInterval : Duration := seconds 2
def kFailsafeParameterSpacing : Duration := milliseconds 200
def kRejectedFailsafeRetryInterval : Duration := seconds 2
def kAcceptedFailsafeRefreshInterval : Duration := seconds 10
def kAutopilotVersionRetryInterval : Duration := seconds 2
def kMaximumLandingTargetAge : Duration := milliseconds 250

/-- The target in the body frame, when the camera has a fresh confirmed track. -/
def Components.currentLandingTarget (c : Components) (now : TimePoint) :
    Except String (Option BodyFramePosition) :=
  match c.cameraMonitor.bind (CameraMonitor.visionSnapshot · "" now), c.cameraExtrinsics with
  | some vision, some extrinsics =>
    let track := vision.targetTrack
    match track.phase, track.position, track.observationAgeMs with
    | .tracking, some position, some age =>
      if durationMs kMaximumLandingTargetAge < age then .ok none
      else (cameraToBodyFrd position extrinsics).map some
    | _, _, _ => .ok none
  | _, _ => .ok none

/-- Both state machines have ended, well or not. -/
def Components.finished (c : Components) : Bool :=
  (c.flightStartup.phase == .completed || c.flightStartup.phase == .failed) &&
    (c.autonomyRuntime.phase == .completed || c.autonomyRuntime.phase == .failed)

namespace PollState

/-- The transport takes the whole frame, or the frame has failed. When it throws instead, the poll is
one that the main loop does not see the end of. -/
def writeFrame (p : PollState) (frame : OutboundFrame) (messageName detail : String)
    (now : TimePoint) : PollState × Bool :=
  let sent := p.writes.headD false
  let log := p.app.log.recordActivity .outbound messageName detail now
  ({ app := if sent then { p.app with log := log } else p.app
     writes := p.writes.tail
     written := p.written ++ [(frame, sent)] }, sent)

def recordOutcome (p : PollState) (sent : Bool) (label detail : String) (now : TimePoint) :
    PollState :=
  let status := if sent then .pending else .failure
  let detail := detail ++ if sent then "" else " | WRITE FAILED"
  { p with app.log := p.app.log.recordEvent .outbound status label detail now }

def scheduleHeartbeat (p : PollState) (vehicle : VehicleSnapshot) (now : TimePoint) : PollState :=
  if now < p.app.nextHeartbeat then p
  else
    let p := match vehicle.connected, vehicle.systemId with
      | true, some id =>
        let (p, sent) := p.writeFrame (.companionHeartbeat id) "HEARTBEAT" "" now
        if sent then { p with app.companionHeartbeatActive := true } else p
      | _, _ => p
    { p with app.nextHeartbeat := now + kHeartbeatInterval }

def configureTelemetry (p : PollState) (vehicle : VehicleSnapshot) (now : TimePoint) : PollState :=
  let (configurator, frame) :=
    p.app.telemetryConfigurator.update vehicle.connected vehicle.systemId now
  let p := { p with app.telemetryConfigurator := configurator }
  match frame with
  | none => p
  | some request =>
    let setup := configurator.snapshot
    let (p, sent) := p.writeFrame (.setMessageInterval request) "COMMAND_LONG"
      ("SET_INTERVAL " ++ setup.currentStream) now
    p.recordOutcome sent "SET_INTERVAL"
      (setup.currentStream ++ " | ATTEMPT " ++ toString setup.attempt) now

def requestFailsafeParameter (p : PollState) (vehicle : VehicleSnapshot) (telemetryReady : Bool)
    (now : TimePoint) : PollState :=
  match telemetryReady, vehicle.systemId with
  | true, some id =>
    if now < p.app.nextFailsafeParameterRequest then p
    else
      let parameterName :=
        CompanionLinkFailsafe.parameterNames[p.app.failsafeParameterIndex]?.getD ""
      let (p, sent) := p.writeFrame (.parameterRequestRead id parameterName) "PARAM_REQUEST_READ"
        parameterName now
      let p := p.recordOutcome sent "PARAM READ" parameterName now
      if CompanionLinkFailsafe.parameterNames.length ≤ p.app.failsafeParameterIndex + 1 then
        { p with app := { p.app with
          failsafeParameterIndex := 0
          nextFailsafeParameterRequest := now +
            if p.app.companionLinkFailsafe.snapshot.accepted then kAcceptedFailsafeRefreshInterval
            else kRejectedFailsafeRetryInterval } }
      else
        { p with app := { p.app with
          failsafeParameterIndex := p.app.failsafeParameterIndex + 1
          nextFailsafeParameterRequest := now + kFailsafeParameterSpacing } }
  | _, _ => p

def requestAutopilotVersion (p : PollState) (vehicle : VehicleSnapshot) (telemetryReady : Bool)
    (now : TimePoint) : PollState :=
  match telemetryReady, vehicle.systemId with
  | true, some id =>
    if vehicle.autopilotMetadata.isSome || now < p.app.nextAutopilotVersionRequest then p
    else
      let (p, sent) := p.writeFrame (.autopilotVersionRequest id) "COMMAND_LONG"
        "REQUEST AUTOPILOT_VERSION" now
      let p := { p with
        app.nextAutopilotVersionRequest := now + kAutopilotVersionRetryInterval }
      p.recordOutcome sent "REQUEST_VERSION" "AUTOPILOT_VERSION" now
  | _, _ => p

def requestArmingVoltage (p : PollState) (vehicle : VehicleSnapshot) (telemetryReady : Bool)
    (now : TimePoint) : PollState :=
  match telemetryReady, vehicle.systemId with
  | true, some id =>
    if vehicle.batteryArmingVoltageV.isSome || now < p.app.nextBatteryParameterRequest then p
    else
      let (p, sent) := p.writeFrame (.parameterRequestRead id "BATT_ARM_VOLT")
        "PARAM_REQUEST_READ" "BATT_ARM_VOLT" now
      let p := { p with
        app.nextBatteryParameterRequest := now + kBatteryParameterRetryInterval }
      p.recordOutcome sent "PARAM READ" "BATT_ARM_VOLT" now
  | _, _ => p

/-- A flight action is written and logged; the machine that asked for it hears whether it was
sent. -/
def sendAction (p : PollState) (request : FlightActionRequest)
    (report : CompanionApplication → Bool → CompanionApplication) (now : TimePoint) : PollState :=
  let (p, sent) := p.writeFrame (.flightAction request) (flightActionMessageName request.action)
    (flightActionName request.action) now
  let p := { p with app := report p.app sent }
  p.recordOutcome sent (flightActionName request.action) (flightActionDetail request) now

def sendStartupActions (p : PollState) (actions : List FlightActionRequest) (now : TimePoint) :
    PollState :=
  actions.foldl (fun p request => p.sendAction request (fun app sent =>
    { app with flightStartup := app.flightStartup.onActionSent request sent now }) now) p

def sendAutonomyActions (p : PollState) (actions : List FlightActionRequest) (now : TimePoint) :
    PollState :=
  actions.foldl (fun p request => p.sendAction request (fun app sent =>
    { app with autonomyRuntime := app.autonomyRuntime.onActionSent request sent now }) now) p

end PollState

namespace CompanionApplication

/-- The constructor, with the message it throws for options it does not accept. -/
def new (options : CompanionApplicationOptions) : Except String CompanionApplication :=
  match FlightStartupController.new options.flightStartup,
    AutonomyRuntime.new options.autonomyRuntime with
  | .error message, _ => .error message
  | .ok _, .error message => .error message
  | .ok flightStartup, .ok autonomyRuntime =>
    let startupEnabled := flightStartup.snapshot.phase != .disabled
    let runtimeEnabled := autonomyRuntime.snapshot.phase != .disabled
    if startupEnabled ≠ runtimeEnabled then
      .error "flight startup and autonomy runtime must be enabled together"
    else if !options.motionCommandsAllowed && startupEnabled then
      .error "automated flight requires explicit motion permission"
    else if !options.cameraSource && (options.targetDetector || options.cameraPreviewSink) then
      .error "vision and preview require a camera source"
    else if options.cameraExtrinsics.isSome && !options.targetDetector then
      .error "camera extrinsics require AprilTag pose detection"
    else if runtimeEnabled && options.cameraExtrinsics.isNone then
      .error "autonomy runtime requires vision guidance"
    else .ok {
      motionCommandsAllowed := options.motionCommandsAllowed
      autonomyScenarioConfigured :=
        options.flightStartup.enabled && options.autonomyRuntime.enabled
      flightStartup := flightStartup
      autonomyRuntime := autonomyRuntime
      cameraMonitor := if options.cameraSource then
          some { visionMonitor := if options.targetDetector then some {} else none }
        else none
      cameraExtrinsics := options.cameraExtrinsics }

/-- What an inbound acknowledgement leaves in the log, when it may be meant for the companion. -/
def logCommandAck (app : CompanionApplication) (ack : CommandAck) (now : TimePoint) :
    CompanionApplication :=
  if ack.targetComponent = 0 ∨ ack.targetComponent = kCompanionComponentId then
    let telemetry := app.telemetryConfigurator.snapshot
    let stream :=
      if ack.command = MAV_CMD_SET_MESSAGE_INTERVAL ∧ telemetry.phase = .configuring ∧
          telemetry.currentStream ≠ "" then telemetry.currentStream ++ " | "
      else ""
    let detail := stream ++ ackResultName ack.result ++ " | SYS " ++
      toString ack.sourceSystem.toNat
    let log := app.log.recordEvent .inbound (mapEventStatus ack.result)
      (mavCommandName ack.command) detail now
    { app with
      log := log.recordActivity .inbound "COMMAND_ACK"
        (commandAckActivityDetail ack.command ack.result) now }
  else app

/-- The handler of inbound acknowledgements. -/
def onCommandAck (app : CompanionApplication) (ack : CommandAck) (now : TimePoint) :
    CompanionApplication :=
  let app := app.logCommandAck ack now
  let app := { app with telemetryConfigurator := app.telemetryConfigurator.onCommandAck ack now }
  match mapFlightAction ack.command with
  | none => app
  | some action =>
    if ack.targetComponent ≠ 0 ∧ ack.targetComponent ≠ kCompanionComponentId then app
    else
      let outcome := mapAckOutcome ack.result
      { app with
        flightStartup :=
          app.flightStartup.onCommandAck action outcome ack.result ack.sourceSystem now
        autonomyRuntime :=
          app.autonomyRuntime.onCommandAck action outcome ack.result ack.sourceSystem now }

/-- The handler of inbound parameter values. -/
def onParameterValue (app : CompanionApplication) (parameter : ParameterValue) (now : TimePoint) :
    CompanionApplication :=
  let companionLinkFailsafe := app.companionLinkFailsafe.onParameter parameter.sourceSystem
    parameter.sourceComponent parameter.id parameter.value
  let app := { app with companionLinkFailsafe := companionLinkFailsafe }
  if parameter.id ∈ CompanionLinkFailsafe.parameterNames then
    { app with log := app.log.recordActivity .inbound "PARAM_VALUE" parameter.id now }
  else app

/-- The handler of every inbound message. -/
def onMessage (app : CompanionApplication) (message : MessageObservation) (now : TimePoint) :
    CompanionApplication :=
  let name := if message.messageName = "" then "MSG #" ++ toString message.messageId
    else message.messageName
  { app with log := app.log.recordActivity .inbound name "" now }

/-- One decoded message passes through the decoder and its handlers. -/
def receive (app : CompanionApplication) (m : MavlinkMessage) (now : TimePoint) :
    CompanionApplication :=
  let app := app.onMessage m.observation now
  let app := { app with vehicleState := handleMessage app.vehicleState m now }
  let app := match m.parameterValue with
    | some parameter => app.onParameterValue parameter now
    | none => app
  match m.acknowledgement with
  | some ack => app.onCommandAck ack now
  | none => app

def ingest (app : CompanionApplication) (messages : List MavlinkMessage) (now : TimePoint) :
    CompanionApplication :=
  messages.foldl (fun app m => app.receive m now) app

def recordInbound (app : CompanionApplication) (status : LinkEventStatus) (label detail : String)
    (now : TimePoint) : CompanionApplication :=
  { app with log := app.log.recordEvent .inbound status label detail now }

/-- What a poll logs about the vehicle, compared with what the last poll saw. -/
def observeVehicle (app : CompanionApplication) (vehicle : VehicleSnapshot) (now : TimePoint) :
    CompanionApplication :=
  if !vehicle.connected then
    let app := if app.vehicleWasConnected then
      app.recordInbound .warning "LINK" "HEARTBEAT LOST" now else app
    { app with
      vehicleWasConnected := false
      previousFlightMode := none
      previousArmed := none
      autopilotMetadataWasAvailable := false }
  else if !app.vehicleWasConnected then
    let detail := "FLIGHT CONTROLLER ONLINE" ++
      (match vehicle.systemId with
        | some id => " | SYS " ++ toString id.toNat
        | none => "") ++
      match vehicle.componentId with
        | some id => " COMP " ++ toString id.toNat
        | none => ""
    let app := app.recordInbound .success "HEARTBEAT" detail now
    { app with
      vehicleWasConnected := true
      previousFlightMode := vehicle.flightMode
      previousArmed := some vehicle.armed
      autopilotMetadataWasAvailable := vehicle.autopilotMetadata.isSome }
  else
    let app := match vehicle.autopilotMetadata with
      | some metadata =>
        if app.autopilotMetadataWasAvailable then app
        else app.recordInbound .success "AUTOPILOT_VERSION"
          (toString metadata.firmwareMajor.toNat ++ "." ++
            toString metadata.firmwareMinor.toNat ++ "." ++
            toString metadata.firmwarePatch.toNat) now
      | none => app
    let app := match vehicle.flightMode with
      | some mode =>
        if vehicle.flightMode = app.previousFlightMode then app
        else app.recordInbound .success "HEARTBEAT" ("MODE " ++ flightModeName mode) now
      | none => app
    let app := match app.previousArmed with
      | some previous =>
        if vehicle.armed = previous then app
        else app.recordInbound .success "HEARTBEAT"
          (if vehicle.armed then "ARMED" else "DISARMED") now
      | none => app
    { app with
      autopilotMetadataWasAvailable := vehicle.autopilotMetadata.isSome
      previousFlightMode := vehicle.flightMode
      previousArmed := some vehicle.armed }

/-- The start of a poll: the camera, then the messages that came in. -/
def beginPoll (app : CompanionApplication) (input : PollInput) : CompanionApplication :=
  let app := { app with log := app.log.start input.cameraNow }
  let app := { app with
    cameraMonitor := app.cameraMonitor.map (CameraMonitor.poll · input.camera input.cameraNow) }
  app.ingest input.inbound input.now

/-- The vehicle snapshot of the poll reaches the failsafe policy and the log. -/
def observe (app : CompanionApplication) (vehicle : VehicleSnapshot) (now : TimePoint) :
    CompanionApplication :=
  let newlyConnected := vehicle.connected && !app.vehicleWasConnected
  let companionLinkFailsafe :=
    app.companionLinkFailsafe.observeVehicle vehicle.connected vehicle.systemId
  let app := { app with companionLinkFailsafe := companionLinkFailsafe }
  let app := if newlyConnected then { app with
      failsafeParameterIndex := 0
      nextFailsafeParameterRequest := now } else app
  let app := app.observeVehicle vehicle now
  { app with
    companionHeartbeatActive := vehicle.connected && app.companionHeartbeatActive }

/-- The vehicle snapshot of a poll, once it has reached the failsafe policy and the log. -/
def observed (app : CompanionApplication) (now : TimePoint) :
    CompanionApplication × VehicleSnapshot :=
  let (vehicleState, vehicle) := app.vehicleState.snapshot now
  ({ app with vehicleState := vehicleState }.observe vehicle now, vehicle)

/-- Everything a poll writes besides flight actions, in the order of the source. -/
def serveLink (p : PollState) (vehicle : VehicleSnapshot) (now : TimePoint) : PollState × Bool :=
  let p := p.scheduleHeartbeat vehicle now
  let p := p.configureTelemetry vehicle now
  let telemetryReady := p.app.telemetryConfigurator.snapshot.phase == .active
  let p := p.requestFailsafeParameter vehicle telemetryReady now
  let p := p.requestAutopilotVersion vehicle telemetryReady now
  let p := p.requestArmingVoltage vehicle telemetryReady now
  (p, telemetryReady)

def updateStartup (p : PollState) (vehicle : VehicleSnapshot) (telemetryReady : Bool)
    (now : TimePoint) : PollState × List FlightActionRequest :=
  let (flightStartup, actions) := p.app.flightStartup.update vehicle telemetryReady
    p.app.companionLinkFailsafe.snapshot now
  ({ p with app.flightStartup := flightStartup }.sendStartupActions actions now, actions)

/-- The landing target is computed for the call, which may throw. -/
def updateAutonomy (p : PollState) (vehicle : VehicleSnapshot) (now : TimePoint) :
    Except String (PollState × List FlightActionRequest) :=
  match p.app.currentLandingTarget now with
  | .error message => .error message
  | .ok landingTarget =>
    let (autonomyRuntime, actions) := p.app.autonomyRuntime.update vehicle
      p.app.flightStartup.snapshot p.app.companionLinkFailsafe.snapshot now landingTarget
    .ok ({ p with app.autonomyRuntime := autonomyRuntime }.sendAutonomyActions actions now, actions)

def poll (app : CompanionApplication) (input : PollInput) : CompanionApplication × PollOutcome :=
  let (app, vehicle) := (app.beginPoll input).observed input.now
  let (p, telemetryReady) := serveLink { app := app, writes := input.writes } vehicle input.now
  let (p, startupActions) := updateStartup p vehicle telemetryReady input.now
  let failsafe := p.app.companionLinkFailsafe.snapshot
  match updateAutonomy p vehicle input.now with
  | .error message =>
    (p.app, {
      vehicle := vehicle
      failsafe := failsafe
      startupActions := startupActions
      autonomyActions := []
      written := p.written
      thrown := some message })
  | .ok (p, autonomyActions) =>
    (p.app, {
      vehicle := vehicle
      failsafe := failsafe
      startupActions := startupActions
      autonomyActions := autonomyActions
      written := p.written
      thrown := none })

def recordStart (app : CompanionApplication) (status : LinkEventStatus) (detail : String)
    (now : TimePoint) : CompanionApplication :=
  { app with log := app.log.recordEvent .outbound status "START" detail now }

def requestAutonomyStart (app : CompanionApplication) (now : TimePoint) :
    CompanionApplication × Bool :=
  if !app.motionCommandsAllowed then
    (app.recordStart .failure "BLOCKED BY MOTION SAFETY POLICY" now, false)
  else if !app.autonomyScenarioConfigured then
    (app.recordStart .failure "AUTONOMOUS SCENARIO NOT CONFIGURED" now, false)
  else
    let (vehicleState, vehicle) := app.vehicleState.snapshot now
    let app := { app with vehicleState := vehicleState }
    if !vehicle.connected || vehicle.systemId.isNone then
      (app.recordStart .failure "BLOCKED | NO FLIGHT CONTROLLER" now, false)
    else if vehicle.armed then
      (app.recordStart .failure "BLOCKED | VEHICLE IS ARMED" now, false)
    else if !app.finished then
      (app.recordStart .warning "SCENARIO ALREADY RUNNING" now, false)
    else
      let app := { app with
        flightStartup := app.flightStartup.restart
        autonomyRuntime := app.autonomyRuntime.restart }
      (app.recordStart .pending "AUTONOMOUS FLIGHT REQUESTED" now, true)

/-- The camera source and the detector describe themselves. -/
def snapshot (app : CompanionApplication) (source : CameraSourceStatus) (detector : String)
    (now : TimePoint) : CompanionApplication × AppSnapshot :=
  let telemetry := app.telemetryConfigurator.snapshot
  let (vehicleState, vehicle) := app.vehicleState.snapshot now
  let app := { app with vehicleState := vehicleState, log := app.log.start now }
  (app, {
    vehicle := vehicle
    companionHeartbeatActive := app.companionHeartbeatActive
    companionLinkFailsafe := app.companionLinkFailsafe.snapshot
    telemetry := {
      state := telemetry.phase
      completedRequests := telemetry.completedRequests
      totalRequests := telemetry.totalRequests
      currentStream := telemetry.currentStream
      attempt := telemetry.attempt
      failureResult := telemetry.failureResult }
    camera := app.cameraMonitor.map (CameraMonitor.snapshot · source now)
    vision := app.cameraMonitor.bind (CameraMonitor.visionSnapshot · detector now)
    flightStartup := app.flightStartup.snapshot
    autonomy := app.autonomyRuntime.snapshot
    motionCommandsAllowed := app.motionCommandsAllowed
    linkEvents := app.log.linkEvents
    elapsed := app.log.elapsedAt now
    txActivity := app.log.txActivity
    rxActivity := app.log.rxActivity })

end CompanionApplication

end OnboardAutonomy
