import OnboardAutonomy.MavlinkDecoder

namespace OnboardAutonomy
set_option autoImplicit true

inductive TelemetrySetupPhase where
  | waitingForVehicle
  | configuring
  | active
  | failed
deriving DecidableEq

structure TelemetrySetupSnapshot where
  phase : TelemetrySetupPhase := .waitingForVehicle
  completedRequests : Nat := 0
  totalRequests : Nat := 0
  currentStream : String := ""
  attempt : Nat := 0
  failureResult : Option UInt8 := none

structure StreamRequest where
  messageId : UInt32
  intervalMicroseconds : UInt32
  name : String

def kStreamRequests : List StreamRequest :=
  [⟨1, 1000000, "SYS_STATUS at 1 Hz"⟩,
   ⟨24, 500000, "GPS_RAW_INT at 2 Hz"⟩,
   ⟨147, 1000000, "BATTERY_STATUS at 1 Hz"⟩,
   ⟨33, 200000, "GLOBAL_POSITION_INT at 5 Hz"⟩,
   ⟨32, 100000, "LOCAL_POSITION_NED at 10 Hz"⟩,
   ⟨30, 100000, "ATTITUDE at 10 Hz"⟩]

/-- The arguments of an encoded SET_MESSAGE_INTERVAL command. -/
structure MessageIntervalRequest where
  vehicleSystemId : UInt8
  messageId : UInt32
  intervalMicroseconds : UInt32
  confirmation : UInt8
  componentId : UInt8 := kCompanionComponentId
deriving DecidableEq

structure TelemetryStreamConfigurator where
  phase : TelemetrySetupPhase := .waitingForVehicle
  vehicleSystemId : Option UInt8 := none
  currentRequest : Nat := 0
  completedRequests : Nat := 0
  attempt : Nat := 0
  awaitingAck : Bool := false
  acknowledgementDeadline : TimePoint := 0
  failureResult : Option UInt8 := none

namespace TelemetryStreamConfigurator

def kAcknowledgementTimeout : Duration := seconds 2
def kMaximumAttempts : Nat := 3

def reset : TelemetryStreamConfigurator := {}

def begin (vehicleSystemId : UInt8) : TelemetryStreamConfigurator :=
  { reset with phase := .configuring, vehicleSystemId := some vehicleSystemId }

/-- The request for the current stream. The table is indexed with a bounds check in the source;
past its end nothing is sent. -/
def request (c : TelemetryStreamConfigurator) (vehicleSystemId : UInt8) (now : TimePoint) :
    TelemetryStreamConfigurator × Option MessageIntervalRequest :=
  match kStreamRequests[c.currentRequest]? with
  | none => (c, none)
  | some request =>
    ({ c with
        attempt := c.attempt + 1
        awaitingAck := true
        acknowledgementDeadline := now + kAcknowledgementTimeout },
      some {
        vehicleSystemId := vehicleSystemId
        messageId := request.messageId
        intervalMicroseconds := request.intervalMicroseconds
        confirmation := UInt8.ofNat c.attempt })

def update (c : TelemetryStreamConfigurator) (connected : Bool) (vehicleSystemId : Option UInt8)
    (now : TimePoint) : TelemetryStreamConfigurator × Option MessageIntervalRequest :=
  match connected, vehicleSystemId with
  | true, some id =>
    let c := if c.vehicleSystemId = some id then c else begin id
    if c.phase ≠ .configuring then (c, none)
    else if c.awaitingAck && now < c.acknowledgementDeadline then (c, none)
    else if c.awaitingAck && kMaximumAttempts ≤ c.attempt then
      ({ c with phase := .failed, failureResult := none }, none)
    else request { c with awaitingAck := false } id now
  | _, _ => (reset, none)

/-- The acknowledgement answers the request that is waited for and is addressed to us. -/
def awaits (c : TelemetryStreamConfigurator) (ack : CommandAck) : Bool :=
  c.phase == .configuring && c.awaitingAck && ack.command == MAV_CMD_SET_MESSAGE_INTERVAL &&
    c.vehicleSystemId == some ack.sourceSystem &&
    (ack.targetSystem == 0 || c.vehicleSystemId == some ack.targetSystem) &&
    (ack.targetComponent == 0 || ack.targetComponent == kCompanionComponentId)

def onCommandAck (c : TelemetryStreamConfigurator) (ack : CommandAck) (now : TimePoint) :
    TelemetryStreamConfigurator :=
  if !c.awaits ack then c
  else if ack.result = MAV_RESULT_IN_PROGRESS then
    { c with acknowledgementDeadline := now + kAcknowledgementTimeout }
  else if ack.result ≠ MAV_RESULT_ACCEPTED then
    { c with
      phase := .failed
      failureResult := some ack.result
      awaitingAck := false }
  else
    { c with
      completedRequests := c.completedRequests + 1
      currentRequest := c.currentRequest + 1
      attempt := 0
      awaitingAck := false
      failureResult := none
      phase := if c.currentRequest + 1 = kStreamRequests.length then .active else c.phase }

def snapshot (c : TelemetryStreamConfigurator) : TelemetrySetupSnapshot where
  phase := c.phase
  completedRequests := c.completedRequests
  totalRequests := kStreamRequests.length
  attempt := c.attempt
  failureResult := c.failureResult
  currentStream := match kStreamRequests[c.currentRequest]? with
    | some request => request.name
    | none => ""

end TelemetryStreamConfigurator

end OnboardAutonomy
