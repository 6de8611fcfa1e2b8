import OnboardAutonomy.CompanionApplication

namespace OnboardAutonomy
open ExactDouble
set_option autoImplicit true

def MAV_TYPE_ONBOARD_CONTROLLER : UInt8 := 18
def MAV_STATE_ACTIVE : UInt8 := 4
def MAV_MODE_FLAG_CUSTOM_MODE_ENABLED : UInt8 := 1
def MAVLINK_MSG_ID_AUTOPILOT_VERSION : UInt32 := 148
def MAV_FRAME_LOCAL_OFFSET_NED : UInt8 := 7
def MAV_FRAME_BODY_FRD : UInt8 := 12
def LANDING_TARGET_TYPE_VISION_FIDUCIAL : UInt8 := 2

/-- The fields that are packed into a message, in the order of the packing function. -/
inductive OutboundPayload where
  | heartbeat (type autopilot baseMode : UInt8) (customMode : UInt32) (systemStatus : UInt8)
  | commandLong (targetSystem targetComponent : UInt8) (command : UInt16) (confirmation : UInt8)
      (parameters : List Double)
  | paramRequestRead (targetSystem targetComponent : UInt8) (paramId : String) (paramIndex : Int)
  | setPositionTargetLocalNed (timeBootMs : UInt32) (targetSystem targetComponent : UInt8)
      (coordinateFrame : UInt8) (typeMask : UInt16) (position velocity acceleration : List Double)
      (yaw yawRate : Double)
  | landingTarget (timeUsec : UInt64) (targetNum frame : UInt8) (angleX angleY distance : Double)
      (sizeX sizeY : Double) (x y z : Double) (q : List Double) (type positionValid : UInt8)

structure OutboundMessage where
  systemId : UInt8
  componentId : UInt8
  payload : OutboundPayload

/-- Every command goes to all components of the vehicle, in its own name. -/
def encodeCommandLong (vehicleSystemId componentId : UInt8) (command : UInt16)
    (confirmation : UInt8) (parameters : List Double) : OutboundMessage where
  systemId := vehicleSystemId
  componentId := componentId
  payload := .commandLong vehicleSystemId 0 command confirmation parameters

/-- Zeros. -/
def zeros (n : Nat) : List Double := List.replicate n (.finite 0)

def encodeCompanionHeartbeat (systemId componentId : UInt8) : OutboundMessage where
  systemId := systemId
  componentId := componentId
  payload := .heartbeat MAV_TYPE_ONBOARD_CONTROLLER MAV_AUTOPILOT_INVALID 0 0 MAV_STATE_ACTIVE

def encodeParameterRequestRead (vehicleSystemId : UInt8) (parameterId : String)
    (componentId : UInt8) : Except String OutboundMessage :=
  if parameterId.utf8ByteSize = 0 ∨ 16 < parameterId.utf8ByteSize then
    .error "MAVLink parameter id must contain 1 to 16 characters"
  else .ok {
    systemId := vehicleSystemId
    componentId := componentId
    payload := .paramRequestRead vehicleSystemId MAV_COMP_ID_AUTOPILOT1 parameterId (-1) }

def encodeBatteryArmingVoltageRequest (vehicleSystemId componentId : UInt8) :
    Except String OutboundMessage :=
  encodeParameterRequestRead vehicleSystemId "BATT_ARM_VOLT" componentId

def encodeSetGuidedMode (vehicleSystemId confirmation componentId : UInt8) : OutboundMessage :=
  encodeCommandLong vehicleSystemId componentId MAV_CMD_DO_SET_MODE confirmation
    ([.finite MAV_MODE_FLAG_CUSTOM_MODE_ENABLED.toNat, .finite 4] ++ zeros 5)

def encodeArm (vehicleSystemId confirmation componentId : UInt8) : OutboundMessage :=
  encodeCommandLong vehicleSystemId componentId MAV_CMD_COMPONENT_ARM_DISARM confirmation
    ([.finite 1] ++ zeros 6)

def encodeLand (vehicleSystemId confirmation componentId : UInt8) : OutboundMessage :=
  encodeCommandLong vehicleSystemId componentId MAV_CMD_NAV_LAND confirmation (zeros 7)

def encodeReturnToLaunch (vehicleSystemId confirmation componentId : UInt8) : OutboundMessage :=
  encodeCommandLong vehicleSystemId componentId MAV_CMD_NAV_RETURN_TO_LAUNCH confirmation (zeros 7)

section Narrowing
variable (toFloat sqrt : Double → Double)

def encodeSetMessageInterval (vehicleSystemId : UInt8) (messageId intervalMicroseconds : UInt32)
    (confirmation componentId : UInt8) : OutboundMessage :=
  encodeCommandLong vehicleSystemId componentId MAV_CMD_SET_MESSAGE_INTERVAL confirmation
    ([toFloat (.finite messageId.toNat), toFloat (.finite intervalMicroseconds.toNat)] ++ zeros 5)

def encodeAutopilotVersionRequest (vehicleSystemId componentId : UInt8) : OutboundMessage :=
  encodeCommandLong vehicleSystemId componentId MAV_CMD_REQUEST_MESSAGE 0
    ([toFloat (.finite MAVLINK_MSG_ID_AUTOPILOT_VERSION.toNat)] ++ zeros 5 ++ [.finite 1])

def encodeTakeoff (vehicleSystemId : UInt8) (altitudeM : Double)
    (confirmation componentId : UInt8) : OutboundMessage :=
  encodeCommandLong vehicleSystemId componentId MAV_CMD_NAV_TAKEOFF confirmation
    (zeros 6 ++ [toFloat altitudeM])

def encodeLocalPositionTarget (vehicleSystemId : UInt8) (northM eastM downM : Double)
    (componentId : UInt8) : OutboundMessage where
  systemId := vehicleSystemId
  componentId := componentId
  payload := .setPositionTargetLocalNed 0 vehicleSystemId 0 MAV_FRAME_LOCAL_OFFSET_NED 3576
    [toFloat northM, toFloat eastM, toFloat downM] (zeros 3) (zeros 3) (.finite 0) (.finite 0)

def encodeLandingTarget (vehicleSystemId : UInt8) (timeUsec : UInt64)
    (forwardM rightM downM : Double) (componentId : UInt8) : OutboundMessage where
  systemId := vehicleSystemId
  componentId := componentId
  payload :=
    let distance := sqrt (forwardM * forwardM + rightM * rightM + downM * downM)
    .landingTarget timeUsec 0 MAV_FRAME_BODY_FRD (.finite 0) (.finite 0) (toFloat distance)
      (.finite 0) (.finite 0) (toFloat forwardM) (toFloat rightM) (toFloat downM)
      ([.finite 1] ++ zeros 3) LANDING_TARGET_TYPE_VISION_FIDUCIAL 1

def encodeFlightAction (request : FlightActionRequest) : OutboundMessage :=
  match request.action with
  | .setGuidedMode =>
    encodeSetGuidedMode request.vehicleSystemId request.confirmation kCompanionComponentId
  | .arm => encodeArm request.vehicleSystemId request.confirmation kCompanionComponentId
  | .takeoff => encodeTakeoff toFloat request.vehicleSystemId request.altitudeM
      request.confirmation kCompanionComponentId
  | .returnToLaunch =>
    encodeReturnToLaunch request.vehicleSystemId request.confirmation kCompanionComponentId
  | .land => encodeLand request.vehicleSystemId request.confirmation kCompanionComponentId
  | .landingTarget => encodeLandingTarget toFloat sqrt request.vehicleSystemId request.timeUsec
      request.xM request.yM request.zM kCompanionComponentId

/-- The message a frame that is handed to the transport is made of. -/
def encodeFrame : OutboundFrame → Except String OutboundMessage
  | .companionHeartbeat systemId => .ok (encodeCompanionHeartbeat systemId kCompanionComponentId)
  | .setMessageInterval request => .ok (encodeSetMessageInterval toFloat request.vehicleSystemId
      request.messageId request.intervalMicroseconds request.confirmation request.componentId)
  | .parameterRequestRead vehicleSystemId parameterId =>
    encodeParameterRequestRead vehicleSystemId parameterId kCompanionComponentId
  | .autopilotVersionRequest vehicleSystemId =>
    .ok (encodeAutopilotVersionRequest toFloat vehicleSystemId kCompanionComponentId)
  | .flightAction request => .ok (encodeFlightAction toFloat sqrt request)

end Narrowing

end OnboardAutonomy
