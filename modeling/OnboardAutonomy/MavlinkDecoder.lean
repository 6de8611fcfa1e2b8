import OnboardAutonomy.VehicleState
import OnboardAutonomy.BinaryRounding

namespace OnboardAutonomy
open ExactDouble
set_option autoImplicit true

def MAV_AUTOPILOT_INVALID : UInt8 := 8
def MAV_COMP_ID_AUTOPILOT1 : UInt8 := 1
def MAV_CMD_NAV_RETURN_TO_LAUNCH : UInt16 := 20
def MAV_CMD_NAV_LAND : UInt16 := 21
def MAV_CMD_NAV_TAKEOFF : UInt16 := 22
def MAV_CMD_DO_SET_MODE : UInt16 := 176
def MAV_CMD_COMPONENT_ARM_DISARM : UInt16 := 400
def MAV_CMD_SET_MESSAGE_INTERVAL : UInt16 := 511
def MAV_CMD_REQUEST_MESSAGE : UInt16 := 512
def MAV_RESULT_ACCEPTED : UInt8 := 0
def MAV_RESULT_TEMPORARILY_REJECTED : UInt8 := 1
def MAV_RESULT_DENIED : UInt8 := 2
def MAV_RESULT_UNSUPPORTED : UInt8 := 3
def MAV_RESULT_FAILED : UInt8 := 4
def MAV_RESULT_IN_PROGRESS : UInt8 := 5
def MAV_RESULT_CANCELLED : UInt8 := 6

/-- The component id the companion uses on the link. -/
def kCompanionComponentId : UInt8 := 191

structure CommandAck where
  sourceSystem : UInt8 := 0
  sourceComponent : UInt8 := 0
  command : UInt16 := 0
  result : UInt8 := 0
  progress : UInt8 := 0
  resultParameter : Int32 := 0
  targetSystem : UInt8 := 0
  targetComponent : UInt8 := 0
deriving DecidableEq

structure ParameterValue where
  sourceSystem : UInt8 := 0
  sourceComponent : UInt8 := 0
  id : String
  value : Double := .finite 0
  type : UInt8 := 0

structure MessageObservation where
  messageId : Nat := 0
  sourceSystem : UInt8 := 0
  sourceComponent : UInt8 := 0
  messageName : String

/-- The fields of a frame the generated headers decode; fixed-size texts keep their raw bytes. -/
inductive MavlinkPayload where
  | heartbeat (type autopilot baseMode : UInt8) (customMode : UInt32) (systemStatus : UInt8)
  | gpsRawInt (fixType satellitesVisible : UInt8)
  | globalPositionInt (relativeAlt : Int32)
  | localPositionNed (x y z : Double)
  | attitude (roll pitch yaw : Double)
  | batteryStatus (voltages : Fin 10 → UInt16) (voltagesExt : Fin 4 → UInt16)
      (currentBattery : Int16) (batteryRemaining : Int8)
  | sysStatus (sensorsEnabled sensorsHealth : UInt32) (voltageBattery : UInt16)
      (currentBattery : Int16) (batteryRemaining : Int8)
  | autopilotVersion (flightSwVersion : UInt32) (capabilities : UInt64) (boardVersion : UInt32)
      (vendorId productId : UInt16)
  | paramValue (paramId : String) (value : Double) (type : UInt8)
  | statustext (severity : UInt8) (text : String)
  | commandAck (command : UInt16) (result progress : UInt8) (resultParam2 : Int32)
      (targetSystem targetComponent : UInt8)
  | other (msgid : Nat) (name : String)

structure MavlinkMessage where
  sysid : UInt8
  compid : UInt8
  payload : MavlinkPayload

/-- The message id and the name the generated table has for it. -/
def MavlinkPayload.info : MavlinkPayload → Nat × String
  | .heartbeat .. => (0, "HEARTBEAT")
  | .sysStatus .. => (1, "SYS_STATUS")
  | .paramValue .. => (22, "PARAM_VALUE")
  | .gpsRawInt .. => (24, "GPS_RAW_INT")
  | .attitude .. => (30, "ATTITUDE")
  | .localPositionNed .. => (32, "LOCAL_POSITION_NED")
  | .globalPositionInt .. => (33, "GLOBAL_POSITION_INT")
  | .commandAck .. => (77, "COMMAND_ACK")
  | .batteryStatus .. => (147, "BATTERY_STATUS")
  | .autopilotVersion .. => (148, "AUTOPILOT_VERSION")
  | .statustext .. => (253, "STATUSTEXT")
  | .other msgid name => (msgid, name)

def MavlinkMessage.observation (m : MavlinkMessage) : MessageObservation where
  messageId := m.payload.info.1
  sourceSystem := m.sysid
  sourceComponent := m.compid
  messageName := m.payload.info.2

/-- `static_cast<double>(millivolts) / 1000.0`. -/
def volts (millivolts : UInt16) : Double := .rounded (millivolts.toNat / 1000)

/-- One cell of a battery report: absent at zero and at the largest value. -/
def addVoltage (total : Option Double) (millivolts : UInt16) : Option Double :=
  if 0 < millivolts ∧ millivolts ≠ 65535 then
    some ((total.getD (.finite 0)).plus (volts millivolts))
  else total

def batteryVoltage (voltages : Fin 10 → UInt16) (voltagesExt : Fin 4 → UInt16) : Option Double :=
  (List.ofFn voltages ++ List.ofFn voltagesExt).foldl addVoltage none

def currentFromCentiampere (value : Int16) : Option Double :=
  if value < 0 then none else some (.rounded (value.toInt / 100))

def remainingPercent (value : Int8) : Option Int8 :=
  if value < 0 then none else some value

/-- A text field up to its first zero byte. -/
def terminated (size : Nat) (raw : String) : String :=
  String.ofList ((raw.toList.take size).takeWhile (· ≠ '\x00'))

def statusText (raw : String) : String := terminated 50 raw

def parameterId (raw : String) : String := terminated 16 raw

def sysStatusVoltage (voltageBattery : UInt16) : Option Double :=
  if 0 < voltageBattery then some (volts voltageBattery) else none

/-- The packed version number, one byte for each part. -/
def autopilotMetadata (flightSwVersion : UInt32) (capabilities : UInt64) (boardVersion : UInt32)
    (vendorId productId : UInt16) : AutopilotMetadata where
  firmwareMajor := ((flightSwVersion >>> 24) &&& 0xFF).toUInt8
  firmwareMinor := ((flightSwVersion >>> 16) &&& 0xFF).toUInt8
  firmwarePatch := ((flightSwVersion >>> 8) &&& 0xFF).toUInt8
  firmwareReleaseType := (flightSwVersion &&& 0xFF).toUInt8
  capabilities := capabilities
  boardVersion := boardVersion
  vendorId := vendorId
  productId := productId

/-- What handling one message changes in the vehicle state. -/
def handleMessage (s : VehicleState) (m : MavlinkMessage) (now : TimePoint) : VehicleState :=
  match m.payload with
  | .heartbeat type autopilot baseMode customMode systemStatus =>
    if autopilot = MAV_AUTOPILOT_INVALID then s
    else s.onHeartbeat m.sysid m.compid type autopilot baseMode customMode systemStatus now
  | .gpsRawInt fixType satellitesVisible => s.onGps fixType satellitesVisible now
  | .globalPositionInt relativeAlt => s.onGlobalPosition relativeAlt now
  | .localPositionNed x y z => s.onLocalPosition x y z now
  | .attitude roll pitch yaw => s.onAttitude roll pitch yaw now
  | .batteryStatus voltages voltagesExt currentBattery batteryRemaining =>
    s.onBattery (batteryVoltage voltages voltagesExt) (currentFromCentiampere currentBattery)
      (remainingPercent batteryRemaining) now
  | .sysStatus sensorsEnabled sensorsHealth voltageBattery currentBattery batteryRemaining =>
    s.onSystemStatus sensorsEnabled sensorsHealth (sysStatusVoltage voltageBattery)
      (currentFromCentiampere currentBattery) (remainingPercent batteryRemaining) now
  | .autopilotVersion flightSwVersion capabilities boardVersion vendorId productId =>
    if m.compid ≠ MAV_COMP_ID_AUTOPILOT1 then s
    else s.onAutopilotMetadata
      (autopilotMetadata flightSwVersion capabilities boardVersion vendorId productId)
  | .paramValue paramId value _ =>
    if parameterId paramId = "BATT_ARM_VOLT" then s.onBatteryArmingVoltage value now else s
  | .statustext severity text => s.onStatusText severity (statusText text) now
  | .commandAck .. => s
  | .other .. => s

/-- The parameter value handed to the parameter handler. -/
def MavlinkMessage.parameterValue (m : MavlinkMessage) : Option ParameterValue :=
  match m.payload with
  | .paramValue paramId value type => some {
      sourceSystem := m.sysid
      sourceComponent := m.compid
      id := parameterId paramId
      value := value
      type := type }
  | _ => none

/-- The acknowledgement handed to the command handler. -/
def MavlinkMessage.acknowledgement (m : MavlinkMessage) : Option CommandAck :=
  match m.payload with
  | .commandAck command result progress resultParam2 targetSystem targetComponent => some {
      sourceSystem := m.sysid
      sourceComponent := m.compid
      command := command
      result := result
      progress := progress
      resultParameter := resultParam2
      targetSystem := targetSystem
      targetComponent := targetComponent }
  | _ => none

end OnboardAutonomy
