import OnboardAutonomy.ExactDouble
import Mathlib.Data.List.Infix

namespace OnboardAutonomy
open ExactDouble
set_option autoImplicit true

/-- Nanoseconds on the steady clock. -/
abbrev TimePoint := Int

/-- Nanoseconds between two time points. -/
abbrev Duration := Int

def milliseconds (n : Int) : Duration := n * 1000000

def seconds (n : Int) : Duration := n * 1000000000

def kHeartbeatTimeout : Duration := seconds 3
def kGpsTimeout : Duration := seconds 5
def kGlobalPositionTimeout : Duration := seconds 2
def kLocalPositionTimeout : Duration := seconds 2
def kAttitudeTimeout : Duration := seconds 2
def kBatteryTimeout : Duration := seconds 10
def kSystemStatusTimeout : Duration := seconds 5
def kWarningTimeout : Duration := seconds 30
def kBlockingWarningTimeout : Duration := seconds 5
def kMinimumBatteryPercent : Int8 := 20
def kBatterySensorFlag : UInt32 := (1 : UInt32) <<< (25 : UInt32)
def kMavModeFlagSafetyArmed : UInt8 := 128
def kMavSeverityWarning : UInt8 := 4

structure AutopilotMetadata where
  firmwareMajor : UInt8 := 0
  firmwareMinor : UInt8 := 0
  firmwarePatch : UInt8 := 0
  firmwareReleaseType : UInt8 := 0
  capabilities : UInt64 := 0
  boardVersion : UInt32 := 0
  vendorId : UInt16 := 0
  productId : UInt16 := 0
deriving DecidableEq

structure VehicleSnapshot where
  connected : Bool := false
  gpsReady : Bool := false
  batteryReady : Bool := false
  systemHealthKnown : Bool := false
  systemHealthOk : Bool := false
  armable : Bool := false
  armed : Bool := false
  systemId : Option UInt8 := none
  componentId : Option UInt8 := none
  vehicleType : Option UInt8 := none
  autopilotType : Option UInt8 := none
  systemStatus : Option UInt8 := none
  flightMode : Option UInt32 := none
  gpsFixType : Option UInt8 := none
  satellitesVisible : Option UInt8 := none
  relativeAltitudeM : Option Double := none
  localNorthM : Option Double := none
  localEastM : Option Double := none
  localDownM : Option Double := none
  rollRad : Option Double := none
  pitchRad : Option Double := none
  yawRad : Option Double := none
  batteryVoltageV : Option Double := none
  batteryCurrentA : Option Double := none
  batteryRemainingPct : Option Int8 := none
  batteryArmingVoltageV : Option Double := none
  autopilotMetadata : Option AutopilotMetadata := none
  warnings : List String := []

structure WarningEntry where
  text : String
  lastSeen : TimePoint
deriving DecidableEq

structure VehicleState where
  lastHeartbeat : Option TimePoint := none
  lastGps : Option TimePoint := none
  lastGlobalPosition : Option TimePoint := none
  lastLocalPosition : Option TimePoint := none
  lastAttitude : Option TimePoint := none
  lastBattery : Option TimePoint := none
  lastSystemStatus : Option TimePoint := none
  systemId : Option UInt8 := none
  componentId : Option UInt8 := none
  vehicleType : Option UInt8 := none
  autopilotType : Option UInt8 := none
  systemStatus : Option UInt8 := none
  flightMode : Option UInt32 := none
  gpsFixType : Option UInt8 := none
  satellitesVisible : Option UInt8 := none
  relativeAltitudeM : Option Double := none
  localNorthM : Option Double := none
  localEastM : Option Double := none
  localDownM : Option Double := none
  rollRad : Option Double := none
  pitchRad : Option Double := none
  yawRad : Option Double := none
  batteryVoltageV : Option Double := none
  batteryCurrentA : Option Double := none
  batteryRemainingPct : Option Int8 := none
  batteryArmingVoltageV : Option Double := none
  autopilotMetadata : Option AutopilotMetadata := none
  sensorsEnabled : UInt32 := 0
  sensorsHealthy : UInt32 := 0
  armed : Bool := false
  warnings : List WarningEntry := []

def isFresh (observedAt : Option TimePoint) (now : TimePoint) (timeout : Duration) : Bool :=
  match observedAt with
  | some t => decide (now - t ≤ timeout)
  | none => false

/-- One character stands for one byte of a message text. -/
def containsCaseInsensitive (text expected : String) : Bool :=
  decide (expected.toList <:+: text.toList.map Char.toLower)

def containsPrearm (text : String) : Bool := containsCaseInsensitive text "prearm:"

def containsBattery (text : String) : Bool := containsCaseInsensitive text "battery"

namespace VehicleState

def onHeartbeat (s : VehicleState) (systemId componentId vehicleType autopilotType baseMode : UInt8)
    (customMode : UInt32) (systemStatus : UInt8) (now : TimePoint) : VehicleState :=
  let reconnecting := s.lastHeartbeat.isSome && !isFresh s.lastHeartbeat now kHeartbeatTimeout
  let controllerChanged := (s.systemId.isSome && s.systemId != some systemId) ||
    (s.componentId.isSome && s.componentId != some componentId)
  { s with
    autopilotMetadata := if reconnecting || controllerChanged then none else s.autopilotMetadata
    lastHeartbeat := some now
    systemId := some systemId
    componentId := some componentId
    vehicleType := some vehicleType
    autopilotType := some autopilotType
    systemStatus := some systemStatus
    flightMode := some customMode
    armed := baseMode &&& kMavModeFlagSafetyArmed != 0 }

def onGps (s : VehicleState) (fixType satellitesVisible : UInt8) (now : TimePoint) : VehicleState :=
  { s with
    lastGps := some now
    gpsFixType := some fixType
    satellitesVisible := some satellitesVisible }

def onGlobalPosition (s : VehicleState) (relativeAltitudeMm : Int32) (now : TimePoint) :
    VehicleState :=
  { s with
    lastGlobalPosition := some now
    relativeAltitudeM := some (.finite (relativeAltitudeMm.toInt / 1000)) }

def onLocalPosition (s : VehicleState) (northM eastM downM : Double) (now : TimePoint) :
    VehicleState :=
  { s with
    lastLocalPosition := some now
    localNorthM := some northM
    localEastM := some eastM
    localDownM := some downM }

def onAttitude (s : VehicleState) (rollRad pitchRad yawRad : Double) (now : TimePoint) :
    VehicleState :=
  { s with
    lastAttitude := some now
    rollRad := some rollRad
    pitchRad := some pitchRad
    yawRad := some yawRad }

def updateBatteryLocked (s : VehicleState) (voltageV currentA : Option Double)
    (remainingPct : Option Int8) (now : TimePoint) : VehicleState :=
  { s with
    lastBattery := some now
    batteryVoltageV := voltageV.or s.batteryVoltageV
    batteryCurrentA := currentA.or s.batteryCurrentA
    batteryRemainingPct := remainingPct.or s.batteryRemainingPct }

def onBattery (s : VehicleState) (voltageV currentA : Option Double) (remainingPct : Option Int8)
    (now : TimePoint) : VehicleState :=
  s.updateBatteryLocked voltageV currentA remainingPct now

def onBatteryArmingVoltage (s : VehicleState) (voltageV : Double) (_now : TimePoint) :
    VehicleState :=
  { s with batteryArmingVoltageV := some (Double.max (.finite 0) voltageV) }

def onAutopilotMetadata (s : VehicleState) (metadata : AutopilotMetadata) : VehicleState :=
  { s with autopilotMetadata := some metadata }

def onSystemStatus (s : VehicleState) (sensorsEnabled sensorsHealthy : UInt32)
    (voltageV currentA : Option Double) (remainingPct : Option Int8) (now : TimePoint) :
    VehicleState :=
  let s := { s with
    sensorsEnabled := sensorsEnabled
    sensorsHealthy := sensorsHealthy
    lastSystemStatus := some now }
  if voltageV.isSome || currentA.isSome || remainingPct.isSome then
    s.updateBatteryLocked voltageV currentA remainingPct now
  else s

/-- Status texts that are kept: warnings, and pre-arm messages of any severity. -/
def keepsStatusText (severity : UInt8) (text : String) : Bool :=
  text != "" && (severity ≤ kMavSeverityWarning || containsPrearm text)

/-- The text's entry is refreshed, or a new one is added at the end. -/
def noteWarning (text : String) (now : TimePoint) : List WarningEntry → List WarningEntry
  | [] => [⟨text, now⟩]
  | w :: ws => if w.text = text then ⟨w.text, now⟩ :: ws else w :: noteWarning text now ws

def onStatusText (s : VehicleState) (severity : UInt8) (text : String) (now : TimePoint) :
    VehicleState :=
  if keepsStatusText severity text then { s with warnings := noteWarning text now s.warnings }
  else s

def eraseOldWarnings (s : VehicleState) (now : TimePoint) : VehicleState :=
  { s with warnings := s.warnings.filter fun w => !(now - w.lastSeen > kWarningTimeout) }

def gpsReady (s : VehicleState) (now : TimePoint) : Bool :=
  isFresh s.lastGps now kGpsTimeout &&
    match s.gpsFixType with
    | some fix => decide (3 ≤ fix)
    | none => false

def voltageMeetsArmingThreshold (s : VehicleState) : Bool :=
  match s.batteryVoltageV, s.batteryArmingVoltageV with
  | some voltage, some threshold => threshold.beq (.finite 0) || threshold.ble voltage
  | _, _ => false

def batterySensorHealthy (s : VehicleState) (now : TimePoint) : Bool :=
  isFresh s.lastSystemStatus now kSystemStatusTimeout &&
    s.sensorsEnabled &&& kBatterySensorFlag != 0 && s.sensorsHealthy &&& kBatterySensorFlag != 0

def hasBatteryWarning (s : VehicleState) : Bool := s.warnings.any fun w => containsBattery w.text

def batteryReady (s : VehicleState) (now : TimePoint) : Bool :=
  isFresh s.lastBattery now kBatteryTimeout && s.voltageMeetsArmingThreshold &&
    s.batterySensorHealthy now && !s.hasBatteryWarning &&
    match s.batteryRemainingPct with
    | some percent => decide (kMinimumBatteryPercent ≤ percent)
    | none => true

def systemHealthOk (s : VehicleState) (now : TimePoint) : Bool :=
  isFresh s.lastSystemStatus now kSystemStatusTimeout &&
    s.sensorsEnabled &&& ~~~s.sensorsHealthy == 0

def hasRecentWarning (s : VehicleState) (now : TimePoint) : Bool :=
  s.warnings.any fun w => now - w.lastSeen ≤ kBlockingWarningTimeout

/-- The part of a snapshot that a lost heartbeat leaves in place. -/
def identity (s : VehicleState) (now : TimePoint) : VehicleSnapshot where
  connected := isFresh s.lastHeartbeat now kHeartbeatTimeout
  systemId := s.systemId
  componentId := s.componentId
  vehicleType := s.vehicleType
  autopilotType := s.autopilotType
  systemStatus := s.systemStatus
  flightMode := s.flightMode
  armed := s.armed
  autopilotMetadata := s.autopilotMetadata
  warnings := s.warnings.map (·.text)

/-- What a snapshot reports once old warnings are gone. -/
def report (s : VehicleState) (now : TimePoint) : VehicleSnapshot :=
  let result := s.identity now
  if result.connected then
    let gpsFresh := isFresh s.lastGps now kGpsTimeout
    let globalFresh := isFresh s.lastGlobalPosition now kGlobalPositionTimeout
    let localFresh := isFresh s.lastLocalPosition now kLocalPositionTimeout
    let attitudeFresh := isFresh s.lastAttitude now kAttitudeTimeout
    let batteryFresh := isFresh s.lastBattery now kBatteryTimeout
    { result with
      gpsFixType := if gpsFresh then s.gpsFixType else none
      satellitesVisible := if gpsFresh then s.satellitesVisible else none
      gpsReady := s.gpsReady now
      relativeAltitudeM := if globalFresh then s.relativeAltitudeM else none
      localNorthM := if localFresh then s.localNorthM else none
      localEastM := if localFresh then s.localEastM else none
      localDownM := if localFresh then s.localDownM else none
      rollRad := if attitudeFresh then s.rollRad else none
      pitchRad := if attitudeFresh then s.pitchRad else none
      yawRad := if attitudeFresh then s.yawRad else none
      batteryVoltageV := if batteryFresh then s.batteryVoltageV else none
      batteryCurrentA := if batteryFresh then s.batteryCurrentA else none
      batteryRemainingPct := if batteryFresh then s.batteryRemainingPct else none
      batteryArmingVoltageV := if batteryFresh then s.batteryArmingVoltageV else none
      batteryReady := s.batteryReady now
      systemHealthKnown := isFresh s.lastSystemStatus now kSystemStatusTimeout
      systemHealthOk := s.systemHealthOk now
      armable := s.gpsReady now && s.batteryReady now && s.systemHealthOk now &&
        !s.hasRecentWarning now }
  else result

/-- A snapshot forgets warnings that are too old before it reports. -/
def snapshot (s : VehicleState) (now : TimePoint) : VehicleState × VehicleSnapshot :=
  (s.eraseOldWarnings now, (s.eraseOldWarnings now).report now)

end VehicleState

end OnboardAutonomy
