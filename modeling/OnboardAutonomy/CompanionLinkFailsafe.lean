import OnboardAutonomy.DecimalText

namespace OnboardAutonomy
open ExactDouble
set_option autoImplicit true

inductive CompanionLinkFailsafePhase where
  | waitingForVehicle
  | readingParameters
  | accepted
  | rejected
deriving DecidableEq

inductive ArduPilotGcsFailsafeAction where
  | disabled
  | rtl
  | removedContinueMission
  | smartRtlOrRtl
  | smartRtlOrLand
  | land
  | autoLandStartOrRtl
  | brakeOrLand
deriving DecidableEq

/-- The action a parameter value from 0 to 7 stands for. -/
def ArduPilotGcsFailsafeAction.ofNat? : Nat → Option ArduPilotGcsFailsafeAction
  | 0 => some .disabled
  | 1 => some .rtl
  | 2 => some .removedContinueMission
  | 3 => some .smartRtlOrRtl
  | 4 => some .smartRtlOrLand
  | 5 => some .land
  | 6 => some .autoLandStartOrRtl
  | 7 => some .brakeOrLand
  | _ => none

structure CompanionLinkFailsafeSnapshot where
  phase : CompanionLinkFailsafePhase := .waitingForVehicle
  detail : String := "Waiting for the flight-controller heartbeat"
  heartbeatSystemId : Option UInt8 := none
  configuredGcsSystemId : Option Nat := none
  action : Option ArduPilotGcsFailsafeAction := none
  timeoutS : Option Double := none
  options : Option Nat := none
  parametersReceived : Nat := 0
  parametersRequired : Nat := 4

def CompanionLinkFailsafeSnapshot.accepted (s : CompanionLinkFailsafeSnapshot) : Bool :=
  s.phase == .accepted

structure CompanionLinkFailsafe where
  snapshot : CompanionLinkFailsafeSnapshot := {}
  rawAction : Option Double := none
  rawTimeoutS : Option Double := none
  rawOptions : Option Double := none
  rawGcsSystemId : Option Double := none

def kGcsFailsafeContinuationMask : Nat := (1 <<< 1) ||| (1 <<< 4)
def kMinimumTimeoutS : ℚ := 2
def kMaximumTimeoutS : ℚ := 10
def kAutopilotComponentId : UInt8 := 1

/-- A whole number from 0 to the maximum, if the value is exactly that. -/
def exactInteger (value : Option Double) (maximum : Nat) : Option Nat :=
  match value with
  | some (.finite q) =>
    if q < 0 ∨ (maximum : ℚ) < q ∨ (q.num.tdiv q.den : ℚ) ≠ q then none else some q.num.toNat
  | _ => none

def timeoutDetail (timeoutS : Double) : String := DecimalText.fixed 1 timeoutS

def timeoutInRange (timeoutS : Option Double) : Bool :=
  match timeoutS with
  | some timeout => timeout.isFinite && !timeout.blt (.finite kMinimumTimeoutS) &&
      !(Double.finite kMaximumTimeoutS).blt timeout
  | none => false

namespace CompanionLinkFailsafe

def parameterNames : List String :=
  ["FS_GCS_ENABLE", "FS_GCS_TIMEOUT", "FS_OPTIONS", "SYSID_MYGCS"]

def reset (systemId : Option UInt8) : CompanionLinkFailsafe where
  snapshot :=
    if systemId.isSome then {
      heartbeatSystemId := systemId
      phase := .readingParameters
      detail := "Reading ArduPilot companion-link failsafe parameters" }
    else {}

def observeVehicle (f : CompanionLinkFailsafe) (connected : Bool) (systemId : Option UInt8) :
    CompanionLinkFailsafe :=
  if !connected || systemId.isNone then
    if f.snapshot.heartbeatSystemId.isSome then reset none else f
  else if f.snapshot.heartbeatSystemId ≠ systemId then reset systemId
  else f

def parametersReceived (f : CompanionLinkFailsafe) : Nat :=
  f.rawAction.isSome.toNat + f.rawTimeoutS.isSome.toNat + f.rawOptions.isSome.toNat +
    f.rawGcsSystemId.isSome.toNat

/-- The text for the first value that is not as required, none when all four are. -/
def rejection (f : CompanionLinkFailsafe) : Option String :=
  let action := (exactInteger f.rawAction 255).bind ArduPilotGcsFailsafeAction.ofNat?
  let options := exactInteger f.rawOptions 4294967295
  let gcsSystemId := exactInteger f.rawGcsSystemId 255
  match action with
  | none => some "FS_GCS_ENABLE is unsupported"
  | some action =>
    if action ≠ .land then some "FS_GCS_ENABLE must be 5 (Always LAND)" else
    if !timeoutInRange f.rawTimeoutS then
      some "FS_GCS_TIMEOUT must be between 2 and 10 seconds"
    else
    match options with
    | none => some "FS_OPTIONS is not a valid bitmask"
    | some options =>
      if options &&& kGcsFailsafeContinuationMask ≠ 0 then
        some "FS_OPTIONS must not bypass GCS failsafe in Auto or pilot modes"
      else
      match gcsSystemId with
      | none => some "SYSID_MYGCS is invalid"
      | some gcsSystemId =>
        if gcsSystemId = 0 then some "SYSID_MYGCS is invalid"
        else if f.snapshot.heartbeatSystemId.map UInt8.toNat ≠ some gcsSystemId then
          some ("SYSID_MYGCS must match companion heartbeat system id " ++
            match f.snapshot.heartbeatSystemId with
            | some id => toString id.toNat
            | none => "unknown")
        else none

def validate (f : CompanionLinkFailsafe) : CompanionLinkFailsafe :=
  let received := f.parametersReceived
  if received < f.snapshot.parametersRequired then
    { f with snapshot := { f.snapshot with
        parametersReceived := received
        phase := .readingParameters
        detail := "Reading ArduPilot failsafe parameters (" ++ toString received ++ "/" ++
          toString f.snapshot.parametersRequired ++ ")" } }
  else
    let snapshot := { f.snapshot with
      parametersReceived := received
      action := (exactInteger f.rawAction 255).bind ArduPilotGcsFailsafeAction.ofNat?
      timeoutS := f.rawTimeoutS.filter Double.isFinite
      options := exactInteger f.rawOptions 4294967295
      configuredGcsSystemId := exactInteger f.rawGcsSystemId 255 }
    match f.rejection with
    | some detail => { f with snapshot := { snapshot with phase := .rejected, detail := detail } }
    | none => { f with snapshot := { snapshot with
        phase := .accepted
        detail := "ArduPilot will LAND after " ++ timeoutDetail (f.rawTimeoutS.getD .nan) ++
          " s without the companion heartbeat" } }

def onParameter (f : CompanionLinkFailsafe) (sourceSystem sourceComponent : UInt8) (id : String)
    (value : Double) : CompanionLinkFailsafe :=
  if f.snapshot.heartbeatSystemId ≠ some sourceSystem ∨ sourceComponent ≠ kAutopilotComponentId then
    f
  else if id = "FS_GCS_ENABLE" then validate { f with rawAction := some value }
  else if id = "FS_GCS_TIMEOUT" then validate { f with rawTimeoutS := some value }
  else if id = "FS_OPTIONS" then validate { f with rawOptions := some value }
  else if id = "SYSID_MYGCS" then validate { f with rawGcsSystemId := some value }
  else f

end CompanionLinkFailsafe

end OnboardAutonomy
