import OnboardAutonomy.MavlinkDecoder
import OnboardAutonomy.FlightStartupController

namespace OnboardAutonomy
open ExactDouble
set_option autoImplicit true

inductive LinkEventDirection where
  | outbound
  | inbound
deriving DecidableEq

inductive LinkEventStatus where
  | neutral
  | pending
  | success
  | warning
  | failure
deriving DecidableEq

/-- Times since the start are in milliseconds. -/
structure LinkEvent where
  sequence : Nat
  elapsed : Int
  direction : LinkEventDirection
  status : LinkEventStatus
  label : String
  detail : String

structure LinkActivity where
  sequence : Nat
  observedAt : Int
  messageName : String
  detail : String

/-- The events and activity an application shows to its operator, oldest event first. -/
structure LinkLog where
  startedAt : Option TimePoint := none
  linkEvents : List LinkEvent := []
  nextEventSequence : Nat := 0
  nextActivitySequence : Nat := 0
  txActivity : Option LinkActivity := none
  rxActivity : Option LinkActivity := none

def kMaximumLinkEvents : Nat := 8

namespace LinkLog

/-- The clock starts with whatever is logged first. -/
def start (l : LinkLog) (now : TimePoint) : LinkLog :=
  { l with startedAt := some (l.startedAt.getD now) }

def elapsedAt (l : LinkLog) (now : TimePoint) : Int :=
  (now - l.startedAt.getD now).tdiv 1000000

def recordEvent (l : LinkLog) (direction : LinkEventDirection) (status : LinkEventStatus)
    (label detail : String) (now : TimePoint) : LinkLog :=
  let l := l.start now
  let event := {
    sequence := l.nextEventSequence + 1
    elapsed := l.elapsedAt now
    direction := direction
    status := status
    label := label
    detail := detail }
  let events := l.linkEvents ++ [event]
  { l with
    nextEventSequence := l.nextEventSequence + 1
    linkEvents := if kMaximumLinkEvents < events.length then events.tail else events }

def recordActivity (l : LinkLog) (direction : LinkEventDirection) (messageName detail : String)
    (now : TimePoint) : LinkLog :=
  let l := l.start now
  let activity : LinkActivity := {
    sequence := l.nextActivitySequence + 1
    observedAt := l.elapsedAt now
    messageName := messageName
    detail := detail }
  let l := { l with nextActivitySequence := l.nextActivitySequence + 1 }
  match direction with
  | .outbound => { l with txActivity := some activity }
  | .inbound => { l with rxActivity := some activity }

end LinkLog

def mapFlightAction (command : UInt16) : Option FlightAction :=
  if command = MAV_CMD_DO_SET_MODE then some .setGuidedMode
  else if command = MAV_CMD_COMPONENT_ARM_DISARM then some .arm
  else if command = MAV_CMD_NAV_TAKEOFF then some .takeoff
  else if command = MAV_CMD_NAV_LAND then some .land
  else if command = MAV_CMD_NAV_RETURN_TO_LAUNCH then some .returnToLaunch
  else none

def mapAckOutcome (result : UInt8) : FlightCommandAckOutcome :=
  if result = MAV_RESULT_ACCEPTED then .accepted
  else if result = MAV_RESULT_IN_PROGRESS then .inProgress
  else .rejected

def mapEventStatus (result : UInt8) : LinkEventStatus :=
  if result = MAV_RESULT_ACCEPTED then .success
  else if result = MAV_RESULT_IN_PROGRESS then .pending
  else if result = MAV_RESULT_TEMPORARILY_REJECTED then .warning
  else .failure

def ackResultName (result : UInt8) : String :=
  if result = MAV_RESULT_ACCEPTED then "ACCEPTED"
  else if result = MAV_RESULT_TEMPORARILY_REJECTED then "TEMPORARILY REJECTED"
  else if result = MAV_RESULT_DENIED then "DENIED"
  else if result = MAV_RESULT_UNSUPPORTED then "UNSUPPORTED"
  else if result = MAV_RESULT_FAILED then "FAILED"
  else if result = MAV_RESULT_IN_PROGRESS then "IN PROGRESS"
  else if result = MAV_RESULT_CANCELLED then "CANCELLED"
  else "MAV_RESULT " ++ toString result.toNat

/-- The name of a command without the "ACK " its label starts with. -/
def mavCommandTitle (command : UInt16) : String :=
  if command = MAV_CMD_SET_MESSAGE_INTERVAL then "SET_INTERVAL"
  else if command = MAV_CMD_REQUEST_MESSAGE then "REQUEST_VERSION"
  else if command = MAV_CMD_DO_SET_MODE then "SET_MODE"
  else if command = MAV_CMD_COMPONENT_ARM_DISARM then "ARM"
  else if command = MAV_CMD_NAV_TAKEOFF then "TAKEOFF"
  else if command = MAV_CMD_NAV_LAND then "LAND"
  else if command = MAV_CMD_NAV_RETURN_TO_LAUNCH then "RTL"
  else "COMMAND " ++ toString command.toNat

def mavCommandName (command : UInt16) : String := "ACK " ++ mavCommandTitle command

def commandAckActivityDetail (command : UInt16) (result : UInt8) : String :=
  mavCommandTitle command ++ " " ++ ackResultName result

def flightActionName : FlightAction → String
  | .setGuidedMode => "SET_MODE"
  | .arm => "ARM"
  | .takeoff => "TAKEOFF"
  | .returnToLaunch => "RTL"
  | .land => "LAND"
  | .landingTarget => "LANDING_TARGET"

def flightActionMessageName : FlightAction → String
  | .landingTarget => "LANDING_TARGET"
  | .setGuidedMode | .arm | .takeoff | .returnToLaunch | .land => "COMMAND_LONG"

def flightActionDetail (request : FlightActionRequest) : String :=
  let attempt := " | ATTEMPT " ++ toString (request.confirmation.toNat + 1)
  match request.action with
  | .setGuidedMode => "GUIDED" ++ attempt
  | .arm => "SAFETY CHECKS ON" ++ attempt
  | .takeoff => DecimalText.fixed 1 request.altitudeM ++ " M" ++ attempt
  | .returnToLaunch => "RETURN TO HOME" ++ attempt
  | .land => "LAND MODE" ++ attempt
  | .landingTarget => "F/R/D " ++ DecimalText.fixed 1 request.xM ++ "/" ++
      DecimalText.fixed 1 request.yM ++ "/" ++ DecimalText.fixed 1 request.zM ++ " M"

def flightModeName (mode : UInt32) : String :=
  if mode = 0 then "STABILIZE"
  else if mode = 3 then "AUTO"
  else if mode = 4 then "GUIDED"
  else if mode = 5 then "LOITER"
  else if mode = 6 then "RTL"
  else if mode = 9 then "LAND"
  else if mode = 16 then "POSITION HOLD"
  else "MODE " ++ toString mode.toNat

end OnboardAutonomy
