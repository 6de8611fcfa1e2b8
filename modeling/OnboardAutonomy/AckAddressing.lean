import OnboardAutonomy.ApplicationRuns
import OnboardAutonomy.StartupSteps
import OnboardAutonomy.RuntimeSteps

namespace OnboardAutonomy
open ExactDouble Histories
set_option autoImplicit true

/-- The acknowledgement is addressed to everyone or to the companion, which uses the system id of
its vehicle. -/
def Components.addressesCompanion (c : Components) (ack : CommandAck) : Bool :=
  (ack.targetSystem == 0 || c.vehicleState.systemId == some ack.targetSystem) &&
    (ack.targetComponent == 0 || ack.targetComponent == kCompanionComponentId)

namespace FlightStartupController

/-- A report of progress that has been recorded already. -/
def progressNoted (c : FlightStartupController) (action : FlightAction)
    (outcome : FlightCommandAckOutcome) (now : TimePoint) : Prop :=
  outcome = .inProgress ∧ c.acknowledgementDeadline = now + kAcknowledgementTimeout ∧
    c.detail = actionName action ++ " is in progress"

theorem onCommandAck_unchanged (c : FlightStartupController) (action : FlightAction)
    (outcome : FlightCommandAckOutcome) (rawResult source : UInt8) (now : TimePoint) :
    c.onCommandAck action outcome rawResult source now = c ↔
      (c.awaits action source = true → c.progressNoted action outcome now) := by
  rcases c.onCommandAck_cases action outcome rawResult source now with
    ⟨ha, he⟩ | ⟨ha, ⟨ho, he⟩ | ⟨ho, he⟩ | ⟨ho, detail, he⟩⟩
  · rw [he, ha]
    exact ⟨fun _ h => (by cases h), fun _ => rfl⟩
  · obtain ⟨_, hw, _⟩ := (c.awaits_iff action source).1 ha
    rw [he]
    constructor
    · intro h
      have hawaiting := congrArg awaitingAck h
      rw [hw] at hawaiting
      cases hawaiting
    · intro h
      have hprogress := (h ha).1
      rw [ho] at hprogress
      cases hprogress
  · rw [he]
    constructor
    · intro h _
      exact ⟨ho, (congrArg acknowledgementDeadline h).symm, (congrArg detail h).symm⟩
    · intro h
      obtain ⟨_, hdeadline, hdetail⟩ := h ha
      rw [extend, ← hdeadline, ← hdetail]
  · obtain ⟨hexpected, _, _⟩ := (c.awaits_iff action source).1 ha
    have hphase := (resting_of_expected hexpected).1
    rw [he]
    constructor
    · intro h
      have hfailed := congrArg phase h
      rw [← hfailed] at hphase
      cases hphase
    · intro h
      have hprogress := (h ha).1
      rw [ho] at hprogress
      cases hprogress

end FlightStartupController

namespace AutonomyRuntime

/-- A report of progress that has been recorded already. -/
def progressNoted (r : AutonomyRuntime) (outcome : FlightCommandAckOutcome) (now : TimePoint) :
    Prop :=
  outcome = .inProgress ∧ r.acknowledgementDeadline = now + kAcknowledgementTimeout ∧
    r.detail = "LAND is in progress"

theorem onCommandAck_unchanged (r : AutonomyRuntime) (action : FlightAction)
    (outcome : FlightCommandAckOutcome) (rawResult source : UInt8) (now : TimePoint) :
    r.onCommandAck action outcome rawResult source now = r ↔
      (r.awaits action source = true → r.progressNoted outcome now) := by
  rcases r.onCommandAck_cases action outcome rawResult source now with
    ⟨ha, he⟩ | ⟨ha, ⟨ho, he⟩ | ⟨ho, he⟩ | ⟨ho, detail, he⟩⟩
  · rw [he, ha]
    exact ⟨fun _ h => (by cases h), fun _ => rfl⟩
  · obtain ⟨_, hw, _⟩ := (r.awaits_iff action source).1 ha
    rw [he]
    constructor
    · intro h
      have hawaiting := congrArg awaitingLandAck h
      rw [hw] at hawaiting
      cases hawaiting
    · intro h
      have hprogress := (h ha).1
      rw [ho] at hprogress
      cases hprogress
  · rw [he]
    constructor
    · intro h _
      exact ⟨ho, (congrArg acknowledgementDeadline h).symm, (congrArg detail h).symm⟩
    · intro h
      obtain ⟨_, hdeadline, hdetail⟩ := h ha
      rw [extend, ← hdeadline, ← hdetail]
  · obtain ⟨_, hw, _⟩ := (r.awaits_iff action source).1 ha
    rw [he]
    constructor
    · intro h
      have hawaiting := congrArg awaitingLandAck h
      rw [hw] at hawaiting
      cases hawaiting
    · intro h
      have hprogress := (h ha).1
      rw [ho] at hprogress
      cases hprogress

end AutonomyRuntime

namespace TelemetryStreamConfigurator

theorem onCommandAck_ignored (c : TelemetryStreamConfigurator) (ack : CommandAck)
    (hc : (ack.targetSystem ≠ 0 ∧ ack.targetSystem ≠ ack.sourceSystem) ∨
      (ack.targetComponent ≠ 0 ∧ ack.targetComponent ≠ kCompanionComponentId))
    (now : TimePoint) : c.onCommandAck ack now = c := by
  have hawaits : c.awaits ack = false := by
    rw [Bool.eq_false_iff]
    intro h
    simp only [awaits, Bool.and_eq_true, Bool.or_eq_true, beq_iff_eq] at h
    obtain ⟨⟨⟨_, hsource⟩, htarget⟩, hcomponent⟩ := h
    rcases hc with ⟨h0, hs⟩ | ⟨h0, hs⟩
    · rcases htarget with ht | ht
      · exact h0 ht
      · rw [hsource] at ht
        exact hs (Option.some.inj ht).symm
    · rcases hcomponent with ht | ht
      · exact h0 ht
      · exact hs ht
  rw [onCommandAck, hawaits]
  rfl

end TelemetryStreamConfigurator

namespace Components

/-- A state machine takes the acknowledgement of a flight action as its own. -/
def TakesAck (c : Components) (ack : CommandAck) (now : TimePoint) : Prop :=
  (ack.targetComponent = 0 ∨ ack.targetComponent = kCompanionComponentId) ∧
    ∃ action, mapFlightAction ack.command = some action ∧
      ((c.flightStartup.awaits action ack.sourceSystem = true ∧
          ¬c.flightStartup.progressNoted action (mapAckOutcome ack.result) now) ∨
        (c.autonomyRuntime.awaits action ack.sourceSystem = true ∧
          ¬c.autonomyRuntime.progressNoted (mapAckOutcome ack.result) now))

/-- The three machines an acknowledgement can reach. -/
def machines (c : Components) :
    TelemetryStreamConfigurator × FlightStartupController × AutonomyRuntime :=
  (c.telemetryConfigurator, c.flightStartup, c.autonomyRuntime)

/-- What an acknowledgement makes of the two state machines. -/
def afterFlightAck (c : Components) (ack : CommandAck) (now : TimePoint) :
    FlightStartupController × AutonomyRuntime :=
  match mapFlightAction ack.command with
  | none => (c.flightStartup, c.autonomyRuntime)
  | some action =>
    if ack.targetComponent ≠ 0 ∧ ack.targetComponent ≠ kCompanionComponentId then
      (c.flightStartup, c.autonomyRuntime)
    else (c.flightStartup.onCommandAck action (mapAckOutcome ack.result) ack.result
        ack.sourceSystem now,
      c.autonomyRuntime.onCommandAck action (mapAckOutcome ack.result) ack.result
        ack.sourceSystem now)

theorem receive_machines (c : Components) (m : MavlinkMessage) {ack : CommandAck}
    (hack : m.acknowledgement = some ack) (now : TimePoint) : (c.receive m now).machines =
      (c.telemetryConfigurator.onCommandAck ack now, c.afterFlightAck ack now) := by
  simp only [receive, hack, machines, afterFlightAck]
  cases mapFlightAction ack.command with
  | none => rfl
  | some action => dsimp only; split_ifs <;> rfl

theorem flight_ack_inert_iff (c : Components) (ack : CommandAck) (now : TimePoint) :
    (c.telemetryConfigurator, c.afterFlightAck ack now) = c.machines ↔ ¬c.TakesAck ack now := by
  rw [machines, Prod.mk.injEq, afterFlightAck, TakesAck]
  cases hm : mapFlightAction ack.command with
  | none => simp
  | some action =>
    have hstartup := c.flightStartup.onCommandAck_unchanged action (mapAckOutcome ack.result)
      ack.result ack.sourceSystem now
    have hruntime := c.autonomyRuntime.onCommandAck_unchanged action (mapAckOutcome ack.result)
      ack.result ack.sourceSystem now
    by_cases hcomponent : ack.targetComponent ≠ 0 ∧ ack.targetComponent ≠ kCompanionComponentId
    · simp only [hcomponent, ne_eq, not_false_eq_true, and_self, if_true]
      simp
    · have hours : ack.targetComponent = 0 ∨ ack.targetComponent = kCompanionComponentId := by
        rw [not_and_or, not_not, not_not] at hcomponent
        exact hcomponent
      dsimp only
      rw [if_neg hcomponent, Prod.mk.injEq, hstartup, hruntime]
      simp only [true_and, hours, Option.some.injEq, exists_eq_left', not_or, not_and, not_not]

end Components

namespace CompanionApplication

/-- An acknowledgement by the vehicle that is addressed to someone else leaves all three machines
alone exactly when no state machine takes it as its own; the system it is addressed to plays no
part in that. -/
theorem foreign_ack_inert_iff (app : CompanionApplication) (m : MavlinkMessage) (ack : CommandAck)
    (now : TimePoint) (hack : m.acknowledgement = some ack)
    (hvehicle : app.vehicleState.systemId = some ack.sourceSystem)
    (hother : app.addressesCompanion ack = false) :
    (app.receive m now).machines = app.machines ↔ ¬app.TakesAck ack now := by
  have hforeign : (ack.targetSystem ≠ 0 ∧ ack.targetSystem ≠ ack.sourceSystem) ∨
      (ack.targetComponent ≠ 0 ∧ ack.targetComponent ≠ kCompanionComponentId) := by
    rw [Components.addressesCompanion, hvehicle] at hother
    simp only [Bool.and_eq_false_iff, Bool.or_eq_false_iff, beq_eq_false_iff_ne, ne_eq,
      Option.some.injEq] at hother
    rcases hother with ⟨h0, hs⟩ | h
    · exact .inl ⟨h0, fun he => hs he.symm⟩
    · exact .inr h
  rw [receive_components, Components.receive_machines _ m hack,
    TelemetryStreamConfigurator.onCommandAck_ignored _ ack hforeign now]
  exact Components.flight_ack_inert_iff _ ack now

/-- GUIDED mode has been requested of vehicle 1, and it answers station 42. -/
theorem foreign_ack_inert_iff_station :
    ∃ h app, Ran flightOptions h app ∧
      (((app.receive (acknowledgedBy 1 MAV_CMD_DO_SET_MODE 42) (seconds 8)).machines =
        app.machines ↔ ¬app.TakesAck ⟨1, 1, MAV_CMD_DO_SET_MODE, MAV_RESULT_ACCEPTED, 0, 0, 42,
          kCompanionComponentId⟩ (seconds 8))) := by
  obtain ⟨h, app, hr, hs⟩ := ran_of_check flightOptions (readyFlight 1 0)
    (by decide) (fun _ app => app.vehicleState.systemId == some 1) (by decide +kernel)
  rw [beq_iff_eq] at hs
  refine ⟨h, app, hr, foreign_ack_inert_iff app _ _ _ rfl hs ?_⟩
  rw [Components.addressesCompanion, hs]
  rfl

/-- The answer to the station is taken for the answer to the companion. -/
theorem foreign_ack_taken :
    ∃ h app m ack, Ran flightOptions h app ∧ m.acknowledgement = some ack ∧
      app.vehicleState.systemId = some ack.sourceSystem ∧
      app.addressesCompanion ack = false ∧ (app.receive m (seconds 8)).machines ≠ app.machines := by
  obtain ⟨h, app, hr, hs⟩ := ran_of_check flightOptions (readyFlight 1 0)
    (by decide) (fun _ app => app.vehicleState.systemId == some 1 &&
      !app.flightStartup.commandAccepted && (app.receive
        (acknowledgedBy 1 MAV_CMD_DO_SET_MODE 42) (seconds 8)).flightStartup.commandAccepted)
    (by decide +kernel)
  simp only [Bool.and_eq_true, beq_iff_eq, Bool.not_eq_true'] at hs
  obtain ⟨⟨hvehicle, hbefore⟩, hafter⟩ := hs
  refine ⟨h, app, acknowledgedBy 1 MAV_CMD_DO_SET_MODE 42, _, hr, rfl, hvehicle, ?_, ?_⟩
  · rw [Components.addressesCompanion, hvehicle]
    rfl
  · intro hsame
    have haccepted := congrArg (fun machines => machines.2.1.commandAccepted) hsame
    simp only [Components.machines] at haccepted
    rw [hbefore, hafter] at haccepted
    cases haccepted

end CompanionApplication
end OnboardAutonomy
