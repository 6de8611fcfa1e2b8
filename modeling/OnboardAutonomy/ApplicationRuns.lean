import OnboardAutonomy.Histories
import OnboardAutonomy.CompanionApplication

namespace OnboardAutonomy
open ExactDouble Histories
set_option autoImplicit true

namespace Components

/-- What one decoded message does to the components. -/
def receive (c : Components) (m : MavlinkMessage) (now : TimePoint) : Components :=
  let c := { c with
    vehicleState := handleMessage c.vehicleState m now
    companionLinkFailsafe := match m.parameterValue with
      | some parameter => c.companionLinkFailsafe.onParameter parameter.sourceSystem
          parameter.sourceComponent parameter.id parameter.value
      | none => c.companionLinkFailsafe }
  match m.acknowledgement with
  | none => c
  | some ack =>
    let c := { c with telemetryConfigurator := c.telemetryConfigurator.onCommandAck ack now }
    match mapFlightAction ack.command with
    | none => c
    | some action =>
      if ack.targetComponent ≠ 0 ∧ ack.targetComponent ≠ kCompanionComponentId then c
      else
        let outcome := mapAckOutcome ack.result
        { c with
          flightStartup :=
            c.flightStartup.onCommandAck action outcome ack.result ack.sourceSystem now
          autonomyRuntime :=
            c.autonomyRuntime.onCommandAck action outcome ack.result ack.sourceSystem now }

def ingest (c : Components) (messages : List MavlinkMessage) (now : TimePoint) : Components :=
  messages.foldl (fun c m => c.receive m now) c

/-- The components a poll works on, once it has read the camera and the link. -/
def beginPoll (c : Components) (input : PollInput) : Components :=
  { c with
    cameraMonitor := c.cameraMonitor.map (CameraMonitor.poll · input.camera input.cameraNow) }
    |>.ingest input.inbound input.now

/-- A message reaches the vehicle state and the failsafe policy, and, when it acknowledges a
flight action, both state machines. -/
structure Received (c : Components) (m : MavlinkMessage) (now : TimePoint) (after : Components) :
    Prop where
  vehicleState : after.vehicleState = handleMessage c.vehicleState m now
  companionLinkFailsafe : after.companionLinkFailsafe = c.companionLinkFailsafe ∨
    ∃ source component id value, after.companionLinkFailsafe =
      c.companionLinkFailsafe.onParameter source component id value
  machines : (after.flightStartup = c.flightStartup ∧ after.autonomyRuntime = c.autonomyRuntime) ∨
    ∃ action outcome rawResult source,
      after.flightStartup = c.flightStartup.onCommandAck action outcome rawResult source now ∧
      after.autonomyRuntime = c.autonomyRuntime.onCommandAck action outcome rawResult source now
  cameraMonitor : after.cameraMonitor = c.cameraMonitor
  cameraExtrinsics : after.cameraExtrinsics = c.cameraExtrinsics
  motionCommandsAllowed : after.motionCommandsAllowed = c.motionCommandsAllowed
  autonomyScenarioConfigured : after.autonomyScenarioConfigured = c.autonomyScenarioConfigured

theorem receive_received (c : Components) (m : MavlinkMessage) (now : TimePoint) :
    Received c m now (c.receive m now) := by
  have hpolicy : (match m.parameterValue with
      | some parameter => c.companionLinkFailsafe.onParameter parameter.sourceSystem
          parameter.sourceComponent parameter.id parameter.value
      | none => c.companionLinkFailsafe) = c.companionLinkFailsafe ∨
      ∃ source component id value, (match m.parameterValue with
        | some parameter => c.companionLinkFailsafe.onParameter parameter.sourceSystem
            parameter.sourceComponent parameter.id parameter.value
        | none => c.companionLinkFailsafe) =
          c.companionLinkFailsafe.onParameter source component id value := by
    cases m.parameterValue with
    | none => exact .inl rfl
    | some parameter => exact .inr ⟨_, _, _, _, rfl⟩
  simp only [receive]
  cases m.acknowledgement with
  | none => exact ⟨rfl, hpolicy, .inl ⟨rfl, rfl⟩, rfl, rfl, rfl, rfl⟩
  | some ack =>
    dsimp only
    cases mapFlightAction ack.command with
    | none => exact ⟨rfl, hpolicy, .inl ⟨rfl, rfl⟩, rfl, rfl, rfl, rfl⟩
    | some action =>
      dsimp only
      split
      · exact ⟨rfl, hpolicy, .inl ⟨rfl, rfl⟩, rfl, rfl, rfl, rfl⟩
      · exact ⟨rfl, hpolicy, .inr ⟨_, _, _, _, rfl, rfl⟩, rfl, rfl, rfl, rfl⟩

/-- What every message keeps, a whole read keeps. -/
theorem ingest_induction {P : Components → Prop} (hstep : ∀ c m, P c → P (c.receive m now))
    (hc : P c) : P (c.ingest messages now) := by
  induction messages generalizing c with
  | nil => exact hc
  | cons m messages ih => exact ih (hstep c m hc)

end Components

namespace CompanionApplication

theorem logCommandAck_components (app : CompanionApplication) (ack : CommandAck) (now : TimePoint) :
    (app.logCommandAck ack now).toComponents = app.toComponents := by
  simp only [logCommandAck]
  split
  · rfl
  · rfl

theorem receive_components (app : CompanionApplication) (m : MavlinkMessage) (now : TimePoint) :
    (app.receive m now).toComponents = app.toComponents.receive m now := by
  have hack (app : CompanionApplication) (ack : CommandAck) :
      (app.onCommandAck ack now).toComponents =
        match mapFlightAction ack.command with
        | none => { app.toComponents with
            telemetryConfigurator := app.telemetryConfigurator.onCommandAck ack now }
        | some action =>
          if ack.targetComponent ≠ 0 ∧ ack.targetComponent ≠ kCompanionComponentId then
            { app.toComponents with
              telemetryConfigurator := app.telemetryConfigurator.onCommandAck ack now }
          else { app.toComponents with
            telemetryConfigurator := app.telemetryConfigurator.onCommandAck ack now
            flightStartup := app.flightStartup.onCommandAck action (mapAckOutcome ack.result)
              ack.result ack.sourceSystem now
            autonomyRuntime := app.autonomyRuntime.onCommandAck action (mapAckOutcome ack.result)
              ack.result ack.sourceSystem now } := by
    have hlog := app.logCommandAck_components ack now
    simp only [onCommandAck]
    rw [← hlog]
    cases mapFlightAction ack.command with
    | none => rfl
    | some action => dsimp only; split_ifs <;> rfl
  have hparameter (app : CompanionApplication) (parameter : ParameterValue) :
      (app.onParameterValue parameter now).toComponents = { app.toComponents with
        companionLinkFailsafe := app.companionLinkFailsafe.onParameter parameter.sourceSystem
          parameter.sourceComponent parameter.id parameter.value } := by
    simp only [onParameterValue]
    split
    · rfl
    · rfl
  simp only [receive, Components.receive]
  cases m.acknowledgement with
  | none =>
    cases m.parameterValue with
    | none => rfl
    | some parameter => exact hparameter _ parameter
  | some ack =>
    cases m.parameterValue with
    | none => exact hack _ ack
    | some parameter =>
      dsimp only
      rw [hack]
      simp only [hparameter]
      rfl

theorem ingest_components (app : CompanionApplication) (messages : List MavlinkMessage)
    (now : TimePoint) :
    (app.ingest messages now).toComponents = app.toComponents.ingest messages now := by
  induction messages generalizing app with
  | nil => rfl
  | cons m messages ih =>
    have hm := ih (app.receive m now)
    rw [receive_components] at hm
    exact hm

theorem beginPoll_components (app : CompanionApplication) (input : PollInput) :
    (app.beginPoll input).toComponents = app.toComponents.beginPoll input := by
  simp only [beginPoll, ingest_components]
  rfl

theorem observeVehicle_components (app : CompanionApplication) (vehicle : VehicleSnapshot)
    (now : TimePoint) : (app.observeVehicle vehicle now).toComponents = app.toComponents := by
  simp only [observeVehicle, recordInbound]
  split
  · split <;> rfl
  · split
    · rfl
    · split <;> split <;> split <;> (try split) <;> (try split) <;> (try split) <;> rfl

theorem observe_components (app : CompanionApplication) (vehicle : VehicleSnapshot)
    (now : TimePoint) :
    (app.observe vehicle now).toComponents = { app.toComponents with
      companionLinkFailsafe :=
        app.companionLinkFailsafe.observeVehicle vehicle.connected vehicle.systemId } := by
  simp only [observe]
  rw [observeVehicle_components]
  split
  · rfl
  · rfl

end CompanionApplication

namespace PollState

theorem writeFrame_components (p : PollState) (frame : OutboundFrame) (name detail : String)
    (now : TimePoint) : (p.writeFrame frame name detail now).1.app.toComponents =
      p.app.toComponents := by
  simp only [writeFrame]
  split
  · rfl
  · rfl

theorem scheduleHeartbeat_components (p : PollState) (vehicle : VehicleSnapshot)
    (now : TimePoint) :
    (p.scheduleHeartbeat vehicle now).app.toComponents = p.app.toComponents := by
  simp only [scheduleHeartbeat]
  split
  · rfl
  · split
    · split
      · exact p.writeFrame_components _ _ _ now
      · exact p.writeFrame_components _ _ _ now
    · rfl

theorem configureTelemetry_components (p : PollState) (vehicle : VehicleSnapshot)
    (now : TimePoint) :
    (p.configureTelemetry vehicle now).app.toComponents = { p.app.toComponents with
      telemetryConfigurator :=
        (p.app.telemetryConfigurator.update vehicle.connected vehicle.systemId now).1 } := by
  simp only [configureTelemetry]
  split
  · rfl
  · exact writeFrame_components _ _ _ _ now

theorem requestFailsafeParameter_components (p : PollState) (vehicle : VehicleSnapshot)
    (telemetryReady : Bool) (now : TimePoint) :
    (p.requestFailsafeParameter vehicle telemetryReady now).app.toComponents =
      p.app.toComponents := by
  simp only [requestFailsafeParameter]
  split
  · split
    · rfl
    · split
      · exact p.writeFrame_components _ _ _ now
      · exact p.writeFrame_components _ _ _ now
  · rfl

theorem requestAutopilotVersion_components (p : PollState) (vehicle : VehicleSnapshot)
    (telemetryReady : Bool) (now : TimePoint) :
    (p.requestAutopilotVersion vehicle telemetryReady now).app.toComponents =
      p.app.toComponents := by
  simp only [requestAutopilotVersion]
  split
  · split
    · rfl
    · exact p.writeFrame_components _ _ _ now
  · rfl

theorem requestArmingVoltage_components (p : PollState) (vehicle : VehicleSnapshot)
    (telemetryReady : Bool) (now : TimePoint) :
    (p.requestArmingVoltage vehicle telemetryReady now).app.toComponents =
      p.app.toComponents := by
  simp only [requestArmingVoltage]
  split
  · split
    · rfl
    · exact p.writeFrame_components _ _ _ now
  · rfl

theorem sendAction_components (p : PollState) (request : FlightActionRequest)
    (report : CompanionApplication → Bool → CompanionApplication) (now : TimePoint) :
    ∃ app sent, app.toComponents = p.app.toComponents ∧
      (p.sendAction request report now).app.toComponents = (report app sent).toComponents :=
  ⟨_, _, p.writeFrame_components _ _ _ now, rfl⟩

theorem sendStartupActions_components (p : PollState) (actions : List FlightActionRequest)
    (now : TimePoint) :
    ∃ startup, Reported (fun s request sent => s.onActionSent request sent now)
        p.app.flightStartup actions startup ∧
      (p.sendStartupActions actions now).app.toComponents =
        { p.app.toComponents with flightStartup := startup } := by
  induction actions generalizing p with
  | nil => exact ⟨_, .nil, rfl⟩
  | cons request actions ih =>
    obtain ⟨app, sent, happ, hsend⟩ := p.sendAction_components request (fun app sent =>
      { app with flightStartup := app.flightStartup.onActionSent request sent now }) now
    obtain ⟨startup, hr, hc⟩ := ih (p.sendAction request (fun app sent =>
      { app with flightStartup := app.flightStartup.onActionSent request sent now }) now)
    rw [hsend, happ] at hr hc
    exact ⟨startup, .cons hr, hc⟩

theorem sendAutonomyActions_components (p : PollState) (actions : List FlightActionRequest)
    (now : TimePoint) :
    ∃ runtime, Reported (fun r request sent => r.onActionSent request sent now)
        p.app.autonomyRuntime actions runtime ∧
      (p.sendAutonomyActions actions now).app.toComponents =
        { p.app.toComponents with autonomyRuntime := runtime } := by
  induction actions generalizing p with
  | nil => exact ⟨_, .nil, rfl⟩
  | cons request actions ih =>
    obtain ⟨app, sent, happ, hsend⟩ := p.sendAction_components request (fun app sent =>
      { app with autonomyRuntime := app.autonomyRuntime.onActionSent request sent now }) now
    obtain ⟨runtime, hr, hc⟩ := ih (p.sendAction request (fun app sent =>
      { app with autonomyRuntime := app.autonomyRuntime.onActionSent request sent now }) now)
    rw [hsend, happ] at hr hc
    exact ⟨runtime, .cons hr, hc⟩

end PollState

/-- What a poll does with the components it has after reading, one component after the other. -/
structure PollSteps (c : Components) (input : PollInput) (after : Components)
    (outcome : PollOutcome) : Prop where
  vehicle : outcome.vehicle = (c.vehicleState.snapshot input.now).2
  vehicleState : after.vehicleState = (c.vehicleState.snapshot input.now).1
  failsafe : outcome.failsafe = after.companionLinkFailsafe.snapshot
  companionLinkFailsafe : after.companionLinkFailsafe =
    c.companionLinkFailsafe.observeVehicle outcome.vehicle.connected outcome.vehicle.systemId
  telemetry : after.telemetryConfigurator = (c.telemetryConfigurator.update
    outcome.vehicle.connected outcome.vehicle.systemId input.now).1
  startup : ∃ startup, c.flightStartup.update outcome.vehicle
      (after.telemetryConfigurator.snapshot.phase == .active) outcome.failsafe input.now =
        (startup, outcome.startupActions) ∧
    Reported (fun s request sent => s.onActionSent request sent input.now) startup
      outcome.startupActions after.flightStartup
  autonomy : (outcome.autonomyActions = [] ∧ after.autonomyRuntime = c.autonomyRuntime) ∨
    ∃ target runtime, c.currentLandingTarget input.now = .ok target ∧
      c.autonomyRuntime.update outcome.vehicle after.flightStartup.snapshot outcome.failsafe
        input.now target = (runtime, outcome.autonomyActions) ∧
      Reported (fun r request sent => r.onActionSent request sent input.now) runtime
        outcome.autonomyActions after.autonomyRuntime
  cameraMonitor : after.cameraMonitor = c.cameraMonitor
  cameraExtrinsics : after.cameraExtrinsics = c.cameraExtrinsics
  motionCommandsAllowed : after.motionCommandsAllowed = c.motionCommandsAllowed
  autonomyScenarioConfigured : after.autonomyScenarioConfigured = c.autonomyScenarioConfigured

/-- The components the constructor builds from options it accepts. -/
structure Built (options : CompanionApplicationOptions) (c : Components) : Prop where
  flightStartup : FlightStartupController.new options.flightStartup = .ok c.flightStartup
  autonomyRuntime : AutonomyRuntime.new options.autonomyRuntime = .ok c.autonomyRuntime
  together : c.flightStartup.phase = .disabled ↔ c.autonomyRuntime.phase = .disabled
  gated : options.motionCommandsAllowed = false → c.flightStartup.phase = .disabled
  motionCommandsAllowed : c.motionCommandsAllowed = options.motionCommandsAllowed
  autonomyScenarioConfigured : c.autonomyScenarioConfigured =
    (options.flightStartup.enabled && options.autonomyRuntime.enabled)
  vehicleState : c.vehicleState = {}
  companionLinkFailsafe : c.companionLinkFailsafe = {}
  telemetryConfigurator : c.telemetryConfigurator = {}
  cameraMonitor : ∀ m ∈ c.cameraMonitor, m = {} ∨ m = { visionMonitor := some {} }
  cameraExtrinsics : c.cameraExtrinsics = options.cameraExtrinsics

/-- What a request to start does to the components, and its answer. -/
inductive StartSteps (c : Components) (now : TimePoint) : Components → Bool → Prop where
  | refused (vehicleState : VehicleState) :
      (vehicleState = c.vehicleState ∨ vehicleState = (c.vehicleState.snapshot now).1) →
      StartSteps c now { c with vehicleState := vehicleState } false
  | restarted :
      c.motionCommandsAllowed = true → c.autonomyScenarioConfigured = true →
      (c.vehicleState.snapshot now).2.connected = true →
      (c.vehicleState.snapshot now).2.systemId.isSome = true →
      (c.vehicleState.snapshot now).2.armed = false → c.finished = true →
      StartSteps c now { c with
        vehicleState := (c.vehicleState.snapshot now).1
        flightStartup := c.flightStartup.restart
        autonomyRuntime := c.autonomyRuntime.restart } true

namespace CompanionApplication

theorem serveLink_components (p : PollState) (vehicle : VehicleSnapshot) (now : TimePoint) :
    (serveLink p vehicle now).1.app.toComponents = { p.app.toComponents with
      telemetryConfigurator :=
        (p.app.telemetryConfigurator.update vehicle.connected vehicle.systemId now).1 } ∧
    (serveLink p vehicle now).2 =
      ((serveLink p vehicle now).1.app.telemetryConfigurator.snapshot.phase == .active) := by
  have hc : ((p.scheduleHeartbeat vehicle now).configureTelemetry vehicle now).app.toComponents =
      { p.app.toComponents with telemetryConfigurator :=
        (p.app.telemetryConfigurator.update vehicle.connected vehicle.systemId now).1 } := by
    rw [PollState.configureTelemetry_components, PollState.scheduleHeartbeat_components]
  have hs : (serveLink p vehicle now).1.app.toComponents =
      ((p.scheduleHeartbeat vehicle now).configureTelemetry vehicle now).app.toComponents := by
    simp only [serveLink]
    rw [PollState.requestArmingVoltage_components, PollState.requestAutopilotVersion_components,
      PollState.requestFailsafeParameter_components]
  refine ⟨hs.trans hc, ?_⟩
  rw [hs]
  rfl

theorem observed_components (app : CompanionApplication) (now : TimePoint) :
    (app.observed now).1.toComponents = { app.toComponents with
      vehicleState := (app.vehicleState.snapshot now).1
      companionLinkFailsafe := app.companionLinkFailsafe.observeVehicle
        (app.observed now).2.connected (app.observed now).2.systemId } :=
  observe_components _ _ _

theorem updateStartup_components (p : PollState) (vehicle : VehicleSnapshot)
    (telemetryReady : Bool) (now : TimePoint) :
    ∃ startup told, p.app.flightStartup.update vehicle telemetryReady
        p.app.companionLinkFailsafe.snapshot now =
          (startup, (updateStartup p vehicle telemetryReady now).2) ∧
      Reported (fun s request sent => s.onActionSent request sent now) startup
        (updateStartup p vehicle telemetryReady now).2 told ∧
      (updateStartup p vehicle telemetryReady now).1.app.toComponents =
        { p.app.toComponents with flightStartup := told } := by
  obtain ⟨told, hr, hc⟩ := PollState.sendStartupActions_components
    { p with app.flightStartup := (p.app.flightStartup.update vehicle telemetryReady
      p.app.companionLinkFailsafe.snapshot now).1 }
    (updateStartup p vehicle telemetryReady now).2 now
  exact ⟨_, told, rfl, hr, hc⟩

theorem updateAutonomy_components {p q : PollState}
    (h : updateAutonomy p vehicle now = .ok (q, actions)) :
    ∃ target runtime told, p.app.currentLandingTarget now = .ok target ∧
      p.app.autonomyRuntime.update vehicle p.app.flightStartup.snapshot
        p.app.companionLinkFailsafe.snapshot now target = (runtime, actions) ∧
      Reported (fun r request sent => r.onActionSent request sent now) runtime actions told ∧
      q.app.toComponents = { p.app.toComponents with autonomyRuntime := told } := by
  rw [updateAutonomy] at h
  split at h
  · cases h
  · rename_i target htarget
    cases h
    obtain ⟨told, hr, hc⟩ := PollState.sendAutonomyActions_components
      { p with app.autonomyRuntime := (p.app.autonomyRuntime.update vehicle
        p.app.flightStartup.snapshot p.app.companionLinkFailsafe.snapshot now target).1 }
      (p.app.autonomyRuntime.update vehicle p.app.flightStartup.snapshot
        p.app.companionLinkFailsafe.snapshot now target).2 now
    exact ⟨target, _, told, htarget, rfl, hr, hc⟩

theorem poll_steps (app : CompanionApplication) (input : PollInput) :
    PollSteps (app.toComponents.beginPoll input) input (app.poll input).1.toComponents
      (app.poll input).2 := by
  rw [← app.beginPoll_components input, poll]
  generalize app.beginPoll input = read
  rcases ho : read.observed input.now with ⟨seen, vehicle⟩
  have hseen := read.observed_components input.now
  have hvehicle : (read.observed input.now).2 = (read.vehicleState.snapshot input.now).2 := rfl
  rw [ho] at hseen hvehicle
  rcases hs : serveLink { app := seen, writes := input.writes } vehicle input.now with
    ⟨served, ready⟩
  have hserved := serveLink_components { app := seen, writes := input.writes } vehicle input.now
  rw [hs] at hserved
  rcases hu : updateStartup served vehicle ready input.now with ⟨started, startupActions⟩
  have hstartup := updateStartup_components served vehicle ready input.now
  rw [hu] at hstartup
  obtain ⟨startup, told, hupdate, hreported, hstarted⟩ := hstartup
  dsimp only at *
  have hfinal : started.app.toComponents = { read.toComponents with
      vehicleState := (read.vehicleState.snapshot input.now).1
      companionLinkFailsafe :=
        read.companionLinkFailsafe.observeVehicle vehicle.connected vehicle.systemId
      telemetryConfigurator :=
        (read.telemetryConfigurator.update vehicle.connected vehicle.systemId input.now).1
      flightStartup := told } := by
    rw [hstarted, hserved.1, hseen]
  have hserve : served.app.toComponents = { read.toComponents with
      vehicleState := (read.vehicleState.snapshot input.now).1
      companionLinkFailsafe :=
        read.companionLinkFailsafe.observeVehicle vehicle.connected vehicle.systemId
      telemetryConfigurator :=
        (read.telemetryConfigurator.update vehicle.connected vehicle.systemId input.now).1 } := by
    rw [hserved.1, hseen]
  rw [hserved.2, hserve] at hupdate
  simp only [hs, hu]
  cases ha : updateAutonomy started vehicle input.now with
  | error message =>
    dsimp only
    rw [hfinal]
    exact {
      vehicle := hvehicle
      vehicleState := rfl
      failsafe := rfl
      companionLinkFailsafe := rfl
      telemetry := rfl
      startup := ⟨startup, hupdate, hreported⟩
      autonomy := .inl ⟨rfl, rfl⟩
      cameraMonitor := rfl
      cameraExtrinsics := rfl
      motionCommandsAllowed := rfl
      autonomyScenarioConfigured := rfl }
  | ok result =>
    obtain ⟨flown, autonomyActions⟩ := result
    obtain ⟨target, runtime, heard, htarget, hupdate', hreported', hflown⟩ :=
      updateAutonomy_components ha
    rw [hfinal] at htarget hupdate'
    dsimp only
    rw [hflown, hfinal]
    exact {
      vehicle := hvehicle
      vehicleState := rfl
      failsafe := rfl
      companionLinkFailsafe := rfl
      telemetry := rfl
      startup := ⟨startup, hupdate, hreported⟩
      autonomy := .inr ⟨target, runtime, htarget, hupdate', hreported'⟩
      cameraMonitor := rfl
      cameraExtrinsics := rfl
      motionCommandsAllowed := rfl
      autonomyScenarioConfigured := rfl }

theorem requestAutonomyStart_steps (app : CompanionApplication) (now : TimePoint) :
    StartSteps app.toComponents now (app.requestAutonomyStart now).1.toComponents
      (app.requestAutonomyStart now).2 := by
  simp only [requestAutonomyStart]
  split
  · exact .refused _ (.inl rfl)
  rename_i hallowed
  split
  · exact .refused _ (.inl rfl)
  rename_i hconfigured
  split
  · exact .refused _ (.inr rfl)
  rename_i hconnected
  split
  · exact .refused _ (.inr rfl)
  rename_i harmed
  split
  · exact .refused _ (.inr rfl)
  rename_i hfinished
  simp only [Bool.not_eq_true', Bool.not_eq_false, Bool.or_eq_true, Option.isNone_iff_eq_none,
    not_or] at hallowed hconfigured hconnected harmed hfinished
  exact .restarted hallowed hconfigured hconnected.1 (Option.isSome_iff_ne_none.2 hconnected.2)
    (Bool.eq_false_iff.2 harmed) hfinished

theorem new_built {options : CompanionApplicationOptions} {app : CompanionApplication}
    (h : new options = .ok app) : Built options app.toComponents := by
  rw [new] at h
  split at h
  · cases h
  · cases h
  rename_i startup runtime hstartup hruntime
  simp only [ne_eq] at h
  split at h
  · cases h
  rename_i htogether
  split at h
  · cases h
  rename_i hgated
  split at h
  · cases h
  split at h
  · cases h
  split at h
  · cases h
  cases h
  simp only [FlightStartupController.snapshot, AutonomyRuntime.snapshot, not_not, Bool.and_eq_true,
    Bool.not_eq_true', bne_iff_ne, not_and] at htogether hgated
  exact {
    flightStartup := hstartup
    autonomyRuntime := hruntime
    together := by
      rw [← not_iff_not, ← ne_eq, ← ne_eq, ← bne_iff_ne, ← bne_iff_ne, htogether]
    gated := hgated
    motionCommandsAllowed := rfl
    autonomyScenarioConfigured := rfl
    vehicleState := rfl
    companionLinkFailsafe := rfl
    telemetryConfigurator := rfl
    cameraMonitor := by
      intro m hm
      cases hs : options.cameraSource <;> cases hd : options.targetDetector <;>
        simp [hs, hd] at hm <;> simp [hm]
    cameraExtrinsics := rfl }

end CompanionApplication

/-- What is asked of an application from outside. -/
inductive AppCall where
  | poll (input : PollInput)
  | requestAutonomyStart (now : TimePoint)
  | snapshot (source : CameraSourceStatus) (detector : String) (now : TimePoint)

def AppCall.times : AppCall → List TimePoint
  | .poll input => [input.cameraNow, input.now]
  | .requestAutonomyStart now => [now]
  | .snapshot _ _ now => [now]

/-- What comes out of a call. The last one is the exception of a device, after some frames were
written: no call of a run ends so, since it ends the program. -/
inductive AppReturn where
  | poll (outcome : PollOutcome)
  | requestAutonomyStart (started : Bool)
  | snapshot (snapshot : AppSnapshot)
  | threw (written : List (OutboundFrame × Bool)) (message : String)

abbrev AppEntry := Entry CompanionApplication AppCall AppReturn

namespace CompanionApplication

def step (app : CompanionApplication) : AppCall → CompanionApplication × AppReturn
  | .poll input =>
    let (app, outcome) := app.poll input
    (app, .poll outcome)
  | .requestAutonomyStart now =>
    let (app, started) := app.requestAutonomyStart now
    (app, .requestAutonomyStart started)
  | .snapshot source detector now =>
    let (app, snapshot) := app.snapshot source detector now
    (app, .snapshot snapshot)

/-- The runs of the application from options its constructor accepts. -/
def Ran (options : CompanionApplicationOptions) (h : List AppEntry)
    (app : CompanionApplication) : Prop :=
  ∃ initial, new options = .ok initial ∧
    Run step (fun h _ call => Timed AppCall.times h call) initial h app

end CompanionApplication

/-- A property of the components that the constructor establishes and everything the application
does keeps. -/
structure Kept (options : CompanionApplicationOptions) (inv : Components → Prop) : Prop where
  built : ∀ c, Built options c → inv c
  camera : ∀ c frame now, inv c →
    inv { c with cameraMonitor := c.cameraMonitor.map (CameraMonitor.poll · frame now) }
  received : ∀ c m now after, inv c → c.Received m now after → inv after
  polled : ∀ c input after outcome, inv c → PollSteps c input after outcome → inv after
  started : ∀ c now after started, inv c → StartSteps c now after started → inv after
  observed : ∀ c now, inv c → inv { c with vehicleState := (c.vehicleState.snapshot now).1 }

namespace Kept
variable {options : CompanionApplicationOptions} {inv : Components → Prop}

theorem beginPoll (hk : Kept options inv) (hc : inv c) (input : PollInput) :
    inv (c.beginPoll input) := by
  apply Components.ingest_induction
  · intro c m hc
    exact hk.received c m input.now _ hc (c.receive_received m input.now)
  · exact hk.camera c input.camera input.cameraNow hc

theorem step (hk : Kept options inv) (app : CompanionApplication) (call : AppCall)
    (happ : inv app.toComponents) : inv (app.step call).1.toComponents := by
  cases call with
  | poll input =>
    exact hk.polled _ input _ _ (hk.beginPoll happ input) (app.poll_steps input)
  | requestAutonomyStart now =>
    exact hk.started _ now _ _ happ (app.requestAutonomyStart_steps now)
  | snapshot source detector now => exact hk.observed _ now happ

theorem reached (hk : Kept options inv) (hr : CompanionApplication.Ran options h app) :
    inv app.toComponents := by
  obtain ⟨initial, hnew, hr⟩ := hr
  exact hr.invariant (fun app => inv app.toComponents)
    (hk.built _ (CompanionApplication.new_built hnew)) hk.step

theorem poll (hk : Kept options inv) (hr : CompanionApplication.Ran options h app)
    (he : ⟨before, .poll input, .poll outcome⟩ ∈ h) :
    ∃ after, inv before.toComponents ∧ inv (before.toComponents.beginPoll input) ∧
      PollSteps (before.toComponents.beginPoll input) input after outcome := by
  obtain ⟨initial, hnew, hr⟩ := hr
  obtain ⟨_, _, hbefore, _, hout⟩ := hr.reached he
  have ho : outcome = (before.poll input).2 := AppReturn.poll.inj hout
  have hi := hk.reached ⟨initial, hnew, hbefore⟩
  rw [ho]
  exact ⟨_, hi, hk.beginPoll hi input, before.poll_steps input⟩

end Kept
namespace CompanionApplication

/-- The run of some calls in the order of their times, when a check of its end succeeds. -/
theorem ran_of_check (options : CompanionApplicationOptions) (calls : List AppCall)
    (htimes : (calls.flatMap AppCall.times).Pairwise (· ≤ ·))
    (check : List AppEntry → CompanionApplication → Bool)
    (hc : ((new options).toOption.any fun initial =>
      check (play step [] initial calls).1 (play step [] initial calls).2) = true) :
    ∃ h app, Ran options h app ∧ check h app = true := by
  obtain ⟨initial, hi, hcheck⟩ := (Option.any_eq_true _ _).1 hc
  have hnew : new options = .ok initial := by
    cases hn : new options with
    | error message => rw [hn] at hi; cases hi
    | ok app => rw [hn] at hi; cases hi; rfl
  refine ⟨_, _, ⟨initial, hnew, Run.start.play_timed ?_ htimes⟩, hcheck⟩
  intro e he
  cases he

/-- The outcome of the newest call, when it was a poll. -/
def newestOutcome : List AppEntry → Option PollOutcome
  | ⟨_, .poll _, .poll outcome⟩ :: _ => some outcome
  | _ => none

theorem newestOutcome_cons (hn : newestOutcome h = some outcome) :
    ∃ before input older, h = ⟨before, .poll input, .poll outcome⟩ :: older := by
  unfold newestOutcome at hn
  split at hn
  · cases hn
    exact ⟨_, _, _, rfl⟩
  · cases hn

theorem newestOutcome_mem (hn : newestOutcome h = some outcome) :
    ∃ before input, ⟨before, .poll input, .poll outcome⟩ ∈ h := by
  obtain ⟨before, input, older, rfl⟩ := newestOutcome_cons hn
  exact ⟨before, input, List.mem_cons_self⟩

end CompanionApplication

section Flights

/-- A camera at the origin of the body that looks down its forward axis. -/
def alignedCamera : CameraExtrinsics where
  rotationCameraToBody i := if i.val % 4 = 0 then .finite 1 else .finite 0
  cameraOriginInBody := {}

def flightOptions : CompanionApplicationOptions where
  flightStartup := { enabled := true }
  autonomyRuntime := { enabled := true }
  motionCommandsAllowed := true
  cameraSource := true
  targetDetector := true
  cameraExtrinsics := some alignedCamera

def heartbeatFrom (system type baseMode : UInt8) (customMode : UInt32) : MavlinkMessage :=
  ⟨system, 1, .heartbeat type 3 baseMode customMode 3⟩

def acknowledgedBy (system : UInt8) (command : UInt16) (targetSystem : UInt8) : MavlinkMessage :=
  ⟨system, 1, .commandAck command MAV_RESULT_ACCEPTED 0 0 targetSystem kCompanionComponentId⟩

def parameterFrom (system : UInt8) (name : String) (value : ℚ) : MavlinkMessage :=
  ⟨system, 1, .paramValue name (.finite value) 9⟩

/-- Everything a quadrotor has to report before it counts as ready. -/
def readyReports (system : UInt8) : List MavlinkMessage :=
  [heartbeatFrom system 2 0 0,
   parameterFrom system "FS_GCS_ENABLE" 5,
   parameterFrom system "FS_GCS_TIMEOUT" 5,
   parameterFrom system "FS_OPTIONS" 0,
   parameterFrom system "SYSID_MYGCS" system.toNat,
   parameterFrom system "BATT_ARM_VOLT" 0,
   ⟨system, 1, .gpsRawInt 3 10⟩,
   ⟨system, 1, .sysStatus kBatterySensorFlag kBatterySensorFlag 15000 10 80⟩,
   ⟨system, 1, .globalPositionInt 100⟩]

/-- A poll at a whole second in which every frame is written. -/
def pollAt (second : Int) (inbound : List MavlinkMessage) : AppCall :=
  .poll {
    cameraNow := seconds second
    now := seconds second
    inbound := inbound
    writes := List.replicate 6 true }

/-- A vehicle is found, its telemetry is set up in six steps, and it reports that it is ready. -/
def readyFlight (system : UInt8) (start : Int) : List AppCall :=
  pollAt start [heartbeatFrom system 2 0 0] ::
    ((List.range 6).map fun n => pollAt (start + 1 + n)
      [heartbeatFrom system 2 0 0, acknowledgedBy system MAV_CMD_SET_MESSAGE_INTERVAL 0]) ++
    [pollAt (start + 7) (readyReports system)]

end Flights

end OnboardAutonomy
