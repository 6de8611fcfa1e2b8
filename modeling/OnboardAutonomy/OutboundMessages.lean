import OnboardAutonomy.FlightCommands
import OnboardAutonomy.MavlinkEncoder
import OnboardAutonomy.ParameterPolling

namespace OnboardAutonomy
open ExactDouble Histories
set_option autoImplicit true

/-- The parameters that are asked for. -/
def askedParameters : List String := CompanionLinkFailsafe.parameterNames ++ ["BATT_ARM_VOLT"]

/-- Besides flight actions, a frame serves the link: it names a stream or a parameter the companion
asks for. -/
def OutboundFrame.Serves : OutboundFrame → Prop
  | .companionHeartbeat _ | .autopilotVersionRequest _ | .flightAction _ => True
  | .setMessageInterval request => request.componentId = kCompanionComponentId ∧
      ∃ stream ∈ kStreamRequests, request.messageId = stream.messageId ∧
        request.intervalMicroseconds = stream.intervalMicroseconds
  | .parameterRequestRead _ name => name ∈ askedParameters

def AllServe (written : List (OutboundFrame × Bool)) : Prop := ∀ x ∈ written, x.1.Serves

theorem TelemetryStreamConfigurator.update_serves (c : TelemetryStreamConfigurator)
    (connected : Bool) (vehicleSystemId : Option UInt8) (now : TimePoint)
    {request : MessageIntervalRequest}
    (hr : request ∈ (c.update connected vehicleSystemId now).2) :
    (OutboundFrame.setMessageInterval request).Serves := by
  unfold TelemetryStreamConfigurator.update at hr
  split at hr
  · rename_i id
    dsimp only at hr
    generalize (if c.vehicleSystemId = some id then c else begin id) = c at hr
    split at hr
    · cases hr
    split at hr
    · cases hr
    split at hr
    · cases hr
    · rw [TelemetryStreamConfigurator.request] at hr
      split at hr
      · cases hr
      · rename_i stream hstream
        cases hr
        exact ⟨rfl, stream, List.mem_of_getElem? hstream, rfl, rfl⟩
  · cases hr

namespace PollState
variable {p : PollState}

theorem writeFrame_serves (hp : AllServe p.written) (frame : OutboundFrame) (hf : frame.Serves)
    (name detail : String) (now : TimePoint) :
    AllServe (p.writeFrame frame name detail now).1.written := by
  intro x hx
  rcases List.mem_append.1 hx with hx | hx
  · exact hp x hx
  · rw [List.mem_singleton.1 hx]
    exact hf

theorem scheduleHeartbeat_serves (hp : AllServe p.written) (vehicle : VehicleSnapshot)
    (now : TimePoint) : AllServe (p.scheduleHeartbeat vehicle now).written := by
  simp only [scheduleHeartbeat]
  split
  · exact hp
  · split
    · split
      · exact writeFrame_serves hp (.companionHeartbeat _) trivial "" "" now
      · exact writeFrame_serves hp (.companionHeartbeat _) trivial "" "" now
    · exact hp

theorem configureTelemetry_serves (hp : AllServe p.written) (vehicle : VehicleSnapshot)
    (now : TimePoint) : AllServe (p.configureTelemetry vehicle now).written := by
  simp only [configureTelemetry]
  split
  · exact hp
  · rename_i request hrequest
    exact writeFrame_serves (p := { p with app.telemetryConfigurator :=
      (p.app.telemetryConfigurator.update vehicle.connected vehicle.systemId now).1 }) hp
      (.setMessageInterval request)
      (p.app.telemetryConfigurator.update_serves _ _ now hrequest) "" "" now

theorem requestFailsafeParameter_serves (hp : AllServe p.written)
    (hindex : p.app.failsafeParameterIndex < 4) (vehicle : VehicleSnapshot)
    (telemetryReady : Bool) (now : TimePoint) :
    AllServe (p.requestFailsafeParameter vehicle telemetryReady now).written := by
  obtain ⟨name, hname, hmem, _⟩ := parameter_at hindex
  have hserves (id : UInt8) : (OutboundFrame.parameterRequestRead id
      (CompanionLinkFailsafe.parameterNames[p.app.failsafeParameterIndex]?.getD "")).Serves := by
    rw [hname]
    exact List.mem_append_left _ hmem
  simp only [requestFailsafeParameter]
  split
  · split
    · exact hp
    · split
      · exact writeFrame_serves hp _ (hserves _) "" "" now
      · exact writeFrame_serves hp _ (hserves _) "" "" now
  · exact hp

theorem requestAutopilotVersion_serves (hp : AllServe p.written) (vehicle : VehicleSnapshot)
    (telemetryReady : Bool) (now : TimePoint) :
    AllServe (p.requestAutopilotVersion vehicle telemetryReady now).written := by
  simp only [requestAutopilotVersion]
  split
  · split
    · exact hp
    · exact writeFrame_serves hp (.autopilotVersionRequest _) trivial "" "" now
  · exact hp

theorem requestArmingVoltage_serves (hp : AllServe p.written) (vehicle : VehicleSnapshot)
    (telemetryReady : Bool) (now : TimePoint) :
    AllServe (p.requestArmingVoltage vehicle telemetryReady now).written := by
  simp only [requestArmingVoltage]
  split
  · split
    · exact hp
    · exact writeFrame_serves hp (.parameterRequestRead _ _)
        (List.mem_append_right _ List.mem_cons_self) "" "" now
  · exact hp

theorem sendActions_serves (hp : AllServe p.written) (actions : List FlightActionRequest)
    (report : FlightActionRequest → CompanionApplication → Bool → CompanionApplication)
    (now : TimePoint) : AllServe
      (actions.foldl (fun p request => p.sendAction request (report request) now) p).written := by
  induction actions generalizing p with
  | nil => exact hp
  | cons request actions ih =>
    exact ih (p := p.sendAction request (report request) now)
      (writeFrame_serves hp (.flightAction request) trivial "" "" now)

end PollState

namespace CompanionApplication

theorem serveLink_serves {p : PollState} (hp : AllServe p.written)
    (hindex : p.app.failsafeParameterIndex < 4) (vehicle : VehicleSnapshot) (now : TimePoint) :
    AllServe (serveLink p vehicle now).1.written := by
  have hset := (p.scheduleHeartbeat_readless vehicle now).trans
    ((p.scheduleHeartbeat vehicle now).configureTelemetry_readless vehicle now)
  simp only [serveLink]
  apply PollState.requestArmingVoltage_serves
  apply PollState.requestAutopilotVersion_serves
  apply PollState.requestFailsafeParameter_serves _ (hset.index ▸ hindex)
  exact PollState.configureTelemetry_serves (PollState.scheduleHeartbeat_serves hp vehicle now)
    vehicle now

theorem updateStartup_serves {p : PollState} (hp : AllServe p.written) (vehicle : VehicleSnapshot)
    (telemetryReady : Bool) (now : TimePoint) :
    AllServe (updateStartup p vehicle telemetryReady now).1.written :=
  PollState.sendActions_serves (p := { p with app.flightStartup :=
    (p.app.flightStartup.update vehicle telemetryReady p.app.companionLinkFailsafe.snapshot
      now).1 }) hp _ (fun request app sent =>
    { app with flightStartup := app.flightStartup.onActionSent request sent now }) now

theorem updateAutonomy_serves {p q : PollState} (hp : AllServe p.written)
    (h : updateAutonomy p vehicle now = .ok (q, actions)) : AllServe q.written := by
  rw [updateAutonomy] at h
  split at h
  · cases h
  · rename_i target _
    cases h
    exact PollState.sendActions_serves (p := { p with app.autonomyRuntime :=
      (p.app.autonomyRuntime.update vehicle p.app.flightStartup.snapshot
        p.app.companionLinkFailsafe.snapshot now target).1 }) hp _ (fun request app sent =>
      { app with autonomyRuntime := app.autonomyRuntime.onActionSent request sent now }) now

theorem poll_serves (app : CompanionApplication) (input : PollInput)
    (hindex : app.failsafeParameterIndex < 4) : AllServe (app.poll input).2.written := by
  obtain ⟨served, ready, started, ended, hserved, hstarted, hended, _, hwritten, _⟩ :=
    app.poll_parts input
  have hsmall : ((app.beginPoll input).observed input.now).1.failsafeParameterIndex < 4 := by
    rw [(app.observed_schedule input).2.1]
    split
    · decide
    · exact hindex
  have hlink := serveLink_serves
    (p := { app := ((app.beginPoll input).observed input.now).1, writes := input.writes })
    (fun x hx => by cases hx) hsmall ((app.beginPoll input).observed input.now).2 input.now
  rw [hserved] at hlink
  have hstart : AllServe started.written := by
    rw [hstarted]
    exact updateStartup_serves hlink _ _ _
  rw [hwritten]
  rcases hended with rfl | ⟨actions, hautonomy⟩
  · exact hstart
  · exact updateAutonomy_serves hstart hautonomy

end CompanionApplication

/-- Every takeoff goes to the altitude. -/
def Climbs (altitudeM : Double) (actions : List FlightActionRequest) : Prop :=
  ∀ a ∈ actions, a.action = .takeoff → a.altitudeM = altitudeM

namespace FlightStartupController
variable {vehicle : VehicleSnapshot} {telemetryReady : Bool}
  {failsafe : CompanionLinkFailsafeSnapshot} {now : TimePoint} {c' : FlightStartupController}

theorem climbs_nil (altitudeM : Double) : Climbs altitudeM [] := fun a ha => by cases ha

theorem command_climbs (c : FlightStartupController) {action : FlightAction}
    (haction : action ≠ .takeoff) (altitudeM : Double) :
    (c.command action now).Leads (fun d => d.config = c.config)
      fun _ actions => Climbs altitudeM actions := by
  rw [command]
  rcases c.updateCommand_cases action now with hu | ⟨detail, hu⟩ | ⟨_, _, _, hu⟩
  · rw [hu]
    exact climbs_nil altitudeM
  · rw [hu]
    exact climbs_nil altitudeM
  · rw [hu]
    intro a ha htakeoff
    rw [List.mem_singleton.1 ha] at htakeoff
    exact absurd htakeoff haction

theorem updateCommand_config (c : FlightStartupController) (action : FlightAction)
    (now : TimePoint) : (c.updateCommand action now).1.config = c.config := by
  rcases c.updateCommand_cases action now with hu | ⟨detail, hu⟩ | ⟨_, _, _, hu⟩
  · rw [hu]
  · rw [hu]
    rfl
  · rw [hu]
    rfl

theorem takeoff_climbs (c : FlightStartupController) :
    Climbs c.config.takeoffAltitudeM ((c.updateCommand .takeoff now).2.toList.map fun request =>
      { request with
        altitudeM := (c.updateCommand .takeoff now).1.config.takeoffAltitudeM }) := by
  intro a ha _
  obtain ⟨_, _, rfl⟩ := List.mem_map.1 ha
  exact congrArg FlightStartupConfig.takeoffAltitudeM (c.updateCommand_config .takeoff now)

theorem updatePhase_climbs (c : FlightStartupController) (vehicle : VehicleSnapshot)
    (telemetryReady : Bool) (failsafe : CompanionLinkFailsafeSnapshot) (now : TimePoint) :
    (c.updatePhase vehicle telemetryReady failsafe now).Leads (fun d => d.config = c.config)
      fun _ actions => Climbs c.config.takeoffAltitudeM actions := by
  rw [updatePhase]
  split
  · split
    · exact climbs_nil _
    split
    · exact climbs_nil _
    · rfl
  · split
    · exact climbs_nil _
    split
    · rfl
    · exact climbs_nil _
  · split
    · rfl
    split
    · exact climbs_nil _
    · exact c.command_climbs (by decide) _
  · split
    · rfl
    split
    · exact climbs_nil _
    · exact c.command_climbs (by decide) _
  · split
    · exact climbs_nil _
    split
    · exact climbs_nil _
    split
    · exact climbs_nil _
    · dsimp only
      split
      · exact takeoff_climbs { c with detail := _ }
      · exact c.takeoff_climbs
  · exact climbs_nil _
  · exact climbs_nil _
  · exact climbs_nil _

theorem transitions_climbs (rounds : Nat) (c : FlightStartupController)
    (vehicle : VehicleSnapshot) (telemetryReady : Bool)
    (failsafe : CompanionLinkFailsafeSnapshot) (now : TimePoint) :
    Climbs c.config.takeoffAltitudeM
      (c.transitions vehicle telemetryReady failsafe now rounds).2 := by
  induction rounds generalizing c with
  | zero => exact climbs_nil _
  | succ rounds ih =>
    have hphase := c.updatePhase_climbs vehicle telemetryReady failsafe now
    rw [transitions]
    cases hf : c.updatePhase vehicle telemetryReady failsafe now with
    | next d =>
      rw [hf] at hphase
      have hd : d.config = c.config := hphase
      rw [← hd]
      exact ih d
    | done d actions =>
      rw [hf] at hphase
      exact hphase

theorem update_climbs (c : FlightStartupController)
    (hu : c.update vehicle telemetryReady failsafe now = (c', actions)) :
    Climbs c.config.takeoffAltitudeM actions := by
  rw [update] at hu
  split at hu
  · cases hu
    exact climbs_nil _
  split at hu
  · cases hu
    exact climbs_nil _
  split at hu
  · cases hu
    exact climbs_nil _
  · have hclimbs := c.transitions_climbs 8 vehicle telemetryReady failsafe now
    rw [hu] at hclimbs
    exact hclimbs

end FlightStartupController

namespace CompanionApplication
variable {options : CompanionApplicationOptions}

theorem index_small {app : CompanionApplication} (hr : Ran options h app) :
    app.failsafeParameterIndex < 4 := by
  obtain ⟨initial, hnew, hr⟩ := hr
  apply hr.invariant fun app => app.failsafeParameterIndex < 4
  · rw [congrArg Schedule.failsafeParameterIndex (new_idle hnew).2]
    decide
  · intro app call hindex
    cases call with
    | poll input =>
      show (app.poll input).1.failsafeParameterIndex < 4
      cases (app.poll_asks input hindex).2 with
      | waits _ _ hsame _ =>
        rw [hsame]
        split
        · decide
        · exact hindex
      | asks _ _ _ _ _ hnext _ =>
        rw [hnext]
        exact Nat.mod_lt _ (by decide)
    | requestAutonomyStart now =>
      have hsame := congrArg Schedule.failsafeParameterIndex
        (app.requestAutonomyStart_schedule now)
      exact hsame ▸ hindex
    | snapshot source detector now => exact hindex

/-- The constructor refuses a scenario without permission to move. -/
theorem permitted {app : CompanionApplication} (hr : Ran options h app)
    (henabled : options.flightStartup.enabled = true) :
    options.motionCommandsAllowed = true := by
  obtain ⟨initial, hnew, _⟩ := hr
  have hb := new_built hnew
  by_contra hoff
  have hdisabled := hb.gated (Bool.eq_false_iff.2 hoff)
  have hwaits : (FlightStartupController.restart { config := options.flightStartup }).phase =
      .waitingForVehicle := if_pos henabled
  rw [FlightStartupController.new_eq hb.flightStartup, if_pos henabled, hwaits] at hdisabled
  cases hdisabled

/-- What a requested flight action may be. -/
inductive Flies (options : CompanionApplicationOptions) (a : FlightActionRequest) : Prop where
  | guided : a.action = .setGuidedMode → Flies options a
  | arm : a.action = .arm → Flies options a
  | takeoff : a.action = .takeoff → a.altitudeM = options.flightStartup.takeoffAltitudeM →
      Flies options a
  | land : a.action = .land → Flies options a
  | landingTarget : a.action = .landingTarget → Flies options a

theorem requests_fly {app : CompanionApplication} (hr : Ran options h app)
    (he : ⟨before, .poll input, .poll outcome⟩ ∈ h)
    (ha : a ∈ outcome.startupActions ++ outcome.autonomyActions) : Flies options a := by
  obtain ⟨after, _, hg, hp⟩ := Gated.kept.poll hr he
  obtain ⟨startup, hstartup, _⟩ := hp.startup
  rcases List.mem_append.1 ha with ha | ha
  · obtain ⟨_, _, hk, _⟩ := FlightStartupController.update_requests hstartup a ha
    rcases hk with hk | hk | hk
    · exact .guided hk
    · exact .arm hk
    · refine .takeoff hk ?_
      rw [← hg.lockstep.startupConfig]
      exact FlightStartupController.update_climbs _ hstartup a ha hk
  · rcases hp.autonomy with ⟨hnone, _⟩ | ⟨target, runtime, _, hu, _⟩
    · rw [hnone] at ha
      cases ha
    · obtain ⟨_, _, hk, _⟩ :=
        AutonomyRuntime.update_requests (hg.lockstep.steady_update hp) hu a ha
      rcases hk with hk | hk
      · exact .land hk
      · exact .landingTarget hk

end CompanionApplication

/-- The messages that may be sent. The last five need a scenario that is permitted and on. -/
inductive Sendable (options : CompanionApplicationOptions) (toFloat : Double → Double) :
    OutboundMessage → Prop where
  | heartbeat (id : UInt8) : Sendable options toFloat
      ⟨id, 191, .heartbeat 18 8 0 0 4⟩
  | interval (stream : StreamRequest) (id confirmation : UInt8) : stream ∈ kStreamRequests →
      Sendable options toFloat ⟨id, 191, .commandLong id 0 511 confirmation
        (toFloat (.finite stream.messageId.toNat) ::
          toFloat (.finite stream.intervalMicroseconds.toNat) :: zeros 5)⟩
  | version (id : UInt8) : Sendable options toFloat
      ⟨id, 191, .commandLong id 0 512 0 (toFloat (.finite 148) :: zeros 5 ++ [.finite 1])⟩
  | read (name : String) (id : UInt8) : name ∈ askedParameters →
      Sendable options toFloat ⟨id, 191, .paramRequestRead id 1 name (-1)⟩
  | guided (id confirmation : UInt8) : options.motionCommandsAllowed = true →
      options.flightStartup.enabled = true → Sendable options toFloat
        ⟨id, 191, .commandLong id 0 176 confirmation (.finite 1 :: .finite 4 :: zeros 5)⟩
  | arm (id confirmation : UInt8) : options.motionCommandsAllowed = true →
      options.flightStartup.enabled = true → Sendable options toFloat
        ⟨id, 191, .commandLong id 0 400 confirmation (.finite 1 :: zeros 6)⟩
  | takeoff (id confirmation : UInt8) : options.motionCommandsAllowed = true →
      options.flightStartup.enabled = true → Sendable options toFloat
        ⟨id, 191, .commandLong id 0 22 confirmation
          (zeros 6 ++ [toFloat options.flightStartup.takeoffAltitudeM])⟩
  | land (id confirmation : UInt8) : options.motionCommandsAllowed = true →
      options.flightStartup.enabled = true → Sendable options toFloat
        ⟨id, 191, .commandLong id 0 21 confirmation (zeros 7)⟩
  | landingTarget (id : UInt8) (timeUsec : UInt64) (distance x y z : Double) :
      options.motionCommandsAllowed = true → options.flightStartup.enabled = true →
      Sendable options toFloat ⟨id, 191, .landingTarget timeUsec 0 12 (.finite 0) (.finite 0)
        distance (.finite 0) (.finite 0) x y z (.finite 1 :: zeros 3) 2 1⟩

theorem askedParameters_short (h : name ∈ askedParameters) :
    ¬(name.utf8ByteSize = 0 ∨ 16 < name.utf8ByteSize) := by
  have hall : askedParameters.all fun name =>
      decide ¬(name.utf8ByteSize = 0 ∨ 16 < name.utf8ByteSize) := by decide
  exact of_decide_eq_true (List.all_eq_true.1 hall name h)

/-- Whatever is sent, the encoder accepts it, and it is one of a few messages of the companion
component: it announces itself, asks for its streams and parameters, and, only where the scenario
is permitted and on, sets GUIDED mode, arms, takes off to the configured altitude, lands or reports
the landing target. It never disarms, never returns to launch and never sets a position. -/
theorem messages_sendable (toFloat sqrt : Double → Double) {app : CompanionApplication}
    (hr : CompanionApplication.Ran options h app)
    (he : ⟨before, .poll input, .poll outcome⟩ ∈ h) (hf : (frame, sent) ∈ outcome.written) :
    ∃ m, encodeFrame toFloat sqrt frame = .ok m ∧ Sendable options toFloat m := by
  obtain ⟨initial, hnew, hrun⟩ := id hr
  obtain ⟨_, _, hbefore, _, hout⟩ := hrun.reached he
  have ho : outcome = (before.poll input).2 := AppReturn.poll.inj hout
  have hindex := CompanionApplication.index_small ⟨initial, hnew, hbefore⟩
  have hserves := before.poll_serves input hindex
  have hactions := before.poll_actions input
  rw [← ho] at hserves hactions
  cases frame with
  | companionHeartbeat id => exact ⟨_, rfl, .heartbeat id⟩
  | setMessageInterval request =>
    obtain ⟨hid, stream, hstream, hmessage, hinterval⟩ := hserves _ hf
    refine ⟨_, rfl, ?_⟩
    rw [hid, hmessage, hinterval]
    exact .interval stream _ _ hstream
  | parameterRequestRead id name =>
    have hname : name ∈ askedParameters := hserves _ hf
    exact ⟨_, if_neg (askedParameters_short hname), .read name id hname⟩
  | autopilotVersionRequest id => exact ⟨_, rfl, .version id⟩
  | flightAction a =>
    have ha : a ∈ outcome.startupActions ++ outcome.autonomyActions := by
      rw [← hactions]
      exact List.mem_filterMap.2 ⟨_, hf, rfl⟩
    have henabled := (CompanionApplication.requests_enabled hr he ha).1
    have hallowed := CompanionApplication.permitted hr henabled
    refine ⟨_, rfl, ?_⟩
    rw [encodeFlightAction]
    cases CompanionApplication.requests_fly hr he ha with
    | guided hk =>
      rw [hk]
      exact .guided _ _ hallowed henabled
    | arm hk =>
      rw [hk]
      exact .arm _ _ hallowed henabled
    | takeoff hk haltitude =>
      rw [hk]
      dsimp only
      rw [haltitude]
      exact .takeoff _ _ hallowed henabled
    | land hk =>
      rw [hk]
      exact .land _ _ hallowed henabled
    | landingTarget hk =>
      rw [hk]
      exact .landingTarget _ _ _ _ _ _ hallowed henabled

/-- A quadrotor that reports readiness gets a frame that is made into a message. -/
theorem messages_sendable_ready : ∃ h app before input outcome frame sent m,
    CompanionApplication.Ran flightOptions h app ∧
    ⟨before, .poll input, .poll outcome⟩ ∈ h ∧ (frame, sent) ∈ outcome.written ∧
    frame.request.isSome = true ∧ encodeFrame id id frame = .ok m ∧
    Sendable flightOptions id m := by
  obtain ⟨h, app, hr, hs⟩ := CompanionApplication.ran_of_check flightOptions (readyFlight 1 0)
    (by decide) (fun h _ => (CompanionApplication.newestOutcome h).any fun outcome =>
      outcome.written.any fun frame => frame.1.request.isSome) (by decide +kernel)
  obtain ⟨outcome, ho, hany⟩ := (Option.any_eq_true _ _).1 hs
  obtain ⟨before, input, he⟩ := CompanionApplication.newestOutcome_mem ho
  obtain ⟨⟨frame, sent⟩, hf, ha⟩ := List.any_eq_true.1 hany
  obtain ⟨m, hm, hsendable⟩ := messages_sendable id id hr he hf
  exact ⟨h, app, before, input, outcome, frame, sent, m, hr, he, hf, ha, hm, hsendable⟩

end OnboardAutonomy
