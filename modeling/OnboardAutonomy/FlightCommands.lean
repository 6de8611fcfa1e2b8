import OnboardAutonomy.MotionGating

namespace OnboardAutonomy
open Histories
set_option autoImplicit true

def OutboundFrame.request : OutboundFrame → Option FlightActionRequest
  | .flightAction request => some request
  | .companionHeartbeat _ | .setMessageInterval _ | .parameterRequestRead _ _
  | .autopilotVersionRequest _ => none

/-- The flight actions among the frames that were written. -/
def flightActions (written : List (OutboundFrame × Bool)) : List FlightActionRequest :=
  written.filterMap fun frame => frame.1.request

namespace PollState

theorem writeFrame_actions (p : PollState) (frame : OutboundFrame) (name detail : String)
    (now : TimePoint) : flightActions (p.writeFrame frame name detail now).1.written =
      flightActions p.written ++ frame.request.toList := by
  simp only [writeFrame, flightActions, List.filterMap_append]
  cases hframe : frame.request with
  | none => simp only [List.filterMap_cons, hframe, List.filterMap_nil, Option.toList_none]
  | some request =>
    simp only [List.filterMap_cons, hframe, List.filterMap_nil, Option.toList_some]

theorem writeFrame_no_action (p : PollState) (frame : OutboundFrame) (hf : frame.request = none)
    (name detail : String) (now : TimePoint) :
    flightActions (p.writeFrame frame name detail now).1.written = flightActions p.written := by
  rw [writeFrame_actions, hf, Option.toList_none, List.append_nil]

theorem scheduleHeartbeat_actions (p : PollState) (vehicle : VehicleSnapshot) (now : TimePoint) :
    flightActions (p.scheduleHeartbeat vehicle now).written = flightActions p.written := by
  simp only [scheduleHeartbeat]
  split
  · rfl
  · split
    · split
      · exact p.writeFrame_no_action (.companionHeartbeat _) rfl "" "" now
      · exact p.writeFrame_no_action (.companionHeartbeat _) rfl "" "" now
    · rfl

theorem configureTelemetry_actions (p : PollState) (vehicle : VehicleSnapshot)
    (now : TimePoint) :
    flightActions (p.configureTelemetry vehicle now).written = flightActions p.written := by
  simp only [configureTelemetry]
  split
  · rfl
  · exact writeFrame_no_action _ (.setMessageInterval _) rfl "" "" now

theorem requestFailsafeParameter_actions (p : PollState) (vehicle : VehicleSnapshot)
    (telemetryReady : Bool) (now : TimePoint) :
    flightActions (p.requestFailsafeParameter vehicle telemetryReady now).written =
      flightActions p.written := by
  simp only [requestFailsafeParameter]
  split
  · split
    · rfl
    · split
      · exact p.writeFrame_no_action (.parameterRequestRead _ _) rfl "" "" now
      · exact p.writeFrame_no_action (.parameterRequestRead _ _) rfl "" "" now
  · rfl

theorem requestAutopilotVersion_actions (p : PollState) (vehicle : VehicleSnapshot)
    (telemetryReady : Bool) (now : TimePoint) :
    flightActions (p.requestAutopilotVersion vehicle telemetryReady now).written =
      flightActions p.written := by
  simp only [requestAutopilotVersion]
  split
  · split
    · rfl
    · exact p.writeFrame_no_action (.autopilotVersionRequest _) rfl "" "" now
  · rfl

theorem requestArmingVoltage_actions (p : PollState) (vehicle : VehicleSnapshot)
    (telemetryReady : Bool) (now : TimePoint) :
    flightActions (p.requestArmingVoltage vehicle telemetryReady now).written =
      flightActions p.written := by
  simp only [requestArmingVoltage]
  split
  · split
    · rfl
    · exact p.writeFrame_no_action (.parameterRequestRead _ _) rfl "" "" now
  · rfl

theorem sendActions_actions (p : PollState) (actions : List FlightActionRequest)
    (report : FlightActionRequest → CompanionApplication → Bool → CompanionApplication)
    (now : TimePoint) :
    flightActions
        (actions.foldl (fun p request => p.sendAction request (report request) now) p).written =
      flightActions p.written ++ actions := by
  induction actions generalizing p with
  | nil => exact (List.append_nil _).symm
  | cons request actions ih =>
    have hw := p.writeFrame_actions (.flightAction request)
      (flightActionMessageName request.action) (flightActionName request.action) now
    have hs : flightActions (p.sendAction request (report request) now).written =
        flightActions p.written ++ [request] := hw
    rw [List.foldl_cons, ih, hs, List.append_assoc]
    rfl

end PollState

namespace CompanionApplication

theorem serveLink_actions (p : PollState) (vehicle : VehicleSnapshot) (now : TimePoint) :
    flightActions (serveLink p vehicle now).1.written = flightActions p.written := by
  simp only [serveLink]
  rw [PollState.requestArmingVoltage_actions, PollState.requestAutopilotVersion_actions,
    PollState.requestFailsafeParameter_actions, PollState.configureTelemetry_actions,
    PollState.scheduleHeartbeat_actions]

theorem updateStartup_actions (p : PollState) (vehicle : VehicleSnapshot) (telemetryReady : Bool)
    (now : TimePoint) :
    flightActions (updateStartup p vehicle telemetryReady now).1.written =
      flightActions p.written ++ (updateStartup p vehicle telemetryReady now).2 :=
  PollState.sendActions_actions _ _ (fun request app sent =>
    { app with flightStartup := app.flightStartup.onActionSent request sent now }) now

theorem updateAutonomy_actions {p q : PollState}
    (h : updateAutonomy p vehicle now = .ok (q, actions)) :
    flightActions q.written = flightActions p.written ++ actions := by
  rw [updateAutonomy] at h
  split at h
  · cases h
  · cases h
    exact PollState.sendActions_actions _ _ (fun request app sent =>
      { app with autonomyRuntime := app.autonomyRuntime.onActionSent request sent now }) now

/-- A poll writes each request of the two state machines once, in order, and no other. -/
theorem poll_actions (app : CompanionApplication) (input : PollInput) :
    flightActions (app.poll input).2.written =
      (app.poll input).2.startupActions ++ (app.poll input).2.autonomyActions := by
  rw [poll]
  rcases (app.beginPoll input).observed input.now with ⟨seen, vehicle⟩
  have hserve := serveLink_actions { app := seen, writes := input.writes } vehicle input.now
  rcases hs : serveLink { app := seen, writes := input.writes } vehicle input.now with
    ⟨served, ready⟩
  rw [hs] at hserve
  have hstartup := updateStartup_actions served vehicle ready input.now
  rcases hu : updateStartup served vehicle ready input.now with ⟨started, startupActions⟩
  rw [hu, hserve] at hstartup
  simp only [hs, hu]
  cases ha : updateAutonomy started vehicle input.now with
  | error message => exact hstartup.trans (List.append_nil _).symm
  | ok result =>
    obtain ⟨flown, actions⟩ := result
    exact (updateAutonomy_actions ha).trans (congrArg (· ++ actions) hstartup)

end CompanionApplication

/-- Without the scenario the machines are never left to start. -/
structure Grounded (options : CompanionApplicationOptions) (c : Components) : Prop where
  lockstep : Lockstep options c
  disabled : options.flightStartup.enabled = false → c.flightStartup.phase = .disabled

theorem FlightStartupController.Moves.disabled (hm : Moves c c') (h : c.phase = .disabled) :
    c'.phase = .disabled := by
  rw [hm.rests (by rw [h]; rfl), h]

theorem Grounded.kept : Kept options (Grounded options) where
  built c h := by
    refine ⟨.built h, fun hoff => ?_⟩
    rw [FlightStartupController.new_eq h.flightStartup, if_neg (by rw [hoff]; decide)]
  camera _ _ _ h := ⟨h.lockstep.camera _, h.disabled⟩
  received _ _ _ _ h hr := by
    obtain ⟨hlock, hadvances⟩ := h.lockstep.received hr
    exact ⟨hlock, fun hoff => hadvances.startup.disabled (h.disabled hoff)⟩
  polled _ _ _ _ h hp := by
    obtain ⟨hlock, hadvances⟩ := h.lockstep.polled hp
    exact ⟨hlock, fun hoff => hadvances.startup.disabled (h.disabled hoff)⟩
  started _ _ _ _ h hs := by
    refine ⟨h.lockstep.started hs, fun hoff => ?_⟩
    cases hs with
    | refused _ _ => exact h.disabled hoff
    | restarted _ hconfigured _ _ _ _ =>
      rw [h.lockstep.autonomyScenarioConfigured, hoff] at hconfigured
      cases hconfigured
  observed _ _ h := ⟨h.lockstep.observed _, h.disabled⟩

namespace CompanionApplication

/-- A request is made only where the scenario is switched on, of a connected vehicle and under an
accepted failsafe policy. -/
theorem requests_enabled {app : CompanionApplication} (hr : Ran options h app)
    (he : ⟨before, .poll input, .poll outcome⟩ ∈ h)
    (ha : a ∈ outcome.startupActions ++ outcome.autonomyActions) :
    options.flightStartup.enabled = true ∧ outcome.vehicle.connected = true ∧
      outcome.failsafe.accepted = true := by
  obtain ⟨after, _, hg, hp⟩ := Grounded.kept.poll hr he
  obtain ⟨startup, hstartup, _⟩ := hp.startup
  have hm := Lockstep.startup_polled hp
  have henabled (hphase : after.flightStartup.phase ≠ .disabled) :
      options.flightStartup.enabled = true := by
    by_contra hoff
    exact hphase (hm.disabled (hg.disabled (Bool.eq_false_iff.2 hoff)))
  rcases List.mem_append.1 ha with ha | ha
  · obtain ⟨hconnected, haccepted, _, hrest⟩ :=
      FlightStartupController.update_requests hstartup a ha
    refine ⟨henabled fun hdisabled => ?_, hconnected, haccepted⟩
    refine absurd hdisabled (hm.enabled fun h => ?_)
    rw [h] at hrest
    cases hrest
  · rcases hp.autonomy with ⟨hnone, _⟩ | ⟨target, runtime, _, hu, _⟩
    · rw [hnone] at ha
      cases ha
    · obtain ⟨hconnected, haccepted, _, hcompleted, _⟩ :=
        AutonomyRuntime.update_requests (hg.lockstep.steady_update hp) hu a ha
      refine ⟨henabled fun hdisabled => ?_, hconnected, haccepted⟩
      have hphase : after.flightStartup.phase = .completed := hcompleted
      rw [hdisabled] at hphase
      cases hphase

end CompanionApplication

end OnboardAutonomy
