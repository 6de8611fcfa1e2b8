import OnboardAutonomy.Lockstep

namespace OnboardAutonomy
open ExactDouble Histories
set_option autoImplicit true

section Requests
variable {vehicle : VehicleSnapshot} {telemetryReady : Bool} {startup : FlightStartupSnapshot}
  {failsafe : CompanionLinkFailsafeSnapshot} {now : TimePoint}
  {landingTarget : Option BodyFramePosition}

/-- What a request of the startup controller tells about the call that returned it. -/
theorem FlightStartupController.update_requests
    (hu : update c vehicle telemetryReady failsafe now = (c', actions)) :
    ∀ a ∈ actions, vehicle.connected = true ∧ failsafe.accepted = true ∧
      (a.action = .setGuidedMode ∨ a.action = .arm ∨ a.action = .takeoff) ∧
      c.phase.resting = false := by
  by_cases hr : c.phase.resting = true
  · rw [update_resting c hr] at hu
    cases hu
    intro a ha
    cases ha
  · have hq : ∀ a ∈ (c.update vehicle telemetryReady failsafe now).2, vehicle.connected = true ∧
        failsafe.accepted = true ∧
        (a.action = .setGuidedMode ∨ a.action = .arm ∨ a.action = .takeoff) := by
      apply update_rule (P := fun _ => True) (c := c)
        (Q := fun _ actions => ∀ a ∈ actions, vehicle.connected = true ∧
          failsafe.accepted = true ∧
          (a.action = .setGuidedMode ∨ a.action = .arm ∨ a.action = .takeoff))
      · trivial
      · exact fun h => absurd h hr
      · exact fun _ _ _ a ha => absurd ha List.not_mem_nil
      · intro d flow _ hg hround
        cases hround with
        | stay _ => exact fun a ha => absurd ha List.not_mem_nil
        | fail _ _ => exact fun a ha => absurd ha List.not_mem_nil
        | latch _ _ _ _ _ => trivial
        | ready _ _ _ => trivial
        | guided _ _ _ => trivial
        | armed _ _ _ => trivial
        | climbed _ _ _ _ => exact fun a ha => absurd ha List.not_mem_nil
        | request action _ he _ _ _ =>
          intro a ha
          rw [List.mem_singleton] at ha
          rw [ha]
          obtain ⟨_, hcommanding⟩ := resting_of_expected he
          refine ⟨hg.1 ?_, hg.2 hcommanding, ?_⟩
          · intro hp
            rw [hp] at hcommanding
            cases hcommanding
          · rw [expectedAction] at he
            cases hp : d.phase <;> rw [hp] at he <;> cases he <;> simp
    rw [hu] at hq
    intro a ha
    obtain ⟨hc, hf, hk⟩ := hq a ha
    exact ⟨hc, hf, hk, Bool.eq_false_iff.2 hr⟩

theorem AutonomyRuntime.update_requests (hs : Steady startup.phase r)
    (hu : r.update vehicle startup failsafe now landingTarget = (r', actions)) :
    ∀ a ∈ actions, vehicle.connected = true ∧ failsafe.accepted = true ∧
      (a.action = .land ∨ a.action = .landingTarget) ∧ startup.phase = .completed ∧
      vehicle.systemId = some a.vehicleSystemId := by
  obtain ⟨_, _, hcompleted⟩ := hs.updated (update_updated hu)
  intro a ha
  have hs := hcompleted (List.ne_nil_of_mem ha)
  cases update_updated hu with
  | rest _ | wait _ _ _ | refuse _ _ _ | abort _ _ _ | land _ _ _ _ | touchDown _ _ _ => cases ha
  | @act b _ _ hb hc _ hact =>
    have hacts := act_acts (r := { b with vehicleSystemId := vehicle.systemId }) rfl hact
    obtain ⟨hk, hid⟩ := hacts.requests a ha
    refine ⟨hc.connected, hc.accepted, hk, hs, ?_⟩
    obtain ⟨id, hv⟩ := Option.isSome_iff_exists.1 hc.identified
    rw [hid, hv]
    rfl

end Requests

namespace VehicleState

/-- Once a heartbeat has been seen, its sender is known. -/
def Identified (s : VehicleState) : Prop := s.lastHeartbeat.isSome = true → s.systemId.isSome = true

theorem identified_handleMessage (h : Identified s) (m : MavlinkMessage) (now : TimePoint) :
    Identified (handleMessage s m now) := by
  rw [handleMessage]
  cases m.payload with
  | heartbeat _ _ _ _ _ =>
    dsimp only
    split
    · exact h
    · exact fun _ => rfl
  | autopilotVersion _ _ _ _ _ =>
    dsimp only
    split
    · exact h
    · exact h
  | paramValue _ _ _ =>
    dsimp only
    split
    · exact h
    · exact h
  | sysStatus _ _ _ _ _ =>
    dsimp only
    rw [onSystemStatus]
    split
    · exact h
    · exact h
  | statustext _ _ =>
    dsimp only
    rw [onStatusText]
    split
    · exact h
    · exact h
  | gpsRawInt _ _ | globalPositionInt _ | localPositionNed _ _ _ | attitude _ _ _
  | batteryStatus _ _ _ _ | commandAck _ _ _ _ _ _ | other _ _ => exact h

theorem report_connected (s : VehicleState) (now : TimePoint) :
    (s.report now).connected = isFresh s.lastHeartbeat now kHeartbeatTimeout ∧
      (s.report now).systemId = s.systemId := by
  rw [report]
  dsimp only
  split
  · exact ⟨rfl, rfl⟩
  · exact ⟨rfl, rfl⟩

theorem Identified.snapshot (h : Identified s) (hc : (s.snapshot now).2.connected = true) :
    (s.snapshot now).2.systemId.isSome = true := by
  obtain ⟨hfresh, hid⟩ := (s.eraseOldWarnings now).report_connected now
  rw [VehicleState.snapshot] at hc ⊢
  dsimp only at hc ⊢
  rw [hid]
  rw [hfresh] at hc
  apply h
  cases hl : s.lastHeartbeat with
  | none =>
    rw [eraseOldWarnings, hl] at hc
    cases hc
  | some t => rfl

end VehicleState

/-- The invariant behind the gate: the machines are in step, and a connected vehicle is known. -/
structure Gated (options : CompanionApplicationOptions) (c : Components) : Prop where
  lockstep : Lockstep options c
  identified : c.vehicleState.Identified

theorem Gated.kept : Kept options (Gated options) where
  built c h := by
    refine ⟨.built h, ?_⟩
    rw [h.vehicleState]
    exact fun h => by cases h
  camera _ _ _ h := ⟨h.lockstep.camera _, h.identified⟩
  received c m now after h hr := by
    refine ⟨(h.lockstep.received hr).1, ?_⟩
    rw [hr.vehicleState]
    exact VehicleState.identified_handleMessage h.identified m now
  polled c input after outcome h hp := by
    refine ⟨(h.lockstep.polled hp).1, ?_⟩
    rw [hp.vehicleState]
    exact h.identified
  started c now after answer h hs := by
    refine ⟨h.lockstep.started hs, ?_⟩
    cases hs with
    | refused vehicleState hv =>
      rcases hv with hv | hv
      · rw [hv]
        exact h.identified
      · rw [hv]
        exact h.identified
    | restarted _ _ _ _ _ _ => exact h.identified
  observed _ _ h := ⟨h.lockstep.observed _, h.identified⟩

namespace CompanionApplication

/-- Flight actions are requested only with permission to move, of a connected and known vehicle
and under an accepted failsafe policy; a return to launch never is. Without permission no poll of
the run requests any. -/
theorem requests_gated {app : CompanionApplication} (hr : Ran options h app)
    (he : ⟨before, .poll input, .poll outcome⟩ ∈ h) :
    (∀ a ∈ outcome.startupActions ++ outcome.autonomyActions,
      before.motionCommandsAllowed = true ∧ outcome.vehicle.connected = true ∧
      outcome.vehicle.systemId.isSome = true ∧ outcome.failsafe.accepted = true ∧
      a.action ≠ .returnToLaunch) ∧
    (options.motionCommandsAllowed = false →
      outcome.startupActions = [] ∧ outcome.autonomyActions = []) := by
  obtain ⟨after, hbefore, hg, hp⟩ := Gated.kept.poll hr he
  have hafter := (hg.lockstep.polled hp).1
  obtain ⟨startup, hstartup, _⟩ := hp.startup
  have hidentified (hc : outcome.vehicle.connected = true) :
      outcome.vehicle.systemId.isSome = true := by
    rw [hp.vehicle] at hc ⊢
    exact hg.identified.snapshot hc
  have hsent : ∀ a ∈ outcome.startupActions, options.motionCommandsAllowed = true ∧
      outcome.vehicle.connected = true ∧ outcome.failsafe.accepted = true ∧
      a.action ≠ .returnToLaunch := by
    intro a ha
    obtain ⟨hc, hf, hk, hrest⟩ := FlightStartupController.update_requests hstartup a ha
    refine ⟨?_, hc, hf, ?_⟩
    · by_contra hm
      rw [hg.lockstep.gated (Bool.eq_false_iff.2 hm)] at hrest
      cases hrest
    · rcases hk with hk | hk | hk <;> rw [hk] <;> decide
  have hflown : ∀ a ∈ outcome.autonomyActions, options.motionCommandsAllowed = true ∧
      outcome.vehicle.connected = true ∧ outcome.failsafe.accepted = true ∧
      a.action ≠ .returnToLaunch := by
    intro a ha
    rcases hp.autonomy with ⟨hnone, _⟩ | ⟨target, runtime, _, hu, _⟩
    · rw [hnone] at ha
      cases ha
    · obtain ⟨hc, hf, hk, hs, _⟩ :=
        AutonomyRuntime.update_requests (hg.lockstep.steady_update hp) hu a ha
      refine ⟨?_, hc, hf, ?_⟩
      · by_contra hm
        have hd : after.flightStartup.phase = .completed := hs
        rw [hafter.gated (Bool.eq_false_iff.2 hm)] at hd
        cases hd
      · rcases hk with hk | hk <;> rw [hk] <;> decide
  have hall : ∀ a ∈ outcome.startupActions ++ outcome.autonomyActions,
      options.motionCommandsAllowed = true ∧ outcome.vehicle.connected = true ∧
      outcome.failsafe.accepted = true ∧ a.action ≠ .returnToLaunch := by
    intro a ha
    rcases List.mem_append.1 ha with ha | ha
    · exact hsent a ha
    · exact hflown a ha
  constructor
  · intro a ha
    obtain ⟨hm, hc, hf, hk⟩ := hall a ha
    exact ⟨hbefore.lockstep.motionCommandsAllowed.trans hm, hc, hidentified hc, hf, hk⟩
  · intro hm
    rw [← List.append_eq_nil_iff, List.eq_nil_iff_forall_not_mem]
    intro a ha
    have hallowed := (hall a ha).1
    rw [hm] at hallowed
    cases hallowed

/-- A quadrotor that reports readiness is asked for GUIDED mode. -/
theorem requests_gated_ready :
    ∃ h app before input outcome, Ran flightOptions h app ∧
      ⟨before, .poll input, .poll outcome⟩ ∈ h ∧
      ∃ a ∈ outcome.startupActions, a.action = .setGuidedMode ∧
        before.motionCommandsAllowed = true ∧ outcome.vehicle.connected = true ∧
        outcome.failsafe.accepted = true := by
  obtain ⟨h, app, hr, hs⟩ := ran_of_check flightOptions (readyFlight 1 0)
    (by decide) (fun h _ => (newestOutcome h).any fun outcome =>
      outcome.startupActions.any fun a => a.action == .setGuidedMode) (by decide +kernel)
  obtain ⟨outcome, ho, hany⟩ := (Option.any_eq_true _ _).1 hs
  obtain ⟨before, input, he⟩ := newestOutcome_mem ho
  obtain ⟨a, ha, hk⟩ := List.any_eq_true.1 hany
  obtain ⟨hm, hc, _, hf, _⟩ := (requests_gated hr he).1 a (List.mem_append_left _ ha)
  exact ⟨h, app, before, input, outcome, hr, he, a, ha, beq_iff_eq.1 hk, hm, hc, hf⟩

end CompanionApplication
end OnboardAutonomy
