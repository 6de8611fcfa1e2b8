import OnboardAutonomy.FailsafePolicy
import OnboardAutonomy.MotionGating

namespace OnboardAutonomy
open ExactDouble Histories
set_option autoImplicit true

namespace CompanionLinkFailsafe

theorem onParameter_system (f : CompanionLinkFailsafe) (source component : UInt8) (id : String)
    (value : Double) :
    (f.onParameter source component id value).snapshot.heartbeatSystemId =
      f.snapshot.heartbeatSystemId := by
  by_cases hi : f.snapshot.heartbeatSystemId ≠ some source ∨ component ≠ kAutopilotComponentId ∨
      id ∉ parameterNames
  · rw [onParameter_ignored f hi]
  · simp only [not_or, not_not] at hi
    obtain ⟨hs, hc, hid⟩ := hi
    rw [hc, onParameter_known f hs hid, (f.store id value).validate_system.1, store_snapshot]

theorem observeVehicle_system (f : CompanionLinkFailsafe) (connected : Bool)
    (systemId : Option UInt8) :
    (f.observeVehicle connected systemId).snapshot.heartbeatSystemId =
      if connected then systemId else none := by
  rw [observeVehicle_eq]
  generalize (if connected then systemId else none) = seen
  split
  · rename_i h
    exact h.symm
  · cases seen <;> rfl

theorem observeVehicle_accepted (f : CompanionLinkFailsafe) (connected : Bool)
    (systemId : Option UInt8)
    (ha : (f.observeVehicle connected systemId).snapshot.accepted = true) :
    f.snapshot.heartbeatSystemId = if connected then systemId else none := by
  rw [observeVehicle_eq] at ha
  generalize (if connected then systemId else none) = seen at ha
  split at ha
  · rename_i h
    exact h.symm
  · cases seen <;> cases ha

end CompanionLinkFailsafe

namespace FlightStartupController

/-- A vehicle is latched as soon as startup no longer waits for one. -/
def Latched (c : FlightStartupController) : Prop :=
  c.phase.resting = false → c.phase ≠ .waitingForVehicle → c.vehicleSystemId.isSome = true

theorem Stays.latched (hs : Stays c c') (hc : Latched c) : Latched c' := by
  intro hr hw
  rw [hs.vehicleSystemId]
  rcases hs.phase with hp | hp
  · rw [hp] at hr hw
    exact hc hr hw
  · rw [hp] at hr
    cases hr

theorem Stays.commanding (hs : Stays c c') (hp : c'.phase.commanding = true) :
    c.phase.commanding = true := by
  rcases hs.phase with h | h
  · rw [← h]
    exact hp
  · rw [h] at hp
    cases hp

section Updates
variable {vehicle : VehicleSnapshot} {telemetryReady : Bool}
  {failsafe : CompanionLinkFailsafeSnapshot} {now : TimePoint}

/-- The latched vehicle is the one in the snapshot wherever a request may follow. -/
structure Addressed (vehicle : VehicleSnapshot) (telemetryReady : Bool)
    (failsafe : CompanionLinkFailsafeSnapshot) (now : TimePoint) (c : FlightStartupController) :
    Prop where
  commanding : c.phase.commanding = true → vehicle.connected = true →
    failsafe.accepted = true → c.vehicleSystemId = vehicle.systemId
  waiting : c.phase = .waitingForReadiness → vehicle.connected = true → now < c.phaseDeadline →
    ready vehicle telemetryReady failsafe = true → c.vehicleSystemId = vehicle.systemId

theorem update_addressed (c : FlightStartupController)
    (hc : Addressed vehicle telemetryReady failsafe now c) :
    (∀ a ∈ (c.update vehicle telemetryReady failsafe now).2,
      a.vehicleSystemId = vehicle.systemId.getD 0) ∧
    ((c.update vehicle telemetryReady failsafe now).1.phase.commanding = true →
      vehicle.connected = true ∧
      (c.update vehicle telemetryReady failsafe now).1.vehicleSystemId = vehicle.systemId) := by
  apply update_rule (P := Addressed vehicle telemetryReady failsafe now)
    (Q := fun d actions => (∀ a ∈ actions, a.vehicleSystemId = vehicle.systemId.getD 0) ∧
      (d.phase.commanding = true → vehicle.connected = true ∧
        d.vehicleSystemId = vehicle.systemId)) hc
  · intro hr
    refine ⟨fun a ha => absurd ha List.not_mem_nil, fun hp => ?_⟩
    rw [FlightStartupPhase.resting_of_commanding hp] at hr
    cases hr
  · intro d detail _
    exact ⟨fun a ha => absurd ha List.not_mem_nil, fun hp => by cases hp⟩
  · intro d flow hd hg hround
    have hcommanding (hp : d.phase.commanding = true) :
        vehicle.connected = true ∧ d.vehicleSystemId = vehicle.systemId := by
      have hc : vehicle.connected = true := by
        apply hg.1
        intro h
        rw [h] at hp
        cases hp
      exact ⟨hc, hd.commanding hp hc (hg.2 hp)⟩
    cases hround with
    | stay _ => exact ⟨fun a ha => absurd ha List.not_mem_nil, hcommanding⟩
    | fail _ _ => exact ⟨fun a ha => absurd ha List.not_mem_nil, fun hp => by cases hp⟩
    | latch _ _ _ _ _ => exact ⟨fun hp => (by cases hp), fun _ _ _ _ => rfl⟩
    | ready hp hdeadline hready =>
      have hv := hd.waiting hp (hg.1 (by rw [hp]; decide)) hdeadline hready
      exact ⟨fun _ _ _ => hv, fun h => by cases h⟩
    | guided hp _ _ =>
      have hv := (hcommanding (by rw [hp]; rfl)).2
      exact ⟨fun _ _ _ => hv, fun h => by cases h⟩
    | armed hp _ _ =>
      have hv := (hcommanding (by rw [hp]; rfl)).2
      exact ⟨fun _ _ _ => hv, fun h => by cases h⟩
    | climbed _ _ _ _ => exact ⟨fun a ha => absurd ha List.not_mem_nil, fun hp => by cases hp⟩
    | request action altitudeM he _ _ _ =>
      have hv := hcommanding (resting_of_expected he).2
      refine ⟨?_, fun _ => hv⟩
      intro a ha
      rw [List.mem_singleton] at ha
      rw [ha, ← hv.2]

theorem latched_update (hc : Latched c)
    (hu : update c vehicle telemetryReady failsafe now = (c', actions)) : Latched c' := by
  have hl : Latched (c.update vehicle telemetryReady failsafe now).1 := by
    apply update_rule (P := Latched) (Q := fun d _ => Latched d) hc
    · exact fun _ => hc
    · exact fun d detail _ hr => by cases hr
    · intro d flow hd _ hround
      cases hround with
      | stay _ => exact hd
      | fail _ _ => exact fun hr => by cases hr
      | latch _ _ hs _ _ => exact fun _ _ => hs
      | ready hp _ _ => exact fun _ _ => hd (by rw [hp]; rfl) (by rw [hp]; decide)
      | guided hp _ _ => exact fun _ _ => hd (by rw [hp]; rfl) (by rw [hp]; decide)
      | armed hp _ _ => exact fun _ _ => hd (by rw [hp]; rfl) (by rw [hp]; decide)
      | climbed _ _ _ _ => exact fun hr => by cases hr
      | request _ _ _ _ _ _ => exact hd
  rw [hu] at hl
  exact hl

theorem update_ready (c : FlightStartupController) (hp : c.phase = .waitingForReadiness)
    (hc : vehicle.connected = true) (hd : now < c.phaseDeadline)
    (hr : ready vehicle telemetryReady failsafe = true) :
    ∃ a ∈ (c.update vehicle telemetryReady failsafe now).2,
      a.vehicleSystemId = c.vehicleSystemId.getD 0 := by
  have hfirst : c.updatePhase vehicle telemetryReady failsafe now =
      .next (c.enterPhase .settingGuided now) := by
    simp only [updatePhase, hp, Int.not_le.2 hd, hr, ↓reduceIte]
  have hlater : ¬now + kModeChangeTimeout ≤ now :=
    Int.not_le.2 (Int.lt_add_of_pos_right now (by decide))
  have hsecond : (c.enterPhase .settingGuided now).updatePhase vehicle telemetryReady
      failsafe now = .done ((c.enterPhase .settingGuided now).requested .setGuidedMode now) [{
        action := .setGuidedMode
        vehicleSystemId := c.vehicleSystemId.getD 0
        confirmation := UInt8.ofNat 0 }] := by
    simp only [updatePhase, enterPhase, hlater, command, updateCommand, kMaximumActionAttempts,
      Bool.false_and, Bool.false_eq_true, ↓reduceIte]
    rfl
  have hupdate : (c.update vehicle telemetryReady failsafe now).2 = [{
      action := .setGuidedMode
      vehicleSystemId := c.vehicleSystemId.getD 0
      confirmation := UInt8.ofNat 0 }] := by
    simp [update, hp, hc, transitions, hfirst, hsecond]
  rw [hupdate]
  exact ⟨_, List.mem_singleton_self _, rfl⟩

end Updates
end FlightStartupController
namespace Components

/-- Startup waits for readiness and the coming update will find the vehicle ready. -/
def passesReadiness (c : Components) (now : TimePoint) : Bool :=
  let vehicle := (c.vehicleState.snapshot now).2
  let telemetry := (c.telemetryConfigurator.update vehicle.connected vehicle.systemId now).1
  let failsafe :=
    (c.companionLinkFailsafe.observeVehicle vehicle.connected vehicle.systemId).snapshot
  c.flightStartup.phase == .waitingForReadiness && vehicle.connected &&
    now < c.flightStartup.phaseDeadline &&
    FlightStartupController.ready vehicle (telemetry.snapshot.phase == .active) failsafe

/-- The vehicle that passes the readiness gate is the one startup has latched. -/
def LatchedIsReady (c : Components) (now : TimePoint) : Prop :=
  c.passesReadiness now = true →
    c.flightStartup.vehicleSystemId = (c.vehicleState.snapshot now).2.systemId

/-- While startup commands a vehicle, the failsafe policy is about that vehicle. -/
def Matched (c : Components) : Prop :=
  c.flightStartup.phase.commanding = true →
    c.companionLinkFailsafe.snapshot.heartbeatSystemId = c.flightStartup.vehicleSystemId

theorem Matched.received (h : Matched c) (hr : c.Received m now c') : Matched c' := by
  have hsystem : c'.companionLinkFailsafe.snapshot.heartbeatSystemId =
      c.companionLinkFailsafe.snapshot.heartbeatSystemId := by
    rcases hr.companionLinkFailsafe with hf | ⟨source, component, id, value, hf⟩
    · rw [hf]
    · rw [hf, CompanionLinkFailsafe.onParameter_system]
  rw [Matched, hsystem]
  rcases hr.machines with ⟨hs, _⟩ | ⟨action, outcome, rawResult, source, hs, _⟩
  · rw [hs]
    exact h
  · have hstays := c.flightStartup.stays_onCommandAck action outcome rawResult source now
    rw [hs, hstays.vehicleSystemId]
    exact fun hp => h (hstays.commanding hp)

theorem passesReadiness_iff (hp : PollSteps c input c' outcome) :
    c.passesReadiness input.now = true ↔
      c.flightStartup.phase = .waitingForReadiness ∧ outcome.vehicle.connected = true ∧
      input.now < c.flightStartup.phaseDeadline ∧
      FlightStartupController.ready outcome.vehicle
        (c'.telemetryConfigurator.snapshot.phase == .active) outcome.failsafe = true := by
  rw [hp.telemetry, hp.failsafe, hp.companionLinkFailsafe, hp.vehicle, passesReadiness]
  simp only [Bool.and_eq_true, beq_iff_eq, decide_eq_true_eq, and_assoc]

theorem Matched.addressed (h : Matched c) (hl : LatchedIsReady c input.now)
    (hp : PollSteps c input c' outcome) :
    c.flightStartup.Addressed outcome.vehicle (c'.telemetryConfigurator.snapshot.phase == .active)
      outcome.failsafe input.now := by
  constructor
  · intro hcommanding hc ha
    rw [hp.failsafe, hp.companionLinkFailsafe] at ha
    have hsystem := CompanionLinkFailsafe.observeVehicle_accepted _ _ _ ha
    rw [hc, if_pos rfl] at hsystem
    exact (h hcommanding).symm.trans hsystem
  · intro hphase hc hd hr
    rw [hp.vehicle]
    exact hl ((passesReadiness_iff hp).2 ⟨hphase, hc, hd, hr⟩)

theorem Matched.polled (h : Matched c) (hl : LatchedIsReady c input.now)
    (hp : PollSteps c input c' outcome) : Matched c' := by
  obtain ⟨startup, hu, hreported⟩ := hp.startup
  have ha := (c.flightStartup.update_addressed (h.addressed hl hp)).2
  rw [hu] at ha
  have hcommanding : c'.flightStartup.phase.commanding = true → outcome.vehicle.connected = true ∧
      c'.flightStartup.vehicleSystemId = outcome.vehicle.systemId := by
    apply hreported.keeps (P := fun d : FlightStartupController => d.phase.commanding = true →
      outcome.vehicle.connected = true ∧ d.vehicleSystemId = outcome.vehicle.systemId) _ ha
    intro d request sent hd
    have hstays := d.stays_onActionSent request sent input.now
    rw [hstays.vehicleSystemId]
    exact fun hp => hd (hstays.commanding hp)
  intro hphase
  obtain ⟨hc, hid⟩ := hcommanding hphase
  rw [hid, hp.companionLinkFailsafe, CompanionLinkFailsafe.observeVehicle_system, hc, if_pos rfl]

end Components

/-- The invariant of every run that the addressing of requests rests on. -/
structure Known (options : CompanionApplicationOptions) (c : Components) : Prop where
  gated : Gated options c
  latched : c.flightStartup.Latched

theorem FlightStartupController.latched_reported
    (hr : Reported (fun s request sent => onActionSent s request sent now) c actions c')
    (hc : Latched c) : Latched c' := by
  apply hr.keeps (P := Latched) _ hc
  intro d request sent hd
  exact (d.stays_onActionSent request sent now).latched hd

theorem Known.kept : Kept options (Known options) where
  built c h := by
    refine ⟨Gated.kept.built c h, ?_⟩
    have hs := FlightStartupController.new_eq h.flightStartup
    intro hr hw
    rw [hs] at hr hw
    split at hr
    · rename_i he
      rw [if_pos he, FlightStartupController.restart] at hw
      exact absurd (if_pos he) hw
    · cases hr
  camera c frame now h := ⟨Gated.kept.camera c frame now h.gated, h.latched⟩
  received c m now after h hr := by
    refine ⟨Gated.kept.received c m now after h.gated hr, ?_⟩
    rcases hr.machines with ⟨hs, _⟩ | ⟨action, outcome, rawResult, source, hs, _⟩
    · rw [hs]
      exact h.latched
    · rw [hs]
      exact (c.flightStartup.stays_onCommandAck action outcome rawResult source now).latched
        h.latched
  polled c input after outcome h hp := by
    refine ⟨Gated.kept.polled c input after outcome h.gated hp, ?_⟩
    obtain ⟨startup, hu, hreported⟩ := hp.startup
    exact FlightStartupController.latched_reported hreported
      (FlightStartupController.latched_update h.latched hu)
  started c now after answer h hs := by
    refine ⟨Gated.kept.started c now after answer h.gated hs, ?_⟩
    cases hs with
    | refused _ _ => exact h.latched
    | restarted _ _ _ _ _ _ =>
      intro hr hw
      rw [FlightStartupController.restart] at hr hw
      dsimp only at hr hw
      split at hr
      · rename_i he
        exact absurd (if_pos he) hw
      · cases hr
  observed c now h := ⟨Gated.kept.observed c now h.gated, h.latched⟩

/-- A poll is good when the vehicle that passes the readiness gate in it is the latched one. -/
def pollsLatchedVehicle (e : AppEntry) : Prop :=
  ∀ input, e.input = .poll input → (e.before.toComponents.beginPoll input).LatchedIsReady input.now

/-- Every request of a poll goes to the vehicle in the snapshot the poll worked with. -/
def PollOutcome.AddressesSnapshot (outcome : PollOutcome) : Prop :=
  ∀ a ∈ outcome.startupActions ++ outcome.autonomyActions,
    outcome.vehicle.systemId = some a.vehicleSystemId

namespace CompanionApplication

theorem matched_of_good {app : CompanionApplication} (hr : Ran options h app)
    (hgood : ∀ e ∈ h, pollsLatchedVehicle e) : app.toComponents.Matched := by
  obtain ⟨initial, hnew, hr⟩ := hr
  revert hgood
  apply hr.history_invariant (fun h app => (∀ e ∈ h, pollsLatchedVehicle e) →
    app.toComponents.Matched)
  · intro _ hp
    have hs := FlightStartupController.new_eq (new_built hnew).flightStartup
    rw [hs] at hp
    split at hp
    · rename_i he
      rw [FlightStartupController.restart, if_pos he] at hp
      cases hp
    · cases hp
  · intro h s call _ ih _ hgood
    have hs := ih fun e he => hgood e (List.mem_cons_of_mem _ he)
    cases call with
    | poll input =>
      have hl := hgood _ List.mem_cons_self input rfl
      apply Components.Matched.polled _ hl (s.poll_steps input)
      apply Components.ingest_induction (P := Components.Matched)
      · exact fun c m hc => hc.received (c.receive_received m input.now)
      · exact hs
    | requestAutonomyStart now =>
      have hsteps := s.requestAutonomyStart_steps now
      rw [Components.Matched]
      simp only [step]
      generalize (s.requestAutonomyStart now).1.toComponents = c' at hsteps ⊢
      generalize (s.requestAutonomyStart now).2 = answer at hsteps
      cases hsteps with
      | refused _ _ => exact hs
      | restarted _ _ _ _ _ _ =>
        intro hp
        dsimp only at hp
        rw [FlightStartupController.restart] at hp
        dsimp only at hp
        split at hp
        · cases hp
        · cases hp
    | snapshot source detector now => exact hs

theorem poll_addresses {app : CompanionApplication} (hr : Ran options h app)
    (hgood : ∀ e ∈ h, pollsLatchedVehicle e)
    (he : ⟨before, .poll input, .poll outcome⟩ ∈ h) : outcome.AddressesSnapshot := by
  obtain ⟨after, _, hk, hp⟩ := Known.kept.poll hr he
  have hmatched : (before.toComponents.beginPoll input).Matched := by
    obtain ⟨initial, hnew, hrun⟩ := hr
    obtain ⟨h', hsub, hbefore, _, _⟩ := hrun.reached he
    apply Components.ingest_induction (P := Components.Matched)
    · exact fun c m hc => hc.received (c.receive_received m input.now)
    · exact matched_of_good ⟨initial, hnew, hbefore⟩ fun e he => hgood e (hsub he)
  have haddressed := hmatched.addressed (hgood _ he input rfl) hp
  obtain ⟨startup, hstartup, _⟩ := hp.startup
  intro a ha
  rcases List.mem_append.1 ha with ha | ha
  · have hid := (FlightStartupController.update_addressed _ haddressed).1
    rw [hstartup] at hid
    have hc := (FlightStartupController.update_requests hstartup a ha).1
    have hseen : outcome.vehicle.systemId.isSome = true := by
      rw [hp.vehicle] at hc ⊢
      exact hk.gated.identified.snapshot hc
    obtain ⟨id, hv⟩ := Option.isSome_iff_exists.1 hseen
    rw [hid a ha, hv]
    rfl
  · rcases hp.autonomy with ⟨hnone, _⟩ | ⟨target, runtime, _, hu, _⟩
    · rw [hnone] at ha
      cases ha
    · exact (AutonomyRuntime.update_requests (hk.gated.lockstep.steady_update hp) hu a ha).2.2.2.2

/-- A run addresses every request to the vehicle of the snapshot exactly when no poll of the run
lets another vehicle than the latched one through the readiness gate. -/
theorem requests_address_snapshot {app : CompanionApplication} (hr : Ran options h app) :
    (∀ before input outcome, ⟨before, .poll input, .poll outcome⟩ ∈ h →
      outcome.AddressesSnapshot) ↔ ∀ e ∈ h, pollsLatchedVehicle e := by
  constructor
  · intro hall e he input hinput
    obtain ⟨before, call, output⟩ := e
    dsimp only at hinput ⊢
    subst hinput
    obtain ⟨initial, hnew, hrun⟩ := hr
    obtain ⟨h', hsub, hbefore, _, hout⟩ := hrun.reached he
    have ho : output = .poll (before.poll input).2 := hout
    rw [ho] at he
    obtain ⟨after, _, hk, hp⟩ := Known.kept.poll ⟨initial, hnew, hrun⟩ he
    intro hready
    obtain ⟨hphase, hc, hd, hr⟩ := (Components.passesReadiness_iff hp).1 hready
    obtain ⟨startup, hstartup, _⟩ := hp.startup
    obtain ⟨a, ha, hid⟩ := FlightStartupController.update_ready _ hphase hc hd hr
    rw [hstartup] at ha
    have hseen := hall before input _ he a (List.mem_append_left _ ha)
    have hlatched := hk.latched (by rw [hphase]; rfl) (by rw [hphase]; decide)
    obtain ⟨id, hv⟩ := Option.isSome_iff_exists.1 hlatched
    rw [← hp.vehicle, hseen, hid, hv]
    rfl
  · intro hgood before input outcome he
    exact poll_addresses hr hgood he

/-- A run in which the vehicle that is latched becomes ready. -/
theorem requests_address_snapshot_ready :
    ∃ h app, Ran flightOptions h app ∧
      (∃ outcome, newestOutcome h = some outcome ∧ outcome.startupActions ≠ []) ∧
      ((∀ before input outcome, ⟨before, .poll input, .poll outcome⟩ ∈ h →
        outcome.AddressesSnapshot) ↔ ∀ e ∈ h, pollsLatchedVehicle e) := by
  obtain ⟨h, app, hr, hs⟩ := ran_of_check flightOptions (readyFlight 1 0)
    (by decide) (fun h _ => (newestOutcome h).any fun outcome => !outcome.startupActions.isEmpty)
    (by decide +kernel)
  obtain ⟨outcome, ho, hany⟩ := (Option.any_eq_true _ _).1 hs
  refine ⟨h, app, hr, ⟨outcome, ho, ?_⟩, requests_address_snapshot hr⟩
  intro hnil
  rw [hnil] at hany
  cases hany

/-- A heartbeat of vehicle 2 is seen first, then vehicle 1 takes over the link and gets ready:
GUIDED mode is requested of vehicle 2 on the evidence about vehicle 1. -/
theorem request_to_other_vehicle :
    ∃ h app, Ran flightOptions h app ∧
      ∃ before input outcome, ⟨before, .poll input, .poll outcome⟩ ∈ h ∧
        ∃ a ∈ outcome.startupActions, outcome.vehicle.systemId = some 1 ∧
          a.vehicleSystemId = 2 := by
  obtain ⟨h, app, hr, hs⟩ := ran_of_check flightOptions
    (pollAt 0 [heartbeatFrom 2 2 0 0] :: readyFlight 1 1) (by decide)
    (fun h _ => (newestOutcome h).any fun outcome => outcome.startupActions.any fun a =>
      outcome.vehicle.systemId == some 1 && a.vehicleSystemId == 2) (by decide +kernel)
  obtain ⟨outcome, ho, hany⟩ := (Option.any_eq_true _ _).1 hs
  obtain ⟨before, input, he⟩ := newestOutcome_mem ho
  obtain ⟨a, ha, hk⟩ := List.any_eq_true.1 hany
  rw [Bool.and_eq_true, beq_iff_eq, beq_iff_eq] at hk
  exact ⟨h, app, hr, before, input, outcome, he, a, ha, hk⟩

end CompanionApplication
end OnboardAutonomy
