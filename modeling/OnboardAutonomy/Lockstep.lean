import OnboardAutonomy.ApplicationRuns
import OnboardAutonomy.StartupSteps
import OnboardAutonomy.RuntimeSteps

namespace OnboardAutonomy
open ExactDouble Histories
set_option autoImplicit true

namespace FlightStartupController

theorem moves_reported (hr : Reported (fun s request sent => onActionSent s request sent now) c
    actions c') : Moves c c' := by
  apply hr.keeps (P := fun d => Moves c d) _ (.refl c)
  intro d request sent hd
  exact hd.trans (moves_onActionSent d request sent now)

end FlightStartupController

/-- The phases the two state machines can be in at the same time. -/
structure InStep (s : FlightStartupPhase) (r : AutonomyRuntimePhase) : Prop where
  disabled : s = .disabled ↔ r = .disabled
  completed : r = .active ∨ r = .landing ∨ r = .completed → s = .completed
  failed : r = .failed → s = .completed ∨ s = .failed
  waiting : s.resting = false → r = .waitingForStartup

theorem InStep.startup_moves (h : InStep s r) (hrests : s.resting = true → s' = s)
    (henabled : s ≠ .disabled → s' ≠ .disabled) : InStep s' r := by
  by_cases hr : s.resting = true
  · rw [hrests hr]
    exact h
  · have hw := h.waiting (Bool.eq_false_iff.2 hr)
    have hs : s' ≠ .disabled := henabled fun he => hr (by rw [he]; rfl)
    rw [hw]
    exact ⟨⟨fun he => absurd he hs, fun he => by cases he⟩, fun he => by simp at he,
      fun he => (by cases he), fun _ => rfl⟩

theorem InStep.of_completed (hr : r = .active ∨ r = .landing ∨ r = .completed ∨ r = .failed) :
    InStep .completed r := by
  refine ⟨⟨fun he => (by cases he), ?_⟩, fun _ => rfl, fun _ => .inl rfl, fun he => by cases he⟩
  intro he
  rw [he] at hr
  simp at hr

theorem InStep.engaged (h : InStep s r) (hr : r.engaged = true) : s = .completed :=
  h.completed ((AutonomyRuntime.engaged_cases hr).imp_right .inl)

namespace AutonomyRuntime

/-- The runtime is in step with startup and waits for an acknowledgement only while active. -/
structure Steady (s : FlightStartupPhase) (r : AutonomyRuntime) : Prop where
  inStep : InStep s r.phase
  awaiting : r.awaitingLandAck = true → r.phase = .active

theorem Steady.fail (hs : s = .completed ∨ s = .failed) (r : AutonomyRuntime) (detail : String) :
    Steady s (r.fail detail) := by
  refine ⟨?_, fun h => absurd h Bool.false_ne_true⟩
  rcases hs with hs | hs
  · rw [hs]
    exact .of_completed (.inr (.inr (.inr rfl)))
  · rw [hs]
    exact ⟨⟨fun he => (by cases he), fun he => by cases he⟩,
      fun he => by simp [AutonomyRuntime.fail] at he,
      fun _ => .inr rfl, fun he => by cases he⟩

section Updates
variable {vehicle : VehicleSnapshot} {startup : FlightStartupSnapshot}
  {failsafe : CompanionLinkFailsafeSnapshot} {now : TimePoint}
  {landingTarget : Option BodyFramePosition}

theorem Steady.begun (h : Steady startup.phase r) (hb : Begun startup failsafe now r b) :
    startup.phase = .completed ∧ (b.awaitingLandAck = true → b.phase = .active) ∧
      b.config = r.config := by
  cases hb with
  | engaged he => exact ⟨h.inStep.engaged he, h.awaiting, rfl⟩
  | activated _ hs _ => exact ⟨hs, fun _ => rfl, rfl⟩

theorem Steady.updated (h : Steady startup.phase r)
    (hu : Updated vehicle startup failsafe now landingTarget r r' actions) :
    Steady startup.phase r' ∧ r'.config = r.config ∧
      (actions ≠ [] → startup.phase = .completed) := by
  cases hu with
  | rest _ => exact ⟨h, rfl, fun hn => absurd rfl hn⟩
  | wait detail _ _ => exact ⟨⟨h.inStep, h.awaiting⟩, rfl, fun hn => absurd rfl hn⟩
  | refuse detail _ hs => exact ⟨.fail hs.symm r detail, rfl, fun hn => absurd rfl hn⟩
  | abort systemId detail hb =>
    obtain ⟨hs, _, hc⟩ := h.begun hb
    exact ⟨.fail (.inl hs) _ detail, hc, fun hn => absurd rfl hn⟩
  | land hb hp _ _ =>
    obtain ⟨hs, ha, hc⟩ := h.begun hb
    refine ⟨⟨?_, ?_⟩, hc, fun hn => absurd rfl hn⟩
    · rw [hs]
      exact .of_completed (.inr (.inr (.inl rfl)))
    · intro hw
      have hactive := ha hw
      rw [hp] at hactive
      cases hactive
  | touchDown hb hp _ =>
    obtain ⟨hs, ha, hc⟩ := h.begun hb
    refine ⟨⟨?_, ha⟩, hc, fun hn => absurd rfl hn⟩
    rw [hs]
    exact .of_completed (.inr (.inl hp))
  | @act b _ _ hb _ _ hact =>
    obtain ⟨hs, ha, hc⟩ := h.begun hb
    have hphase := hb.phase
    have hacts := act_acts (r := { b with vehicleSystemId := vehicle.systemId }) rfl hact
    refine ⟨⟨?_, ?_⟩, hacts.config.trans hc, fun _ => hs⟩
    · rw [hs]
      apply InStep.of_completed
      rcases hacts.phase with hp | hp
      · rw [hp]
        exact (engaged_cases hphase).imp_right .inl
      · exact .inr (.inr (.inr hp))
    · intro hw
      obtain ⟨hp, hw | hw⟩ := hacts.awaiting hw
      · exact hp.trans (ha hw)
      · exact hp.trans hw

end Updates

theorem Steady.onActionSent (h : Steady .completed r) (request : FlightActionRequest) (sent : Bool)
    (now : TimePoint) :
    Steady .completed (r.onActionSent request sent now) ∧
      (r.onActionSent request sent now).config = r.config := by
  rcases r.onActionSent_cases request sent now with ⟨_, _, he⟩ | he | ⟨_, _, he | he⟩
  · rw [he]
    exact ⟨⟨h.inStep, h.awaiting⟩, rfl⟩
  · rw [he]
    exact ⟨h, rfl⟩
  · rw [he]
    exact ⟨⟨h.inStep, fun hw => absurd hw Bool.false_ne_true⟩, rfl⟩
  · rw [he]
    exact ⟨.fail (.inl rfl) r _, rfl⟩

theorem Steady.onCommandAck (h : Steady s r) (action : FlightAction)
    (outcome : FlightCommandAckOutcome) (rawResult source : UInt8) (now : TimePoint) :
    Steady s (r.onCommandAck action outcome rawResult source now) ∧
      (r.onCommandAck action outcome rawResult source now).config = r.config ∧
      (r.phase.resting = true →
        (r.onCommandAck action outcome rawResult source now).phase = r.phase) := by
  rcases r.onCommandAck_cases action outcome rawResult source now with
    ⟨_, he⟩ | ⟨ha, ho⟩
  · rw [he]
    exact ⟨h, rfl, fun _ => rfl⟩
  · have hactive := h.awaiting ((r.awaits_iff action source).1 ha).2.1
    have hs : s = .completed := h.inStep.completed (.inl hactive)
    have hrest : r.phase.resting = true →
        (r.onCommandAck action outcome rawResult source now).phase = r.phase := by
      intro hr
      rw [hactive] at hr
      cases hr
    refine ⟨?_, ?_, hrest⟩
    · rcases ho with ⟨_, he⟩ | ⟨_, he⟩ | ⟨_, detail, he⟩
      · rw [he, hs]
        exact ⟨.of_completed (.inr (.inl rfl)), fun hw => absurd hw Bool.false_ne_true⟩
      · rw [he]
        exact ⟨h.inStep, h.awaiting⟩
      · rw [he]
        exact .fail (.inl hs) _ detail
    · rcases ho with ⟨_, he⟩ | ⟨_, he⟩ | ⟨_, detail, he⟩ <;> rw [he] <;> rfl

theorem Steady.reported (h : Steady .completed r)
    (hr : Reported (fun (r : AutonomyRuntime) request sent => r.onActionSent request sent now) r
      actions r') :
    Steady .completed r' ∧ r'.config = r.config := by
  apply hr.keeps (P := fun q => Steady .completed q ∧ q.config = r.config) _ ⟨h, rfl⟩
  intro q request sent hq
  obtain ⟨hs, hc⟩ := hq.1.onActionSent request sent now
  exact ⟨hs, hc.trans hq.2⟩

end AutonomyRuntime

/-- The joint invariant of the two state machines and of what they were built with. -/
structure Lockstep (options : CompanionApplicationOptions) (c : Components) : Prop where
  steady : c.autonomyRuntime.Steady c.flightStartup.phase
  startupConfig : c.flightStartup.config = options.flightStartup
  runtimeConfig : c.autonomyRuntime.config = options.autonomyRuntime
  motionCommandsAllowed : c.motionCommandsAllowed = options.motionCommandsAllowed
  autonomyScenarioConfigured : c.autonomyScenarioConfigured =
    (options.flightStartup.enabled && options.autonomyRuntime.enabled)
  gated : options.motionCommandsAllowed = false → c.flightStartup.phase = .disabled

/-- What no call but a restart can do to the components. -/
structure Advances (c c' : Components) : Prop where
  startup : c.flightStartup.Moves c'.flightStartup
  runtime : c.autonomyRuntime.phase.resting = true →
    c'.autonomyRuntime.phase = c.autonomyRuntime.phase

namespace Lockstep
variable {options : CompanionApplicationOptions}

theorem built (h : Built options c) : Lockstep options c := by
  have hs := FlightStartupController.new_eq h.flightStartup
  have hr := AutonomyRuntime.new_eq h.autonomyRuntime
  have htogether := h.together
  have hsc : c.flightStartup.config = options.flightStartup := by
    rw [hs]
    split <;> rfl
  have hrc : c.autonomyRuntime.config = options.autonomyRuntime := by
    rw [hr]
    split <;> rfl
  have ha : c.autonomyRuntime.awaitingLandAck = false := by
    rw [hr]
    split <;> rfl
  have hrp : c.autonomyRuntime.phase = .disabled ∨
      c.autonomyRuntime.phase = .waitingForStartup := by
    rw [hr]
    split
    · rename_i he
      exact .inr (if_pos he)
    · exact .inl rfl
  refine ⟨⟨?_, fun hw => ?_⟩, hsc, hrc, h.motionCommandsAllowed, h.autonomyScenarioConfigured,
    h.gated⟩
  · rcases hrp with hp | hp
    · rw [hp, htogether.2 hp]
      exact ⟨⟨fun _ => rfl, fun _ => rfl⟩, fun he => by simp at he, fun he => (by cases he),
        fun he => by cases he⟩
    · rw [hp]
      refine ⟨⟨fun he => ?_, fun he => (by cases he)⟩, fun he => by simp at he,
        fun he => (by cases he), fun _ => rfl⟩
      rw [htogether.1 he] at hp
      cases hp
  · rw [ha] at hw
    cases hw

theorem received (h : Lockstep options c) (hr : c.Received m now c') :
    Lockstep options c' ∧ Advances c c' := by
  rcases hr.machines with ⟨hs, hq⟩ | ⟨action, outcome, rawResult, source, hs, hq⟩
  · refine ⟨⟨?_, ?_, ?_, hr.motionCommandsAllowed.trans h.motionCommandsAllowed,
      hr.autonomyScenarioConfigured.trans h.autonomyScenarioConfigured, ?_⟩, ?_, ?_⟩
    · rw [hs, hq]
      exact h.steady
    · rw [hs]
      exact h.startupConfig
    · rw [hq]
      exact h.runtimeConfig
    · rw [hs]
      exact h.gated
    · rw [hs]
      exact .refl _
    · rw [hq]
      exact fun _ => rfl
  · have hm := c.flightStartup.moves_onCommandAck action outcome rawResult source now
    obtain ⟨hst, hc, hrest⟩ := h.steady.onCommandAck action outcome rawResult source now
    rw [← hs] at hm
    rw [← hq] at hst hc hrest
    refine ⟨⟨⟨hst.inStep.startup_moves hm.rests hm.enabled, hst.awaiting⟩,
      hm.config.trans h.startupConfig, hc.trans h.runtimeConfig,
      hr.motionCommandsAllowed.trans h.motionCommandsAllowed,
      hr.autonomyScenarioConfigured.trans h.autonomyScenarioConfigured, ?_⟩, hm, hrest⟩
    intro ho
    have hd := h.gated ho
    rw [hm.rests (by rw [hd]; rfl), hd]

theorem startup_polled (hp : PollSteps c input c' outcome) :
    c.flightStartup.Moves c'.flightStartup := by
  obtain ⟨startup, hupdate, hreported⟩ := hp.startup
  have hu := c.flightStartup.moves_update outcome.vehicle
    (c'.telemetryConfigurator.snapshot.phase == .active) outcome.failsafe input.now
  rw [hupdate] at hu
  exact hu.trans (FlightStartupController.moves_reported hreported)

theorem steady_update (h : Lockstep options c) (hp : PollSteps c input c' outcome) :
    c.autonomyRuntime.Steady c'.flightStartup.snapshot.phase := by
  have hm := startup_polled hp
  exact ⟨h.steady.inStep.startup_moves hm.rests hm.enabled, h.steady.awaiting⟩

theorem polled (h : Lockstep options c) (hp : PollSteps c input c' outcome) :
    Lockstep options c' ∧ Advances c c' := by
  have hm := startup_polled hp
  have hstep := h.steady.inStep.startup_moves hm.rests hm.enabled
  have hgated (ho : options.motionCommandsAllowed = false) :
      c'.flightStartup.phase = .disabled := by
    have hd := h.gated ho
    rw [hm.rests (by rw [hd]; rfl), hd]
  have hmotion := hp.motionCommandsAllowed.trans h.motionCommandsAllowed
  have hconfigured := hp.autonomyScenarioConfigured.trans h.autonomyScenarioConfigured
  rcases hp.autonomy with ⟨_, hq⟩ | ⟨target, runtime, _, hu, hq⟩
  · refine ⟨⟨?_, hm.config.trans h.startupConfig, ?_, hmotion, hconfigured, hgated⟩, hm, ?_⟩
    · rw [hq]
      exact ⟨hstep, h.steady.awaiting⟩
    · rw [hq]
      exact h.runtimeConfig
    · rw [hq]
      exact fun _ => rfl
  · obtain ⟨hst, hc, hactions⟩ := (h.steady_update hp).updated (AutonomyRuntime.update_updated hu)
    have hfinal : c'.autonomyRuntime.Steady c'.flightStartup.phase ∧
        c'.autonomyRuntime.config = runtime.config := by
      cases hl : outcome.autonomyActions with
      | nil =>
        rw [hl] at hq
        cases hq
        exact ⟨hst, rfl⟩
      | cons a as =>
        have hcompleted : c'.flightStartup.phase = .completed := hactions (by rw [hl]; simp)
        have hst' : runtime.Steady .completed := hcompleted ▸ hst
        rw [hcompleted]
        exact hst'.reported hq
    refine ⟨⟨hfinal.1, hm.config.trans h.startupConfig,
      hfinal.2.trans (hc.trans h.runtimeConfig), hmotion, hconfigured, hgated⟩, hm, ?_⟩
    intro hr
    rw [AutonomyRuntime.update_resting _ hr] at hu
    obtain ⟨hr', hl⟩ := Prod.mk.inj hu
    rw [← hl] at hq
    cases hq
    rw [← hr']

theorem started (h : Lockstep options c) (hs : StartSteps c now c' answer) :
    Lockstep options c' := by
  cases hs with
  | refused _ _ =>
    exact ⟨h.steady, h.startupConfig, h.runtimeConfig, h.motionCommandsAllowed,
      h.autonomyScenarioConfigured, h.gated⟩
  | restarted hallowed hconfigured _ _ _ _ =>
    rw [h.autonomyScenarioConfigured, Bool.and_eq_true] at hconfigured
    have hsp : c.flightStartup.restart.phase = .waitingForVehicle := by
      rw [FlightStartupController.restart, h.startupConfig]
      exact if_pos hconfigured.1
    have hrp : c.autonomyRuntime.restart.phase = .waitingForStartup := by
      rw [AutonomyRuntime.restart, h.runtimeConfig]
      exact if_pos hconfigured.2
    refine ⟨⟨?_, fun hw => absurd hw Bool.false_ne_true⟩, h.startupConfig, h.runtimeConfig,
      h.motionCommandsAllowed, h.autonomyScenarioConfigured, ?_⟩
    · dsimp only
      rw [hsp, hrp]
      exact ⟨⟨fun he => (by cases he), fun he => by cases he⟩, fun he => by simp at he,
        fun he => (by cases he), fun _ => rfl⟩
    · intro ho
      rw [h.motionCommandsAllowed, ho] at hallowed
      cases hallowed

theorem camera (h : Lockstep options c) (m : Option CameraMonitor) :
    Lockstep options { c with cameraMonitor := m } :=
  ⟨h.steady, h.startupConfig, h.runtimeConfig, h.motionCommandsAllowed,
    h.autonomyScenarioConfigured, h.gated⟩

theorem observed (h : Lockstep options c) (s : VehicleState) :
    Lockstep options { c with vehicleState := s } :=
  ⟨h.steady, h.startupConfig, h.runtimeConfig, h.motionCommandsAllowed,
    h.autonomyScenarioConfigured, h.gated⟩

theorem kept : Kept options (Lockstep options) where
  built _ h := built h
  camera _ _ _ h := h.camera _
  received _ _ _ _ h hr := (h.received hr).1
  polled _ _ _ _ h hp := (h.polled hp).1
  started _ _ _ _ h hs := h.started hs
  observed _ _ h := h.observed _

end Lockstep

theorem Advances.trans (h : Advances c d) (k : Advances d e) : Advances c e := by
  refine ⟨h.startup.trans k.startup, ?_⟩
  intro hr
  have hd := h.runtime hr
  rw [← hd] at hr
  exact (k.runtime hr).trans hd

theorem Lockstep.step_advances {app : CompanionApplication}
    (h : Lockstep options app.toComponents) (call : AppCall)
    (hcall : ∀ now, call ≠ .requestAutonomyStart now) :
    Advances app.toComponents (app.step call).1.toComponents := by
  cases call with
  | poll input =>
    have hbegin : Lockstep options (app.toComponents.beginPoll input) ∧
        Advances app.toComponents (app.toComponents.beginPoll input) := by
      apply Components.ingest_induction
        (P := fun c => Lockstep options c ∧ Advances app.toComponents c)
      · intro c m hc
        obtain ⟨hl, ha⟩ := hc.1.received (c.receive_received m input.now)
        exact ⟨hl, hc.2.trans ha⟩
      · exact ⟨h.camera _, .refl _, fun _ => rfl⟩
    exact hbegin.2.trans (hbegin.1.polled (app.poll_steps input)).2
  | requestAutonomyStart now => exact absurd rfl (hcall now)
  | snapshot source detector now => exact ⟨.refl _, fun _ => rfl⟩

/-- A restart takes the startup back to where the constructor put it. -/
theorem Lockstep.restart_startup {c : Components} (h : Lockstep options c)
    (hnew : FlightStartupController.new options.flightStartup = .ok initial)
    (henabled : options.flightStartup.enabled = true) :
    c.flightStartup.restart.phase = .waitingForVehicle ∧
      FlightStartupController.new options.flightStartup = .ok c.flightStartup.restart := by
  have hinitial := FlightStartupController.new_eq hnew
  rw [if_pos henabled] at hinitial
  have hrestart : c.flightStartup.restart = initial := by
    rw [hinitial, FlightStartupController.restart, FlightStartupController.restart,
      h.startupConfig]
  rw [hrestart]
  refine ⟨?_, hnew⟩
  rw [hinitial]
  exact if_pos henabled

theorem Lockstep.restart_runtime {c : Components} (h : Lockstep options c)
    (hnew : AutonomyRuntime.new options.autonomyRuntime = .ok initial)
    (henabled : options.autonomyRuntime.enabled = true) :
    c.autonomyRuntime.restart.phase = .waitingForStartup ∧
      AutonomyRuntime.new options.autonomyRuntime = .ok c.autonomyRuntime.restart := by
  have hinitial := AutonomyRuntime.new_eq hnew
  rw [if_pos henabled] at hinitial
  have hrestart : c.autonomyRuntime.restart = initial := by
    rw [hinitial, AutonomyRuntime.restart, AutonomyRuntime.restart, h.runtimeConfig]
  rw [hrestart]
  refine ⟨?_, hnew⟩
  rw [hinitial]
  exact if_pos henabled

namespace CompanionApplication

/-- Startup and runtime stay in step along every run. A request to start is granted only when it
is safe, and then takes both machines back to where the constructor put them; refused, it leaves
them alone, and no other call takes a machine out of a phase it has ended in. -/
theorem machines_in_step {app : CompanionApplication} (hr : Ran options h app) :
    InStep app.flightStartup.phase app.autonomyRuntime.phase ∧
    (∀ now, (app.requestAutonomyStart now).2 = true →
      app.motionCommandsAllowed = true ∧ app.autonomyScenarioConfigured = true ∧
      (app.vehicleState.snapshot now).2.connected = true ∧
      (app.vehicleState.snapshot now).2.armed = false ∧
      app.finished = true ∧
      (app.requestAutonomyStart now).1.flightStartup.phase = .waitingForVehicle ∧
      (app.requestAutonomyStart now).1.autonomyRuntime.phase = .waitingForStartup ∧
      FlightStartupController.new options.flightStartup =
        .ok (app.requestAutonomyStart now).1.flightStartup ∧
      AutonomyRuntime.new options.autonomyRuntime =
        .ok (app.requestAutonomyStart now).1.autonomyRuntime) ∧
    (∀ now, (app.requestAutonomyStart now).2 = false →
      (app.requestAutonomyStart now).1.flightStartup = app.flightStartup ∧
      (app.requestAutonomyStart now).1.autonomyRuntime = app.autonomyRuntime) ∧
    (∀ call, (∀ now, call ≠ .requestAutonomyStart now) →
      (app.flightStartup.phase = .completed ∨ app.flightStartup.phase = .failed →
        (app.step call).1.flightStartup.phase = app.flightStartup.phase) ∧
      (app.autonomyRuntime.phase = .completed ∨ app.autonomyRuntime.phase = .failed →
        (app.step call).1.autonomyRuntime.phase = app.autonomyRuntime.phase)) := by
  have hlock := Lockstep.kept.reached hr
  obtain ⟨initial, hnew, _⟩ := hr
  have hbuilt := new_built hnew
  refine ⟨hlock.steady.inStep, ?_, ?_, ?_⟩
  · intro now hs
    have hsteps := app.requestAutonomyStart_steps now
    generalize (app.requestAutonomyStart now).1.toComponents = c' at hsteps ⊢
    rw [hs] at hsteps
    cases hsteps with
    | restarted hallowed hconfigured hconnected _ harmed hfinished =>
      have henabled := hconfigured
      rw [hlock.autonomyScenarioConfigured, Bool.and_eq_true] at henabled
      obtain ⟨hphase, hstartup⟩ := hlock.restart_startup hbuilt.flightStartup henabled.1
      obtain ⟨hphase', hruntime⟩ := hlock.restart_runtime hbuilt.autonomyRuntime henabled.2
      exact ⟨hallowed, hconfigured, hconnected, harmed, hfinished, hphase, hphase', hstartup,
        hruntime⟩
  · intro now hs
    have hsteps := app.requestAutonomyStart_steps now
    generalize (app.requestAutonomyStart now).1.toComponents = c' at hsteps ⊢
    rw [hs] at hsteps
    cases hsteps with
    | refused _ _ => exact ⟨rfl, rfl⟩
  · intro call hcall
    have hadvances := hlock.step_advances call hcall
    constructor
    · intro hp
      apply hadvances.startup.rests
      rcases hp with hp | hp <;> rw [hp] <;> rfl
    · intro hp
      apply hadvances.runtime
      rcases hp with hp | hp <;> rw [hp] <;> rfl

/-- A vehicle that is no multicopter ends both machines, and the operator may start again. -/
theorem machines_in_step_refused_vehicle :
    ∃ h app, Ran flightOptions h app ∧ (app.requestAutonomyStart (seconds 1)).2 = true ∧
      InStep app.flightStartup.phase app.autonomyRuntime.phase ∧ app.finished = true ∧
      (app.requestAutonomyStart (seconds 1)).1.flightStartup.phase = .waitingForVehicle := by
  obtain ⟨h, app, hr, hs⟩ := ran_of_check flightOptions
    [pollAt 0 [heartbeatFrom 1 1 0 0]] (by decide)
    (fun _ app => (app.requestAutonomyStart (seconds 1)).2) (by decide +kernel)
  obtain ⟨hstep, hstart, _, _⟩ := machines_in_step hr
  obtain ⟨_, _, _, _, hfinished, hphase, _⟩ := hstart (seconds 1) hs
  exact ⟨h, app, hr, hs, hstep, hfinished, hphase⟩

end CompanionApplication
end OnboardAutonomy
