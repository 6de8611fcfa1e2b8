import OnboardAutonomy.FlightCommands
import OnboardAutonomy.StartUp

namespace OnboardAutonomy
open Histories
set_option autoImplicit true

/-- Where the loop of `main` stands, or the status it returned. -/
inductive LoopStage where
  | head
  | keys
  | polling
  | showing
  | returned (status : Nat)
deriving DecidableEq

structure MainLoop where
  application : CompanionApplication
  nextSnapshot : TimePoint
  keepRunning : Bool := true
  autonomyFailed : Bool := false
  stage : LoopStage := .head

/-- What the loop does next, with what it meets. A signal is handled between any two steps. A poll
can meet an exception of the camera, the detector or the transport; then its input has the outcomes
of the writes before. -/
inductive LoopStep where
  | handleSignal
  | head
  | key (key : Char) (commandTime : TimePoint)
  | noKey
  | poll (input : PollInput)
  | pollThrows (input : PollInput) (message : String)
  | snapshot (now : TimePoint) (source : CameraSourceStatus) (detector : String)

def LoopStep.times : LoopStep → List TimePoint
  | .key _ commandTime => [commandTime]
  | .poll input | .pollThrows input _ => [input.cameraNow, input.now]
  | .snapshot now _ _ => [now]
  | .handleSignal | .head | .noKey => []

abbrev LoopEntry := Entry MainLoop LoopStep (Option AppReturn)

def snapshotInterval (options : CommandLineOptions) : Duration :=
  if options.jsonOutput then milliseconds options.snapshotIntervalMs.toNat
  else min (milliseconds options.snapshotIntervalMs.toNat) (milliseconds 100)

/-- A snapshot with which the program ends when it is asked to. -/
def endsProgram (options : CommandLineOptions) (s : AppSnapshot) : Bool :=
  options.exitAfterAutonomy && (s.autonomy.phase == .completed || s.autonomy.phase == .failed)

namespace MainLoop

/-- The loop goes on, or the program returns. -/
def proceed (loop : MainLoop) (stage : LoopStage) : MainLoop :=
  { loop with stage :=
      if loop.keepRunning then stage else .returned (if loop.autonomyFailed then 2 else 0) }

def pressed (loop : MainLoop) (key : Char) (commandTime : TimePoint) :
    MainLoop × Option AppReturn :=
  if key = 's' ∨ key = 'S' then
    let (application, started) := loop.application.requestAutonomyStart commandTime
    ({ loop with application := application, nextSnapshot := commandTime },
      some (.requestAutonomyStart started))
  else if key = 'q' ∨ key = 'Q' then ({ loop with keepRunning := false }, none)
  else (loop, none)

/-- An exception of the application ends the program. -/
def polled (loop : MainLoop) (input : PollInput) : MainLoop × Option AppReturn :=
  let (application, outcome) := loop.application.poll input
  ({ loop with
      application := application
      stage := if outcome.thrown.isSome then .returned 1 else .showing },
    some (.poll outcome))

/-- The frames before the exception are written; the program ends and the application with it. -/
def pollThrew (loop : MainLoop) (input : PollInput) (message : String) :
    MainLoop × Option AppReturn :=
  let written := (loop.application.poll input).2.written.take input.writes.length
  ({ loop with stage := .returned 1 }, some (.threw written message))

def shown (options : CommandLineOptions) (loop : MainLoop) (now : TimePoint)
    (source : CameraSourceStatus) (detector : String) : MainLoop × Option AppReturn :=
  if loop.nextSnapshot ≤ now then
    let (application, snapshot) := loop.application.snapshot source detector now
    let ends := endsProgram options snapshot
    ({ loop with
        application := application
        keepRunning := loop.keepRunning && !ends
        autonomyFailed :=
          if ends then snapshot.autonomy.phase == .failed else loop.autonomyFailed
        nextSnapshot := now + snapshotInterval options
        stage := .head },
      some (.snapshot snapshot))
  else ({ loop with stage := .head }, none)

def step (options : CommandLineOptions) (loop : MainLoop) :
    LoopStep → MainLoop × Option AppReturn
  | .handleSignal => ({ loop with keepRunning := false }, none)
  | .head => (loop.proceed .keys, none)
  | .key key commandTime => loop.pressed key commandTime
  | .noKey => (loop.proceed .polling, none)
  | .poll input => loop.polled input
  | .pollThrows input message => loop.pollThrew input message
  | .snapshot now source detector => loop.shown options now source detector

/-- Keys come in only while the console input is active. -/
def legal (active : Bool) (loop : MainLoop) : LoopStep → Bool
  | .handleSignal => !(loop.stage matches .returned _)
  | .head => loop.stage == .head
  | .key _ _ => active && loop.stage == .keys
  | .noKey => loop.stage == .keys
  | .poll _ | .pollThrows _ _ => loop.stage == .polling
  | .snapshot _ _ _ => loop.stage == .showing

/-- The runs of the loop from a time on, on a clock that never goes back. -/
def Ran (options : CommandLineOptions) (active : Bool) (startedAt : TimePoint)
    (application : CompanionApplication) (h : List LoopEntry) (loop : MainLoop) : Prop :=
  Run (step options)
    (fun h loop i => loop.legal active i = true ∧ Timed LoopStep.times h i ∧
      ∀ t ∈ i.times, startedAt ≤ t)
    { application := application, nextSnapshot := startedAt } h loop

end MainLoop

/-- The call of the application that a step of the loop makes and that comes to its end. -/
def applicationCall (e : LoopEntry) : Option AppEntry :=
  match e.input, e.output with
  | .key _ commandTime, some output =>
    some ⟨e.before.application, .requestAutonomyStart commandTime, output⟩
  | .poll input, some output => some ⟨e.before.application, .poll input, output⟩
  | .snapshot now source detector, some output =>
    some ⟨e.before.application, .snapshot source detector now, output⟩
  | _, _ => none

theorem applicationCall_times (h : applicationCall e = some e') :
    e'.input.times = e.input.times := by
  unfold applicationCall at h
  split at h
  · rename_i hinput _
    cases h
    rw [hinput]
    rfl
  · rename_i hinput _
    cases h
    rw [hinput]
    rfl
  · rename_i hinput _
    cases h
    rw [hinput]
    rfl
  · cases h

namespace MainLoop

/-- What the loop does with the application is a run of the application. -/
theorem Ran.application {application : CompanionApplication}
    (hr : MainLoop.Ran options active startedAt application h loop)
    (hnew : CompanionApplication.new applicationOptions = .ok application) :
    CompanionApplication.Ran applicationOptions (h.filterMap applicationCall)
      loop.application := by
  refine ⟨application, hnew, ?_⟩
  apply Run.project hr MainLoop.application applicationCall
  intro h loop i hl
  have htimed {call : AppCall} (hcall : call.times = i.times) :
      Timed AppCall.times (h.filterMap applicationCall) call :=
    hl.2.1.project hcall fun e _ e' he' => applicationCall_times he'
  cases i with
  | handleSignal => exact .inl ⟨rfl, rfl⟩
  | head => exact .inl ⟨rfl, rfl⟩
  | noKey => exact .inl ⟨rfl, rfl⟩
  | pollThrows input message => exact .inl ⟨rfl, rfl⟩
  | key key commandTime =>
    rw [step, pressed]
    split
    · exact .inr ⟨.requestAutonomyStart commandTime, htimed rfl, rfl, rfl⟩
    · split
      · exact .inl ⟨rfl, rfl⟩
      · exact .inl ⟨rfl, rfl⟩
  | poll input => exact .inr ⟨.poll input, htimed rfl, rfl, rfl⟩
  | snapshot now source detector =>
    rw [step, shown]
    split
    · exact .inr ⟨.snapshot source detector now, htimed rfl, rfl, rfl⟩
    · exact .inl ⟨rfl, rfl⟩

end MainLoop

/-- Start-up came as far as the main loop, with these options and this application. -/
structure Machine.Entered (machine : Machine) (arguments : List String)
    (options : CommandLineOptions) (applicationOptions : CompanionApplicationOptions)
    (application : CompanionApplication) : Prop where
  accepted : machine.beforeTransport arguments = .ok (some options)
  made : machine.makeParts options = .ok applicationOptions
  constructed : CompanionApplication.new applicationOptions = .ok application

theorem Machine.Entered.startUp {machine : Machine}
    (he : machine.Entered arguments options applicationOptions application) :
    (machine.startUp arguments).outcome = .ok (some application) := by
  simp only [Machine.startUp, he.accepted, he.made, he.constructed, Except.map]

theorem makeParts_startup {machine : Machine}
    (h : machine.makeParts options = .ok applicationOptions) :
    applicationOptions.flightStartup.enabled = options.autonomous := by
  obtain ⟨_, _, h⟩ := bind_ok.mp h
  obtain ⟨_, _, h⟩ := bind_ok.mp h
  obtain ⟨_, _, h⟩ := bind_ok.mp h
  obtain ⟨_, _, h⟩ := bind_ok.mp h
  obtain ⟨_, _, h⟩ := bind_ok.mp h
  cases h
  rfl

theorem Machine.Entered.autonomous {machine : Machine}
    (he : machine.Entered arguments options applicationOptions application)
    (henabled : applicationOptions.flightStartup.enabled = true) :
    given arguments .autonomous = true ∧ given arguments .sitl = true ∧
      effectiveTransport arguments = .udp := by
  obtain ⟨p, hp, rfl, _⟩ := Machine.beforeTransport_ok he.accepted
  obtain ⟨_, hudp, hsitl⟩ := Machine.beforeTransport_policy he.accepted
  have hauto : given arguments .autonomous = true := by
    rw [← (parseArguments_reading hp).autonomous, ← makeParts_startup he.made]
    exact henabled
  have hrequested : Machine.motionRequested arguments = true := by
    rw [Machine.motionRequested, hauto, Bool.true_or]
  exact ⟨hauto, hsitl hrequested, hudp (hsitl hrequested)⟩

/-- Where a command to the vehicle is written: in a program that was started for autonomous flight
towards a simulator over UDP, in a poll of a connected vehicle under an accepted policy for the loss
of the link. -/
structure Simulated (arguments : List String) (outcome : PollOutcome) : Prop where
  autonomous : given arguments .autonomous = true
  sitl : given arguments .sitl = true
  transport : effectiveTransport arguments = .udp
  connected : outcome.vehicle.connected = true
  accepted : outcome.failsafe.accepted = true

theorem Machine.Entered.simulated {machine : Machine} {application : CompanionApplication}
    (he : machine.Entered arguments options applicationOptions application)
    (hr : MainLoop.Ran options active startedAt application h loop)
    (ht : Timed LoopStep.times h (.poll input)) :
    ∀ a ∈ (loop.application.poll input).2.startupActions ++
        (loop.application.poll input).2.autonomyActions,
      Simulated arguments (loop.application.poll input).2 := by
  intro a ha
  obtain ⟨initial, hinit, hran⟩ := hr.application he.constructed
  have hcall : Timed AppCall.times (h.filterMap applicationCall) (.poll input) :=
    ht.project rfl fun e _ e' he' => applicationCall_times he'
  obtain ⟨henabled, hconnected, haccepted⟩ := CompanionApplication.requests_enabled
    ⟨initial, hinit, .next hran hcall⟩ List.mem_cons_self ha
  obtain ⟨hauto, hsitl, hudp⟩ := he.autonomous henabled
  exact ⟨hauto, hsitl, hudp, hconnected, haccepted⟩

/-- The program's main loop runs its application. Whatever the keys, signals, messages and devices
do, a poll that comes to its end writes the requests of its two state machines, and one that ends
with an exception the first of them; every command to the vehicle is a simulated one. -/
theorem commands_simulated {machine : Machine} {application : CompanionApplication}
    (he : machine.Entered arguments options applicationOptions application)
    (hr : MainLoop.Ran options active startedAt application h loop) :
    CompanionApplication.Ran applicationOptions (h.filterMap applicationCall)
      loop.application ∧
    (∀ before input outcome, ⟨before, .poll input, some (.poll outcome)⟩ ∈ h →
      flightActions outcome.written = outcome.startupActions ++ outcome.autonomyActions ∧
      ∀ a ∈ flightActions outcome.written, Simulated arguments outcome) ∧
    ∀ before input message written,
      ⟨before, .pollThrows input message, some (.threw written message)⟩ ∈ h →
        let outcome := (before.application.poll input).2
        written <+: outcome.written ∧
          flightActions written <+: outcome.startupActions ++ outcome.autonomyActions ∧
          ∀ a ∈ flightActions written, Simulated arguments outcome := by
  refine ⟨hr.application he.constructed, fun before input outcome hpoll => ?_,
    fun before input message written hpoll => ?_⟩
  · obtain ⟨_, _, hbefore, ⟨_, htimed, _⟩, hout⟩ := hr.reached hpoll
    have ho : outcome = (before.application.poll input).2 :=
      AppReturn.poll.inj (Option.some.inj hout)
    rw [ho, before.application.poll_actions input]
    exact ⟨rfl, he.simulated hbefore htimed⟩
  · obtain ⟨_, _, hbefore, ⟨_, htimed, _⟩, hout⟩ := hr.reached hpoll
    have hwritten : written <+: (before.application.poll input).2.written := by
      rw [(AppReturn.threw.inj (Option.some.inj hout)).1]
      exact List.take_prefix _ _
    have hactions := hwritten.filterMap fun frame => frame.1.request
    rw [← flightActions, ← flightActions, before.application.poll_actions input] at hactions
    exact ⟨hwritten, hactions, fun a ha => he.simulated hbefore htimed a (hactions.subset ha)⟩

section Flight

def simulator : Machine := { Machine.bench with cameraExtrinsics := fun _ => .ok alignedCamera }

def autonomousFlight : List String :=
  ["--sitl", "--autonomous", "--camera", "--apriltag", "--apriltag-size-mm", "300",
    "--camera-calibration", "calibration.json", "--camera-extrinsics", "extrinsics.json"]

/-- The steps of a turn without a key, up to its poll. -/
def turnTo (call : AppCall) : List LoopStep :=
  match call with
  | .poll input => [.snapshot input.cameraNow {} "", .head, .noKey, .poll input]
  | _ => []

def loopedFlight : List LoopStep := ((readyFlight 1 0).flatMap turnTo).tail

def commandsGuided : List LoopEntry → Bool
  | ⟨_, .poll _, some (.poll outcome)⟩ :: _ =>
    (flightActions outcome.written).any (·.action == .setGuidedMode)
  | _ => false

theorem commandsGuided_cons (hc : commandsGuided h = true) :
    ∃ before input outcome, ⟨before, .poll input, some (.poll outcome)⟩ ∈ h ∧
      ∃ a ∈ flightActions outcome.written, a.action = .setGuidedMode := by
  unfold commandsGuided at hc
  split at hc
  · obtain ⟨a, ha, hguided⟩ := List.any_eq_true.1 hc
    exact ⟨_, _, _, List.mem_cons_self, a, ha, beq_iff_eq.1 hguided⟩
  · cases hc

/-- Start-up comes to the loop with something a check accepts. -/
def Machine.enters (machine : Machine) (arguments : List String)
    (check : CommandLineOptions → CompanionApplication → Bool) : Bool :=
  match machine.beforeTransport arguments with
  | .ok (some options) =>
    match machine.makeParts options with
    | .ok applicationOptions =>
      match CompanionApplication.new applicationOptions with
      | .ok application => check options application
      | .error _ => false
    | .error _ => false
  | _ => false

theorem Machine.enters_entered {machine : Machine}
    (check : CommandLineOptions → CompanionApplication → Bool)
    (hc : machine.enters arguments check = true) :
    ∃ options applicationOptions application,
      machine.Entered arguments options applicationOptions application ∧
        check options application = true := by
  unfold Machine.enters at hc
  split at hc
  · rename_i options hoptions
    split at hc
    · rename_i applicationOptions hparts
      split at hc
      · rename_i application hnew
        exact ⟨options, applicationOptions, application, ⟨hoptions, hparts, hnew⟩, hc⟩
      · cases hc
    · cases hc
  · cases hc

theorem commands_simulated_guided :
    ∃ options applicationOptions application h loop before input outcome,
      simulator.Entered autonomousFlight options applicationOptions application ∧
      MainLoop.Ran options false 0 application h loop ∧
      ⟨before, .poll input, some (.poll outcome)⟩ ∈ h ∧
      ∃ a ∈ flightActions outcome.written, a.action = .setGuidedMode ∧
        given autonomousFlight .sitl = true ∧ effectiveTransport autonomousFlight = .udp := by
  obtain ⟨options, applicationOptions, application, he, hc⟩ := Machine.enters_entered
    (fun options application =>
      playable (MainLoop.step options) (MainLoop.legal false)
        { application := application, nextSnapshot := 0 } loopedFlight &&
      commandsGuided (play (MainLoop.step options) []
        { application := application, nextSnapshot := 0 } loopedFlight).1)
    (by decide +kernel : simulator.enters autonomousFlight _ = true)
  rw [Bool.and_eq_true] at hc
  have hr : MainLoop.Ran options false 0 application _ _ :=
    Run.start.play_checked hc.1 (by decide) (fun e he => absurd he List.not_mem_nil) (by decide)
  obtain ⟨before, input, outcome, hpoll, a, ha, hguided⟩ := commandsGuided_cons hc.2
  have hs := ((commands_simulated he hr).2.1 before input outcome hpoll).2 a ha
  exact ⟨options, applicationOptions, application, _, _, before, input, outcome, he, hr, hpoll, a,
    ha, hguided, hs.sitl, hs.transport⟩

end Flight

end OnboardAutonomy
