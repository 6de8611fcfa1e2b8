import OnboardAutonomy.LinkHistory

namespace OnboardAutonomy
open Histories
set_option autoImplicit true

/-- The parameter of the link-loss policy that a frame asks for. -/
def OutboundFrame.failsafeParameter : OutboundFrame → Option String
  | .parameterRequestRead _ name =>
    if name ∈ CompanionLinkFailsafe.parameterNames then some name else none
  | .companionHeartbeat _ | .setMessageInterval _ | .autopilotVersionRequest _
  | .flightAction _ => none

def reads (written : List (OutboundFrame × Bool)) : List String :=
  written.filterMap fun frame => frame.1.failsafeParameter

/-- How long after one parameter the next is asked for. -/
def patience (name : String) (accepted : Bool) : Duration :=
  if name ≠ "SYSID_MYGCS" then kFailsafeParameterSpacing
  else if accepted then kAcceptedFailsafeRefreshInterval
  else kRejectedFailsafeRetryInterval

namespace PollState

/-- A part of a poll that asks for no parameter of the policy. -/
structure Readless (p q : PollState) : Prop where
  index : q.app.failsafeParameterIndex = p.app.failsafeParameterIndex
  timer : q.app.nextFailsafeParameterRequest = p.app.nextFailsafeParameterRequest
  connected : q.app.vehicleWasConnected = p.app.vehicleWasConnected
  reads : reads q.written = reads p.written

theorem Readless.trans (h : Readless p q) (k : Readless q r) : Readless p r :=
  ⟨k.index.trans h.index, k.timer.trans h.timer, k.connected.trans h.connected,
    k.reads.trans h.reads⟩

theorem writeFrame_reads (p : PollState) (frame : OutboundFrame) (name detail : String)
    (now : TimePoint) :
    (p.writeFrame frame name detail now).1.app.toSchedule = p.app.toSchedule ∧
      reads (p.writeFrame frame name detail now).1.written =
        reads p.written ++ frame.failsafeParameter.toList := by
  simp only [writeFrame, OnboardAutonomy.reads, List.filterMap_append]
  constructor
  · split
    · rfl
    · rfl
  · cases hframe : frame.failsafeParameter with
    | none => simp only [List.filterMap_cons, hframe, List.filterMap_nil, Option.toList_none]
    | some parameter =>
      simp only [List.filterMap_cons, hframe, List.filterMap_nil, Option.toList_some]

theorem writeFrame_readless (p : PollState) {frame : OutboundFrame}
    (hf : frame.failsafeParameter = none) (name detail : String) (now : TimePoint) :
    Readless p (p.writeFrame frame name detail now).1 := by
  obtain ⟨hschedule, hreads⟩ := p.writeFrame_reads frame name detail now
  rw [hf, Option.toList_none, List.append_nil] at hreads
  exact ⟨congrArg Schedule.failsafeParameterIndex hschedule,
    congrArg Schedule.nextFailsafeParameterRequest hschedule,
    congrArg Schedule.vehicleWasConnected hschedule, hreads⟩

theorem scheduleHeartbeat_readless (p : PollState) (vehicle : VehicleSnapshot)
    (now : TimePoint) : Readless p (p.scheduleHeartbeat vehicle now) := by
  simp only [scheduleHeartbeat]
  split
  · exact ⟨rfl, rfl, rfl, rfl⟩
  · split
    · rename_i id _ _
      have hw := @writeFrame_readless p (.companionHeartbeat id) rfl "HEARTBEAT" "" now
      split
      · exact hw.trans ⟨rfl, rfl, rfl, rfl⟩
      · exact hw.trans ⟨rfl, rfl, rfl, rfl⟩
    · exact ⟨rfl, rfl, rfl, rfl⟩

theorem configureTelemetry_readless (p : PollState) (vehicle : VehicleSnapshot)
    (now : TimePoint) : Readless p (p.configureTelemetry vehicle now) := by
  simp only [configureTelemetry]
  split
  · exact ⟨rfl, rfl, rfl, rfl⟩
  · rename_i request hrequest
    have hset : Readless p { p with app := { p.app with telemetryConfigurator :=
        (p.app.telemetryConfigurator.update vehicle.connected vehicle.systemId now).1 } } :=
      ⟨rfl, rfl, rfl, rfl⟩
    exact (hset.trans (@writeFrame_readless _ (.setMessageInterval request) rfl _ _ now)).trans
      ⟨rfl, rfl, rfl, rfl⟩

theorem requestAutopilotVersion_readless (p : PollState) (vehicle : VehicleSnapshot)
    (telemetryReady : Bool) (now : TimePoint) :
    Readless p (p.requestAutopilotVersion vehicle telemetryReady now) := by
  simp only [requestAutopilotVersion]
  split
  · split
    · exact ⟨rfl, rfl, rfl, rfl⟩
    · exact (p.writeFrame_readless rfl _ _ now).trans ⟨rfl, rfl, rfl, rfl⟩
  · exact ⟨rfl, rfl, rfl, rfl⟩

theorem requestArmingVoltage_readless (p : PollState) (vehicle : VehicleSnapshot)
    (telemetryReady : Bool) (now : TimePoint) :
    Readless p (p.requestArmingVoltage vehicle telemetryReady now) := by
  simp only [requestArmingVoltage]
  split
  · split
    · exact ⟨rfl, rfl, rfl, rfl⟩
    · rename_i id _ _
      have hother : (OutboundFrame.parameterRequestRead id "BATT_ARM_VOLT").failsafeParameter =
          none := by rw [OutboundFrame.failsafeParameter, if_neg (by decide)]
      exact (p.writeFrame_readless hother _ _ now).trans ⟨rfl, rfl, rfl, rfl⟩
  · exact ⟨rfl, rfl, rfl, rfl⟩

theorem sendActions_readless (p : PollState) (actions : List FlightActionRequest)
    (report : FlightActionRequest → CompanionApplication → Bool → CompanionApplication)
    (hreport : ∀ request app sent, (report request app sent).toSchedule = app.toSchedule)
    (now : TimePoint) :
    Readless p (actions.foldl (fun p request => p.sendAction request (report request) now) p) := by
  induction actions generalizing p with
  | nil => exact ⟨rfl, rfl, rfl, rfl⟩
  | cons request actions ih =>
    have hw := @writeFrame_readless p (.flightAction request) rfl
      (flightActionMessageName request.action) (flightActionName request.action) now
    have hr := hreport request (p.writeFrame (.flightAction request)
      (flightActionMessageName request.action) (flightActionName request.action) now).1.app
      (p.writeFrame (.flightAction request) (flightActionMessageName request.action)
        (flightActionName request.action) now).2
    have hs : Readless p (p.sendAction request (report request) now) :=
      hw.trans ⟨congrArg Schedule.failsafeParameterIndex hr,
        congrArg Schedule.nextFailsafeParameterRequest hr,
        congrArg Schedule.vehicleWasConnected hr, rfl⟩
    exact hs.trans (ih _)

/-- What a poll does about the parameters, from their place in the list and their timer. -/
inductive Asks (p q : PollState) (vehicle : VehicleSnapshot) (telemetryReady : Bool)
    (now : TimePoint) : Prop where
  | waits : ¬(telemetryReady = true ∧ vehicle.systemId.isSome = true ∧
      p.app.nextFailsafeParameterRequest ≤ now) → Readless p q → Asks p q vehicle telemetryReady now
  | asks (name : String) : telemetryReady = true → vehicle.systemId.isSome = true →
      p.app.nextFailsafeParameterRequest ≤ now →
      CompanionLinkFailsafe.parameterNames[p.app.failsafeParameterIndex]? = some name →
      q.app.failsafeParameterIndex = (p.app.failsafeParameterIndex + 1) % 4 →
      q.app.nextFailsafeParameterRequest =
        now + patience name p.app.companionLinkFailsafe.snapshot.accepted →
      q.app.vehicleWasConnected = p.app.vehicleWasConnected →
      reads q.written = reads p.written ++ [name] → Asks p q vehicle telemetryReady now

theorem parameter_at (h : k < 4) : ∃ name, CompanionLinkFailsafe.parameterNames[k]? = some name ∧
    name ∈ CompanionLinkFailsafe.parameterNames ∧ (name = "SYSID_MYGCS" ↔ k = 3) := by
  match k with
  | 0 => exact ⟨"FS_GCS_ENABLE", rfl, by decide, by decide⟩
  | 1 => exact ⟨"FS_GCS_TIMEOUT", rfl, by decide, by decide⟩
  | 2 => exact ⟨"FS_OPTIONS", rfl, by decide, by decide⟩
  | 3 => exact ⟨"SYSID_MYGCS", rfl, by decide, by decide⟩
  | k + 4 => exact absurd h (by omega)

theorem requestFailsafeParameter_asks (p : PollState) (vehicle : VehicleSnapshot)
    (telemetryReady : Bool) (now : TimePoint) (hindex : p.app.failsafeParameterIndex < 4) :
    Asks p (p.requestFailsafeParameter vehicle telemetryReady now) vehicle telemetryReady now := by
  simp only [requestFailsafeParameter]
  split
  · rename_i id hid
    split
    · rename_i hearly
      exact .waits (fun h => Int.not_le.2 hearly h.2.2) ⟨rfl, rfl, rfl, rfl⟩
    · rename_i hlate
      obtain ⟨name, hname, hmem, hlast⟩ := parameter_at hindex
      have hget : CompanionLinkFailsafe.parameterNames[p.app.failsafeParameterIndex]?.getD "" =
          name := by rw [hname]; rfl
      rw [hget]
      obtain ⟨hschedule, hreads⟩ := p.writeFrame_reads (.parameterRequestRead id name)
        "PARAM_REQUEST_READ" name now
      have hasks : (OutboundFrame.parameterRequestRead id name).failsafeParameter = some name :=
        if_pos hmem
      have hkept := p.writeFrame_components (.parameterRequestRead id name)
        "PARAM_REQUEST_READ" name now
      rw [hasks] at hreads
      have hfour : CompanionLinkFailsafe.parameterNames.length = 4 := rfl
      have hwas := congrArg Schedule.vehicleWasConnected hschedule
      have hat := congrArg Schedule.failsafeParameterIndex hschedule
      have hpolicy := congrArg Components.companionLinkFailsafe hkept
      split
      · rename_i hend
        have hthree : p.app.failsafeParameterIndex = 3 := by
          dsimp only [recordOutcome] at hend
          omega
        refine .asks name rfl (by rw [hid]; rfl) (Int.not_lt.1 hlate) hname ?_ ?_ hwas hreads
        · rw [hthree]
        · rw [patience, if_neg (not_not.2 (hlast.2 hthree))]
          simp only [recordOutcome, hpolicy]
      · rename_i hmore
        have hless : p.app.failsafeParameterIndex + 1 < 4 := by
          dsimp only [recordOutcome] at hmore
          omega
        refine .asks name rfl (by rw [hid]; rfl) (Int.not_lt.1 hlate) hname ?_ ?_ hwas hreads
        · rw [Nat.mod_eq_of_lt hless]
          exact congrArg (· + 1) hat
        · rw [patience, if_pos fun hend => by rw [hlast.1 hend] at hless; omega]
  · rename_i hnone
    refine .waits (fun h => ?_) ⟨rfl, rfl, rfl, rfl⟩
    obtain ⟨id, hid⟩ := Option.isSome_iff_exists.1 h.2.1
    exact hnone id h.1 hid

theorem Asks.around {q r : PollState} (ha : Asks q r vehicle telemetryReady now)
    (h : Readless p q)
    (hpolicy : q.app.companionLinkFailsafe = p.app.companionLinkFailsafe) (k : Readless r s) :
    Asks p s vehicle telemetryReady now := by
  cases ha with
  | waits hnot hr =>
    rw [h.timer] at hnot
    exact .waits hnot ((h.trans hr).trans k)
  | asks name hready hid hdue hname hnext htimer hwas hreads =>
    rw [h.timer] at hdue
    rw [h.index] at hname hnext
    rw [hpolicy] at htimer
    rw [h.reads] at hreads
    exact .asks name hready hid hdue hname (k.index.trans hnext) (k.timer.trans htimer)
      (k.connected.trans (hwas.trans h.connected)) (k.reads.trans hreads)

end PollState

theorem telemetry_active {c : TelemetryStreamConfigurator} {id : Option UInt8}
    (h : ((c.update connected id now).1.snapshot.phase == .active) = true) :
    connected = true ∧ id.isSome = true := by
  unfold TelemetryStreamConfigurator.update at h
  split at h
  · exact ⟨rfl, rfl⟩
  · cases h

namespace CompanionApplication

theorem receive_schedule (app : CompanionApplication) (m : MavlinkMessage) (now : TimePoint) :
    (app.receive m now).toSchedule = app.toSchedule := by
  have hparameter (app : CompanionApplication) (parameter : ParameterValue) :
      (app.onParameterValue parameter now).toSchedule = app.toSchedule := by
    simp only [onParameterValue]
    split
    · rfl
    · rfl
  have hlog (app : CompanionApplication) (ack : CommandAck) :
      (app.logCommandAck ack now).toSchedule = app.toSchedule := by
    simp only [logCommandAck]
    split
    · rfl
    · rfl
  have hack (app : CompanionApplication) (ack : CommandAck) :
      (app.onCommandAck ack now).toSchedule = app.toSchedule := by
    simp only [onCommandAck]
    split
    · exact hlog app ack
    · split
      · exact hlog app ack
      · exact hlog app ack
  simp only [receive]
  cases m.acknowledgement with
  | none =>
    cases m.parameterValue with
    | none => rfl
    | some parameter => exact hparameter _ parameter
  | some ack =>
    cases m.parameterValue with
    | none => exact hack _ ack
    | some parameter => exact (hack _ ack).trans (hparameter _ parameter)

theorem ingest_schedule (app : CompanionApplication) (messages : List MavlinkMessage)
    (now : TimePoint) : (app.ingest messages now).toSchedule = app.toSchedule := by
  induction messages generalizing app with
  | nil => rfl
  | cons m messages ih => exact (ih (app.receive m now)).trans (app.receive_schedule m now)

/-- The vehicle was not there in the poll before. -/
def connecting (app : CompanionApplication) (vehicle : VehicleSnapshot) : Bool :=
  vehicle.connected && !app.vehicleWasConnected

theorem observeVehicle_schedule (app : CompanionApplication) (vehicle : VehicleSnapshot)
    (now : TimePoint) :
    (app.observeVehicle vehicle now).vehicleWasConnected = vehicle.connected ∧
      (app.observeVehicle vehicle now).failsafeParameterIndex = app.failsafeParameterIndex ∧
      (app.observeVehicle vehicle now).nextFailsafeParameterRequest =
        app.nextFailsafeParameterRequest := by
  rw [observeVehicle]
  cases hconnected : vehicle.connected with
  | false =>
    rw [if_pos (by decide : (!false) = true)]
    dsimp only [recordInbound]
    split <;> exact ⟨rfl, rfl, rfl⟩
  | true =>
    rw [if_neg (by decide : ¬(!true) = true)]
    cases hwas : app.vehicleWasConnected with
    | false => exact ⟨rfl, rfl, rfl⟩
    | true =>
      rw [if_neg (by decide : ¬(!true) = true)]
      dsimp only [recordInbound]
      split <;> split <;> split <;> (try split) <;> (try split) <;> (try split) <;>
        exact ⟨hwas, rfl, rfl⟩

theorem observe_schedule (app : CompanionApplication) (vehicle : VehicleSnapshot)
    (now : TimePoint) :
    (app.observe vehicle now).vehicleWasConnected = vehicle.connected ∧
      (app.observe vehicle now).failsafeParameterIndex =
        (if app.connecting vehicle then 0 else app.failsafeParameterIndex) ∧
      (app.observe vehicle now).nextFailsafeParameterRequest =
        if app.connecting vehicle then now else app.nextFailsafeParameterRequest := by
  by_cases hc : app.connecting vehicle = true
  · have hnew : (vehicle.connected && !app.vehicleWasConnected) = true := hc
    rw [if_pos hc, if_pos hc]
    simp only [observe, if_pos hnew]
    exact observeVehicle_schedule _ vehicle now
  · have hold : ¬(vehicle.connected && !app.vehicleWasConnected) = true := hc
    rw [if_neg hc, if_neg hc]
    simp only [observe, if_neg hold]
    exact observeVehicle_schedule _ vehicle now

/-- What a poll does about the parameters. A vehicle that appears is asked from the first one at
once. -/
inductive Polls (app : CompanionApplication) (input : PollInput) (index : Nat)
    (due : TimePoint) : Prop where
  | waits : ¬((app.poll input).1.telemetryConfigurator.snapshot.phase = .active ∧
      due ≤ input.now) → reads (app.poll input).2.written = [] →
      (app.poll input).1.failsafeParameterIndex = index →
      (app.poll input).1.nextFailsafeParameterRequest = due → Polls app input index due
  | asks (name : String) : (app.poll input).1.telemetryConfigurator.snapshot.phase = .active →
      due ≤ input.now → CompanionLinkFailsafe.parameterNames[index]? = some name →
      reads (app.poll input).2.written = [name] →
      (app.poll input).1.failsafeParameterIndex = (index + 1) % 4 →
      (app.poll input).1.nextFailsafeParameterRequest =
        input.now + patience name (app.poll input).2.failsafe.accepted → Polls app input index due

theorem serveLink_asks (p : PollState) (vehicle : VehicleSnapshot) (now : TimePoint)
    (hindex : p.app.failsafeParameterIndex < 4) :
    PollState.Asks p (serveLink p vehicle now).1 vehicle (serveLink p vehicle now).2 now := by
  have hset : PollState.Readless p ((p.scheduleHeartbeat vehicle now).configureTelemetry vehicle
      now) :=
    (p.scheduleHeartbeat_readless vehicle now).trans (PollState.configureTelemetry_readless _ _ now)
  have hpolicy : ((p.scheduleHeartbeat vehicle now).configureTelemetry vehicle
      now).app.companionLinkFailsafe = p.app.companionLinkFailsafe := by
    rw [PollState.configureTelemetry_components, PollState.scheduleHeartbeat_components]
  have hasks := PollState.requestFailsafeParameter_asks _ vehicle
    (serveLink p vehicle now).2 now (hset.index ▸ hindex)
  exact hasks.around hset hpolicy ((PollState.requestAutopilotVersion_readless _ _ _ now).trans
    (PollState.requestArmingVoltage_readless _ _ _ now))

theorem updateStartup_readless (p : PollState) (vehicle : VehicleSnapshot) (telemetryReady : Bool)
    (now : TimePoint) :
    PollState.Readless p (updateStartup p vehicle telemetryReady now).1 := by
  have hset : PollState.Readless p { p with app.flightStartup :=
      (p.app.flightStartup.update vehicle telemetryReady p.app.companionLinkFailsafe.snapshot
        now).1 } := ⟨rfl, rfl, rfl, rfl⟩
  exact hset.trans (PollState.sendActions_readless _ _ (fun request app sent =>
    { app with flightStartup := app.flightStartup.onActionSent request sent now })
    (fun _ _ _ => rfl) now)

theorem updateAutonomy_readless {p q : PollState}
    (h : updateAutonomy p vehicle now = .ok (q, actions)) : PollState.Readless p q := by
  rw [updateAutonomy] at h
  split at h
  · cases h
  · rename_i target _
    cases h
    have hset : PollState.Readless p { p with app.autonomyRuntime :=
        (p.app.autonomyRuntime.update vehicle p.app.flightStartup.snapshot
          p.app.companionLinkFailsafe.snapshot now target).1 } := ⟨rfl, rfl, rfl, rfl⟩
    exact hset.trans (PollState.sendActions_readless _ _ (fun request app sent =>
      { app with autonomyRuntime := app.autonomyRuntime.onActionSent request sent now })
      (fun _ _ _ => rfl) now)

theorem observed_schedule (app : CompanionApplication) (input : PollInput) :
    ((app.beginPoll input).observed input.now).1.vehicleWasConnected =
        ((app.beginPoll input).observed input.now).2.connected ∧
      ((app.beginPoll input).observed input.now).1.failsafeParameterIndex =
        (if app.connecting ((app.beginPoll input).observed input.now).2 then 0
          else app.failsafeParameterIndex) ∧
      ((app.beginPoll input).observed input.now).1.nextFailsafeParameterRequest =
        if app.connecting ((app.beginPoll input).observed input.now).2 then input.now
          else app.nextFailsafeParameterRequest := by
  have hbegin : (app.beginPoll input).toSchedule = app.toSchedule := ingest_schedule _ _ _
  have hconnecting (vehicle : VehicleSnapshot) :
      (app.beginPoll input).connecting vehicle = app.connecting vehicle :=
    congrArg (fun s : Schedule => vehicle.connected && !s.vehicleWasConnected) hbegin
  rw [← hconnecting, ← congrArg Schedule.failsafeParameterIndex hbegin,
    ← congrArg Schedule.nextFailsafeParameterRequest hbegin]
  exact observe_schedule _ _ _

theorem poll_served (app : CompanionApplication) (input : PollInput)
    (hserved : serveLink
      { app := ((app.beginPoll input).observed input.now).1, writes := input.writes }
      ((app.beginPoll input).observed input.now).2 input.now = (served, ready)) :
    ready = ((app.poll input).1.telemetryConfigurator.snapshot.phase == .active) ∧
      ((app.beginPoll input).observed input.now).1.companionLinkFailsafe.snapshot =
        (app.poll input).2.failsafe := by
  have hsteps := app.poll_steps input
  rw [← app.beginPoll_components input] at hsteps
  have hvehicle : (app.poll input).2.vehicle = ((app.beginPoll input).observed input.now).2 :=
    hsteps.vehicle
  have hseen := (app.beginPoll input).observed_components input.now
  obtain ⟨hlink, hready⟩ := serveLink_components
    { app := ((app.beginPoll input).observed input.now).1, writes := input.writes }
    ((app.beginPoll input).observed input.now).2 input.now
  rw [hserved, hseen] at hlink
  rw [hserved] at hready
  constructor
  · refine hready.trans ?_
    rw [hlink, hsteps.telemetry, hvehicle]
  · rw [hseen, hsteps.failsafe, hsteps.companionLinkFailsafe, hvehicle]

theorem poll_asks (app : CompanionApplication) (input : PollInput)
    (hindex : app.failsafeParameterIndex < 4) :
    (app.poll input).1.vehicleWasConnected = (app.poll input).2.vehicle.connected ∧
      app.Polls input
        (if app.connecting (app.poll input).2.vehicle then 0 else app.failsafeParameterIndex)
        (if app.connecting (app.poll input).2.vehicle then input.now
          else app.nextFailsafeParameterRequest) := by
  obtain ⟨served, ready, started, ended, hserved, hstarted, hended, happ, hwritten, hvehicle,
    hfailsafe⟩ := app.poll_parts input
  obtain ⟨hwas, hat, hdue⟩ := app.observed_schedule input
  have hstart : PollState.Readless served started := by
    rw [hstarted]
    exact updateStartup_readless _ _ _ _
  have hend : PollState.Readless served ended := by
    rcases hended with rfl | ⟨actions, ha⟩
    · exact hstart
    · exact hstart.trans (updateAutonomy_readless ha)
  obtain ⟨hready, hpolicy⟩ := app.poll_served input hserved
  rw [← hvehicle] at hwas hat hdue
  have hsmall : ((app.beginPoll input).observed input.now).1.failsafeParameterIndex < 4 := by
    rw [hat]
    split
    · decide
    · exact hindex
  have hasks := serveLink_asks
    { app := ((app.beginPoll input).observed input.now).1, writes := input.writes }
    ((app.beginPoll input).observed input.now).2 input.now hsmall
  rw [hserved] at hasks
  rw [← hat, ← hdue, ← hwas]
  cases hasks with
  | waits hnot hr =>
    have hall := hr.trans hend
    refine ⟨?_, .waits ?_ ?_ ?_ ?_⟩
    · rw [happ]
      exact hall.connected
    · rintro ⟨hphase, hle⟩
      have hactive : ((app.poll input).1.telemetryConfigurator.snapshot.phase == .active) = true :=
        beq_iff_eq.2 hphase
      have hid := hactive
      rw [(app.poll_steps input).telemetry, hvehicle] at hid
      exact hnot ⟨hready.trans hactive, (telemetry_active hid).2, hle⟩
    · rw [hwritten]
      exact hall.reads
    · rw [happ]
      exact hall.index
    · rw [happ]
      exact hall.timer
  | asks name hr hid hle hname hnext htimer hconnected hreads =>
    refine ⟨?_, .asks name ?_ hle hname ?_ ?_ ?_⟩
    · rw [happ]
      exact hend.connected.trans hconnected
    · exact beq_iff_eq.1 (hready.symm.trans hr)
    · rw [hwritten]
      exact hend.reads.trans hreads
    · rw [happ]
      exact hend.index.trans hnext
    · rw [happ, ← hpolicy]
      exact hend.timer.trans htimer

theorem requestAutonomyStart_schedule (app : CompanionApplication) (now : TimePoint) :
    (app.requestAutonomyStart now).1.toSchedule = app.toSchedule := by
  simp only [requestAutonomyStart]
  split
  · rfl
  split
  · rfl
  split
  · rfl
  split
  · rfl
  split
  · rfl
  · rfl

end CompanionApplication

/-- A parameter that a poll asked for, and whether the policy was accepted by then. -/
structure ParameterRead where
  time : TimePoint
  name : String
  accepted : Bool

/-- When the parameter after it is asked for. -/
def ParameterRead.due (r : ParameterRead) : TimePoint := r.time + patience r.name r.accepted

def polledIn (e : AppEntry) : Option (PollInput × PollOutcome) :=
  match e.input, e.output with
  | .poll input, .poll outcome => some (input, outcome)
  | _, _ => none

def readsOf (e : AppEntry) : List ParameterRead :=
  match polledIn e with
  | some (input, outcome) =>
    (reads outcome.written).map fun name => ⟨input.now, name, outcome.failsafe.accepted⟩
  | none => []

/-- The vehicle was there in the last poll. -/
def seenIn : List AppEntry → Bool
  | [] => false
  | e :: h =>
    match polledIn e with
    | some (_, outcome) => outcome.vehicle.connected
    | none => seenIn h

/-- The time at which a vehicle appears that was not there in the poll before. -/
def appearsAt (e : AppEntry) (h : List AppEntry) : Option TimePoint :=
  match polledIn e with
  | some (input, outcome) =>
    if outcome.vehicle.connected && !seenIn h then some input.now else none
  | none => none

/-- What was asked for since the vehicle last appeared, newest first. -/
def readsSince : List AppEntry → List ParameterRead
  | [] => []
  | e :: h => readsOf e ++ if (appearsAt e h).isSome then [] else readsSince h

/-- Each parameter has its turn after the one before it, and not earlier than it is due. -/
inductive InTurn : List ParameterRead → Prop where
  | nil : InTurn []
  | cons : InTurn rs → CompanionLinkFailsafe.parameterNames[rs.length % 4]? = some r.name →
      (∀ last ∈ rs.head?, last.due ≤ r.time) → InTurn (r :: rs)

/-- When the next parameter is asked for. -/
def nextDue : List AppEntry → TimePoint
  | [] => 0
  | e :: h =>
    match readsOf e with
    | r :: _ => r.due
    | [] => (appearsAt e h).getD (nextDue h)

theorem nextDue_read (hreads : readsSince h = r :: rs) : nextDue h = r.due := by
  induction h with
  | nil => cases hreads
  | cons e h ih =>
    rw [readsSince] at hreads
    rw [nextDue]
    cases he : readsOf e with
    | cons r' rs' =>
      rw [he] at hreads
      cases hreads
      rfl
    | nil =>
      rw [he, List.nil_append] at hreads
      cases ha : appearsAt e h with
      | some t =>
        rw [ha] at hreads
        cases hreads
      | none =>
        rw [ha] at hreads
        exact ih hreads

theorem seen_since (hseen : seenIn (e :: h) = true) :
    (appearsAt e h = none ∧ seenIn h = true) ∨ ∃ t ∈ e.input.times, appearsAt e h = some t := by
  rw [seenIn] at hseen
  rw [appearsAt]
  cases hp : polledIn e with
  | none =>
    rw [hp] at hseen
    exact .inl ⟨rfl, hseen⟩
  | some polled =>
    obtain ⟨input, outcome⟩ := polled
    rw [hp] at hseen
    dsimp only at hseen ⊢
    rw [hseen, Bool.true_and]
    cases hbefore : seenIn h with
    | true => exact .inl ⟨rfl, rfl⟩
    | false =>
      refine .inr ⟨input.now, ?_, rfl⟩
      unfold polledIn at hp
      split at hp
      · rename_i hinput _
        rw [hinput]
        cases hp
        exact List.mem_cons_of_mem _ List.mem_cons_self
      · cases hp

theorem nextDue_unread (hseen : seenIn h = true) (hreads : readsSince h = [])
    (hnow : Past h now) : nextDue h ≤ now := by
  induction h with
  | nil => cases hseen
  | cons e h ih =>
    rw [readsSince, List.append_eq_nil_iff] at hreads
    rw [nextDue, hreads.1]
    rcases seen_since hseen with ⟨ha, hbefore⟩ | ⟨t, ht, ha⟩
    · rw [ha] at hreads ⊢
      exact ih hbefore hreads.2 fun e' he' => hnow e' (List.mem_cons_of_mem _ he')
    · rw [ha]
      exact hnow e List.mem_cons_self t ht

/-- The application knows where it is in the list and when it asks again. -/
structure Asked (h : List AppEntry) (app : CompanionApplication) : Prop where
  seen : app.vehicleWasConnected = seenIn h
  index : app.failsafeParameterIndex = (readsSince h).length % 4
  due : app.nextFailsafeParameterRequest = nextDue h

/-- After a poll that has the telemetry of the vehicle, the next parameter is not due yet; without
telemetry nothing is asked for. -/
def UpToDate (h : List AppEntry) : Prop :=
  ∀ before input outcome older, h = ⟨before, .poll input, .poll outcome⟩ :: older →
    if (before.poll input).1.telemetryConfigurator.snapshot.phase = .active then
      ∃ r rs, readsSince h = r :: rs ∧ input.now < r.due
    else reads outcome.written = []

theorem patience_pos (name : String) (accepted : Bool) : 0 < patience name accepted := by
  rw [patience]
  split
  · decide
  · split
    · decide
    · decide

theorem readsSince_other (he : polledIn e = none) : readsSince (e :: h) = readsSince h := by
  rw [readsSince, readsOf, appearsAt, he]
  rfl

theorem Asked.other {app' : CompanionApplication} (ha : Asked h app) (he : polledIn e = none)
    (hs : app'.toSchedule = app.toSchedule) : Asked (e :: h) app' where
  seen := by
    rw [hs, ha.seen, seenIn, he]
  index := by
    rw [hs, ha.index, readsSince_other he]
  due := by
    rw [hs, ha.due, nextDue, readsOf, appearsAt, he]
    rfl

theorem InTurn.other (ht : InTurn (readsSince h)) (he : polledIn e = none) :
    InTurn (readsSince (e :: h)) := by
  rw [readsSince_other he]
  exact ht

theorem UpToDate.other (he : polledIn e = none) : UpToDate (e :: h) := by
  intro before input outcome older hcons
  rw [(List.cons.inj hcons).1] at he
  cases he

/-- The parameters a poll goes on from: none when the vehicle appears in it. -/
structure GoesOn (h : List AppEntry) (e : AppEntry) (input : PollInput) (outcome : PollOutcome)
    (rs : List ParameterRead) (due : TimePoint) : Prop where
  turns : InTurn rs
  reads : readsSince (e :: h) = readsOf e ++ rs
  asked : ∀ r rs', readsOf e = r :: rs' → nextDue (e :: h) = r.due
  waited : readsOf e = [] → nextDue (e :: h) = due
  read : ∀ r rs', rs = r :: rs' → due = r.due
  unread : rs = [] → outcome.vehicle.connected = true → due ≤ input.now

theorem goes_on {app : CompanionApplication} {input : PollInput} (ha : Asked h app)
    (ht : InTurn (readsSince h)) (hl : Timed AppCall.times h (.poll input)) :
    ∃ rs due, GoesOn h ⟨app, .poll input, .poll (app.poll input).2⟩ input (app.poll input).2 rs
        due ∧ app.Polls input (rs.length % 4) due := by
  have hindex : app.failsafeParameterIndex < 4 := by
    rw [ha.index]
    exact Nat.mod_lt _ (by decide)
  obtain ⟨_, hpolls⟩ := app.poll_asks input hindex
  generalize he : (⟨app, .poll input, .poll (app.poll input).2⟩ : AppEntry) = e
  have hpast : Past h input.now := fun e' he' t ht =>
    hl.2 e' he' t ht _ (List.mem_cons_of_mem _ List.mem_cons_self)
  have happears : appearsAt e h =
      if app.connecting (app.poll input).2.vehicle then some input.now else none := by
    rw [CompanionApplication.connecting, ha.seen, ← he]
    rfl
  have hasked (r : ParameterRead) (rs' : List ParameterRead) (hr : readsOf e = r :: rs') :
      nextDue (e :: h) = r.due := by
    rw [nextDue, hr]
  have hwaited (hr : readsOf e = []) : nextDue (e :: h) = (appearsAt e h).getD (nextDue h) := by
    rw [nextDue, hr]
  by_cases hc : app.connecting (app.poll input).2.vehicle = true
  · rw [if_pos hc] at happears
    rw [if_pos hc, if_pos hc] at hpolls
    rw [happears] at hwaited
    refine ⟨[], input.now, ⟨.nil, ?_, hasked, hwaited, (fun _ _ h => by cases h),
      fun _ _ => le_refl _⟩, hpolls⟩
    rw [readsSince, happears]
    rfl
  · rw [if_neg hc] at happears
    rw [if_neg hc, if_neg hc, ha.index, ha.due] at hpolls
    rw [happears] at hwaited
    refine ⟨readsSince h, nextDue h, ⟨ht, ?_, hasked, hwaited, fun _ _ => nextDue_read,
      fun hnone hconnected => ?_⟩, hpolls⟩
    · rw [readsSince, happears]
      rfl
    · refine nextDue_unread ?_ hnone hpast
      rw [CompanionApplication.connecting, hconnected, ha.seen] at hc
      simpa using hc

theorem poll_asked {app : CompanionApplication} {input : PollInput} (ha : Asked h app)
    (ht : InTurn (readsSince h)) (hl : Timed AppCall.times h (.poll input)) :
    Asked (⟨app, .poll input, .poll (app.poll input).2⟩ :: h) (app.poll input).1 ∧
      InTurn (readsSince (⟨app, .poll input, .poll (app.poll input).2⟩ :: h)) ∧
      UpToDate (⟨app, .poll input, .poll (app.poll input).2⟩ :: h) := by
  obtain ⟨rs, due, hg, hpolls⟩ := goes_on ha ht hl
  have hindex : app.failsafeParameterIndex < 4 := by
    rw [ha.index]
    exact Nat.mod_lt _ (by decide)
  obtain ⟨hseen, _⟩ := app.poll_asks input hindex
  have hreads : readsOf ⟨app, .poll input, .poll (app.poll input).2⟩ =
      (reads (app.poll input).2.written).map fun name =>
        ⟨input.now, name, (app.poll input).2.failsafe.accepted⟩ := rfl
  cases hpolls with
  | waits hnot hnone hat hdue =>
    rw [hnone, List.map_nil] at hreads
    have hsince := hg.reads
    rw [hreads, List.nil_append] at hsince
    refine ⟨⟨hseen, ?_, hdue.trans (hg.waited hreads).symm⟩, ?_, ?_⟩
    · rw [hat, hsince]
    · rw [hsince]
      exact hg.turns
    · intro before input' outcome older hcons
      cases hcons
      rw [hsince]
      split
      · rename_i hactive
        have hlate : input.now < due := Int.not_le.1 fun hle => hnot ⟨hactive, hle⟩
        cases hrs : rs with
        | nil =>
          refine absurd (hg.unread hrs ?_) (Int.not_le.2 hlate)
          have hphase := beq_iff_eq.2 hactive
          rw [(app.poll_steps input).telemetry] at hphase
          exact (telemetry_active hphase).1
        | cons r rs' => exact ⟨r, rs', rfl, hlate.trans_eq (hg.read r rs' hrs)⟩
      · exact hnone
  | asks name hactive hdue hname hone hat hnext =>
    rw [hone, List.map_singleton] at hreads
    have hsince := hg.reads
    rw [hreads, List.singleton_append] at hsince
    refine ⟨⟨hseen, ?_, hnext.trans (hg.asked _ _ hreads).symm⟩, ?_, ?_⟩
    · rw [hat, hsince, List.length_cons, Nat.mod_add_mod]
    · rw [hsince]
      refine hg.turns.cons hname fun last hlast => ?_
      obtain ⟨rs', hrs⟩ := List.head?_eq_some_iff.1 hlast
      exact (hg.read last rs' hrs).ge.trans hdue
    · intro before input' outcome older hcons
      cases hcons
      rw [if_pos hactive, hsince]
      exact ⟨_, rs, rfl, lt_add_of_pos_right _ (patience_pos _ _)⟩

/-- In every run the parameters of the link-loss policy are asked for in turn from the moment the
vehicle appears, each as soon as a poll with telemetry finds that the time since the one before is
up, and never without telemetry. -/
theorem parameters_polled {options : CompanionApplicationOptions} {h : List AppEntry}
    {app : CompanionApplication} (hr : CompanionApplication.Ran options h app) :
    InTurn (readsSince h) ∧ UpToDate h := by
  obtain ⟨initial, hnew, hr⟩ := hr
  have hasked : Asked h app ∧ InTurn (readsSince h) ∧ UpToDate h := by
    apply hr.history_invariant fun h app => Asked h app ∧ InTurn (readsSince h) ∧ UpToDate h
    · have hidle := (new_idle hnew).2
      exact ⟨⟨congrArg Schedule.vehicleWasConnected hidle,
        congrArg Schedule.failsafeParameterIndex hidle,
        congrArg Schedule.nextFailsafeParameterRequest hidle⟩, .nil,
        fun _ _ _ _ hnil => by cases hnil⟩
    · rintro h app call _ ⟨ha, ht, _⟩ hl
      cases call with
      | poll input => exact poll_asked ha ht hl
      | requestAutonomyStart now =>
        exact ⟨ha.other rfl (app.requestAutonomyStart_schedule now), ht.other rfl, .other rfl⟩
      | snapshot source detector now => exact ⟨ha.other rfl rfl, ht.other rfl, .other rfl⟩
  exact hasked.2

/-- The last poll of the flight asks for the last of the four. -/
theorem parameters_polled_flight : ∃ h app, CompanionApplication.Ran flightOptions h app ∧
    (readsSince h).map ParameterRead.name = CompanionLinkFailsafe.parameterNames.reverse ∧
    InTurn (readsSince h) ∧ UpToDate h := by
  obtain ⟨h, app, hr, hcheck⟩ := CompanionApplication.ran_of_check flightOptions
    (readyFlight 1 0 ++ [pollAt 8 [heartbeatFrom 1 2 0 0], pollAt 9 [heartbeatFrom 1 2 0 0]])
    (by decide)
    (fun h _ => (readsSince h).map ParameterRead.name ==
      CompanionLinkFailsafe.parameterNames.reverse) (by decide +kernel)
  exact ⟨h, app, hr, beq_iff_eq.1 hcheck, parameters_polled hr⟩

end OnboardAutonomy
