import OnboardAutonomy.Cadence
import OnboardAutonomy.MotionGating
import Mathlib.Algebra.Order.Group.Int

namespace OnboardAutonomy
open ExactDouble Histories Cadence
set_option autoImplicit true

/-- The system a frame announces the companion to. -/
def OutboundFrame.heartbeatFor : OutboundFrame → Option UInt8
  | .companionHeartbeat systemId => some systemId
  | _ => none

/-- The heartbeats among written frames, with their outcomes. -/
def beats (written : List (OutboundFrame × Bool)) : List (UInt8 × Bool) :=
  written.filterMap fun frame => frame.1.heartbeatFor.map (·, frame.2)

namespace PollState

/-- A part of a poll that writes no heartbeat and leaves their timer. -/
structure Beatless (p q : PollState) : Prop where
  timer : q.app.nextHeartbeat = p.app.nextHeartbeat
  beats : beats q.written = beats p.written

theorem Beatless.trans (h : Beatless p q) (k : Beatless q r) : Beatless p r :=
  ⟨k.timer.trans h.timer, k.beats.trans h.beats⟩

theorem writeFrame_beatless (p : PollState) {frame : OutboundFrame}
    (hf : frame.heartbeatFor = none) (name detail : String) (now : TimePoint) :
    Beatless p (p.writeFrame frame name detail now).1 := by
  constructor
  · simp only [writeFrame]
    split
    · rfl
    · rfl
  · simp only [writeFrame, OnboardAutonomy.beats, List.filterMap_append, List.filterMap_cons, hf,
      Option.map_none, List.filterMap_nil, List.append_nil]

theorem configureTelemetry_beatless (p : PollState) (vehicle : VehicleSnapshot)
    (now : TimePoint) : Beatless p (p.configureTelemetry vehicle now) := by
  simp only [configureTelemetry]
  split
  · exact ⟨rfl, rfl⟩
  · rename_i request hrequest
    have hset : Beatless p { p with app := { p.app with telemetryConfigurator :=
        (p.app.telemetryConfigurator.update vehicle.connected vehicle.systemId now).1 } } :=
      ⟨rfl, rfl⟩
    exact (hset.trans (@writeFrame_beatless _ (.setMessageInterval request) rfl _ _ now)).trans
      ⟨rfl, rfl⟩

theorem requestFailsafeParameter_beatless (p : PollState) (vehicle : VehicleSnapshot)
    (telemetryReady : Bool) (now : TimePoint) :
    Beatless p (p.requestFailsafeParameter vehicle telemetryReady now) := by
  simp only [requestFailsafeParameter]
  split
  · split
    · exact ⟨rfl, rfl⟩
    · split
      · exact (p.writeFrame_beatless rfl _ _ now).trans ⟨rfl, rfl⟩
      · exact (p.writeFrame_beatless rfl _ _ now).trans ⟨rfl, rfl⟩
  · exact ⟨rfl, rfl⟩

theorem requestAutopilotVersion_beatless (p : PollState) (vehicle : VehicleSnapshot)
    (telemetryReady : Bool) (now : TimePoint) :
    Beatless p (p.requestAutopilotVersion vehicle telemetryReady now) := by
  simp only [requestAutopilotVersion]
  split
  · split
    · exact ⟨rfl, rfl⟩
    · exact (p.writeFrame_beatless rfl _ _ now).trans ⟨rfl, rfl⟩
  · exact ⟨rfl, rfl⟩

theorem requestArmingVoltage_beatless (p : PollState) (vehicle : VehicleSnapshot)
    (telemetryReady : Bool) (now : TimePoint) :
    Beatless p (p.requestArmingVoltage vehicle telemetryReady now) := by
  simp only [requestArmingVoltage]
  split
  · split
    · exact ⟨rfl, rfl⟩
    · exact (p.writeFrame_beatless rfl _ _ now).trans ⟨rfl, rfl⟩
  · exact ⟨rfl, rfl⟩

theorem sendActions_beatless (p : PollState) (actions : List FlightActionRequest)
    (report : FlightActionRequest → CompanionApplication → Bool → CompanionApplication)
    (hreport : ∀ request app sent, (report request app sent).nextHeartbeat = app.nextHeartbeat)
    (now : TimePoint) :
    Beatless p (actions.foldl (fun p request => p.sendAction request (report request) now) p) := by
  induction actions generalizing p with
  | nil => exact ⟨rfl, rfl⟩
  | cons request actions ih =>
    have hw := @writeFrame_beatless p (.flightAction request) rfl
      (flightActionMessageName request.action) (flightActionName request.action) now
    have hs : Beatless p (p.sendAction request (report request) now) :=
      ⟨(hreport request _ _).trans hw.timer, hw.beats⟩
    exact hs.trans (ih _)

/-- What the schedule of heartbeats does in a poll. -/
inductive Scheduled (p q : PollState) (vehicle : VehicleSnapshot) (now : TimePoint) : Prop where
  | waits : now < p.app.nextHeartbeat → Beatless p q → Scheduled p q vehicle now
  | skips : p.app.nextHeartbeat ≤ now → ¬(vehicle.connected = true ∧ vehicle.systemId.isSome) →
      q.app.nextHeartbeat = now + kHeartbeatInterval → beats q.written = beats p.written →
      Scheduled p q vehicle now
  | beats (id : UInt8) (sent : Bool) : p.app.nextHeartbeat ≤ now → vehicle.connected = true →
      vehicle.systemId = some id → q.app.nextHeartbeat = now + kHeartbeatInterval →
      beats q.written = beats p.written ++ [(id, sent)] → Scheduled p q vehicle now

theorem scheduleHeartbeat_scheduled (p : PollState) (vehicle : VehicleSnapshot)
    (now : TimePoint) : Scheduled p (p.scheduleHeartbeat vehicle now) vehicle now := by
  simp only [scheduleHeartbeat]
  split
  · rename_i hearly
    exact .waits hearly ⟨rfl, rfl⟩
  · rename_i hlate
    split
    · rename_i id hconnected hid
      apply Scheduled.beats id _ (Int.not_lt.1 hlate) hconnected hid rfl
      split
      · rw [OnboardAutonomy.beats, writeFrame, List.filterMap_append]
        rfl
      · rw [OnboardAutonomy.beats, writeFrame, List.filterMap_append]
        rfl
    · rename_i hnone
      have hunknown : ¬(vehicle.connected = true ∧ vehicle.systemId.isSome) := by
        intro h
        obtain ⟨id, hid⟩ := Option.isSome_iff_exists.1 h.2
        exact hnone id h.1 hid
      exact .skips (Int.not_lt.1 hlate) hunknown rfl rfl

theorem Scheduled.trans (h : Scheduled p q vehicle now) (k : Beatless q r) :
    Scheduled p r vehicle now := by
  cases h with
  | waits hearly hb => exact .waits hearly (hb.trans k)
  | skips hlate hnone htimer hbeats =>
    exact .skips hlate hnone (k.timer.trans htimer) (k.beats.trans hbeats)
  | beats id sent hlate hconnected hid htimer hbeats =>
    exact .beats id sent hlate hconnected hid (k.timer.trans htimer) (k.beats.trans hbeats)

end PollState

namespace CompanionApplication

theorem receive_timer (app : CompanionApplication) (m : MavlinkMessage) (now : TimePoint) :
    (app.receive m now).nextHeartbeat = app.nextHeartbeat := by
  have hparameter (app : CompanionApplication) (parameter : ParameterValue) :
      (app.onParameterValue parameter now).nextHeartbeat = app.nextHeartbeat := by
    simp only [onParameterValue]
    split
    · rfl
    · rfl
  have hlog (app : CompanionApplication) (ack : CommandAck) :
      (app.logCommandAck ack now).nextHeartbeat = app.nextHeartbeat := by
    simp only [logCommandAck]
    split
    · rfl
    · rfl
  have hack (app : CompanionApplication) (ack : CommandAck) :
      (app.onCommandAck ack now).nextHeartbeat = app.nextHeartbeat := by
    simp only [onCommandAck]
    split
    · exact hlog app ack
    · split
      · exact hlog app ack
      · exact hlog app ack
  simp only [receive]
  cases m.acknowledgement with
  | none =>
    cases m.parameterValue with
    | none => rfl
    | some parameter => exact hparameter _ parameter
  | some ack =>
    cases m.parameterValue with
    | none => exact hack _ ack
    | some parameter => exact (hack _ ack).trans (hparameter _ parameter)

theorem ingest_timer (app : CompanionApplication) (messages : List MavlinkMessage)
    (now : TimePoint) : (app.ingest messages now).nextHeartbeat = app.nextHeartbeat := by
  induction messages generalizing app with
  | nil => rfl
  | cons m messages ih => exact (ih (app.receive m now)).trans (app.receive_timer m now)

theorem observe_timer (app : CompanionApplication) (vehicle : VehicleSnapshot)
    (now : TimePoint) : (app.observe vehicle now).nextHeartbeat = app.nextHeartbeat := by
  have hobserve (app : CompanionApplication) :
      (app.observeVehicle vehicle now).nextHeartbeat = app.nextHeartbeat := by
    simp only [observeVehicle, recordInbound]
    split
    · split <;> rfl
    · split
      · rfl
      · split <;> split <;> split <;> (try split) <;> (try split) <;> (try split) <;> rfl
  simp only [observe]
  rw [hobserve]
  split
  · rfl
  · rfl

theorem serveLink_scheduled (p : PollState) (vehicle : VehicleSnapshot) (now : TimePoint) :
    PollState.Scheduled p (serveLink p vehicle now).1 vehicle now :=
  (p.scheduleHeartbeat_scheduled vehicle now).trans
    ((PollState.configureTelemetry_beatless _ vehicle now).trans
      ((PollState.requestFailsafeParameter_beatless _ vehicle _ now).trans
        ((PollState.requestAutopilotVersion_beatless _ vehicle _ now).trans
          (PollState.requestArmingVoltage_beatless _ vehicle _ now))))

theorem updateStartup_beatless (p : PollState) (vehicle : VehicleSnapshot) (telemetryReady : Bool)
    (now : TimePoint) : PollState.Beatless p (updateStartup p vehicle telemetryReady now).1 := by
  have hs := PollState.sendActions_beatless
    { p with app.flightStartup := (p.app.flightStartup.update vehicle telemetryReady
      p.app.companionLinkFailsafe.snapshot now).1 }
    (updateStartup p vehicle telemetryReady now).2
    (fun request app sent =>
      { app with flightStartup := app.flightStartup.onActionSent request sent now })
    (fun _ _ _ => rfl) now
  exact ⟨hs.timer, hs.beats⟩

theorem updateAutonomy_beatless {p q : PollState}
    (h : updateAutonomy p vehicle now = .ok (q, actions)) : PollState.Beatless p q := by
  rw [updateAutonomy] at h
  split at h
  · cases h
  · rename_i target _
    cases h
    have hs := PollState.sendActions_beatless
      { p with app.autonomyRuntime := (p.app.autonomyRuntime.update vehicle
        p.app.flightStartup.snapshot p.app.companionLinkFailsafe.snapshot now target).1 }
      (p.app.autonomyRuntime.update vehicle p.app.flightStartup.snapshot
        p.app.companionLinkFailsafe.snapshot now target).2
      (fun request app sent =>
        { app with autonomyRuntime := app.autonomyRuntime.onActionSent request sent now })
      (fun _ _ _ => rfl) now
    exact ⟨hs.timer, hs.beats⟩

/-- In a poll the timer of the heartbeats is looked at once, whatever else the poll does. -/
theorem poll_scheduled (app : CompanionApplication) (input : PollInput) :
    ∃ p q : PollState, p.app.nextHeartbeat = app.nextHeartbeat ∧ p.written = [] ∧
      q.app.nextHeartbeat = (app.poll input).1.nextHeartbeat ∧
      q.written = (app.poll input).2.written ∧
      PollState.Scheduled p q (app.poll input).2.vehicle input.now := by
  rw [poll]
  rcases ho : (app.beginPoll input).observed input.now with ⟨seen, vehicle⟩
  rcases hs : serveLink { app := seen, writes := input.writes } vehicle input.now with
    ⟨served, ready⟩
  rcases hu : updateStartup served vehicle ready input.now with ⟨started, startupActions⟩
  have hbegun : seen.nextHeartbeat = app.nextHeartbeat := by
    have hseen := congrArg (fun x => x.1.nextHeartbeat) ho
    dsimp only at hseen
    rw [← hseen, observed]
    exact (observe_timer _ _ _).trans (ingest_timer _ _ _)
  have hserved := serveLink_scheduled { app := seen, writes := input.writes } vehicle input.now
  have hstarted := updateStartup_beatless served vehicle ready input.now
  rw [hs] at hserved
  rw [hu] at hstarted
  dsimp only at hserved hstarted
  simp only [hs, hu]
  cases ha : updateAutonomy started vehicle input.now with
  | error message =>
    exact ⟨_, started, hbegun, rfl, rfl, rfl, hserved.trans hstarted⟩
  | ok result =>
    obtain ⟨flown, autonomyActions⟩ := result
    exact ⟨_, flown, hbegun, rfl, rfl, rfl,
      hserved.trans (hstarted.trans (updateAutonomy_beatless ha))⟩

/-- The polls of a run with their times, newest first. -/
def polls (h : List AppEntry) : List (TimePoint × PollOutcome) :=
  h.filterMap fun
    | ⟨_, .poll input, .poll outcome⟩ => some (input.now, outcome)
    | _ => none

/-- The heartbeats written along a run, with the times of their polls. -/
def heartbeats (h : List AppEntry) : List (TimePoint × UInt8) :=
  (polls h).flatMap fun p => ((beats p.2.written).filter Prod.snd).map (p.1, ·.1)

/-- The polls that the timer can fire in: it starts at the epoch of the clock. -/
def ticks (h : List AppEntry) : List TimePoint :=
  ((polls h).map Prod.fst).filter fun t => 0 ≤ t

def HeartbeatsSent (h : List AppEntry) : Prop :=
  ∀ p ∈ polls h, ∀ b ∈ beats p.2.written, b.2 = true

/-- The firings of the heartbeat timer so far. -/
def rhythm (h : List AppEntry) : List TimePoint := firings kHeartbeatInterval (ticks h)

/-- The timer is one interval after its last firing, heartbeats were written at firings only, and
at the last one if the vehicle was connected. -/
structure Rhythmic (h : List AppEntry) (app : CompanionApplication) : Prop where
  timer : app.nextHeartbeat = (rhythm h).head?.elim 0 (· + kHeartbeatInterval)
  written : ((heartbeats h).map Prod.fst).Sublist (rhythm h)
  newest : ∀ t, (rhythm h).head? = some t → ∃ outcome, (t, outcome) ∈ polls h ∧
    (outcome.vehicle.connected = true →
      ∃ id, outcome.vehicle.systemId = some id ∧ (heartbeats h).head? = some (t, id))

theorem rhythm_nonneg (ht : (rhythm h).head? = some t) : 0 ≤ t := by
  have hmem := (firings_sublist kHeartbeatInterval (ticks h)).subset (List.mem_of_head? ht)
  exact of_decide_eq_true (List.mem_filter.1 hmem).2

theorem Rhythmic.timer_nonneg (hr : Rhythmic h app) : 0 ≤ app.nextHeartbeat := by
  rw [hr.timer]
  cases ht : (rhythm h).head? with
  | none => exact le_refl _
  | some t =>
    have hnonneg := rhythm_nonneg ht
    exact add_nonneg hnonneg (by decide)

theorem Rhythmic.due (hr : Rhythmic h app) (hnow : 0 ≤ now) :
    Cadence.due kHeartbeatInterval (rhythm h).head? now = decide (app.nextHeartbeat ≤ now) := by
  rw [hr.timer]
  cases (rhythm h).head? with
  | none => exact (decide_eq_true hnow).symm
  | some t => rfl

theorem rhythm_fires (hr : Rhythmic h app) (hlate : app.nextHeartbeat ≤ input.now) :
    rhythm (⟨before, .poll input, .poll outcome⟩ :: h) = input.now :: rhythm h := by
  have hnow : 0 ≤ input.now := hr.timer_nonneg.trans hlate
  have hticks : ticks (⟨before, .poll input, .poll outcome⟩ :: h) = input.now :: ticks h :=
    List.filter_cons_of_pos (decide_eq_true hnow)
  rw [rhythm, hticks]
  exact firings_due ((hr.due hnow).trans (decide_eq_true hlate))

theorem rhythm_waits (hr : Rhythmic h app) (hearly : input.now < app.nextHeartbeat) :
    rhythm (⟨before, .poll input, .poll outcome⟩ :: h) = rhythm h := by
  by_cases hnow : 0 ≤ input.now
  · have hticks : ticks (⟨before, .poll input, .poll outcome⟩ :: h) = input.now :: ticks h :=
      List.filter_cons_of_pos (decide_eq_true hnow)
    rw [rhythm, hticks]
    exact firings_early ((hr.due hnow).trans (decide_eq_false (Int.not_le.2 hearly)))
  · have hticks : ticks (⟨before, .poll input, .poll outcome⟩ :: h) = ticks h :=
      List.filter_cons_of_neg (by rw [decide_eq_false hnow]; exact Bool.false_ne_true)
    rw [rhythm, hticks]
    rfl

theorem heartbeats_poll (before : CompanionApplication) (input : PollInput)
    (outcome : PollOutcome) (h : List AppEntry) :
    heartbeats (⟨before, .poll input, .poll outcome⟩ :: h) =
      ((beats outcome.written).filter Prod.snd).map (input.now, ·.1) ++ heartbeats h := rfl

theorem heartbeats_beatless (hnone : beats outcome.written = []) :
    heartbeats (⟨before, .poll input, .poll outcome⟩ :: h) = heartbeats h := by
  rw [heartbeats_poll, hnone]
  rfl

theorem Rhythmic.stays (hi : Rhythmic h app) (hrhythm : rhythm (e :: h) = rhythm h)
    (hheartbeats : heartbeats (e :: h) = heartbeats h) (hp : ∀ p ∈ polls h, p ∈ polls (e :: h))
    (ht : after.nextHeartbeat = app.nextHeartbeat) : Rhythmic (e :: h) after := by
  constructor
  · rw [ht, hrhythm]
    exact hi.timer
  · rw [hheartbeats, hrhythm]
    exact hi.written
  · intro t hlast
    rw [hrhythm] at hlast
    obtain ⟨outcome, ho, hconnected⟩ := hi.newest t hlast
    rw [hheartbeats]
    exact ⟨outcome, hp _ ho, hconnected⟩

theorem Rhythmic.fires (hi : Rhythmic h app) (hlate : app.nextHeartbeat ≤ input.now)
    (ht : after.nextHeartbeat = input.now + kHeartbeatInterval)
    (hwritten : ((heartbeats (⟨before, .poll input, .poll outcome⟩ :: h)).map Prod.fst).Sublist
      (input.now :: rhythm h))
    (hnewest : outcome.vehicle.connected = true → ∃ id, outcome.vehicle.systemId = some id ∧
      (heartbeats (⟨before, .poll input, .poll outcome⟩ :: h)).head? = some (input.now, id)) :
    Rhythmic (⟨before, .poll input, .poll outcome⟩ :: h) after := by
  have hrhythm : rhythm (⟨before, .poll input, .poll outcome⟩ :: h) = input.now :: rhythm h :=
    rhythm_fires hi hlate
  constructor
  · rw [hrhythm]
    exact ht
  · rw [hrhythm]
    exact hwritten
  · intro t hlast
    rw [hrhythm] at hlast
    cases hlast
    exact ⟨outcome, List.mem_cons_self, hnewest⟩

theorem poll_identified {app : CompanionApplication} (hr : Ran options h app) (input : PollInput)
    (hc : (app.poll input).2.vehicle.connected = true) :
    (app.poll input).2.vehicle.systemId.isSome = true := by
  have hg := Gated.kept.beginPoll (Gated.kept.reached hr) input
  rw [(app.poll_steps input).vehicle] at hc ⊢
  exact hg.identified.snapshot hc

theorem Rhythmic.poll (hi : Rhythmic h app) (hr : Ran options h app) (input : PollInput)
    (hsent : ∀ b ∈ beats (app.poll input).2.written, b.2 = true) :
    Rhythmic (⟨app, .poll input, .poll (app.poll input).2⟩ :: h) (app.poll input).1 := by
  have hidentified := poll_identified hr input
  obtain ⟨p, q, hp, hstart, hq, hwritten, hs⟩ := app.poll_scheduled input
  generalize (app.poll input).1 = after at hq ⊢
  generalize (app.poll input).2 = outcome at *
  have hbegun : beats p.written = [] := by
    rw [hstart]
    rfl
  cases hs with
  | waits hearly hb =>
    rw [hp] at hearly
    have hnone : beats outcome.written = [] := by rw [← hwritten, hb.beats, hbegun]
    have htimer : after.nextHeartbeat = app.nextHeartbeat := by rw [← hq, hb.timer, hp]
    exact hi.stays (rhythm_waits hi hearly) (heartbeats_beatless hnone)
      (fun _ => List.mem_cons_of_mem _) htimer
  | skips hlate hunknown htimer hb =>
    rw [hp] at hlate
    have hnone : beats outcome.written = [] := by rw [← hwritten, hb, hbegun]
    apply hi.fires hlate (hq ▸ htimer)
    · rw [heartbeats_beatless hnone]
      exact hi.written.cons _
    · intro hconnected
      exact absurd ⟨hconnected, hidentified hconnected⟩ hunknown
  | beats id sent hlate hconnected hid htimer hb =>
    rw [hp] at hlate
    have hone : OnboardAutonomy.beats outcome.written = [(id, sent)] := by
      rw [← hwritten, hb, hbegun]
      rfl
    have hheartbeats : heartbeats (⟨app, .poll input, .poll outcome⟩ :: h) =
        (input.now, id) :: heartbeats h := by
      rw [hone] at hsent
      have hsent : sent = true := hsent _ List.mem_cons_self
      rw [heartbeats_poll, hone, hsent]
      rfl
    apply hi.fires hlate (hq ▸ htimer)
    · rw [hheartbeats]
      exact hi.written.cons_cons _
    · rw [hheartbeats]
      exact fun _ => ⟨id, hid, rfl⟩

theorem Rhythmic.quiet (hi : Rhythmic h app) (hp : polls (e :: h) = polls h)
    (ht : after.nextHeartbeat = app.nextHeartbeat) : Rhythmic (e :: h) after := by
  have hrhythm : rhythm (e :: h) = rhythm h := by rw [rhythm, ticks, hp]; rfl
  have hheartbeats : heartbeats (e :: h) = heartbeats h := by rw [heartbeats, hp]; rfl
  exact hi.stays hrhythm hheartbeats (fun _ hmem => hp ▸ hmem) ht

theorem new_timer {options : CompanionApplicationOptions} {app : CompanionApplication}
    (h : new options = .ok app) : app.nextHeartbeat = 0 := by
  rw [new] at h
  split at h
  · cases h
  · cases h
  dsimp only at h
  split at h
  · cases h
  split at h
  · cases h
  split at h
  · cases h
  split at h
  · cases h
  split at h
  · cases h
  cases h
  rfl

theorem requestAutonomyStart_timer (app : CompanionApplication) (now : TimePoint) :
    (app.requestAutonomyStart now).1.nextHeartbeat = app.nextHeartbeat := by
  simp only [requestAutonomyStart]
  split_ifs <;> rfl

theorem ran_rhythmic {app : CompanionApplication} (hr : Ran options h app)
    (hsent : HeartbeatsSent h) : Rhythmic h app := by
  obtain ⟨initial, hnew, hr⟩ := hr
  refine hr.history_invariant (fun h app => HeartbeatsSent h → Rhythmic h app) ?_ ?_ hsent
  · intro _
    exact ⟨new_timer hnew, .slnil, fun t ht => (by cases ht)⟩
  · intro h app call hrun hi _ hsent
    cases call with
    | poll input =>
      have hpoll := hsent _ List.mem_cons_self
      have hold : HeartbeatsSent h := fun p hp => hsent p (List.mem_cons_of_mem _ hp)
      exact (hi hold).poll ⟨initial, hnew, hrun⟩ input hpoll
    | requestAutonomyStart now =>
      exact (hi hsent).quiet rfl (app.requestAutonomyStart_timer now)
    | snapshot source detector now => exact (hi hsent).quiet rfl rfl

theorem polls_mem (hp : (t, outcome) ∈ polls h) :
    ∃ before input, ⟨before, .poll input, .poll outcome⟩ ∈ h := by
  obtain ⟨e, he, hpoll⟩ := List.mem_filterMap.1 hp
  split at hpoll
  · cases hpoll
    exact ⟨_, _, he⟩
  · cases hpoll

theorem heartbeat_addressed {app : CompanionApplication} (hr : Ran options h app)
    (hp : p ∈ polls h) (hb : b ∈ beats p.2.written) :
    p.2.vehicle.connected = true ∧ p.2.vehicle.systemId = some b.1 := by
  obtain ⟨before, input, he⟩ := polls_mem hp
  obtain ⟨initial, hnew, hr⟩ := hr
  obtain ⟨_, _, _, _, hout⟩ := hr.reached he
  have ho : p.2 = (before.poll input).2 := AppReturn.poll.inj hout
  obtain ⟨q, r, _, hstart, _, hwritten, hs⟩ := before.poll_scheduled input
  rw [← ho] at hwritten hs
  have hbegun : beats q.written = [] := by
    rw [hstart]
    rfl
  rw [← hwritten] at hb
  cases hs with
  | waits _ hnone =>
    rw [hnone.beats, hbegun] at hb
    cases hb
  | skips _ _ _ hnone =>
    rw [hnone, hbegun] at hb
    cases hb
  | beats id sent _ hconnected hid _ hone =>
    rw [hone, hbegun, List.nil_append, List.mem_singleton] at hb
    rw [hb]
    exact ⟨hconnected, hid⟩

theorem poll_ahead (app : CompanionApplication) (input : PollInput) :
    input.now < (app.poll input).1.nextHeartbeat := by
  obtain ⟨p, q, hp, _, hq, _, hs⟩ := app.poll_scheduled input
  rw [← hq]
  cases hs with
  | waits hearly hb =>
    rw [hb.timer]
    exact hearly
  | skips _ _ htimer _ =>
    rw [htimer]
    exact lt_add_of_pos_right _ (by decide)
  | beats _ _ _ _ _ htimer _ =>
    rw [htimer]
    exact lt_add_of_pos_right _ (by decide)

/-- At a poll from the epoch of the clock on, a vehicle connected for an interval has got a
heartbeat within it. -/
theorem heartbeat_recent {app : CompanionApplication} (hr : Ran options h app)
    (hsent : HeartbeatsSent h) (he : ⟨before, .poll input, .poll outcome⟩ :: older <:+ h)
    (hepoch : 0 ≤ input.now)
    (hconnected : ∀ p ∈ polls (⟨before, .poll input, .poll outcome⟩ :: older),
      input.now - kHeartbeatInterval < p.1 → p.2.vehicle.connected = true) :
    ∃ t id written, (heartbeats (⟨before, .poll input, .poll outcome⟩ :: older)).head? =
        some (t, id) ∧ input.now - t < kHeartbeatInterval ∧
      (t, written) ∈ polls (⟨before, .poll input, .poll outcome⟩ :: older) ∧
      written.vehicle.systemId = some id := by
  obtain ⟨initial, hnew, hrun⟩ := hr
  obtain ⟨hbefore, hlegal, hout⟩ := hrun.before he
  have hnext := Run.next hbefore hlegal
  rw [← hout] at hnext
  have hpast : HeartbeatsSent (⟨before, .poll input, .poll outcome⟩ :: older) :=
    fun p hp => hsent p ((he.filterMap _).subset hp)
  have hi := ran_rhythmic ⟨initial, hnew, hnext⟩ hpast
  have hahead : input.now < (before.step (.poll input)).1.nextHeartbeat :=
    before.poll_ahead input
  rw [hi.timer] at hahead
  cases ht : (rhythm (⟨before, .poll input, .poll outcome⟩ :: older)).head? with
  | none =>
    rw [ht] at hahead
    exact absurd hepoch (Int.not_le.2 hahead)
  | some t =>
    rw [ht, Option.elim_some] at hahead
    obtain ⟨written, hwritten, hbeat⟩ := hi.newest t ht
    obtain ⟨id, hid, hhead⟩ := hbeat (hconnected _ hwritten (Int.sub_right_lt_of_lt_add hahead))
    exact ⟨t, id, written, hhead, Int.sub_left_lt_of_lt_add hahead, hwritten, hid⟩

theorem heartbeats_spaced {app : CompanionApplication} (hr : Ran options h app)
    (hsent : HeartbeatsSent h) :
    (heartbeats h).Pairwise fun later earlier => earlier.1 + kHeartbeatInterval ≤ later.1 := by
  have hspaced := (firings_spaced (show 0 ≤ kHeartbeatInterval by decide) (ticks h)).sublist
    (ran_rhythmic hr hsent).written
  exact List.pairwise_map.1 hspaced

/-- The heartbeats of a run whose writes succeed: at a poll from the epoch of the clock on, the
newest one is less than an interval old when the vehicle was connected in every poll of that
interval; two are at least an interval apart; and each goes to the connected vehicle of its poll. -/
theorem heartbeat_schedule {app : CompanionApplication} (hr : Ran options h app)
    (hsent : HeartbeatsSent h) :
    (∀ before input outcome older, ⟨before, .poll input, .poll outcome⟩ :: older <:+ h →
      0 ≤ input.now →
      (∀ p ∈ polls (⟨before, .poll input, .poll outcome⟩ :: older),
        input.now - kHeartbeatInterval < p.1 → p.2.vehicle.connected = true) →
      ∃ t id written, (heartbeats (⟨before, .poll input, .poll outcome⟩ :: older)).head? =
          some (t, id) ∧ input.now - t < kHeartbeatInterval ∧
        (t, written) ∈ polls (⟨before, .poll input, .poll outcome⟩ :: older) ∧
        written.vehicle.systemId = some id) ∧
    ((heartbeats h).Pairwise fun later earlier => earlier.1 + kHeartbeatInterval ≤ later.1) ∧
    ∀ p ∈ polls h, ∀ b ∈ beats p.2.written,
      p.2.vehicle.connected = true ∧ p.2.vehicle.systemId = some b.1 :=
  ⟨fun _ _ _ _ he hepoch hconnected => heartbeat_recent hr hsent he hepoch hconnected,
    heartbeats_spaced hr hsent, fun _ hp _ hb => heartbeat_addressed hr hp hb⟩

def heartbeatsSent (h : List AppEntry) : Bool :=
  (polls h).all fun p => (beats p.2.written).all Prod.snd

theorem heartbeatsSent_iff (h : List AppEntry) : heartbeatsSent h = true ↔ HeartbeatsSent h := by
  simp only [heartbeatsSent, HeartbeatsSent, List.all_eq_true]

theorem heartbeat_schedule_ready :
    ∃ h app before input outcome older, Ran flightOptions h app ∧ HeartbeatsSent h ∧
      ⟨before, .poll input, .poll outcome⟩ :: older <:+ h ∧ 0 ≤ input.now ∧
      (∃ t id written, (heartbeats (⟨before, .poll input, .poll outcome⟩ :: older)).head? =
          some (t, id) ∧ input.now - t < kHeartbeatInterval ∧
        (t, written) ∈ polls (⟨before, .poll input, .poll outcome⟩ :: older) ∧
        written.vehicle.systemId = some id) ∧
      ((heartbeats h).Pairwise fun later earlier => earlier.1 + kHeartbeatInterval ≤ later.1) ∧
      ∀ p ∈ polls h, ∀ b ∈ beats p.2.written,
        p.2.vehicle.connected = true ∧ p.2.vehicle.systemId = some b.1 := by
  obtain ⟨h, app, hr, hs⟩ := ran_of_check flightOptions (readyFlight 1 0) (by decide)
    (fun h _ => heartbeatsSent h && ((polls h).all fun p => p.2.vehicle.connected) &&
      ((polls h).all fun p => decide (0 ≤ p.1)) && (newestOutcome h).isSome) (by decide +kernel)
  rw [Bool.and_eq_true, Bool.and_eq_true, Bool.and_eq_true] at hs
  obtain ⟨⟨⟨hsent, hconnected⟩, hepoch⟩, hnewest⟩ := hs
  obtain ⟨outcome, ho⟩ := Option.isSome_iff_exists.1 hnewest
  obtain ⟨before, input, older, rfl⟩ := newestOutcome_cons ho
  have hsent := (heartbeatsSent_iff _).1 hsent
  have hnow : 0 ≤ input.now :=
    of_decide_eq_true (List.all_eq_true.1 hepoch (input.now, outcome) List.mem_cons_self)
  obtain ⟨hrecent, hspaced, haddressed⟩ := heartbeat_schedule hr hsent
  refine ⟨_, app, before, input, outcome, older, hr, hsent, List.suffix_refl _, hnow, ?_,
    hspaced, haddressed⟩
  exact hrecent before input outcome older (List.suffix_refl _) hnow
    fun p hp _ => List.all_eq_true.1 hconnected p hp

/-- Before the epoch of the clock the timer does not fire. -/
theorem heartbeat_before_epoch :
    ¬∀ options h (app : CompanionApplication), Ran options h app → HeartbeatsSent h →
      ∀ before input outcome older, ⟨before, .poll input, .poll outcome⟩ :: older <:+ h →
      (∀ p ∈ polls (⟨before, .poll input, .poll outcome⟩ :: older),
        input.now - kHeartbeatInterval < p.1 → p.2.vehicle.connected = true) →
      ∃ t id, (heartbeats (⟨before, .poll input, .poll outcome⟩ :: older)).head? = some (t, id) ∧
        input.now - t < kHeartbeatInterval := by
  intro hclaim
  obtain ⟨h, app, hr, hs⟩ := ran_of_check {} [pollAt (-5) [heartbeatFrom 1 2 0 0]] (by decide)
    (fun h _ => heartbeatsSent h && ((polls h).all fun p => p.2.vehicle.connected) &&
      (heartbeats h).isEmpty && (newestOutcome h).isSome) (by decide +kernel)
  rw [Bool.and_eq_true, Bool.and_eq_true, Bool.and_eq_true] at hs
  obtain ⟨⟨⟨hsent, hconnected⟩, hsilent⟩, hnewest⟩ := hs
  obtain ⟨outcome, ho⟩ := Option.isSome_iff_exists.1 hnewest
  obtain ⟨before, input, older, rfl⟩ := newestOutcome_cons ho
  obtain ⟨t, id, hhead, _⟩ := hclaim {} _ app hr ((heartbeatsSent_iff _).1 hsent) before input
    outcome older (List.suffix_refl _) fun p hp _ => List.all_eq_true.1 hconnected p hp
  rw [List.isEmpty_iff.1 hsilent] at hhead
  cases hhead

end CompanionApplication

end OnboardAutonomy
