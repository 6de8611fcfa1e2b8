import OnboardAutonomy.ApplicationRuns
import Mathlib.Data.List.DropRight

namespace OnboardAutonomy
open Histories
set_option autoImplicit true

/-- A poll serves the link, then the startup and, unless that throws, the runtime. -/
theorem CompanionApplication.poll_parts (app : CompanionApplication) (input : PollInput) :
    ∃ (served : PollState) (ready : Bool) (started ended : PollState),
      serveLink { app := ((app.beginPoll input).observed input.now).1, writes := input.writes }
        ((app.beginPoll input).observed input.now).2 input.now = (served, ready) ∧
      started = (updateStartup served ((app.beginPoll input).observed input.now).2 ready
        input.now).1 ∧
      (ended = started ∨ ∃ actions, updateAutonomy started
        ((app.beginPoll input).observed input.now).2 input.now = .ok (ended, actions)) ∧
      (app.poll input).1 = ended.app ∧ (app.poll input).2.written = ended.written ∧
      (app.poll input).2.vehicle = ((app.beginPoll input).observed input.now).2 ∧
      (app.poll input).2.failsafe = started.app.companionLinkFailsafe.snapshot := by
  rw [poll]
  rcases (app.beginPoll input).observed input.now with ⟨seen, vehicle⟩
  rcases hs : serveLink { app := seen, writes := input.writes } vehicle input.now with
    ⟨served, ready⟩
  rcases hu : updateStartup served vehicle ready input.now with ⟨started, startupActions⟩
  simp only [hs, hu]
  refine ⟨served, ready, started, ?_⟩
  cases ha : updateAutonomy started vehicle input.now with
  | error message => exact ⟨started, rfl, by rw [hu], .inl rfl, rfl, rfl, rfl, rfl⟩
  | ok result =>
    obtain ⟨flown, actions⟩ := result
    exact ⟨flown, rfl, by rw [hu], .inr ⟨actions, rfl⟩, rfl, rfl, rfl, rfl⟩

/-- A property of the log that everything written at a time keeps. -/
structure LogKept (now : TimePoint) (P : LinkLog → Prop) : Prop where
  start : ∀ l, P l → P (l.start now)
  event : ∀ l direction status label detail, P l →
    P (l.recordEvent direction status label detail now)
  activity : ∀ l direction messageName detail, P l →
    P (l.recordActivity direction messageName detail now)

namespace LogKept
variable {now : TimePoint} {P : LinkLog → Prop}

section Inbound
variable {app : CompanionApplication}

theorem onParameterValue (hk : LogKept now P) (h : P app.log) (parameter : ParameterValue) :
    P (app.onParameterValue parameter now).log := by
  simp only [CompanionApplication.onParameterValue]
  split
  · dsimp only
    exact hk.activity _ _ _ _ h
  · exact h

theorem logCommandAck (hk : LogKept now P) (h : P app.log) (ack : CommandAck) :
    P (app.logCommandAck ack now).log := by
  simp only [CompanionApplication.logCommandAck]
  split
  · dsimp only
    exact hk.activity _ _ _ _ (hk.event _ _ _ _ _ h)
  · exact h

theorem onCommandAck (hk : LogKept now P) (h : P app.log) (ack : CommandAck) :
    P (app.onCommandAck ack now).log := by
  have hlog : P (app.logCommandAck ack now).log := hk.logCommandAck h ack
  simp only [CompanionApplication.onCommandAck]
  split
  · exact hlog
  · split
    · exact hlog
    · exact hlog

theorem receive (hk : LogKept now P) (h : P app.log) (m : MavlinkMessage) :
    P (app.receive m now).log := by
  have hmessage : P (app.onMessage m.observation now).log := by
    dsimp only [CompanionApplication.onMessage]
    exact hk.activity _ _ _ _ h
  simp only [CompanionApplication.receive]
  cases m.parameterValue with
  | none =>
    cases m.acknowledgement with
    | none => exact hmessage
    | some ack => exact hk.onCommandAck (by exact hmessage) ack
  | some parameter =>
    have hparameter : P (CompanionApplication.onParameterValue
        { app.onMessage m.observation now with
          vehicleState := handleMessage (app.onMessage m.observation now).vehicleState m now }
        parameter now).log := hk.onParameterValue (by exact hmessage) parameter
    cases m.acknowledgement with
    | none => exact hparameter
    | some ack => exact hk.onCommandAck hparameter ack

theorem ingest (hk : LogKept now P) (h : P app.log) (messages : List MavlinkMessage) :
    P (app.ingest messages now).log := by
  induction messages generalizing app with
  | nil => exact h
  | cons m messages ih => exact ih (hk.receive h m)

theorem recordInbound (hk : LogKept now P) (h : P app.log) (status : LinkEventStatus)
    (label detail : String) : P (app.recordInbound status label detail now).log :=
  hk.event _ _ _ _ _ h

theorem observeVehicle (hk : LogKept now P) (h : P app.log) (vehicle : VehicleSnapshot) :
    P (app.observeVehicle vehicle now).log := by
  have hinbound (status : LinkEventStatus) (label detail : String) {app : CompanionApplication}
      (h : P app.log) : P (app.recordInbound status label detail now).log :=
    hk.recordInbound h status label detail
  simp only [CompanionApplication.observeVehicle]
  split
  · split
    · exact hinbound _ _ _ h
    · exact h
  split
  · exact hinbound _ _ _ h
  · split <;> split <;> split <;> (try split) <;> (try split) <;> (try split) <;> dsimp only <;>
      repeat (first | exact h | apply hinbound)

theorem observe (hk : LogKept now P) (h : P app.log) (vehicle : VehicleSnapshot) :
    P (app.observe vehicle now).log := by
  simp only [CompanionApplication.observe]
  split
  · exact hk.observeVehicle (by exact h) vehicle
  · exact hk.observeVehicle (by exact h) vehicle

end Inbound

section Outbound
variable {p : PollState}

theorem writeFrame (hk : LogKept now P) (h : P p.app.log) (frame : OutboundFrame)
    (messageName detail : String) : P (p.writeFrame frame messageName detail now).1.app.log := by
  simp only [PollState.writeFrame]
  split
  · dsimp only
    exact hk.activity _ _ _ _ h
  · exact h

theorem recordOutcome (hk : LogKept now P) (h : P p.app.log) (sent : Bool)
    (label detail : String) : P (p.recordOutcome sent label detail now).app.log := by
  dsimp only [PollState.recordOutcome]
  exact hk.event _ _ _ _ _ h

theorem scheduleHeartbeat (hk : LogKept now P) (h : P p.app.log) (vehicle : VehicleSnapshot) :
    P (p.scheduleHeartbeat vehicle now).app.log := by
  simp only [PollState.scheduleHeartbeat]
  split
  · exact h
  · split
    · split
      · exact hk.writeFrame h _ _ _
      · exact hk.writeFrame h _ _ _
    · exact h

theorem configureTelemetry (hk : LogKept now P) (h : P p.app.log) (vehicle : VehicleSnapshot) :
    P (p.configureTelemetry vehicle now).app.log := by
  simp only [PollState.configureTelemetry]
  split
  · exact h
  · exact hk.recordOutcome (hk.writeFrame (by exact h) _ _ _) _ _ _

theorem requestFailsafeParameter (hk : LogKept now P) (h : P p.app.log)
    (vehicle : VehicleSnapshot) (telemetryReady : Bool) :
    P (p.requestFailsafeParameter vehicle telemetryReady now).app.log := by
  simp only [PollState.requestFailsafeParameter]
  split
  · split
    · exact h
    · split
      · exact hk.recordOutcome (hk.writeFrame h _ _ _) _ _ _
      · exact hk.recordOutcome (hk.writeFrame h _ _ _) _ _ _
  · exact h

theorem requestAutopilotVersion (hk : LogKept now P) (h : P p.app.log)
    (vehicle : VehicleSnapshot) (telemetryReady : Bool) :
    P (p.requestAutopilotVersion vehicle telemetryReady now).app.log := by
  simp only [PollState.requestAutopilotVersion]
  split
  · split
    · exact h
    · exact hk.recordOutcome (hk.writeFrame h _ _ _) _ _ _
  · exact h

theorem requestArmingVoltage (hk : LogKept now P) (h : P p.app.log)
    (vehicle : VehicleSnapshot) (telemetryReady : Bool) :
    P (p.requestArmingVoltage vehicle telemetryReady now).app.log := by
  simp only [PollState.requestArmingVoltage]
  split
  · split
    · exact h
    · exact hk.recordOutcome (hk.writeFrame h _ _ _) _ _ _
  · exact h

theorem sendAction (hk : LogKept now P) (h : P p.app.log) (request : FlightActionRequest)
    {report : CompanionApplication → Bool → CompanionApplication}
    (hreport : ∀ app sent, (report app sent).log = app.log) :
    P (p.sendAction request report now).app.log := by
  simp only [PollState.sendAction]
  refine hk.recordOutcome ?_ _ _ _
  rw [hreport]
  exact hk.writeFrame h _ _ _

theorem sendActions (hk : LogKept now P) (h : P p.app.log) (actions : List FlightActionRequest)
    {report : FlightActionRequest → CompanionApplication → Bool → CompanionApplication}
    (hreport : ∀ request app sent, (report request app sent).log = app.log) :
    P (actions.foldl (fun p request => p.sendAction request (report request) now) p).app.log := by
  induction actions generalizing p with
  | nil => exact h
  | cons request actions ih => exact ih (hk.sendAction h request (hreport request))

theorem serveLink (hk : LogKept now P) (h : P p.app.log) (vehicle : VehicleSnapshot) :
    P (CompanionApplication.serveLink p vehicle now).1.app.log :=
  hk.requestArmingVoltage (hk.requestAutopilotVersion (hk.requestFailsafeParameter
    (hk.configureTelemetry (hk.scheduleHeartbeat h vehicle) vehicle) vehicle _) vehicle _) vehicle _

theorem updateStartup (hk : LogKept now P) (h : P p.app.log) (vehicle : VehicleSnapshot)
    (telemetryReady : Bool) :
    P (CompanionApplication.updateStartup p vehicle telemetryReady now).1.app.log :=
  hk.sendActions (by exact h) _ fun _ _ _ => rfl

theorem updateAutonomy (hk : LogKept now P) (h : P p.app.log) {vehicle : VehicleSnapshot}
    (hu : CompanionApplication.updateAutonomy p vehicle now = .ok (q, actions)) :
    P q.app.log := by
  rw [CompanionApplication.updateAutonomy] at hu
  split at hu
  · cases hu
  · cases hu
    exact hk.sendActions (by exact h) _ fun _ _ _ => rfl

end Outbound

theorem poll {app : CompanionApplication} {input : PollInput} (hk : LogKept input.now P)
    (h : P (app.log.start input.cameraNow)) : P (app.poll input).1.log := by
  obtain ⟨served, ready, started, ended, hserved, hstarted, hended, happ, -⟩ := app.poll_parts input
  have hbegun : P (app.beginPoll input).log := hk.ingest h _
  have hseen : P ((app.beginPoll input).observed input.now).1.log :=
    hk.observe (by exact hbegun) _
  have hlink : P served.app.log := by
    have hlink := hk.serveLink
      (p := { app := ((app.beginPoll input).observed input.now).1, writes := input.writes })
      hseen ((app.beginPoll input).observed input.now).2
    rw [hserved] at hlink
    exact hlink
  have hstartup : P started.app.log := by
    rw [hstarted]
    exact hk.updateStartup hlink _ _
  rw [happ]
  rcases hended with rfl | ⟨actions, ha⟩
  · exact hstartup
  · exact hk.updateAutonomy hstartup ha

theorem requestAutonomyStart {app : CompanionApplication} (hk : LogKept now P) (h : P app.log) :
    P (app.requestAutonomyStart now).1.log := by
  have hrecord (status : LinkEventStatus) (detail : String) {app : CompanionApplication}
      (h : P app.log) : P (app.recordStart status detail now).log := by
    dsimp only [CompanionApplication.recordStart]
    exact hk.event _ _ _ _ _ h
  simp only [CompanionApplication.requestAutonomyStart]
  split
  · exact hrecord _ _ h
  split
  · exact hrecord _ _ h
  split
  · exact hrecord _ _ (by exact h)
  split
  · exact hrecord _ _ (by exact h)
  split
  · exact hrecord _ _ (by exact h)
  · exact hrecord _ _ (by exact h)

end LogKept

theorem rtake_push (n : Nat) (all : List α) (x : α) :
    (if n < (all.rtake n ++ [x]).length then (all.rtake n ++ [x]).tail else all.rtake n ++ [x]) =
      (all ++ [x]).rtake n := by
  have hlength : (all.rtake n ++ [x]).length = all.length - (all.length - n) + 1 := by
    rw [List.length_append, List.rtake, List.length_drop, List.length_singleton]
  have hall : (all ++ [x]).length = all.length + 1 := List.length_append
  rw [hlength]
  split
  · rename_i hfull
    cases n with
    | zero =>
      rw [List.rtake_zero, List.rtake_zero]
      rfl
    | succ n =>
      have hne : all.rtake (n + 1) ≠ [] := by
        rw [List.rtake, ne_eq, List.drop_eq_nil_iff]
        omega
      rw [List.tail_append_of_ne_nil hne, List.rtake_concat_succ, List.rtake, List.tail_drop,
        List.rtake]
      congr 2
      omega
  · rename_i hroom
    have hkept : all.length - n = 0 := by omega
    have hgrown : (all ++ [x]).length - n = 0 := by omega
    rw [List.rtake, List.rtake, hkept, hgrown, List.drop_zero, List.drop_zero]

/-- All that was ever logged: the log shows the last eight events, and the newest activity in each
direction. -/
structure Windowed (now : TimePoint) (all : List LinkEvent) (l : LinkLog) : Prop where
  started : ∀ s, l.startedAt = some s → s ≤ now
  begun : l.startedAt = none → all = []
  shown : l.linkEvents = all.rtake kMaximumLinkEvents
  counted : l.nextEventSequence = all.length
  numbered : all.map LinkEvent.sequence = List.range' 1 all.length
  ordered : all.Pairwise fun e f => e.elapsed ≤ f.elapsed
  elapsed : ∀ e ∈ all, 0 ≤ e.elapsed ∧ e.elapsed ≤ l.elapsedAt now
  newest : max (l.txActivity.elim 0 LinkActivity.sequence)
    (l.rxActivity.elim 0 LinkActivity.sequence) = l.nextActivitySequence

namespace Windowed

theorem init (now : TimePoint) : Windowed now [] {} where
  started := fun _ h => by cases h
  begun := fun _ => rfl
  shown := rfl
  counted := rfl
  numbered := rfl
  ordered := .nil
  elapsed := fun _ h => by cases h
  newest := rfl

theorem later (hw : Windowed now all l) (hle : now ≤ now') : Windowed now' all l := by
  refine ⟨fun s hs => (hw.started s hs).trans hle, hw.begun, hw.shown, hw.counted, hw.numbered,
    hw.ordered, fun e he => ?_, hw.newest⟩
  obtain ⟨hnonneg, hbound⟩ := hw.elapsed e he
  refine ⟨hnonneg, hbound.trans ?_⟩
  cases hs : l.startedAt with
  | none =>
    rw [hw.begun hs] at he
    cases he
  | some s =>
    rw [LinkLog.elapsedAt, LinkLog.elapsedAt, hs]
    exact Int.tdiv_le_tdiv (by decide) (Int.sub_le_sub_right hle s)

theorem elapsed_nonneg (hw : Windowed now all l) : 0 ≤ l.elapsedAt now := by
  have hstart : l.startedAt.getD now ≤ now := by
    cases hs : l.startedAt with
    | none => exact le_refl now
    | some s => exact hw.started s hs
  exact Int.tdiv_nonneg (Int.sub_nonneg_of_le hstart) (by decide)

theorem start (hw : Windowed now all l) : Windowed now all (l.start now) := by
  refine ⟨fun s hs => ?_, (fun h => by cases h), hw.shown, hw.counted, hw.numbered, hw.ordered,
    hw.elapsed, hw.newest⟩
  cases hstarted : l.startedAt with
  | none =>
    rw [LinkLog.start, hstarted] at hs
    exact (Option.some.inj hs).ge
  | some s' =>
    rw [LinkLog.start, hstarted] at hs
    rw [← Option.some.inj hs]
    exact hw.started s' hstarted

theorem event (hw : Windowed now all l) (direction : LinkEventDirection)
    (status : LinkEventStatus) (label detail : String) :
    ∃ e, Windowed now (all ++ [e]) (l.recordEvent direction status label detail now) := by
  have hs := hw.start
  refine ⟨⟨l.nextEventSequence + 1, l.elapsedAt now, direction, status, label, detail⟩,
    hs.started, (fun h => by cases h), ?_, ?_, ?_, ?_, ?_, hw.newest⟩
  · rw [← rtake_push, ← hw.shown]
    rfl
  · rw [List.length_append, ← hw.counted]
    rfl
  · rw [List.map_append, hw.numbered, List.length_append, List.length_singleton,
      List.range'_1_concat, hw.counted, Nat.add_comm 1]
    rfl
  · rw [List.pairwise_append]
    refine ⟨hw.ordered, List.pairwise_singleton _ _, fun e he f hf => ?_⟩
    rw [List.mem_singleton.1 hf]
    exact (hw.elapsed e he).2
  · rw [List.forall_mem_append, List.forall_mem_singleton]
    exact ⟨hw.elapsed, hw.elapsed_nonneg, le_refl _⟩

theorem activity (hw : Windowed now all l) (direction : LinkEventDirection)
    (messageName detail : String) :
    Windowed now all (l.recordActivity direction messageName detail now) := by
  have hs := hw.start
  have hnewest := hw.newest
  cases direction with
  | outbound =>
    refine ⟨hs.started, (fun h => by cases h), hw.shown, hw.counted, hw.numbered, hw.ordered,
      hw.elapsed, ?_⟩
    exact max_eq_left ((le_max_right _ _).trans (hnewest.le.trans (Nat.le_succ _)))
  | inbound =>
    refine ⟨hs.started, (fun h => by cases h), hw.shown, hw.counted, hw.numbered, hw.ordered,
      hw.elapsed, ?_⟩
    exact max_eq_right ((le_max_left _ _).trans (hnewest.le.trans (Nat.le_succ _)))

theorem kept (now : TimePoint) (before : List LinkEvent) :
    LogKept now fun l => ∃ all, before <+: all ∧ Windowed now all l where
  start := fun l ⟨all, hall, hw⟩ => ⟨all, hall, hw.start⟩
  event := by
    rintro l direction status label detail ⟨all, hall, hw⟩
    obtain ⟨e, he⟩ := hw.event direction status label detail
    exact ⟨_, hall.trans (List.prefix_append all [e]), he⟩
  activity := fun l direction messageName detail ⟨all, hall, hw⟩ =>
    ⟨all, hall, hw.activity direction messageName detail⟩

end Windowed

/-- The snapshots the application was asked for, newest first. -/
def snapshotsOf (h : List AppEntry) : List AppSnapshot :=
  h.filterMap fun e =>
    match e.output with
    | .snapshot s => some s
    | .poll _ | .requestAutonomyStart _ | .threw _ _ => none

/-- Every snapshot of a run shows a window on the events, and the windows go on. -/
structure Watched (all : List LinkEvent) (ks : List Nat) (snapshots : List AppSnapshot) :
    Prop where
  ordered : ks.Pairwise (· ≥ ·)
  within : ∀ k ∈ ks, k ≤ all.length
  shown : snapshots.map AppSnapshot.linkEvents =
    ks.map fun k => (all.take k).rtake kMaximumLinkEvents

theorem Watched.grow (hw : Watched all ks snapshots) (hall : all <+: all') :
    Watched all' ks snapshots := by
  refine ⟨hw.ordered, fun k hk => (hw.within k hk).trans hall.length_le, hw.shown.trans ?_⟩
  obtain ⟨more, rfl⟩ := hall
  refine List.map_congr_left fun k hk => ?_
  rw [List.take_append_of_le_length (hw.within k hk)]

theorem Watched.see (hw : Watched all ks snapshots)
    (hs : s.linkEvents = all.rtake kMaximumLinkEvents) :
    Watched all (all.length :: ks) (s :: snapshots) where
  ordered := List.pairwise_cons.2 ⟨hw.within, hw.ordered⟩
  within := List.forall_mem_cons.2 ⟨le_refl _, hw.within⟩
  shown := by
    rw [List.map_cons, List.map_cons, hs, hw.shown, List.take_length]

/-- Every call of a run has been made by then. -/
def Past (h : List AppEntry) (now : TimePoint) : Prop :=
  ∀ e ∈ h, ∀ t ∈ e.input.times, t ≤ now

theorem step_windowed {app : CompanionApplication} {call : AppCall}
    (hw : ∀ now, Past h now → Windowed now all app.log) (hl : Timed AppCall.times h call) :
    ∃ all', all <+: all' ∧ ∀ now, (∀ t ∈ call.times, t ≤ now) →
      Windowed now all' (app.step call).1.log := by
  cases call with
  | poll input =>
    have hpast : Past h input.cameraNow := fun e he t ht =>
      hl.2 e he t ht input.cameraNow List.mem_cons_self
    have hle : input.cameraNow ≤ input.now :=
      (List.pairwise_cons.1 hl.1).1 input.now List.mem_cons_self
    obtain ⟨all', hall, hafter⟩ : ∃ all', all <+: all' ∧
        Windowed input.now all' (app.poll input).1.log := (Windowed.kept input.now all).poll
      ⟨all, List.prefix_refl all, (hw _ hpast).start.later hle⟩
    exact ⟨all', hall, fun now hnow =>
      hafter.later (hnow input.now (List.mem_cons_of_mem _ List.mem_cons_self))⟩
  | requestAutonomyStart now =>
    have hpast : Past h now := fun e he t ht => hl.2 e he t ht now List.mem_cons_self
    obtain ⟨all', hall, hafter⟩ : ∃ all', all <+: all' ∧
        Windowed now all' (app.requestAutonomyStart now).1.log :=
      (Windowed.kept now all).requestAutonomyStart ⟨all, List.prefix_refl all, hw now hpast⟩
    exact ⟨all', hall, fun later hnow => hafter.later (hnow now List.mem_cons_self)⟩
  | snapshot source detector now =>
    have hpast : Past h now := fun e he t ht => hl.2 e he t ht now List.mem_cons_self
    exact ⟨all, List.prefix_refl all, fun later hnow =>
      (hw now hpast).start.later (hnow now List.mem_cons_self)⟩

theorem past_of_timed {call : AppCall} (hl : Timed AppCall.times h call) : ∃ now, Past h now := by
  cases call with
  | poll input => exact ⟨_, fun e he t ht => hl.2 e he t ht input.cameraNow List.mem_cons_self⟩
  | requestAutonomyStart now =>
    exact ⟨_, fun e he t ht => hl.2 e he t ht now List.mem_cons_self⟩
  | snapshot source detector now =>
    exact ⟨_, fun e he t ht => hl.2 e he t ht now List.mem_cons_self⟩

theorem watched_step {app : CompanionApplication} {call : AppCall} {all' : List LinkEvent}
    (hw : Watched all ks (snapshotsOf h)) (hall : all <+: all')
    (hshown : app.log.linkEvents = all.rtake kMaximumLinkEvents) :
    ∃ ks', Watched all' ks' (snapshotsOf (⟨app, call, (app.step call).2⟩ :: h)) := by
  cases call with
  | poll input => exact ⟨ks, hw.grow hall⟩
  | requestAutonomyStart now => exact ⟨ks, hw.grow hall⟩
  | snapshot source detector now => exact ⟨_, (hw.see hshown).grow hall⟩

theorem new_idle {options : CompanionApplicationOptions} {app : CompanionApplication}
    (hnew : CompanionApplication.new options = .ok app) :
    app.log = {} ∧ app.toSchedule = {} := by
  unfold CompanionApplication.new at hnew
  split at hnew
  · cases hnew
  · cases hnew
  · simp only at hnew
    split at hnew
    · cases hnew
    split at hnew
    · cases hnew
    split at hnew
    · cases hnew
    split at hnew
    · cases hnew
    split at hnew
    · cases hnew
    · cases hnew
      exact ⟨rfl, rfl⟩

/-- The bounded log of an application is a window on one list of events, which every run only
appends to. Its events are numbered without a gap and in the order of their times; the log shows
the last eight of them, and snapshots show windows that never go back. -/
theorem events_windowed {options : CompanionApplicationOptions} {h : List AppEntry}
    {app : CompanionApplication} (hr : CompanionApplication.Ran options h app) :
    ∃ all ks, (∀ now, Past h now → Windowed now all app.log) ∧ Watched all ks (snapshotsOf h) := by
  obtain ⟨initial, hnew, hr⟩ := hr
  apply hr.history_invariant fun h app => ∃ all ks,
    (∀ now, Past h now → Windowed now all app.log) ∧ Watched all ks (snapshotsOf h)
  · refine ⟨[], [], fun now _ => ?_, .nil, (fun _ h => by cases h), rfl⟩
    rw [(new_idle hnew).1]
    exact .init now
  · intro h app call _ ⟨all, ks, hw, hs⟩ hl
    obtain ⟨all', hall, hafter⟩ := step_windowed hw hl
    obtain ⟨past, hpast⟩ := past_of_timed hl
    have hshown : app.log.linkEvents = all.rtake kMaximumLinkEvents := (hw past hpast).shown
    obtain ⟨ks', hs'⟩ : ∃ ks', Watched all' ks'
        (snapshotsOf (⟨app, call, (app.step call).2⟩ :: h)) := watched_step hs hall hshown
    exact ⟨all', ks', fun now hnow => hafter now (hnow _ List.mem_cons_self), hs'⟩

theorem events_windowed_flight : ∃ h app, CompanionApplication.Ran flightOptions h app ∧
    app.log.nextEventSequence = 18 ∧
    ∃ all ks, (∀ now, Past h now → Windowed now all app.log) ∧ Watched all ks (snapshotsOf h) := by
  obtain ⟨h, app, hr, hcheck⟩ := CompanionApplication.ran_of_check flightOptions
    (readyFlight 1 0 ++ [.snapshot {} "" (seconds 7)]) (by decide)
    (fun _ app => app.log.nextEventSequence == 18) (by decide +kernel)
  exact ⟨h, app, hr, beq_iff_eq.1 hcheck, events_windowed hr⟩

end OnboardAutonomy
