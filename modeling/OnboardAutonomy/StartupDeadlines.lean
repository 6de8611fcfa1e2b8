import OnboardAutonomy.StartupEvidence
import OnboardAutonomy.LandingEvidence

namespace OnboardAutonomy
open Histories
set_option autoImplicit true

/-- How long a phase with a deadline may last. -/
def FlightStartupPhase.timeout : FlightStartupPhase → Option Duration
  | .waitingForReadiness => some kReadinessTimeout
  | .settingGuided => some kModeChangeTimeout
  | .arming => some kArmingTimeout
  | .takingOff => some kTakeoffTimeout
  | .disabled | .waitingForVehicle | .completed | .failed => none

/-- How often the phase changes along some states. -/
def phaseChanges : List FlightStartupController → Nat
  | [] | [_] => 0
  | c :: d :: rest => phaseChanges (d :: rest) + if c.phase = d.phase then 0 else 1

theorem phaseChanges_cons_le (c : FlightStartupController) (cs : List FlightStartupController) :
    phaseChanges (c :: cs) ≤ phaseChanges cs + 1 := by
  cases cs with
  | nil => exact Nat.zero_le 1
  | cons d rest =>
    rw [phaseChanges]
    split
    · exact Nat.le_add_right _ 1
    · exact Nat.le_refl _

namespace FlightStartupController

section Updates
variable {vehicle : VehicleSnapshot} {telemetryReady : Bool}
  {failsafe : CompanionLinkFailsafeSnapshot} {now : TimePoint}

/-- The states of the loop in `update`, from the one it begins in to the one it ends in. -/
def visited (c : FlightStartupController) (vehicle : VehicleSnapshot) (telemetryReady : Bool)
    (failsafe : CompanionLinkFailsafeSnapshot) (now : TimePoint) :
    Nat → List FlightStartupController
  | 0 => [c, c.fail "Flight startup made too many immediate transitions"]
  | rounds + 1 =>
    match c.updatePhase vehicle telemetryReady failsafe now with
    | .next d => c :: visited d vehicle telemetryReady failsafe now rounds
    | .done d _ => [c, d]

/-- The loop in `update` has no round left in which it could return. -/
def exhausts (c : FlightStartupController) (vehicle : VehicleSnapshot) (telemetryReady : Bool)
    (failsafe : CompanionLinkFailsafeSnapshot) (now : TimePoint) : Nat → Bool
  | 0 => true
  | rounds + 1 =>
    match c.updatePhase vehicle telemetryReady failsafe now with
    | .next d => exhausts d vehicle telemetryReady failsafe now rounds
    | .done _ _ => false

theorem visited_getLast (c : FlightStartupController) (rounds : Nat) :
    (c.visited vehicle telemetryReady failsafe now rounds).getLast? =
      some (c.transitions vehicle telemetryReady failsafe now rounds).1 := by
  induction rounds generalizing c with
  | zero => rfl
  | succ rounds ih =>
    rw [visited, transitions]
    cases c.updatePhase vehicle telemetryReady failsafe now with
    | next d =>
      dsimp only
      rw [List.getLast?_cons, ih d]
      rfl
    | done d actions => rfl

/-- A phase that was entered just now. -/
structure Entered (c : FlightStartupController) (now : TimePoint) : Prop where
  attempt : c.attempt = 0
  awaiting : c.awaitingAck = false
  accepted : c.commandAccepted = false
  deadline : ∃ timeout, c.phase.timeout = some timeout ∧ c.phaseDeadline = now + timeout

theorem timeout_pos {phase : FlightStartupPhase} (h : phase.timeout = some timeout) :
    0 < timeout := by
  cases phase <;> cases h <;> decide

theorem Entered.live (he : Entered c now) : ¬c.phaseDeadline ≤ now := by
  obtain ⟨timeout, htimeout, hdeadline⟩ := he.deadline
  rw [hdeadline]
  exact Int.not_le.2 (Int.lt_add_of_pos_right now (timeout_pos htimeout))

theorem enterPhase_entered (c : FlightStartupController) {phase : FlightStartupPhase}
    (h : phase.timeout = some timeout) : Entered (c.enterPhase phase now) now := by
  cases phase with
  | waitingForReadiness | settingGuided | arming | takingOff =>
    exact ⟨rfl, rfl, rfl, _, rfl, rfl⟩
  | disabled | waitingForVehicle | completed | failed => cases h

theorem entered_of_next {c d : FlightStartupController}
    (hr : Round vehicle telemetryReady failsafe now c (.next d)) : Entered d now := by
  cases hr with
  | latch _ _ _ _ _ => exact enterPhase_entered _ rfl
  | ready _ _ _ => exact enterPhase_entered _ rfl
  | guided _ _ _ => exact enterPhase_entered _ rfl
  | armed _ _ _ => exact enterPhase_entered _ rfl

theorem Entered.updateCommand (he : Entered c now) (action : FlightAction) :
    (c.updateCommand action now).1.phase = c.phase := by
  rw [FlightStartupController.updateCommand, if_neg (by rw [he.accepted]; exact Bool.false_ne_true),
    if_neg (by rw [he.awaiting]; exact Bool.false_ne_true), if_neg (by rw [he.attempt]; decide)]

theorem Entered.round (he : Entered c now) :
    (∃ d actions, c.updatePhase vehicle telemetryReady failsafe now = .done d actions ∧
      d.phase = c.phase) ∨
    (c.phase = .waitingForReadiness ∧ c.updatePhase vehicle telemetryReady failsafe now =
      .next (c.enterPhase .settingGuided now)) := by
  have hlive := he.live
  have haccepted := he.accepted
  rw [updatePhase]
  split
  · rename_i hp
    obtain ⟨timeout, htimeout, _⟩ := he.deadline
    rw [hp] at htimeout
    cases htimeout
  · rename_i hp
    rw [if_neg hlive]
    split
    · exact .inr ⟨hp, rfl⟩
    · exact .inl ⟨_, _, rfl, rfl⟩
  · rw [haccepted, Bool.false_and, if_neg Bool.false_ne_true, if_neg hlive]
    exact .inl ⟨(c.updateCommand .setGuidedMode now).1, _, rfl, he.updateCommand _⟩
  · rw [haccepted, Bool.false_and, if_neg Bool.false_ne_true, if_neg hlive]
    exact .inl ⟨(c.updateCommand .arm now).1, _, rfl, he.updateCommand _⟩
  · rw [haccepted, Bool.and_false, Bool.false_and, if_neg Bool.false_ne_true,
      if_neg Bool.false_ne_true, if_neg hlive, if_neg Bool.false_ne_true]
    exact .inl ⟨(c.updateCommand .takeoff now).1, _, rfl, he.updateCommand _⟩
  · exact .inl ⟨_, _, rfl, rfl⟩
  · exact .inl ⟨_, _, rfl, rfl⟩
  · exact .inl ⟨_, _, rfl, rfl⟩

/-- From a phase entered just now the loop makes no change, or one and no more. -/
theorem Entered.settles (he : Entered c now) (rounds : Nat) :
    phaseChanges (c.visited vehicle telemetryReady failsafe now (rounds + 2)) ≤ 1 ∧
      c.exhausts vehicle telemetryReady failsafe now (rounds + 2) = false := by
  have hdone (d : FlightStartupController) (hd : Entered d now)
      (hp : d.phase ≠ .waitingForReadiness) (rounds : Nat) :
      phaseChanges (d.visited vehicle telemetryReady failsafe now (rounds + 1)) = 0 ∧
        d.exhausts vehicle telemetryReady failsafe now (rounds + 1) = false := by
    rcases hd.round with ⟨d', actions, hu, hsame⟩ | ⟨hphase, _⟩
    · rw [visited, exhausts, hu]
      refine ⟨?_, rfl⟩
      dsimp only [phaseChanges]
      rw [if_pos hsame.symm]
    · exact absurd hphase hp
  rcases he.round with ⟨d, actions, hu, hsame⟩ | ⟨hphase, hu⟩
  · rw [visited, exhausts, hu]
    refine ⟨?_, rfl⟩
    dsimp only [phaseChanges]
    rw [if_pos hsame.symm]
    exact Nat.zero_le 1
  · have hr : Round vehicle telemetryReady failsafe now c _ := c.updatePhase_round
    rw [hu] at hr
    have hd := hdone _ (entered_of_next hr) (by rintro ⟨⟩) rounds
    rw [visited, exhausts, hu]
    refine ⟨(phaseChanges_cons_le _ _).trans ?_, hd.2⟩
    rw [hd.1]

/-- The loop changes the phase twice at most and does not run out of rounds. -/
theorem visited_changes (c : FlightStartupController) (rounds : Nat) :
    phaseChanges (c.visited vehicle telemetryReady failsafe now (rounds + 3)) ≤ 2 ∧
      c.exhausts vehicle telemetryReady failsafe now (rounds + 3) = false := by
  have hr : Round vehicle telemetryReady failsafe now c _ := c.updatePhase_round
  rw [visited, exhausts]
  cases hu : c.updatePhase vehicle telemetryReady failsafe now with
  | next d =>
    rw [hu] at hr
    have hd : _ ∧ exhausts d vehicle telemetryReady failsafe now (rounds + 2) = false :=
      (entered_of_next hr).settles rounds
    exact ⟨(phaseChanges_cons_le _ _).trans (Nat.succ_le_succ hd.1), hd.2⟩
  | done d actions =>
    exact ⟨(phaseChanges_cons_le _ _).trans (Nat.succ_le_succ (Nat.zero_le 1)), rfl⟩

/-- A request is the one the phase expects, and its acknowledgement is waited for. -/
def AsksExpected (c : FlightStartupController) (actions : List FlightActionRequest) : Prop :=
  actions = [] ∨
    ∃ request, actions = [request] ∧ c.expectedAction = some request.action ∧ c.awaitingAck = true

theorem update_requests_expected (c : FlightStartupController) :
    AsksExpected (c.update vehicle telemetryReady failsafe now).1
      (c.update vehicle telemetryReady failsafe now).2 := by
  apply update_rule (P := fun _ => True) (Q := AsksExpected) (c := c) trivial
  · exact fun _ => .inl rfl
  · exact fun _ _ _ => .inl rfl
  · intro d flow _ _ hr
    cases hr with
    | stay detail => exact .inl rfl
    | fail detail _ => exact .inl rfl
    | latch _ _ _ _ _ => trivial
    | ready _ _ _ => trivial
    | guided _ _ _ => trivial
    | armed _ _ _ => trivial
    | climbed _ _ _ _ => exact .inl rfl
    | request action altitudeM hexpected _ _ _ => exact .inr ⟨_, rfl, hexpected, rfl⟩

/-- A phase with a deadline is not past it. -/
def Live (c : FlightStartupController) (now : TimePoint) : Prop :=
  c.phase.timeout.isSome = true → now < c.phaseDeadline

theorem updateCommand_live (c : FlightStartupController) (action : FlightAction)
    (hlive : ¬c.phaseDeadline ≤ now) : (c.updateCommand action now).1.Live now := by
  intro hp
  rcases c.updateCommand_cases action now with hu | ⟨detail, hu⟩ | ⟨_, _, _, hu⟩
  · rw [hu]
    exact Int.not_le.1 hlive
  · rw [hu] at hp
    cases hp
  · rw [hu]
    exact Int.not_le.1 hlive

theorem updatePhase_live (c : FlightStartupController) :
    (c.updatePhase vehicle telemetryReady failsafe now).Leads (fun _ => True)
      (fun d _ => d.Live now) := by
  rw [updatePhase]
  split
  · rename_i hp
    split
    · intro h
      rw [hp] at h
      cases h
    split
    · exact fun h => by cases h
    · trivial
  · split
    · exact fun h => by cases h
    rename_i hlive
    split
    · trivial
    · exact fun _ => Int.not_le.1 hlive
  · split
    · trivial
    split
    · exact fun h => by cases h
    · rename_i hlive
      exact c.updateCommand_live _ hlive
  · split
    · trivial
    split
    · exact fun h => by cases h
    · rename_i hlive
      exact c.updateCommand_live _ hlive
  · split
    · exact fun h => by cases h
    split
    · exact fun h => by cases h
    split
    · exact fun h => by cases h
    · rename_i hlive
      split
      · exact updateCommand_live _ _ hlive
      · exact c.updateCommand_live _ hlive
  · rename_i hp
    intro h
    rw [hp] at h
    cases h
  · rename_i hp
    intro h
    rw [hp] at h
    cases h
  · rename_i hp
    intro h
    rw [hp] at h
    cases h

theorem transitions_live (c : FlightStartupController) (rounds : Nat) :
    (c.transitions vehicle telemetryReady failsafe now rounds).1.Live now := by
  induction rounds generalizing c with
  | zero => exact fun h => by cases h
  | succ rounds ih =>
    have hl : Flow.Leads _ _ (c.updatePhase vehicle telemetryReady failsafe now) :=
      c.updatePhase_live
    rw [transitions]
    cases hu : c.updatePhase vehicle telemetryReady failsafe now with
    | next d => exact ih d
    | done d actions =>
      rw [hu] at hl
      exact hl

theorem update_live (c : FlightStartupController) :
    (c.update vehicle telemetryReady failsafe now).1.Live now := by
  rw [update]
  split
  · rename_i hp
    intro h
    rcases hp with hp | hp | hp
    · rw [hp] at h
      cases h
    · rw [hp] at h
      cases h
    · rw [hp] at h
      cases h
  split
  · exact fun h => by cases h
  split
  · exact fun h => by cases h
  · exact c.transitions_live 8

/-- The deadline of a phase was set at one of these times. -/
def Dated (times : List TimePoint) (c : FlightStartupController) : Prop :=
  ∀ timeout, c.phase.timeout = some timeout → ∃ t ∈ times, c.phaseDeadline = t + timeout

theorem Dated.follow (hd : Dated times c) (hphase : d.phase = c.phase ∨ d.phase.timeout = none)
    (hdeadline : d.phaseDeadline = c.phaseDeadline) : Dated times d := by
  intro timeout htimeout
  rcases hphase with hphase | hphase
  · rw [hphase] at htimeout
    rw [hdeadline]
    exact hd timeout htimeout
  · rw [hphase] at htimeout
    cases htimeout

theorem Dated.later (hd : Dated times c) (hsub : times ⊆ times') : Dated times' c := by
  intro timeout htimeout
  obtain ⟨t, ht, hdeadline⟩ := hd timeout htimeout
  exact ⟨t, hsub ht, hdeadline⟩

theorem Entered.dated (he : Entered c now) (times : List TimePoint) : Dated (now :: times) c := by
  intro timeout htimeout
  obtain ⟨timeout', htimeout', hdeadline⟩ := he.deadline
  rw [htimeout, Option.some.injEq] at htimeout'
  rw [htimeout']
  exact ⟨now, List.mem_cons_self, hdeadline⟩

theorem Dated.update (hd : Dated times c) :
    Dated (now :: times) (c.update vehicle telemetryReady failsafe now).1 := by
  apply update_rule (P := Dated (now :: times)) (Q := fun d _ => Dated (now :: times) d) (c := c)
  · exact hd.later (List.subset_cons_self _ _)
  · exact fun _ => hd.later (List.subset_cons_self _ _)
  · exact fun d detail hd => hd.follow (.inr rfl) rfl
  · intro d flow hd _ hr
    cases hr with
    | stay detail => exact hd.follow (.inl rfl) rfl
    | fail detail _ => exact hd.follow (.inr rfl) rfl
    | latch _ _ _ _ _ => exact (enterPhase_entered _ rfl).dated times
    | ready _ _ _ => exact (enterPhase_entered _ rfl).dated times
    | guided _ _ _ => exact (enterPhase_entered _ rfl).dated times
    | armed _ _ _ => exact (enterPhase_entered _ rfl).dated times
    | climbed _ _ _ _ => exact hd.follow (.inr rfl) rfl
    | request action altitudeM _ _ _ _ => exact hd.follow (.inl rfl) rfl

theorem Dated.onActionSent (hd : Dated times c) (request : FlightActionRequest) (sent : Bool)
    (now : TimePoint) : Dated times (c.onActionSent request sent now) := by
  rcases c.onActionSent_cases request sent now with h | ⟨_, h | ⟨_, h⟩⟩
  · rw [h]
    exact hd
  · rw [h]
    exact hd.follow (.inl rfl) rfl
  · rw [h]
    exact hd.follow (.inr rfl) rfl

theorem Dated.onCommandAck (hd : Dated times c) (action : FlightAction)
    (outcome : FlightCommandAckOutcome) (rawResult source : UInt8) (now : TimePoint) :
    Dated times (c.onCommandAck action outcome rawResult source now) := by
  rcases c.onCommandAck_cases action outcome rawResult source now with
    ⟨_, h⟩ | ⟨_, ⟨_, h⟩ | ⟨_, h⟩ | ⟨_, _, h⟩⟩
  · rw [h]
    exact hd
  · rw [h]
    exact hd.follow (.inl rfl) rfl
  · rw [h]
    exact hd.follow (.inl rfl) rfl
  · rw [h]
    exact hd.follow (.inr rfl) rfl

theorem restart_dated (c : FlightStartupController) (times : List TimePoint) :
    Dated times c.restart := by
  intro timeout htimeout
  rw [restart] at htimeout
  dsimp only at htimeout
  split at htimeout
  · cases htimeout
  · cases htimeout

end Updates

def timesOf (h : List StartupEntry) : List TimePoint := h.flatMap fun e => e.input.times

theorem timesOf_cons (e : StartupEntry) (h : List StartupEntry) :
    timesOf (e :: h) = e.input.times ++ timesOf h := List.flatMap_cons

/-- Along a run the deadline of a phase is its timeout after some call. -/
theorem Ran.dated {config : FlightStartupConfig} (hr : Ran config h c) : Dated (timesOf h) c := by
  obtain ⟨initial, hnew, hr⟩ := hr
  apply hr.history_invariant (fun h c => Dated (timesOf h) c)
  · rw [new_eq hnew]
    split
    · exact restart_dated _ _
    · intro timeout htimeout
      cases htimeout
  · intro h c call _ hd _
    rw [timesOf_cons]
    cases call with
    | update vehicle telemetryReady failsafe now => exact hd.update
    | onActionSent request sent now =>
      exact (hd.onActionSent request sent now).later (List.subset_cons_self _ _)
    | onCommandAck action outcome rawResult source now =>
      exact (hd.onCommandAck action outcome rawResult source now).later
        (List.subset_cons_self _ _)
    | restart => exact restart_dated c _

/-- What an update does to the startup. -/
structure Progresses (c : FlightStartupController) (vehicle : VehicleSnapshot)
    (telemetryReady : Bool) (failsafe : CompanionLinkFailsafeSnapshot) (now : TimePoint)
    (d : FlightStartupController) (actions : List FlightActionRequest) : Prop where
  changes : phaseChanges (c.visited vehicle telemetryReady failsafe now 8) ≤ 2
  ends : (c.visited vehicle telemetryReady failsafe now 8).getLast? =
    some (c.transitions vehicle telemetryReady failsafe now 8).1
  returns : c.exhausts vehicle telemetryReady failsafe now 8 = false
  requests : d.AsksExpected actions
  live : d.Live now

/-- In every state an update changes the phase at most twice, without running out of rounds, asks
for what the phase expects and for nothing else, and leaves no phase past its deadline; and the
deadline it leaves along a run is at most the timeout of the phase away. -/
theorem update_progresses (c : FlightStartupController) (vehicle : VehicleSnapshot)
    (telemetryReady : Bool) (failsafe : CompanionLinkFailsafeSnapshot) (now : TimePoint) :
    c.Progresses vehicle telemetryReady failsafe now
        (c.update vehicle telemetryReady failsafe now).1
        (c.update vehicle telemetryReady failsafe now).2 ∧
      ∀ config h, Ran config h c →
        Timed StartupCall.times h (.update vehicle telemetryReady failsafe now) →
        ∀ timeout, (c.update vehicle telemetryReady failsafe now).1.phase.timeout = some timeout →
          (c.update vehicle telemetryReady failsafe now).1.phaseDeadline ≤ now + timeout := by
  have hloop : phaseChanges (c.visited vehicle telemetryReady failsafe now 8) ≤ 2 ∧
      c.exhausts vehicle telemetryReady failsafe now 8 = false := c.visited_changes 5
  refine ⟨⟨hloop.1, c.visited_getLast 8, hloop.2, c.update_requests_expected, c.update_live⟩, ?_⟩
  intro config h hr hl timeout htimeout
  have hd : Dated (now :: timesOf h) (c.update vehicle telemetryReady failsafe now).1 :=
    hr.dated.update
  obtain ⟨t, ht, hdeadline⟩ := hd timeout htimeout
  have hle : t ≤ now := by
    rcases List.mem_cons.1 ht with ht | ht
    · exact Int.le_of_eq ht
    · obtain ⟨e, he, ht⟩ := List.mem_flatMap.1 ht
      exact hl.2 e he t ht now List.mem_cons_self
  rw [hdeadline]
  exact Int.add_le_add_right hle timeout

/-- The first update of a copter that is ready sets it to GUIDED mode at once. -/
theorem update_progresses_ready :
    let c := enabledStartup.update (copter 0 false 0) true { phase := .accepted } (seconds 1)
    enabledStartup.Progresses (copter 0 false 0) true { phase := .accepted } (seconds 1) c.1 c.2 ∧
      c.1.phase.timeout = some kModeChangeTimeout ∧ c.1.phaseDeadline ≤ seconds 1 + seconds 10 := by
  obtain ⟨hprogresses, hdeadline⟩ := enabledStartup.update_progresses (copter 0 false 0) true
    { phase := .accepted } (seconds 1)
  have htimed : Timed StartupCall.times ([] : List StartupEntry)
      (.update (copter 0 false 0) true { phase := .accepted } (seconds 1)) :=
    ⟨by decide, fun e he => by cases he⟩
  refine ⟨hprogresses, by decide +kernel, ?_⟩
  exact hdeadline _ _ (startup_ran [] (by decide)) htimed _ (by decide +kernel)

end FlightStartupController
end OnboardAutonomy
