import OnboardAutonomy.LandRequests
import Mathlib.Algebra.Order.Group.Int

namespace OnboardAutonomy
open ExactDouble Histories Retries
set_option autoImplicit true

/-- How far a startup has come in its phases. -/
def FlightStartupPhase.stage : FlightStartupPhase → Nat
  | .waitingForVehicle => 0
  | .waitingForReadiness => 1
  | .settingGuided => 2
  | .arming => 3
  | .takingOff => 4
  | .disabled | .completed | .failed => 5

/-- The stage at which an action is requested. -/
def FlightAction.stage : FlightAction → Nat
  | .setGuidedMode => 2
  | .arm => 3
  | .takeoff => 4
  | .returnToLaunch | .land | .landingTarget => 0

namespace FlightStartupController

def isAction (action : FlightAction) (a : FlightActionRequest) : Bool := a.action == action

/-- What a call of the controller means to the requests for an action. -/
def commandEvent (action : FlightAction) (e : StartupEntry) : Event TimePoint :=
  match e.input with
  | .update _ _ _ now =>
    match e.output.find? (isAction action) with
    | some a => .asked a.confirmation.toNat now
    | none => .silent
  | .onActionSent request sent _ =>
    if request.action = action ∧ sent = false then .unsent else .silent
  | .onCommandAck answered outcome _ source now =>
    if answered = action ∧ e.before.awaits answered source then
      if outcome = .inProgress then .progress now else .settled
    else .silent
  | .restart => .silent

/-- The request of the current phase as the controller keeps track of it. -/
def asking (c : FlightStartupController) : Asking TimePoint where
  attempt := c.attempt
  pending := if c.awaitingAck then some c.acknowledgementDeadline else none
  closed := c.commandAccepted

theorem asking_pending {c : FlightStartupController} :
    c.asking.pending = some deadline ↔
      c.awaitingAck = true ∧ c.acknowledgementDeadline = deadline := by
  rw [asking]
  cases c.awaitingAck with
  | true => exact ⟨fun h => ⟨rfl, Option.some.inj h⟩, fun h => congrArg some h.2⟩
  | false => exact ⟨fun h => (by cases h), fun h => (by cases h.1)⟩

theorem stage_of_expected {c : FlightStartupController} (h : c.expectedAction = some action) :
    c.phase.stage = action.stage := by
  rw [expectedAction] at h
  cases hp : c.phase <;> rw [hp] at h <;> cases h <;> rfl

/-- Nothing was asked before the phase of an action, and in it the controller keeps track. -/
structure Tracks (action : FlightAction) (a : Asking TimePoint) (c : FlightStartupController) :
    Prop where
  early : c.phase.stage < action.stage → a = {}
  current : c.expectedAction = some action → a = c.asking

theorem Tracks.follow {c c' : FlightStartupController} (ht : Tracks action a c)
    (hp : c'.phase = c.phase) (ha : c.expectedAction = some action → c'.asking = c.asking) :
    Tracks action a c' := by
  refine ⟨?_, ?_⟩
  · rw [hp]
    exact ht.early
  · intro he
    rw [expectedAction, hp] at he
    rw [ha he]
    exact ht.current he

theorem Tracks.resting {c : FlightStartupController} (hr : c.phase.resting = true) :
    Tracks action a c := by
  refine ⟨?_, ?_⟩
  · intro hlt
    cases hp : c.phase <;> rw [hp] at hr hlt <;> first | cases hr; done | skip
    all_goals cases action <;> exact absurd hlt (by decide)
  · intro he
    rw [(resting_of_expected he).1] at hr
    cases hr

theorem Tracks.fail {c : FlightStartupController} (detail : String) :
    Tracks action a (c.fail detail) := .resting rfl

theorem Tracks.enterPhase {c : FlightStartupController} (ht : Tracks action a c)
    {phase : FlightStartupPhase} (hlt : c.phase.stage < phase.stage) (now : TimePoint) :
    Tracks action a (c.enterPhase phase now) := by
  have hphase : (c.enterPhase phase now).phase = phase := by cases phase <;> rfl
  have hasking : (c.enterPhase phase now).asking = {} := by cases phase <;> rfl
  refine ⟨?_, ?_⟩
  · rw [hphase]
    intro hstage
    exact ht.early (hlt.trans hstage)
  · intro he
    rw [hasking]
    have hstage := stage_of_expected he
    rw [hphase] at hstage
    exact ht.early (hstage ▸ hlt)

/-- The event of a call is allowed, and the controller keeps track of it. -/
def Heeds (action : FlightAction) (a : Asking TimePoint) (e : Event TimePoint)
    (c : FlightStartupController) : Prop :=
  a.Allows kMaximumActionAttempts e ∧
    Tracks action (a.next OnboardAutonomy.kAcknowledgementTimeout e) c

section Updates
variable {vehicle : VehicleSnapshot} {telemetryReady : Bool}
  {failsafe : CompanionLinkFailsafeSnapshot} {now : TimePoint}

theorem commandEvent_other {e : StartupEntry}
    (hi : e.input = .update vehicle telemetryReady failsafe now)
    (hn : ∀ a ∈ e.output, a.action ≠ action) : commandEvent action e = .silent := by
  have hnone : e.output.find? (isAction action) = none := by
    rw [List.find?_eq_none]
    intro a ha
    rw [isAction, beq_iff_eq]
    exact hn a ha
  rw [commandEvent, hi]
  dsimp only
  rw [hnone]

theorem commandEvent_asked {e : StartupEntry} {a : FlightActionRequest} {n : Nat}
    (hi : e.input = .update vehicle telemetryReady failsafe now) (ho : e.output = [a])
    (ha : a.action = action) (hn : a.confirmation = UInt8.ofNat n)
    (hlt : n < kMaximumActionAttempts) : commandEvent action e = .asked n now := by
  have hfind : e.output.find? (isAction action) = some a := by
    rw [ho, List.find?_cons_of_pos (by rw [isAction, ha, beq_self_eq_true])]
  rw [commandEvent, hi]
  dsimp only
  rw [hfind]
  dsimp only
  rw [hn]
  exact congrArg (Event.asked · now) (UInt8.toNat_ofNat_of_lt' (hlt.trans (by decide)))

theorem Tracks.update {c : FlightStartupController} (ht : Tracks action a c) :
    Heeds action a (commandEvent action ⟨c, .update vehicle telemetryReady failsafe now,
        (c.update vehicle telemetryReady failsafe now).2⟩)
      (c.update vehicle telemetryReady failsafe now).1 := by
  have hsilent {d : FlightStartupController} (ht : Tracks action a d) :
      Heeds action a
        (commandEvent action ⟨c, .update vehicle telemetryReady failsafe now, []⟩) d := by
    rw [commandEvent_other rfl fun a ha => absurd ha List.not_mem_nil]
    exact ⟨trivial, ht⟩
  apply update_rule (P := Tracks action a) (Q := fun d actions => Heeds action a
    (commandEvent action ⟨c, .update vehicle telemetryReady failsafe now, actions⟩) d) ht
  · exact fun _ => hsilent ht
  · exact fun d detail _ => hsilent (.fail detail)
  intro d flow hd _ hround
  cases hround with
  | stay detail => exact hsilent (hd.follow rfl fun _ => rfl)
  | fail detail _ => exact hsilent (.fail detail)
  | latch hp _ _ _ _ =>
    have hd' : Tracks action a { d with vehicleSystemId := vehicle.systemId } :=
      hd.follow rfl fun _ => rfl
    exact hd'.enterPhase (by show d.phase.stage < _; rw [hp]; decide) now
  | ready hp _ _ => exact hd.enterPhase (by rw [hp]; decide) now
  | guided hp _ _ => exact hd.enterPhase (by rw [hp]; decide) now
  | armed hp _ _ => exact hd.enterPhase (by rw [hp]; decide) now
  | climbed _ _ _ _ => exact hsilent (.resting rfl)
  | request asked altitudeM he hopen hdue hlt =>
    rw [Flow.Leads]
    by_cases hsame : asked = action
    · rw [hsame] at he ⊢
      have hasked : commandEvent action ⟨c, .update vehicle telemetryReady failsafe now, [{
          action := action
          vehicleSystemId := d.vehicleSystemId.getD 0
          confirmation := UInt8.ofNat d.attempt
          altitudeM := altitudeM }]⟩ = .asked d.attempt now :=
        commandEvent_asked rfl rfl rfl rfl hlt
      rw [hasked, hd.current he]
      refine ⟨⟨rfl, hlt, hopen, ?_⟩, ?_, fun _ => rfl⟩
      · intro deadline hpending
        obtain ⟨hwaiting, hdeadline⟩ := asking_pending.1 hpending
        rw [← hdeadline]
        exact Int.not_lt.1 fun hnow => hdue ⟨hwaiting, hnow⟩
      · intro hstage
        have heq := stage_of_expected he
        exact absurd (heq ▸ hstage) (Nat.lt_irrefl _)
    · rw [commandEvent_other rfl fun r hr => by rw [List.mem_singleton.1 hr]; exact hsame]
      refine ⟨trivial, hd.follow rfl ?_⟩
      intro h
      rw [he] at h
      exact absurd (Option.some.inj h) hsame

end Updates

theorem Tracks.onActionSent {c : FlightStartupController} (ht : Tracks action a c)
    (request : FlightActionRequest) (sent : Bool) (now : TimePoint) :
    Heeds action a (commandEvent action ⟨c, .onActionSent request sent now, []⟩)
      (c.onActionSent request sent now) := by
  rw [commandEvent]
  dsimp only
  split
  · rename_i h
    obtain ⟨hr, hs⟩ := h
    refine ⟨trivial, ?_⟩
    have hunsent : Tracks action (a.next OnboardAutonomy.kAcknowledgementTimeout .unsent)
        { c with awaitingAck := false } := by
      refine ⟨?_, ?_⟩
      · intro hlt
        rw [ht.early hlt]
        rfl
      · intro he
        rw [ht.current he]
        rfl
    simp only [FlightStartupController.onActionSent, hr, hs]
    split
    · rename_i hn
      refine ⟨fun hlt => hunsent.early hlt, fun he => absurd he ?_⟩
      exact hn.resolve_right Bool.false_ne_true
    split
    · exact .fail _
    · exact hunsent
  · rename_i h
    refine ⟨trivial, ?_⟩
    simp only [FlightStartupController.onActionSent]
    split
    · exact ht
    rename_i hn
    rw [not_or, ne_eq, not_not, Bool.not_eq_true] at hn
    split
    · exact .fail _
    · refine ht.follow rfl fun he => ?_
      rw [he] at hn
      exact absurd ⟨(Option.some.inj hn.1).symm, hn.2⟩ h

theorem Tracks.onCommandAck {c : FlightStartupController} (ht : Tracks action a c)
    (answered : FlightAction) (outcome : FlightCommandAckOutcome) (rawResult source : UInt8)
    (now : TimePoint) :
    Heeds action a
      (commandEvent action ⟨c, .onCommandAck answered outcome rawResult source now, []⟩)
      (c.onCommandAck answered outcome rawResult source now) := by
  rw [commandEvent]
  dsimp only
  rcases c.onCommandAck_cases answered outcome rawResult source now with
    ⟨hn, hr⟩ | ⟨hawaits, hcase⟩
  · rw [hr, if_neg (by rw [hn]; exact fun h => Bool.false_ne_true h.2)]
    exact ⟨trivial, ht⟩
  obtain ⟨he, hwaiting, _⟩ := (c.awaits_iff answered source).1 hawaits
  have hpending : c.asking.pending = some c.acknowledgementDeadline :=
    asking_pending.2 ⟨hwaiting, rfl⟩
  by_cases hsame : answered = action
  · rw [if_pos ⟨hsame, hawaits⟩]
    rw [hsame] at he
    have hearly (hlt : c.phase.stage < action.stage) : False :=
      absurd (stage_of_expected he ▸ hlt) (Nat.lt_irrefl _)
    rcases hcase with ⟨ho, hr⟩ | ⟨ho, hr⟩ | ⟨ho, detail, hr⟩
    · rw [hr, if_neg (by rw [ho]; decide), ht.current he]
      exact ⟨trivial, fun hlt => (hearly hlt).elim, fun _ => rfl⟩
    · rw [hr, if_pos ho, ht.current he]
      refine ⟨Option.isSome_iff_exists.2 ⟨_, hpending⟩, fun hlt => (hearly hlt).elim, fun _ => ?_⟩
      simp only [Asking.next, asking, extend, hwaiting, ↓reduceIte, Option.map_some]
    · rw [hr, if_neg (by rw [ho]; decide)]
      exact ⟨trivial, .fail detail⟩
  · rw [if_neg fun h => hsame h.1]
    refine ⟨trivial, ?_⟩
    have hother (h : c.expectedAction = some action) : False := by
      rw [he] at h
      exact hsame (Option.some.inj h)
    rcases hcase with ⟨_, hr⟩ | ⟨_, hr⟩ | ⟨_, detail, hr⟩
    · rw [hr]
      exact ht.follow rfl fun h => (hother h).elim
    · rw [hr]
      exact ht.follow rfl fun h => (hother h).elim
    · rw [hr]
      exact .fail detail

theorem Tracks.restart (c : FlightStartupController) : Tracks action {} c.restart := by
  refine ⟨fun _ => rfl, fun _ => rfl⟩

theorem commandEvent_times (action : FlightAction) (e : StartupEntry) :
    ∀ t ∈ (commandEvent action e).time, t ∈ e.input.times := by
  intro t ht
  rw [commandEvent] at ht
  cases hi : e.input with
  | update vehicle telemetryReady failsafe now =>
    rw [hi] at ht
    dsimp only at ht
    split at ht
    · exact List.mem_singleton.2 (Option.some.inj ht).symm
    · cases ht
  | onActionSent request sent now =>
    rw [hi] at ht
    dsimp only at ht
    split at ht <;> cases ht
  | onCommandAck action outcome rawResult source now =>
    rw [hi] at ht
    dsimp only at ht
    split at ht
    · split at ht
      · exact List.mem_singleton.2 (Option.some.inj ht).symm
      · cases ht
    · cases ht
  | restart =>
    rw [hi] at ht
    cases ht

/-- In every run the calls since the last restart keep to the protocol, and the controller keeps
track of them. -/
theorem command_orderly {config : FlightStartupConfig} (hr : Ran config h c)
    (action : FlightAction) :
    Orderly kMaximumActionAttempts OnboardAutonomy.kAcknowledgementTimeout
        ((sinceRestart h).map (commandEvent action)) ∧
      Tracks action (Asking.after OnboardAutonomy.kAcknowledgementTimeout
        ((sinceRestart h).map (commandEvent action))) c := by
  obtain ⟨initial, hnew, hr⟩ := hr
  apply hr.history_invariant (fun h c =>
    Orderly kMaximumActionAttempts OnboardAutonomy.kAcknowledgementTimeout
        ((sinceRestart h).map (commandEvent action)) ∧
      Tracks action (Asking.after OnboardAutonomy.kAcknowledgementTimeout
        ((sinceRestart h).map (commandEvent action))) c)
  · refine ⟨.nil, ?_⟩
    rw [new_eq hnew]
    split
    · exact .restart _
    · exact .resting rfl
  intro h c call _ hi hl
  obtain ⟨ho, ht⟩ := hi
  have hkeep (hc : call.restarts = false)
      (hh : Heeds action (Asking.after OnboardAutonomy.kAcknowledgementTimeout
        ((sinceRestart h).map (commandEvent action)))
        (commandEvent action ⟨c, call, (step c call).2⟩) (step c call).1) :
      Orderly kMaximumActionAttempts OnboardAutonomy.kAcknowledgementTimeout
        ((sinceRestart (⟨c, call, (step c call).2⟩ :: h)).map (commandEvent action)) ∧
      Tracks action (Asking.after OnboardAutonomy.kAcknowledgementTimeout
        ((sinceRestart (⟨c, call, (step c call).2⟩ :: h)).map (commandEvent action)))
        (step c call).1 := by
    rw [sinceRestart, since_keep _ hc]
    exact ⟨ho.call (commandEvent_times action) (since_subset _ h) hl hh.1, hh.2⟩
  cases call with
  | update vehicle telemetryReady failsafe now => exact hkeep rfl ht.update
  | onActionSent request sent now => exact hkeep rfl (ht.onActionSent request sent now)
  | onCommandAck answered outcome rawResult source now =>
    exact hkeep rfl (ht.onCommandAck answered outcome rawResult source now)
  | restart =>
    rw [sinceRestart, since_cut _ rfl]
    exact ⟨.nil, .restart c⟩

theorem step_single (c : FlightStartupController) (call : StartupCall) :
    (step c call).2.length ≤ 1 := by
  cases call with
  | update vehicle telemetryReady failsafe now =>
    apply update_rule (P := fun _ => True) (Q := fun _ actions => actions.length ≤ 1) trivial
    · exact fun _ => Nat.zero_le 1
    · exact fun _ _ _ => Nat.zero_le 1
    intro d flow _ _ hround
    cases hround with
    | stay _ | fail _ _ | climbed _ _ _ _ => exact Nat.zero_le 1
    | latch _ _ _ _ _ | ready _ _ _ | guided _ _ _ | armed _ _ _ => trivial
    | request _ _ _ _ _ _ => exact Nat.le_refl 1
  | onActionSent _ _ _ | onCommandAck _ _ _ _ _ | restart => exact Nat.zero_le 1

/-- The call returns a request at a time. -/
def Returns (a : FlightActionRequest) (t : TimePoint) (e : StartupEntry) : Prop :=
  a ∈ e.output ∧ e.input.times = [t]

/-- The call reports that a request was not sent. -/
def ReportsUnsent (a : FlightActionRequest) (e : StartupEntry) : Prop :=
  ∃ now, e.input = .onActionSent a false now

end FlightStartupController

theorem AutonomyRuntime.Updated.single
    (hu : Updated vehicle startup failsafe now landingTarget r r' actions) :
    (actions.filter isLand).length ≤ 1 := by
  cases hu with
  | rest _ | wait _ _ _ | refuse _ _ _ | abort _ _ _ | land _ _ _ _ | touchDown _ _ _ =>
    exact Nat.zero_le 1
  | act _ _ _ hact =>
    cases act_commands hact with
    | held _ _ _ hf | gaveUp _ _ _ _ hf => rw [hf]; exact Nat.zero_le 1
    | requested _ _ _ _ _ hf => rw [hf]; exact Nat.le_refl 1

theorem AutonomyRuntime.step_single (r : AutonomyRuntime) (call : AutonomyCall) :
    ((step r call).2.filter isLand).length ≤ 1 := by
  cases call with
  | update vehicle startup failsafe now landingTarget => exact (update_updated rfl).single
  | onActionSent _ _ _ | onCommandAck _ _ _ _ _ | restart => exact Nat.zero_le 1

/-- Between two restarts every action is requested at most three times, with numbered requests, two
seconds apart unless one was reported as not sent in between, and not after it was answered. -/
theorem commands_disciplined :
    (∀ config h c, FlightStartupController.Ran config h c → ∀ action,
      Disciplined 3 (seconds 2) ((FlightStartupController.sinceRestart h).map
        (FlightStartupController.commandEvent action)) ∧
      ∀ e ∈ FlightStartupController.sinceRestart h,
        (e.output.filter (FlightStartupController.isAction action)).length ≤ 1) ∧
    (∀ config h r, AutonomyRuntime.RanFreely config h r →
      Disciplined 3 (seconds 2) ((AutonomyRuntime.sinceRestart h).map AutonomyRuntime.landEvent) ∧
      ∀ e ∈ AutonomyRuntime.sinceRestart h, (e.output.filter isLand).length ≤ 1) := by
  constructor
  · intro config h c hr action
    refine ⟨(FlightStartupController.command_orderly hr action).1.disciplined, ?_⟩
    intro e he
    obtain ⟨_, _, hr⟩ := hr
    obtain ⟨_, _, _, _, ho⟩ := hr.reached (since_subset _ h he)
    rw [ho]
    exact (List.length_filter_le _ _).trans (FlightStartupController.step_single _ _)
  · intro config h r hr
    refine ⟨(AutonomyRuntime.land_orderly hr).1.disciplined, ?_⟩
    intro e he
    obtain ⟨_, _, hr⟩ := hr
    obtain ⟨_, _, _, _, ho⟩ := hr.reached (since_subset _ h he)
    rw [ho]
    exact AutonomyRuntime.step_single _ _

theorem commands_disciplined_flown :
    Disciplined 3 (seconds 2) ((FlightStartupController.sinceRestart
        (play FlightStartupController.step [] enabledStartup startupCalls).1).map
          (FlightStartupController.commandEvent .arm)) ∧
      Disciplined 3 (seconds 2) ((AutonomyRuntime.sinceRestart
        (play AutonomyRuntime.step [] enabledAutonomy landingCalls).1).map
          AutonomyRuntime.landEvent) :=
  ⟨(commands_disciplined.1 _ _ _ (startup_ran startupCalls (by decide)) .arm).1,
    (commands_disciplined.2 _ _ _ (landing_ran landingCalls (by decide))).1⟩

section LateReport
open FlightStartupController

def guidedRequest (confirmation : UInt8) : FlightActionRequest where
  action := .setGuidedMode
  vehicleSystemId := 1
  confirmation := confirmation

/-- The report that the first request was not sent arrives after the second request. -/
def lateReportCalls : List StartupCall :=
  [startupUpdate (copter 0 false 0) 0, startupUpdate (copter 0 false 0) 2,
   .onActionSent (guidedRequest 0) false (seconds 2),
   .update (copter 0 false 0) true { phase := .accepted } (milliseconds 2100)]

/-- A request can follow the previous one at once though only an earlier one was not sent. -/
theorem late_report_hurries :
    ¬∀ config h c, FlightStartupController.Ran config h c → ∀ m n a b t u, m < n →
      Shown (FlightStartupController.sinceRestart h) m (Returns a t) →
      Shown (FlightStartupController.sinceRestart h) n (Returns b u) →
      a.action = .setGuidedMode → b.action = .setGuidedMode →
      (∀ k, m < k → k < n → Shown (FlightStartupController.sinceRestart h) k (·.output = [])) →
      t + seconds 2 ≤ u ∨
        ∃ k, m < k ∧ k < n ∧
          Shown (FlightStartupController.sinceRestart h) k (ReportsUnsent a) := by
  intro hclaim
  have hr := startup_ran lateReportCalls (by decide)
  have hbetween {k : Nat} (hm : 1 < k) (hn : k < 3) : k = 2 :=
    Nat.le_antisymm (Nat.le_of_lt_succ hn) hm
  rcases hclaim _ _ _ hr 1 3 (guidedRequest 1) (guidedRequest 2) (seconds 2) (milliseconds 2100)
    (by decide) ⟨_, rfl, by decide +kernel, rfl⟩ ⟨_, rfl, by decide +kernel, rfl⟩ rfl rfl
    (fun k hm hn => by rw [hbetween hm hn]; exact ⟨_, rfl, rfl⟩) with hle | ⟨k, hm, hn, hk⟩
  · exact absurd hle (by decide)
  · rw [hbetween hm hn] at hk
    obtain ⟨e, he, now, hreport⟩ := hk
    cases he
    cases hreport

end LateReport
end OnboardAutonomy
