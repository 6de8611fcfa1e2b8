import OnboardAutonomy.FlightStartupController

namespace OnboardAutonomy
open ExactDouble
set_option autoImplicit true

/-- The phases in which a request is outstanding or about to be sent. -/
def FlightStartupPhase.commanding : FlightStartupPhase → Bool
  | .settingGuided | .arming | .takingOff => true
  | .disabled | .waitingForVehicle | .waitingForReadiness | .completed | .failed => false

/-- The phases that no update leaves. -/
def FlightStartupPhase.resting : FlightStartupPhase → Bool
  | .disabled | .completed | .failed => true
  | .waitingForVehicle | .waitingForReadiness | .settingGuided | .arming | .takingOff => false

theorem FlightStartupPhase.resting_of_commanding {p : FlightStartupPhase}
    (h : p.commanding = true) : p.resting = false := by
  cases p with
  | settingGuided | arming | takingOff => rfl
  | disabled | waitingForVehicle | waitingForReadiness | completed | failed => cases h

namespace FlightStartupController

@[simp] theorem enterPhase_config (c : FlightStartupController) (phase : FlightStartupPhase)
    (now : TimePoint) : (c.enterPhase phase now).config = c.config := by
  cases phase <;> rfl

def complete (c : FlightStartupController) : FlightStartupController :=
  { c with
    phase := .completed
    detail := "Takeoff complete; autonomy may start"
    attempt := 0
    awaitingAck := false }

/-- The request for an action is on its way and its answer is waited for. -/
def requested (c : FlightStartupController) (action : FlightAction) (now : TimePoint) :
    FlightStartupController :=
  { c with
    attempt := c.attempt + 1
    awaitingAck := true
    acknowledgementDeadline := now + kAcknowledgementTimeout
    detail := "Sending " ++ actionName action ++ " | attempt " ++ toString (c.attempt + 1) ++ "/3" }

/-- Everything one round of the update loop can do. -/
inductive Round (vehicle : VehicleSnapshot) (telemetryReady : Bool)
    (failsafe : CompanionLinkFailsafeSnapshot) (now : TimePoint) (c : FlightStartupController) :
    Flow FlightStartupController (List FlightActionRequest) → Prop where
  | stay (detail : String) :
      Round vehicle telemetryReady failsafe now c (.done { c with detail := detail } [])
  | fail (detail : String) : c.phase.resting = false →
      Round vehicle telemetryReady failsafe now c (.done (c.fail detail) [])
  | latch : c.phase = .waitingForVehicle → vehicle.connected = true →
      vehicle.systemId.isSome = true → vehicle.autopilotType = some kArduPilotAutopilotType →
      isMulticopter vehicle.vehicleType = true →
      Round vehicle telemetryReady failsafe now c
        (.next (enterPhase { c with vehicleSystemId := vehicle.systemId } .waitingForReadiness now))
  | ready : c.phase = .waitingForReadiness → now < c.phaseDeadline →
      ready vehicle telemetryReady failsafe = true →
      Round vehicle telemetryReady failsafe now c (.next (c.enterPhase .settingGuided now))
  | guided : c.phase = .settingGuided → c.commandAccepted = true →
      vehicle.flightMode = some kCopterGuidedMode →
      Round vehicle telemetryReady failsafe now c (.next (c.enterPhase .arming now))
  | armed : c.phase = .arming → c.commandAccepted = true → vehicle.armed = true →
      Round vehicle telemetryReady failsafe now c (.next (c.enterPhase .takingOff now))
  | climbed : c.phase = .takingOff → c.commandAccepted = true → vehicle.armed = true →
      c.reachedAltitude vehicle = true →
      Round vehicle telemetryReady failsafe now c (.done c.complete [])
  | request (action : FlightAction) (altitudeM : Double) : c.expectedAction = some action →
      c.commandAccepted = false → ¬(c.awaitingAck = true ∧ now < c.acknowledgementDeadline) →
      c.attempt < kMaximumActionAttempts →
      Round vehicle telemetryReady failsafe now c (.done (c.requested action now) [{
        action := action
        vehicleSystemId := c.vehicleSystemId.getD 0
        confirmation := UInt8.ofNat c.attempt
        altitudeM := altitudeM }])

section Updates
variable {vehicle : VehicleSnapshot} {telemetryReady : Bool}
  {failsafe : CompanionLinkFailsafeSnapshot} {now : TimePoint}

theorem resting_of_expected {c : FlightStartupController} (h : c.expectedAction = some action) :
    c.phase.resting = false ∧ c.phase.commanding = true := by
  rw [expectedAction] at h
  cases hp : c.phase <;> rw [hp] at h <;> first | cases h; done | exact ⟨rfl, rfl⟩

theorem updateCommand_accepted (c : FlightStartupController) (h : c.commandAccepted = true)
    (detail : String) : updateCommand { c with detail := detail } action now =
      ({ c with detail := detail }, none) := if_pos h

theorem updateCommand_cases (c : FlightStartupController) (action : FlightAction)
    (now : TimePoint) :
    c.updateCommand action now = (c, none) ∨
    (∃ detail, c.updateCommand action now = (c.fail detail, none)) ∨
    (c.commandAccepted = false ∧ ¬(c.awaitingAck = true ∧ now < c.acknowledgementDeadline) ∧
      c.attempt < kMaximumActionAttempts ∧ c.updateCommand action now = (c.requested action now,
        some {
          action := action
          vehicleSystemId := c.vehicleSystemId.getD 0
          confirmation := UInt8.ofNat c.attempt })) := by
  simp only [updateCommand]
  split
  · exact .inl rfl
  rename_i haccepted
  split
  · exact .inl rfl
  rename_i hwaiting
  rw [Bool.and_eq_true, decide_eq_true_eq] at hwaiting
  split
  · exact .inr (.inl ⟨_, rfl⟩)
  rename_i hattempt
  exact .inr (.inr ⟨Bool.eq_false_iff.2 haccepted, hwaiting, Nat.lt_of_not_le hattempt, rfl⟩)

theorem command_round (c : FlightStartupController) (h : c.expectedAction = some action) :
    Round vehicle telemetryReady failsafe now c (c.command action now) := by
  rw [command]
  rcases c.updateCommand_cases action now with hu | ⟨detail, hu⟩ | ⟨ha, hw, hn, hu⟩
  · rw [hu]
    exact .stay c.detail
  · rw [hu]
    exact .fail detail (resting_of_expected h).1
  · rw [hu]
    exact .request action (.finite 0) h ha hw hn

theorem updatePhase_round (c : FlightStartupController) :
    Round vehicle telemetryReady failsafe now c
      (c.updatePhase vehicle telemetryReady failsafe now) := by
  have hresting (p : FlightStartupPhase) (hp : c.phase = p) (hr : p.resting = false) :
      c.phase.resting = false := by rw [hp, hr]
  rw [updatePhase]
  split
  · rename_i hp
    split
    · exact .stay c.detail
    rename_i hseen
    simp only [Bool.or_eq_true, Bool.not_eq_true', not_or, Bool.not_eq_false,
      Option.isNone_iff_eq_none] at hseen
    split
    · exact .fail _ (hresting _ hp rfl)
    rename_i htype
    simp only [ne_eq, Bool.not_eq_true', not_or, not_not, Bool.not_eq_false] at htype
    exact .latch hp hseen.1 (Option.isSome_iff_ne_none.2 hseen.2) htype.1 htype.2
  · rename_i hp
    split
    · exact .fail _ (hresting _ hp rfl)
    rename_i hdeadline
    split
    · rename_i hready
      exact .ready hp (Int.not_le.1 hdeadline) hready
    · exact .stay _
  · rename_i hp
    split
    · rename_i hg
      simp only [Bool.and_eq_true, beq_iff_eq] at hg
      exact .guided hp hg.1 hg.2
    split
    · exact .fail _ (hresting _ hp rfl)
    · exact c.command_round (by rw [expectedAction, hp])
  · rename_i hp
    split
    · rename_i hg
      rw [Bool.and_eq_true] at hg
      exact .armed hp hg.1 hg.2
    split
    · exact .fail _ (hresting _ hp rfl)
    · exact c.command_round (by rw [expectedAction, hp])
  · rename_i hp
    split
    · exact .fail _ (hresting _ hp rfl)
    rename_i harmed
    split
    · rename_i hg
      simp only [Bool.and_eq_true, Bool.not_eq_true', not_and, Bool.not_eq_true] at hg harmed
      have ha : vehicle.armed = true := by
        by_contra hn
        exact absurd hg.1 (by simp [harmed (Bool.eq_false_iff.2 hn)])
      exact .climbed hp hg.1 ha hg.2
    split
    · exact .fail _ (hresting _ hp rfl)
    have he : c.expectedAction = some .takeoff := by rw [expectedAction, hp]
    by_cases haccepted : c.commandAccepted = true
    · rw [if_pos haccepted]
      dsimp only
      rw [updateCommand_accepted c haccepted]
      exact .stay _
    · rw [if_neg haccepted]
      dsimp only
      rcases c.updateCommand_cases .takeoff now with hu | ⟨detail, hu⟩ | ⟨ha, hw, hn, hu⟩
      · rw [hu]
        exact .stay c.detail
      · rw [hu]
        exact .fail detail (hresting _ hp rfl)
      · rw [hu]
        exact .request .takeoff c.config.takeoffAltitudeM he ha hw hn
  · exact .stay c.detail
  · exact .stay c.detail
  · exact .stay c.detail

/-- What the guards at the head of `update` promise every round. -/
def Guarded (vehicle : VehicleSnapshot) (failsafe : CompanionLinkFailsafeSnapshot)
    (c : FlightStartupController) : Prop :=
  (c.phase ≠ .waitingForVehicle → vehicle.connected = true) ∧
    (c.phase.commanding = true → failsafe.accepted = true)

theorem guarded_next {c c' : FlightStartupController} (hg : Guarded vehicle failsafe c)
    (hr : Round vehicle telemetryReady failsafe now c (.next c')) :
    Guarded vehicle failsafe c' := by
  cases hr with
  | latch hp hc hs _ _ => exact ⟨fun _ => hc, fun h => by cases h⟩
  | ready hp _ hr =>
    simp only [FlightStartupController.ready, Bool.and_eq_true] at hr
    exact ⟨fun _ => hg.1 (by rw [hp]; decide), fun _ => hr.1.2⟩
  | guided hp _ _ =>
    exact ⟨fun _ => hg.1 (by rw [hp]; decide), fun _ => hg.2 (by rw [hp]; rfl)⟩
  | armed hp _ _ =>
    exact ⟨fun _ => hg.1 (by rw [hp]; decide), fun _ => hg.2 (by rw [hp]; rfl)⟩

/-- What every guarded round keeps or leads to, the whole loop does. -/
theorem transitions_rule {P : FlightStartupController → Prop}
    {Q : FlightStartupController → List FlightActionRequest → Prop}
    (hfail : ∀ c detail, P c → Q (c.fail detail) [])
    (hround : ∀ c flow, P c → Guarded vehicle failsafe c →
      Round vehicle telemetryReady failsafe now c flow → flow.Leads P Q)
    (rounds : Nat) {c : FlightStartupController} (hc : P c) (hg : Guarded vehicle failsafe c) :
    Q (c.transitions vehicle telemetryReady failsafe now rounds).1
      (c.transitions vehicle telemetryReady failsafe now rounds).2 := by
  induction rounds generalizing c with
  | zero => exact hfail c _ hc
  | succ rounds ih =>
    have hr : Round vehicle telemetryReady failsafe now c _ := c.updatePhase_round
    rw [transitions]
    cases hu : c.updatePhase vehicle telemetryReady failsafe now with
    | next c' =>
      rw [hu] at hr
      exact ih (hround c _ hc hg hr) (guarded_next hg hr)
    | done c' actions =>
      rw [hu] at hr
      exact hround c _ hc hg hr

theorem update_resting (c : FlightStartupController) (hr : c.phase.resting = true) :
    c.update vehicle telemetryReady failsafe now = (c, []) := by
  rw [update, if_pos]
  cases hp : c.phase <;> rw [hp] at hr <;> first | cases hr; done | simp

/-- The rule for a call of `update`. -/
theorem update_rule {P : FlightStartupController → Prop}
    {Q : FlightStartupController → List FlightActionRequest → Prop} {c : FlightStartupController}
    (hc : P c) (hrest : c.phase.resting = true → Q c [])
    (hfail : ∀ c detail, P c → Q (c.fail detail) [])
    (hround : ∀ c flow, P c → Guarded vehicle failsafe c →
      Round vehicle telemetryReady failsafe now c flow → flow.Leads P Q) :
    Q (c.update vehicle telemetryReady failsafe now).1
      (c.update vehicle telemetryReady failsafe now).2 := by
  rw [update]
  split
  · rename_i hp
    apply hrest
    rcases hp with hp | hp | hp <;> rw [hp] <;> rfl
  split
  · exact hfail c _ hc
  rename_i hlost
  split
  · exact hfail c _ hc
  rename_i hpolicy
  simp only [ne_eq, Bool.not_eq_true', not_and, Bool.not_eq_false] at hlost hpolicy
  apply transitions_rule hfail hround _ hc ⟨hlost, ?_⟩
  intro hp
  apply hpolicy
  · intro h
    rw [h] at hp
    cases hp
  · intro h
    rw [h] at hp
    cases hp

end Updates

theorem onActionSent_cases (c : FlightStartupController) (request : FlightActionRequest)
    (sent : Bool) (now : TimePoint) :
    c.onActionSent request sent now = c ∨
      (c.phase.commanding = true ∧
        (c.onActionSent request sent now = { c with awaitingAck := false } ∨
          ∃ detail, c.onActionSent request sent now = c.fail detail)) := by
  simp only [onActionSent]
  split
  · exact .inl rfl
  rename_i h
  simp only [ne_eq, not_or, not_not] at h
  have hcommanding := (resting_of_expected h.1).2
  split
  · exact .inr ⟨hcommanding, .inr ⟨_, rfl⟩⟩
  · exact .inr ⟨hcommanding, .inl rfl⟩

def accept (c : FlightStartupController) (action : FlightAction) : FlightStartupController :=
  { c with
    awaitingAck := false
    commandAccepted := true
    detail := actionName action ++ " accepted; verifying vehicle state" }

def extend (c : FlightStartupController) (action : FlightAction) (now : TimePoint) :
    FlightStartupController :=
  { c with
    acknowledgementDeadline := now + kAcknowledgementTimeout
    detail := actionName action ++ " is in progress" }

theorem onCommandAck_cases (c : FlightStartupController) (action : FlightAction)
    (outcome : FlightCommandAckOutcome) (rawResult sourceSystem : UInt8) (now : TimePoint) :
    (c.awaits action sourceSystem = false ∧
        c.onCommandAck action outcome rawResult sourceSystem now = c) ∨
      (c.awaits action sourceSystem = true ∧
        ((outcome = .accepted ∧
            c.onCommandAck action outcome rawResult sourceSystem now = c.accept action) ∨
          (outcome = .inProgress ∧
            c.onCommandAck action outcome rawResult sourceSystem now = c.extend action now) ∨
          (outcome = .rejected ∧ ∃ detail,
            c.onCommandAck action outcome rawResult sourceSystem now =
              fail { c with failureResult := some rawResult } detail))) := by
  simp only [onCommandAck]
  cases ha : c.awaits action sourceSystem with
  | false => exact .inl ⟨rfl, rfl⟩
  | true =>
    cases outcome with
    | accepted => exact .inr ⟨rfl, .inl ⟨rfl, rfl⟩⟩
    | inProgress => exact .inr ⟨rfl, .inr (.inl ⟨rfl, rfl⟩)⟩
    | rejected => exact .inr ⟨rfl, .inr (.inr ⟨rfl, _, rfl⟩)⟩

theorem awaits_iff (c : FlightStartupController) (action : FlightAction) (source : UInt8) :
    c.awaits action source = true ↔
      c.expectedAction = some action ∧ c.awaitingAck = true ∧ c.vehicleSystemId = some source := by
  simp only [awaits, Bool.and_eq_true, beq_iff_eq, and_assoc]

/-- The latched vehicle stays, and the phase stays unless the controller fails. -/
structure Stays (c c' : FlightStartupController) : Prop where
  vehicleSystemId : c'.vehicleSystemId = c.vehicleSystemId
  phase : c'.phase = c.phase ∨ c'.phase = .failed

theorem stays_onActionSent (c : FlightStartupController) (request : FlightActionRequest)
    (sent : Bool) (now : TimePoint) : Stays c (c.onActionSent request sent now) := by
  rcases c.onActionSent_cases request sent now with h | ⟨_, h | ⟨_, h⟩⟩
  · rw [h]
    exact ⟨rfl, .inl rfl⟩
  · rw [h]
    exact ⟨rfl, .inl rfl⟩
  · rw [h]
    exact ⟨rfl, .inr rfl⟩

theorem stays_onCommandAck (c : FlightStartupController) (action : FlightAction)
    (outcome : FlightCommandAckOutcome) (rawResult source : UInt8) (now : TimePoint) :
    Stays c (c.onCommandAck action outcome rawResult source now) := by
  rcases c.onCommandAck_cases action outcome rawResult source now with
    ⟨_, h⟩ | ⟨_, ⟨_, h⟩ | ⟨_, h⟩ | ⟨_, _, h⟩⟩
  · rw [h]
    exact ⟨rfl, .inl rfl⟩
  · rw [h]
    exact ⟨rfl, .inl rfl⟩
  · rw [h]
    exact ⟨rfl, .inl rfl⟩
  · rw [h]
    exact ⟨rfl, .inr rfl⟩

/-- What no call but a restart can do: change the configuration, leave a resting phase, or disable
the controller. -/
structure Moves (c c' : FlightStartupController) : Prop where
  config : c'.config = c.config
  rests : c.phase.resting = true → c'.phase = c.phase
  enabled : c.phase ≠ .disabled → c'.phase ≠ .disabled

theorem Moves.refl (c : FlightStartupController) : Moves c c := ⟨rfl, fun _ => rfl, id⟩

theorem Moves.trans (h : Moves c d) (k : Moves d e) : Moves c e := by
  refine ⟨k.config.trans h.config, ?_, fun hc => k.enabled (h.enabled hc)⟩
  intro hr
  have hd := h.rests hr
  rw [← hd] at hr
  exact (k.rests hr).trans hd

theorem moves_fail (c : FlightStartupController) (detail : String)
    (hr : c.phase.resting = false) : Moves c (c.fail detail) := by
  refine ⟨rfl, ?_, fun _ h => by cases h⟩
  intro h
  rw [hr] at h
  cases h

theorem moves_update (c : FlightStartupController) (vehicle : VehicleSnapshot)
    (telemetryReady : Bool) (failsafe : CompanionLinkFailsafeSnapshot) (now : TimePoint) :
    Moves c (c.update vehicle telemetryReady failsafe now).1 := by
  by_cases hr : c.phase.resting = true
  · rw [update_resting c hr]
    exact .refl c
  · have hq : (c.update vehicle telemetryReady failsafe now).1.config = c.config ∧
        (c.update vehicle telemetryReady failsafe now).1.phase ≠ .disabled := by
      apply update_rule (P := fun d => d.config = c.config ∧ d.phase ≠ .disabled)
        (Q := fun d _ => d.config = c.config ∧ d.phase ≠ .disabled) (c := c)
      · exact ⟨rfl, fun h => hr (by rw [h]; rfl)⟩
      · exact fun h => absurd h hr
      · exact fun d _ hd => ⟨hd.1, fun h => by cases h⟩
      · intro d flow hd _ hround
        cases hround with
        | stay detail => exact hd
        | fail detail _ => exact ⟨hd.1, fun h => by cases h⟩
        | latch _ _ _ _ _ => exact ⟨hd.1, fun h => by cases h⟩
        | ready _ _ _ => exact ⟨hd.1, fun h => by cases h⟩
        | guided _ _ _ => exact ⟨hd.1, fun h => by cases h⟩
        | armed _ _ _ => exact ⟨hd.1, fun h => by cases h⟩
        | climbed _ _ _ _ => exact ⟨hd.1, fun h => by cases h⟩
        | request _ _ _ _ _ _ => exact hd
    exact ⟨hq.1, fun h => absurd h hr, fun _ => hq.2⟩

theorem moves_onActionSent (c : FlightStartupController) (request : FlightActionRequest)
    (sent : Bool) (now : TimePoint) : Moves c (c.onActionSent request sent now) := by
  rcases c.onActionSent_cases request sent now with h | ⟨hp, h | ⟨detail, h⟩⟩
  · rw [h]
    exact .refl c
  · rw [h]
    exact ⟨rfl, fun _ => rfl, id⟩
  · rw [h]
    exact moves_fail _ _ (FlightStartupPhase.resting_of_commanding hp)

theorem moves_onCommandAck (c : FlightStartupController) (action : FlightAction)
    (outcome : FlightCommandAckOutcome) (rawResult source : UInt8) (now : TimePoint) :
    Moves c (c.onCommandAck action outcome rawResult source now) := by
  rcases c.onCommandAck_cases action outcome rawResult source now with
    ⟨_, h⟩ | ⟨ha, ⟨_, h⟩ | ⟨_, h⟩ | ⟨_, detail, h⟩⟩
  · rw [h]
    exact .refl c
  · rw [h]
    exact ⟨rfl, fun _ => rfl, id⟩
  · rw [h]
    exact ⟨rfl, fun _ => rfl, id⟩
  · rw [h]
    have hp := (resting_of_expected ((c.awaits_iff action source).1 ha).1).1
    refine ⟨rfl, fun hr => ?_, fun _ h => by cases h⟩
    rw [hp] at hr
    cases hr

theorem new_eq {config : FlightStartupConfig} (h : new config = .ok c) :
    c = if config.enabled then restart { config := config } else { config := config } := by
  rw [new] at h
  split at h
  · cases h
  split at h
  · rename_i he
    rw [if_pos he]
    exact (Except.ok.inj h).symm
  · rename_i he
    rw [if_neg he]
    exact (Except.ok.inj h).symm

end FlightStartupController
end OnboardAutonomy
