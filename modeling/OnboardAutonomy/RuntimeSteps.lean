import OnboardAutonomy.AutonomyRuntime

namespace OnboardAutonomy
open ExactDouble
set_option autoImplicit true

/-- The phases that no update leaves. -/
def AutonomyRuntimePhase.resting : AutonomyRuntimePhase → Bool
  | .disabled | .completed | .failed => true
  | .waitingForStartup | .active | .landing => false

/-- The phases in which the vehicle is under the runtime's control. -/
def AutonomyRuntimePhase.engaged : AutonomyRuntimePhase → Bool
  | .active | .landing => true
  | .disabled | .waitingForStartup | .completed | .failed => false

namespace AutonomyRuntime

theorem engaged_cases {p : AutonomyRuntimePhase} (h : p.engaged = true) :
    p = .active ∨ p = .landing := by
  cases p with
  | active => exact .inl rfl
  | landing => exact .inr rfl
  | disabled | waitingForStartup | completed | failed => cases h

theorem resting_of_engaged {p : AutonomyRuntimePhase} (h : p.engaged = true) :
    p.resting = false := by
  rcases engaged_cases h with rfl | rfl
  · rfl
  · rfl

def activate (r : AutonomyRuntime) (now : TimePoint) : AutonomyRuntime :=
  { r with
    phase := .active
    detail := "Autonomy active; waiting for vision target"
    targetMissingSince := some now
    nextLandingTarget := now }

def land (r : AutonomyRuntime) : AutonomyRuntime :=
  { r with
    phase := .completed
    detail := "Landing complete; vehicle disarmed"
    visionLandingTargetActive := false }

def touchDown (r : AutonomyRuntime) : AutonomyRuntime :=
  { r with
    visionLandingTargetActive := false
    detail := "Touchdown detected; waiting for ArduPilot auto-disarm" }

/-- The runtime as the checks of an update find it: already engaged, or engaged by a completed
startup. -/
inductive Begun (startup : FlightStartupSnapshot) (failsafe : CompanionLinkFailsafeSnapshot)
    (now : TimePoint) (r : AutonomyRuntime) : AutonomyRuntime → Prop where
  | engaged : r.phase.engaged = true → Begun startup failsafe now r r
  | activated : r.phase = .waitingForStartup → startup.phase = .completed →
      failsafe.accepted = true → Begun startup failsafe now r (r.activate now)

/-- What the checks of an update have found out about the vehicle. -/
structure Checked (vehicle : VehicleSnapshot) (failsafe : CompanionLinkFailsafeSnapshot) :
    Prop where
  connected : vehicle.connected = true
  identified : vehicle.systemId.isSome = true
  accepted : failsafe.accepted = true

/-- Everything a call of `update` can do. -/
inductive Updated (vehicle : VehicleSnapshot) (startup : FlightStartupSnapshot)
    (failsafe : CompanionLinkFailsafeSnapshot) (now : TimePoint)
    (landingTarget : Option BodyFramePosition) (r : AutonomyRuntime) :
    AutonomyRuntime → List FlightActionRequest → Prop where
  | rest : r.phase.resting = true → Updated vehicle startup failsafe now landingTarget r r []
  | wait (detail : String) : r.phase = .waitingForStartup → startup.phase ≠ .completed →
      Updated vehicle startup failsafe now landingTarget r { r with detail := detail } []
  | refuse (detail : String) : r.phase = .waitingForStartup →
      (startup.phase = .failed ∨ startup.phase = .completed) →
      Updated vehicle startup failsafe now landingTarget r (r.fail detail) []
  | abort (systemId : Option UInt8) (detail : String) : Begun startup failsafe now r b →
      Updated vehicle startup failsafe now landingTarget r
        (fail { b with vehicleSystemId := systemId } detail) []
  | land : Begun startup failsafe now r b → b.phase = .landing → Checked vehicle failsafe →
      vehicle.armed = false →
      Updated vehicle startup failsafe now landingTarget r
        (land { b with vehicleSystemId := vehicle.systemId }) []
  | touchDown : Begun startup failsafe now r b → b.phase = .landing → Checked vehicle failsafe →
      Updated vehicle startup failsafe now landingTarget r
        (touchDown { b with vehicleSystemId := vehicle.systemId }) []
  | act : Begun startup failsafe now r b → Checked vehicle failsafe → vehicle.armed = true →
      act { b with vehicleSystemId := vehicle.systemId } vehicle landingTarget now = (r', actions) →
      Updated vehicle startup failsafe now landingTarget r r' actions

section Updates
variable {vehicle : VehicleSnapshot} {startup : FlightStartupSnapshot}
  {failsafe : CompanionLinkFailsafeSnapshot} {now : TimePoint}
  {landingTarget : Option BodyFramePosition}

theorem Begun.phase (hb : Begun startup failsafe now r b) : b.phase.engaged = true := by
  cases hb with
  | engaged h => exact h
  | activated _ _ _ => rfl

theorem checkVehicle_updated (hb : Begun startup failsafe now r b) :
    (b.checkVehicle vehicle failsafe now).Leads
      (fun c => Checked vehicle failsafe ∧ vehicle.armed = true ∧
        c = { b with vehicleSystemId := vehicle.systemId })
      (Updated vehicle startup failsafe now landingTarget r) := by
  rw [checkVehicle]
  split
  · exact .abort b.vehicleSystemId _ hb
  rename_i hseen
  split
  · exact .abort b.vehicleSystemId _ hb
  rename_i haccepted
  simp only [Bool.or_eq_true, Bool.not_eq_true', not_or, Bool.not_eq_false,
    Option.isNone_iff_eq_none] at hseen haccepted
  have hc : Checked vehicle failsafe :=
    ⟨hseen.1, Option.isSome_iff_ne_none.2 hseen.2, haccepted⟩
  dsimp only
  split
  · rename_i h
    exact .land hb h.1 hc (by simpa using h.2)
  rename_i hland
  split
  · exact .abort vehicle.systemId _ hb
  rename_i hactive
  split
  · exact .abort vehicle.systemId _ hb
  split
  · rename_i h
    exact .touchDown hb h.1 hc
  simp only [Bool.not_eq_true', not_and, Bool.not_eq_false] at hland hactive
  refine ⟨hc, ?_, rfl⟩
  exact (engaged_cases hb.phase).elim hactive hland

theorem awaitStartup_updated (hr : r.phase.resting = false) :
    (awaitStartup r startup failsafe now).Leads (Begun startup failsafe now r)
      (Updated vehicle startup failsafe now landingTarget r) := by
  rw [awaitStartup]
  split
  · rename_i hp
    apply Begun.engaged
    cases h : r.phase <;> rw [h] at hr hp <;> first | rfl | exact absurd rfl hp | cases hr
  rename_i hp
  rw [ne_eq, not_not] at hp
  split
  · rename_i hs
    exact .refuse _ hp (.inl hs)
  split
  · rename_i hs
    exact .wait _ hp hs
  rename_i hs
  rw [ne_eq, not_not] at hs
  split
  · exact .refuse _ hp (.inr hs)
  rename_i ha
  rw [Bool.not_eq_true', Bool.not_eq_false] at ha
  exact .activated hp hs ha

theorem update_resting (r : AutonomyRuntime) (hr : r.phase.resting = true) :
    r.update vehicle startup failsafe now landingTarget = (r, []) := by
  rw [update, if_pos]
  cases hp : r.phase <;> rw [hp] at hr <;> first | cases hr; done | simp

theorem update_updated
    (hu : update r vehicle startup failsafe now landingTarget = (r', actions)) :
    Updated vehicle startup failsafe now landingTarget r r' actions := by
  rw [update] at hu
  split at hu
  · rename_i hp
    cases hu
    apply Updated.rest
    rcases hp with hp | hp | hp <;> rw [hp] <;> rfl
  rename_i hrest
  have hr : r.phase.resting = false := by
    cases h : r.phase <;> simp_all [AutonomyRuntimePhase.resting]
  have hs : (r.awaitStartup startup failsafe now).Leads _
    (Updated vehicle startup failsafe now landingTarget r) := awaitStartup_updated hr
  cases ha : r.awaitStartup startup failsafe now with
  | done c actions =>
    rw [ha] at hs hu
    cases hu
    exact hs
  | next b =>
    rw [ha] at hs hu
    have hl : (b.checkVehicle vehicle failsafe now).Leads _
      (Updated vehicle startup failsafe now landingTarget r) := checkVehicle_updated hs
    dsimp only at hu
    cases hv : b.checkVehicle vehicle failsafe now with
    | done c actions =>
      rw [hv] at hl hu
      cases hu
      exact hl
    | next c =>
      rw [hv] at hl hu
      obtain ⟨hc, harmed, he⟩ := hl
      rw [he] at hu
      exact .act hs hc harmed hu

theorem updated (r : AutonomyRuntime) : Updated vehicle startup failsafe now landingTarget r
    (r.update vehicle startup failsafe now landingTarget).1
    (r.update vehicle startup failsafe now landingTarget).2 :=
  update_updated rfl

/-- The LAND request is on its way and its answer is waited for. -/
def landRequested (r : AutonomyRuntime) (now : TimePoint) : AutonomyRuntime :=
  { r with
    landAttempt := r.landAttempt + 1
    awaitingLandAck := true
    acknowledgementDeadline := now + kAcknowledgementTimeout }

def landRequest (r : AutonomyRuntime) : FlightActionRequest where
  action := .land
  vehicleSystemId := r.vehicleSystemId.getD 0
  confirmation := UInt8.ofNat r.landAttempt

/-- Nothing more is waited for: the next LAND request is due. -/
def landDue (r : AutonomyRuntime) (now : TimePoint) : Prop :=
  r.phase = .active ∧ ¬(r.awaitingLandAck = true ∧ now < r.acknowledgementDeadline)

def landExhausted (r : AutonomyRuntime) (now : TimePoint) : Prop :=
  r.landDue now ∧ kMaximumLandAttempts ≤ r.landAttempt

theorem updateLandCommand_cases (r : AutonomyRuntime) (now : TimePoint) :
    (¬r.landDue now ∧ r.updateLandCommand now = (r, none)) ∨
    (r.landExhausted now ∧ r.updateLandCommand now =
      (r.fail "No COMMAND_ACK for LAND after 3 attempts", none)) ∨
    (r.landDue now ∧ r.landAttempt < kMaximumLandAttempts ∧
      r.updateLandCommand now = (r.landRequested now, some r.landRequest)) := by
  simp only [updateLandCommand]
  split
  · rename_i hp
    exact .inl ⟨fun h => hp h.1, rfl⟩
  rename_i hp
  rw [ne_eq, not_not] at hp
  split
  · rename_i hw
    rw [Bool.and_eq_true, decide_eq_true_eq] at hw
    exact .inl ⟨fun h => h.2 hw, rfl⟩
  rename_i hw
  rw [Bool.and_eq_true, decide_eq_true_eq] at hw
  split
  · rename_i hn
    exact .inr (.inl ⟨⟨⟨hp, hw⟩, hn⟩, rfl⟩)
  · rename_i hn
    exact .inr (.inr ⟨⟨hp, hw⟩, Nat.lt_of_not_le hn, rfl⟩)

theorem updateLandCommand_exhausted {r : AutonomyRuntime} (hx : r.landExhausted now) :
    r.updateLandCommand now = (r.fail "No COMMAND_ACK for LAND after 3 attempts", none) := by
  rcases r.updateLandCommand_cases now with ⟨hn, _⟩ | ⟨_, hu⟩ | ⟨_, hn, _⟩
  · exact absurd hx.1 hn
  · exact hu
  · exact absurd hx.2 (Nat.not_le_of_lt hn)

theorem supervised_approved (h : (supervised vehicle landingTarget now).approved = some intent) :
    vehicle.connected = true ∧ vehicle.armed = true ∧
      vehicle.systemId = some intent.vehicleSystemId ∧
      landingTarget = some intent.landingTarget ∧ validTarget intent.landingTarget = true := by
  simp only [supervised, DecisionEngine.decide, makeWorldState] at h
  split at h
  · rename_i hid
    rw [SafetySupervisor.supervise] at h
    dsimp only at h
    split at h
    · cases h
    rename_i hc
    split at h
    · cases h
    rename_i ha
    split at h
    · cases h
    split at h
    · cases h
    rename_i hv
    cases h
    simp only [Bool.not_eq_true', Bool.not_eq_false] at hc ha hv
    exact ⟨hc, ha, hid, rfl, hv⟩
  · cases h

/-- What acting on a decision cannot do. -/
structure Acts (r : AutonomyRuntime) (vehicle : VehicleSnapshot) (r' : AutonomyRuntime)
    (actions : List FlightActionRequest) : Prop where
  phase : r'.phase = r.phase ∨ r'.phase = .failed
  awaiting : r'.awaitingLandAck = true →
    r'.phase = r.phase ∧ (r.awaitingLandAck = true ∨ r.phase = .active)
  config : r'.config = r.config
  system : r'.vehicleSystemId = r.vehicleSystemId
  requests : ∀ a ∈ actions, (a.action = .land ∨ a.action = .landingTarget) ∧
    a.vehicleSystemId = vehicle.systemId.getD 0
  asked : r'.awaitingLandAck = true → r.awaitingLandAck = true ∨ ∃ a ∈ actions, a.action = .land

theorem updateLandCommand_acts (r : AutonomyRuntime) (hs : r.vehicleSystemId = vehicle.systemId)
    (now : TimePoint) :
    Acts r vehicle (r.updateLandCommand now).1 (r.updateLandCommand now).2.toList := by
  rcases r.updateLandCommand_cases now with ⟨_, hu⟩ | ⟨_, hu⟩ | ⟨hd, _, hu⟩
  · rw [hu]
    exact ⟨.inl rfl, fun h => ⟨rfl, .inl h⟩, rfl, rfl, fun a ha => absurd ha List.not_mem_nil, .inl⟩
  · rw [hu]
    exact ⟨.inr rfl, fun h => absurd h Bool.false_ne_true, rfl, rfl,
      fun a ha => absurd ha List.not_mem_nil, fun h => absurd h Bool.false_ne_true⟩
  · rw [hu]
    refine ⟨.inl rfl, fun _ => ⟨rfl, .inr hd.1⟩, rfl, rfl, ?_,
      fun _ => .inr ⟨_, List.mem_singleton.2 rfl, rfl⟩⟩
    intro a ha
    rw [Option.toList_some, List.mem_singleton] at ha
    rw [ha, ← hs]
    exact ⟨.inl rfl, rfl⟩

theorem search_acts (r : AutonomyRuntime) (hs : r.vehicleSystemId = vehicle.systemId)
    (now : TimePoint) :
    Acts r vehicle (r.search now).1 (r.search now).2 := by
  simp only [search]
  split
  · exact ⟨.inl rfl, fun h => ⟨rfl, .inl h⟩, rfl, rfl, fun a ha => absurd ha List.not_mem_nil, .inl⟩
  split
  · obtain ⟨hp, ha, hc, hv, hq, hl⟩ := updateLandCommand_acts { r with
      visionLandingTargetActive := false
      landCommandAfter := none
      nextLandingTarget := now
      targetMissingSince := some (r.targetMissingSince.getD now)
      detail := "Vision unavailable; requesting fallback LAND" } hs now
    exact ⟨hp, ha, hc, hv, hq, hl⟩
  · exact ⟨.inl rfl, fun h => ⟨rfl, .inl h⟩, rfl, rfl, fun a ha => absurd ha List.not_mem_nil, .inl⟩

/-- The timers of a target in view. -/
def tracking (r : AutonomyRuntime) (after : Option TimePoint) (next : TimePoint) :
    AutonomyRuntime :=
  { r with targetMissingSince := none, landCommandAfter := after, nextLandingTarget := next }

theorem streamTarget_warmup (r : AutonomyRuntime) (intent : DesiredMotion) (now : TimePoint) :
    ∃ after next, ((r.startWarmup now).streamTarget intent now).1 = r.tracking after next ∧
      (after = r.landCommandAfter ∨
        (r.landCommandAfter = none ∧ after = some (now + kLandingTargetWarmup))) ∧
      (((r.startWarmup now).streamTarget intent now).2 = [] ∨
        ((r.startWarmup now).streamTarget intent now).2 = [landingTargetRequest intent now]) := by
  rw [startWarmup, streamTarget]
  dsimp only
  split
  · rename_i h
    have hafter := Option.isNone_iff_eq_none.1 h.1
    split
    · exact ⟨_, _, rfl, .inr ⟨hafter, rfl⟩, .inr rfl⟩
    · exact ⟨_, _, rfl, .inr ⟨hafter, rfl⟩, .inl rfl⟩
  · split
    · exact ⟨_, _, rfl, .inl rfl, .inr rfl⟩
    · exact ⟨_, _, rfl, .inl rfl, .inl rfl⟩

theorem guide_acts (r : AutonomyRuntime) (hs : r.vehicleSystemId = vehicle.systemId)
    (intent : DesiredMotion) (hi : vehicle.systemId = some intent.vehicleSystemId)
    (now : TimePoint) :
    Acts r vehicle (r.guide intent now).1 (r.guide intent now).2 := by
  obtain ⟨after, next, hstream, _, hactions⟩ := r.streamTarget_warmup intent now
  have htarget (a : FlightActionRequest)
      (ha : a ∈ ((r.startWarmup now).streamTarget intent now).2) :
      (a.action = .land ∨ a.action = .landingTarget) ∧
        a.vehicleSystemId = vehicle.systemId.getD 0 := by
    rcases hactions with h | h
    · rw [h] at ha
      cases ha
    · rw [h, List.mem_singleton] at ha
      rw [ha, hi]
      exact ⟨.inr rfl, rfl⟩
  rw [guide]
  dsimp only
  rw [hstream]
  split
  · obtain ⟨hp, ha, hc, hv, hq, hl⟩ := updateLandCommand_acts (r.tracking after next) hs now
    refine ⟨hp, ha, hc, hv, ?_, ?_⟩
    · intro a ha
      rcases List.mem_append.1 ha with ha | ha
      · exact htarget a ha
      · exact hq a ha
    · intro hw
      rcases hl hw with hw | ⟨a, ha, hk⟩
      · exact .inl hw
      · exact .inr ⟨a, List.mem_append_right _ ha, hk⟩
  · refine ⟨.inl rfl, fun h => ⟨rfl, .inl h⟩, rfl, rfl, ?_, .inl⟩
    intro a ha
    rw [Option.toList_none, List.append_nil] at ha
    exact htarget a ha

theorem act_acts (hs : r.vehicleSystemId = vehicle.systemId)
    (ha : act r vehicle landingTarget now = (r', actions)) : Acts r vehicle r' actions := by
  rw [act] at ha
  cases hm : (supervised vehicle landingTarget now).approved with
  | none =>
    obtain ⟨hp, hw, hc, hv, hq, hl⟩ := search_acts
      { r with motionSafetyStatus := (supervised vehicle landingTarget now).status } hs now
    rw [hm] at ha
    dsimp only at ha
    rw [ha] at hp hw hc hv hq hl
    exact ⟨hp, hw, hc, hv, hq, hl⟩
  | some intent =>
    obtain ⟨hp, hw, hc, hv, hq, hl⟩ := guide_acts
      { r with motionSafetyStatus := (supervised vehicle landingTarget now).status } hs intent
      (supervised_approved hm).2.2.1 now
    rw [hm] at ha
    dsimp only at ha
    rw [ha] at hp hw hc hv hq hl
    exact ⟨hp, hw, hc, hv, hq, hl⟩

end Updates

theorem onActionSent_cases (r : AutonomyRuntime) (request : FlightActionRequest) (sent : Bool)
    (now : TimePoint) :
    (request.action = .landingTarget ∧ ∃ detail, r.onActionSent request sent now =
        { r with visionLandingTargetActive := sent, detail := detail }) ∨
      r.onActionSent request sent now = r ∨
      (request.action = .land ∧ sent = false ∧
        (r.onActionSent request sent now = { r with awaitingLandAck := false } ∨
          r.onActionSent request sent now = r.fail "Failed to send fallback LAND")) := by
  simp only [onActionSent]
  split
  · rename_i h
    cases sent with
    | true => exact .inl ⟨h, _, rfl⟩
    | false => exact .inl ⟨h, _, rfl⟩
  split
  · exact .inr (.inl rfl)
  rename_i h
  rw [not_or, ne_eq, not_not] at h
  have hs : sent = false := Bool.eq_false_iff.2 h.2
  split
  · exact .inr (.inr ⟨h.1, hs, .inr rfl⟩)
  · exact .inr (.inr ⟨h.1, hs, .inl rfl⟩)

def landAccepted (r : AutonomyRuntime) (now : TimePoint) : AutonomyRuntime :=
  { r with
    awaitingLandAck := false
    phase := .landing
    landingDeadline := now + kLandingTimeout
    detail := "LAND accepted; monitoring descent" }

def extend (r : AutonomyRuntime) (now : TimePoint) : AutonomyRuntime :=
  { r with
    acknowledgementDeadline := now + kAcknowledgementTimeout
    detail := "LAND is in progress" }

theorem onCommandAck_cases (r : AutonomyRuntime) (action : FlightAction)
    (outcome : FlightCommandAckOutcome) (rawResult sourceSystem : UInt8) (now : TimePoint) :
    (r.awaits action sourceSystem = false ∧
        r.onCommandAck action outcome rawResult sourceSystem now = r) ∨
      (r.awaits action sourceSystem = true ∧
        ((outcome = .accepted ∧
            r.onCommandAck action outcome rawResult sourceSystem now = r.landAccepted now) ∨
          (outcome = .inProgress ∧
            r.onCommandAck action outcome rawResult sourceSystem now = r.extend now) ∨
          (outcome = .rejected ∧ ∃ detail,
            r.onCommandAck action outcome rawResult sourceSystem now =
              fail { r with failureResult := some rawResult } detail))) := by
  simp only [onCommandAck]
  cases ha : r.awaits action sourceSystem with
  | false => exact .inl ⟨rfl, rfl⟩
  | true =>
    cases outcome with
    | accepted => exact .inr ⟨rfl, .inl ⟨rfl, rfl⟩⟩
    | inProgress => exact .inr ⟨rfl, .inr (.inl ⟨rfl, rfl⟩)⟩
    | rejected => exact .inr ⟨rfl, .inr (.inr ⟨rfl, _, rfl⟩)⟩

theorem awaits_iff (r : AutonomyRuntime) (action : FlightAction) (source : UInt8) :
    r.awaits action source = true ↔
      action = .land ∧ r.awaitingLandAck = true ∧ r.vehicleSystemId = some source := by
  simp only [awaits, Bool.and_eq_true, beq_iff_eq, and_assoc]

theorem new_eq {config : AutonomyRuntimeConfig} (h : new config = .ok r) :
    r = if config.enabled then restart { config := config } else { config := config } := by
  rw [new] at h
  split at h
  · cases h
  split at h
  · rename_i he
    rw [if_pos he]
    exact (Except.ok.inj h).symm
  · rename_i he
    rw [if_neg he]
    exact (Except.ok.inj h).symm

end AutonomyRuntime
end OnboardAutonomy
