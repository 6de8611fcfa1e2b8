import OnboardAutonomy.Histories
import OnboardAutonomy.RuntimeSteps

namespace OnboardAutonomy
open ExactDouble Histories
set_option autoImplicit true

/-- A runtime and the requests it has returned and not yet heard of. -/
structure ReportingRuntime where
  runtime : AutonomyRuntime
  pending : List FlightActionRequest := []

/-- The calls of the runtime; a report is about the oldest pending request. -/
inductive RuntimeCall where
  | update (vehicle : VehicleSnapshot) (startup : FlightStartupSnapshot)
      (failsafe : CompanionLinkFailsafeSnapshot) (now : TimePoint)
      (landingTarget : Option BodyFramePosition)
  | onActionSent (sent : Bool) (now : TimePoint)
  | onCommandAck (action : FlightAction) (outcome : FlightCommandAckOutcome)
      (rawResult sourceSystem : UInt8) (now : TimePoint)
  | restart

namespace ReportingRuntime

def step (s : ReportingRuntime) : RuntimeCall → ReportingRuntime × List FlightActionRequest
  | .update vehicle startup failsafe now landingTarget =>
    let (runtime, actions) := s.runtime.update vehicle startup failsafe now landingTarget
    ({ runtime := runtime, pending := actions }, actions)
  | .onActionSent sent now =>
    match s.pending with
    | [] => (s, [])
    | request :: pending =>
      ({ runtime := s.runtime.onActionSent request sent now, pending := pending }, [])
  | .onCommandAck action outcome rawResult sourceSystem now =>
    ({ s with runtime := s.runtime.onCommandAck action outcome rawResult sourceSystem now }, [])
  | .restart => ({ s with runtime := s.runtime.restart }, [])

/-- As in a poll, all requests of an update are reported before anything else happens. -/
def legal (s : ReportingRuntime) : RuntimeCall → Bool
  | .onActionSent _ _ => !s.pending.isEmpty
  | .update .. | .onCommandAck .. | .restart => s.pending.isEmpty

end ReportingRuntime

abbrev RuntimeEntry := Entry ReportingRuntime RuntimeCall (List FlightActionRequest)

def AutonomyRuntimePhase.ended : AutonomyRuntimePhase → Bool
  | .completed | .failed => true
  | .disabled | .waitingForStartup | .active | .landing => false

namespace AutonomyRuntime

/-- The runs of a runtime the constructor accepts. -/
def Ran (config : AutonomyRuntimeConfig) (h : List RuntimeEntry) (s : ReportingRuntime) : Prop :=
  ∃ r, new config = .ok r ∧
    Run ReportingRuntime.step (fun _ s call => s.legal call = true) { runtime := r } h s

/-- An ended runtime neither guides nor waits. -/
def Silent (r : AutonomyRuntime) : Prop :=
  r.phase.ended = true → r.visionLandingTargetActive = false ∧ r.awaitingLandAck = false

/-- What a call that ends the runtime leaves behind. -/
structure EndsWell (e : RuntimeEntry) : Prop where
  quiet : ∀ vehicle startup failsafe now landingTarget,
    e.input = .update vehicle startup failsafe now landingTarget →
    (e.after ReportingRuntime.step).runtime.phase.ended = true → e.output = []
  reason : e.before.runtime.phase ≠ .failed →
    (e.after ReportingRuntime.step).runtime.phase = .failed →
    (e.after ReportingRuntime.step).runtime.failReason =
      some (e.after ReportingRuntime.step).runtime.detail

/-- The last LAND request has timed out when an update with a warmed-up, approved target comes. -/
def ExhaustedUnderGuidance (e : RuntimeEntry) : Prop :=
  ∃ vehicle startup failsafe now landingTarget,
    e.input = .update vehicle startup failsafe now landingTarget ∧
    failsafe.accepted = true ∧
    (supervised vehicle landingTarget now).approved.isSome = true ∧
    e.before.runtime.warmedUp now = true ∧ e.before.runtime.landExhausted now

/-- Landing targets are reported first, then at most one LAND request. -/
def landLast : List FlightActionRequest → Prop
  | [] => True
  | a :: as => (a.action = .landingTarget ∧ landLast as) ∨ (a.action = .land ∧ as = [])

/-- The invariant of runs that never exhaust the LAND requests under guidance. -/
structure Quiet (s : ReportingRuntime) : Prop where
  silent : s.runtime.Silent
  awaiting : s.runtime.awaitingLandAck = true → s.runtime.phase = .active
  waiting : s.runtime.phase = .waitingForStartup → s.runtime.landCommandAfter = none
  engaged : s.pending ≠ [] → s.runtime.phase.engaged = true
  ordered : landLast s.pending

theorem quiet_fail (r : AutonomyRuntime) (detail : String) : Quiet ⟨r.fail detail, []⟩ :=
  ⟨fun _ => ⟨rfl, rfl⟩, fun h => absurd h Bool.false_ne_true, fun h => (by cases h),
    fun h => absurd rfl h, trivial⟩

theorem not_ended_of_engaged {p : AutonomyRuntimePhase} (h : p.engaged = true) :
    ¬p.ended = true := by
  rcases engaged_cases h with rfl | rfl
  · decide
  · decide

theorem silent_of_engaged {r : AutonomyRuntime} (h : r.phase.engaged = true) : r.Silent :=
  fun he => absurd he (not_ended_of_engaged h)

theorem quiet_engaged {r : AutonomyRuntime} (hp : r.phase.engaged = true)
    (ha : r.awaitingLandAck = true → r.phase = .active) (hl : landLast actions) :
    Quiet ⟨r, actions⟩ := by
  refine ⟨silent_of_engaged hp, ha, ?_, fun _ => hp, hl⟩
  intro hw
  dsimp only at hw
  rw [hw] at hp
  cases hp

/-- What an update may lead to: the runtime stays engaged, or it has failed and says why. -/
inductive Orderly : AutonomyRuntime → List FlightActionRequest → Prop where
  | engaged {r : AutonomyRuntime} : r.phase.engaged = true →
      (r.awaitingLandAck = true → r.phase = .active) → landLast actions → Orderly r actions
  | failed (r : AutonomyRuntime) (detail : String) : Orderly (r.fail detail) []

theorem Orderly.quiet (h : Orderly r actions) : Quiet ⟨r, actions⟩ ∧
    (r.phase.ended = true → actions = []) ∧ (r.phase = .failed → r.failReason = some r.detail) := by
  cases h with
  | engaged hp ha hl =>
    refine ⟨quiet_engaged hp ha hl, ?_, ?_⟩
    · intro he
      exact absurd he (not_ended_of_engaged hp)
    · intro he
      rw [he] at hp
      cases hp
  | failed r detail => exact ⟨quiet_fail r detail, fun _ => rfl, fun _ => rfl⟩

section Updates
variable {vehicle : VehicleSnapshot} {startup : FlightStartupSnapshot}
  {failsafe : CompanionLinkFailsafeSnapshot} {now : TimePoint}
  {landingTarget : Option BodyFramePosition}

theorem orderly_updateLandCommand (r : AutonomyRuntime) (hp : r.phase.engaged = true)
    (ha : r.awaitingLandAck = true → r.phase = .active) (now : TimePoint) :
    Orderly (r.updateLandCommand now).1 (r.updateLandCommand now).2.toList := by
  rcases r.updateLandCommand_cases now with ⟨_, hu⟩ | ⟨_, hu⟩ | ⟨hd, _, hu⟩
  · rw [hu]
    exact .engaged hp ha trivial
  · rw [hu]
    exact .failed r _
  · rw [hu]
    exact .engaged hp (fun _ => hd.1) (.inr ⟨rfl, rfl⟩)

theorem orderly_search (r : AutonomyRuntime) (hp : r.phase.engaged = true)
    (ha : r.awaitingLandAck = true → r.phase = .active) (now : TimePoint) :
    Orderly (r.search now).1 (r.search now).2 := by
  simp only [search]
  split
  · exact .engaged hp ha trivial
  split
  · exact orderly_updateLandCommand { r with
      visionLandingTargetActive := false
      landCommandAfter := none
      nextLandingTarget := now
      targetMissingSince := some (r.targetMissingSince.getD now)
      detail := "Vision unavailable; requesting fallback LAND" } hp ha now
  · exact .engaged hp ha trivial

theorem warmedUp_tracking {r : AutonomyRuntime}
    (ha : after = r.landCommandAfter ∨
      (r.landCommandAfter = none ∧ after = some (now + kLandingTargetWarmup)))
    (hw : (r.tracking after next).warmedUp now = true) : r.warmedUp now = true := by
  rcases ha with ha | ⟨_, ha⟩
  · rw [ha] at hw
    exact hw
  · rw [ha] at hw
    simp only [warmedUp, tracking, Bool.and_eq_true, decide_eq_true_eq] at hw
    exact absurd hw.2 (Int.not_le.2 (Int.lt_add_of_pos_right now (by decide)))

theorem orderly_guide (r : AutonomyRuntime) (intent : DesiredMotion)
    (hp : r.phase.engaged = true) (ha : r.awaitingLandAck = true → r.phase = .active)
    (hgood : r.warmedUp now = true → ¬r.landExhausted now) :
    Orderly (r.guide intent now).1 (r.guide intent now).2 := by
  obtain ⟨after, next, hstream, hafter, hactions⟩ := r.streamTarget_warmup intent now
  have htargets (lands : List FlightActionRequest) (hl : landLast lands) :
      landLast (((r.startWarmup now).streamTarget intent now).2 ++ lands) := by
    rcases hactions with h | h
    · rw [h]
      exact hl
    · rw [h]
      exact .inl ⟨rfl, hl⟩
  rw [guide]
  dsimp only
  rw [hstream]
  split
  · rename_i hw
    have hnot := hgood (warmedUp_tracking hafter hw)
    rcases (r.tracking after next).updateLandCommand_cases now with
      ⟨_, hu⟩ | ⟨hx, hu⟩ | ⟨hd, _, hu⟩
    · rw [hu]
      exact .engaged hp ha (htargets [] trivial)
    · exact absurd hx hnot
    · rw [hu]
      exact .engaged hp (fun _ => hd.1) (htargets _ (.inr ⟨rfl, rfl⟩))
  · exact .engaged hp ha (htargets [] trivial)

theorem orderly_act (hact : act r vehicle landingTarget now = (r', actions))
    (hp : r.phase.engaged = true) (ha : r.awaitingLandAck = true → r.phase = .active)
    (hgood : (supervised vehicle landingTarget now).approved.isSome = true →
      r.warmedUp now = true → ¬r.landExhausted now) : Orderly r' actions := by
  rw [act] at hact
  cases hm : (supervised vehicle landingTarget now).approved with
  | none =>
    have ho := orderly_search
      { r with motionSafetyStatus := (supervised vehicle landingTarget now).status } hp ha now
    rw [hm] at hact
    dsimp only at hact
    rw [hact] at ho
    exact ho
  | some intent =>
    have ho := orderly_guide
      { r with motionSafetyStatus := (supervised vehicle landingTarget now).status } intent hp ha
      (hgood (by rw [hm]; rfl))
    rw [hm] at hact
    dsimp only at hact
    rw [hact] at ho
    exact ho

/-- One update keeps the invariant, unless it exhausts the LAND requests under guidance. -/
theorem quiet_update (r : AutonomyRuntime) (hq : Quiet ⟨r, []⟩)
    (hgood : failsafe.accepted = true →
      (supervised vehicle landingTarget now).approved.isSome = true →
      r.warmedUp now = true → ¬r.landExhausted now)
    (hu : Updated vehicle startup failsafe now landingTarget r r' actions) :
    Quiet ⟨r', actions⟩ ∧ (r'.phase.ended = true → actions = []) ∧
      (r.phase ≠ .failed → r'.phase = .failed → r'.failReason = some r'.detail) := by
  cases hu with
  | rest _ => exact ⟨hq, fun _ => rfl, fun hn hf => absurd hf hn⟩
  | wait detail hp _ =>
    refine ⟨⟨?_, hq.awaiting, hq.waiting, fun h => absurd rfl h, trivial⟩, fun _ => rfl, ?_⟩
    · intro he
      dsimp only at he
      rw [hp] at he
      cases he
    · intro hn hf
      exact absurd hf hn
  | refuse detail _ _ =>
    obtain ⟨h1, h2, h3⟩ := (Orderly.failed r detail).quiet
    exact ⟨h1, h2, fun _ => h3⟩
  | @abort b systemId detail hb =>
    obtain ⟨h1, h2, h3⟩ := (Orderly.failed { b with vehicleSystemId := systemId } detail).quiet
    exact ⟨h1, h2, fun _ => h3⟩
  | @land b hb hp _ _ =>
    have hawaiting : b.awaitingLandAck = false := by
      cases hb with
      | engaged _ =>
        cases hw : r.awaitingLandAck with
        | false => rfl
        | true =>
          have hactive := hq.awaiting hw
          dsimp only at hactive
          rw [hp] at hactive
          cases hactive
      | activated _ _ _ => cases hp
    refine ⟨⟨fun _ => ⟨rfl, hawaiting⟩, ?_, fun h => (by cases h), fun h => absurd rfl h, trivial⟩,
      fun _ => rfl, fun _ hf => by cases hf⟩
    intro hw
    have hw' : b.awaitingLandAck = true := hw
    rw [hawaiting] at hw'
    cases hw'
  | @touchDown b hb hp _ =>
    have ha : b.awaitingLandAck = true → b.phase = .active := by
      cases hb with
      | engaged _ => exact hq.awaiting
      | activated _ _ _ => exact fun _ => rfl
    have horderly : Orderly (touchDown { b with vehicleSystemId := vehicle.systemId }) [] :=
      .engaged hb.phase ha trivial
    obtain ⟨h1, h2, h3⟩ := horderly.quiet
    exact ⟨h1, h2, fun _ => h3⟩
  | @act b _ _ hb hc _ hact =>
    have horderly : Orderly r' actions := by
      apply orderly_act hact hb.phase
      · cases hb with
        | engaged _ => exact hq.awaiting
        | activated _ _ _ => exact fun _ => rfl
      · cases hb with
        | engaged _ => exact hgood hc.accepted
        | activated hw _ _ =>
          intro _ hwarm
          have hnone := hq.waiting hw
          dsimp only at hnone
          simp only [warmedUp, activate, hnone] at hwarm
          cases hwarm
    obtain ⟨h1, h2, h3⟩ := horderly.quiet
    exact ⟨h1, h2, fun _ => h3⟩

end Updates
theorem quiet_report (hq : Quiet ⟨r, request :: pending⟩) (sent : Bool) (now : TimePoint) :
    Quiet ⟨r.onActionSent request sent now, pending⟩ ∧
      (r.phase ≠ .failed → (r.onActionSent request sent now).phase = .failed →
        (r.onActionSent request sent now).failReason =
          some (r.onActionSent request sent now).detail) := by
  have hp : r.phase.engaged = true := hq.engaged (List.cons_ne_nil _ _)
  have hordered : (request.action = .landingTarget ∧ landLast pending) ∨
      (request.action = .land ∧ pending = []) := hq.ordered
  have htail : landLast pending := by
    rcases hordered with ⟨_, h⟩ | ⟨_, h⟩
    · exact h
    · rw [h]
      trivial
  rcases r.onActionSent_cases request sent now with ⟨_, detail, he⟩ | he | ⟨hl, _, he | he⟩
  · rw [he]
    exact ⟨quiet_engaged hp hq.awaiting htail, fun hn hf => absurd hf hn⟩
  · rw [he]
    exact ⟨quiet_engaged hp hq.awaiting htail, fun hn hf => absurd hf hn⟩
  · rw [he]
    exact ⟨quiet_engaged hp (fun h => absurd h Bool.false_ne_true) htail,
      fun hn hf => absurd hf hn⟩
  · rcases hordered with ⟨h, _⟩ | ⟨_, h⟩
    · rw [hl] at h
      cases h
    · rw [he, h]
      exact ⟨quiet_fail r _, fun _ _ => rfl⟩

theorem quiet_ack (hq : Quiet ⟨r, []⟩) (action : FlightAction) (outcome : FlightCommandAckOutcome)
    (rawResult source : UInt8) (now : TimePoint) :
    Quiet ⟨r.onCommandAck action outcome rawResult source now, []⟩ ∧
      (r.phase ≠ .failed →
        (r.onCommandAck action outcome rawResult source now).phase = .failed →
        (r.onCommandAck action outcome rawResult source now).failReason =
          some (r.onCommandAck action outcome rawResult source now).detail) := by
  rcases r.onCommandAck_cases action outcome rawResult source now with
    ⟨_, he⟩ | ⟨ha, ⟨_, he⟩ | ⟨_, he⟩ | ⟨_, detail, he⟩⟩
  · rw [he]
    exact ⟨hq, fun hn hf => absurd hf hn⟩
  · rw [he]
    exact ⟨quiet_engaged rfl (fun h => absurd h Bool.false_ne_true) trivial,
      fun _ hf => by cases hf⟩
  · have hactive : r.phase = .active := hq.awaiting ((r.awaits_iff action source).1 ha).2.1
    rw [he]
    refine ⟨quiet_engaged (r := r.extend now) ?_ hq.awaiting trivial, fun hn hf => absurd hf hn⟩
    rw [extend, hactive]
    rfl
  · rw [he]
    exact ⟨quiet_fail _ detail, fun _ _ => rfl⟩

theorem quiet_restart (r : AutonomyRuntime) :
    Quiet ⟨r.restart, []⟩ ∧ r.restart.phase ≠ .failed := by
  have hp : r.restart.phase.ended = false ∧ r.restart.phase ≠ .failed := by
    rw [restart]
    dsimp only
    split <;> exact ⟨rfl, fun h => by cases h⟩
  refine ⟨⟨?_, fun h => absurd h Bool.false_ne_true, fun _ => rfl, fun h => absurd rfl h,
    trivial⟩, hp.2⟩
  intro he
  dsimp only at he
  rw [hp.1] at he
  cases he

theorem quiet_step (hq : Quiet s) (hl : s.legal call = true)
    (hgood : ¬ExhaustedUnderGuidance ⟨s, call, output⟩) :
    Quiet (s.step call).1 ∧ EndsWell ⟨s, call, (s.step call).2⟩ := by
  obtain ⟨r, pending⟩ := s
  cases call with
  | update vehicle startup failsafe now landingTarget =>
    have hnone : pending = [] := List.isEmpty_iff.1 hl
    subst hnone
    obtain ⟨h1, h2, h3⟩ := quiet_update r hq (fun ha hs hw hx =>
      hgood ⟨_, _, _, _, _, rfl, ha, hs, hw, hx⟩) (update_updated rfl)
    exact ⟨h1, ⟨fun _ _ _ _ _ _ => h2, h3⟩⟩
  | onActionSent sent now =>
    cases pending with
    | nil => cases hl
    | cons request pending =>
      obtain ⟨h1, h2⟩ := quiet_report hq sent now
      exact ⟨h1, ⟨fun _ _ _ _ _ he => (by cases he), h2⟩⟩
  | onCommandAck action outcome rawResult source now =>
    have hnone : pending = [] := List.isEmpty_iff.1 hl
    subst hnone
    obtain ⟨h1, h2⟩ := quiet_ack hq action outcome rawResult source now
    exact ⟨h1, ⟨fun _ _ _ _ _ he => (by cases he), h2⟩⟩
  | restart =>
    have hnone : pending = [] := List.isEmpty_iff.1 hl
    subst hnone
    obtain ⟨h1, h2⟩ := quiet_restart r
    exact ⟨h1, ⟨fun _ _ _ _ _ he => (by cases he), fun _ hf => absurd hf h2⟩⟩

theorem quiet_new {config : AutonomyRuntimeConfig} (h : new config = .ok r) : Quiet ⟨r, []⟩ := by
  rw [new] at h
  split at h
  · cases h
  split at h
  · cases h
    exact (quiet_restart _).1
  · cases h
    exact ⟨fun h => (by cases h), fun h => absurd h Bool.false_ne_true, fun h => (by cases h),
      fun h => absurd rfl h, trivial⟩

theorem quiet_run {config : AutonomyRuntimeConfig} (hr : Ran config h s)
    (hgood : ∀ e ∈ h, ¬ExhaustedUnderGuidance e) :
    Quiet s ∧ ∀ e ∈ h, e.before.runtime.Silent ∧ EndsWell e := by
  obtain ⟨r, hnew, hr⟩ := hr
  revert hgood
  apply hr.history_invariant (fun h s => (∀ e ∈ h, ¬ExhaustedUnderGuidance e) →
    Quiet s ∧ ∀ e ∈ h, e.before.runtime.Silent ∧ EndsWell e)
  · intro _
    exact ⟨quiet_new hnew, fun e he => absurd he List.not_mem_nil⟩
  · intro h s call _ ih hl hgood
    obtain ⟨hq, hpast⟩ := ih fun e he => hgood e (List.mem_cons_of_mem _ he)
    obtain ⟨hnext, hends⟩ := quiet_step hq hl (hgood _ List.mem_cons_self)
    refine ⟨hnext, ?_⟩
    intro e he
    rcases List.mem_cons.1 he with he | he
    · rw [he]
      exact ⟨hq.silent, hends⟩
    · exact hpast e he

/-- With the LAND requests exhausted under guidance, the detail of the failure is overwritten. -/
theorem guide_exhausted (r : AutonomyRuntime) (intent : DesiredMotion)
    (hw : r.warmedUp now = true) (hx : r.landExhausted now) :
    (r.guide intent now).1.phase = .failed ∧
      (r.guide intent now).1.detail = targetDetail intent.landingTarget ∧
      (r.guide intent now).1.failReason = some "No COMMAND_ACK for LAND after 3 attempts" := by
  obtain ⟨after, next, hstream, hafter, _⟩ := r.streamTarget_warmup intent now
  have hsame : after = r.landCommandAfter := by
    rcases hafter with h | ⟨h, _⟩
    · exact h
    · rw [warmedUp, h] at hw
      cases hw
  have hwarm : (r.tracking after next).warmedUp now = true := by
    rw [hsame]
    exact hw
  have hland := updateLandCommand_exhausted (r := r.tracking after next) hx
  rw [guide]
  dsimp only
  rw [hstream, if_pos hwarm, hland]
  exact ⟨rfl, rfl, rfl⟩

theorem update_exhausted (r : AutonomyRuntime) (startup : FlightStartupSnapshot)
    (hf : failsafe.accepted = true)
    (hs : (supervised vehicle landingTarget now).approved = some intent)
    (hw : r.warmedUp now = true) (hx : r.landExhausted now) :
    (r.update vehicle startup failsafe now landingTarget).1.phase = .failed ∧
      (r.update vehicle startup failsafe now landingTarget).1.detail =
        targetDetail intent.landingTarget ∧
      (r.update vehicle startup failsafe now landingTarget).1.failReason =
        some "No COMMAND_ACK for LAND after 3 attempts" := by
  obtain ⟨hc, harmed, hid, _, _⟩ := supervised_approved hs
  have hactive := hx.1.1
  have hawait : r.awaitStartup startup failsafe now = .next r :=
    if_pos (by rw [hactive]; decide)
  have hcheck : r.checkVehicle vehicle failsafe now =
      .next { r with vehicleSystemId := vehicle.systemId } := by
    simp [checkVehicle, hc, hid, hf, harmed, hactive]
  rw [update, if_neg (by rw [hactive]; decide), hawait]
  dsimp only
  rw [hcheck]
  dsimp only
  rw [act, hs]
  exact guide_exhausted _ intent hw hx

theorem head?_append {a : String} (h : a.toList.head? = some c) (b : String) :
    (a ++ b).toList.head? = some c := by
  rw [String.toList_append, List.head?_append, h, Option.some_or]

theorem targetDetail_head (target : BodyFramePosition) :
    (targetDetail target).toList.head? = some 'V' := by
  unfold targetDetail
  exact head?_append (head?_append (head?_append (head?_append (head?_append (head?_append rfl _)
    _) _) _) _) _

theorem targetDetail_ne (target : BodyFramePosition) :
    targetDetail target ≠ "No COMMAND_ACK for LAND after 3 attempts" := by
  intro h
  have hhead := targetDetail_head target
  have hn : "No COMMAND_ACK for LAND after 3 attempts".toList.head? = some 'N' := rfl
  rw [h, hn] at hhead
  cases hhead

/-- A runtime is silent once it has ended, and says why it has failed, in exactly the runs in
which no update with a warmed-up target finds the LAND requests exhausted. -/
theorem silent_exactly {config : AutonomyRuntimeConfig} (hr : Ran config h s) :
    (s.runtime.Silent ∧ ∀ e ∈ h, e.before.runtime.Silent ∧ EndsWell e) ↔
      ∀ e ∈ h, ¬ExhaustedUnderGuidance e := by
  constructor
  · intro ⟨_, hall⟩ e he hx
    obtain ⟨vehicle, startup, failsafe, now, landingTarget, hinput, hf, hs, hw, hx⟩ := hx
    obtain ⟨intent, hs⟩ := Option.isSome_iff_exists.1 hs
    obtain ⟨hphase, hdetail, hreason⟩ :=
      update_exhausted e.before.runtime startup hf hs hw hx
    have hends := (hall e he).2.reason
    rw [Entry.after, hinput] at hends
    have heq := hends (fun h => by rw [hx.1.1] at h; cases h) hphase
    have heq' := Option.some.inj (hreason.symm.trans (heq.trans (congrArg some hdetail)))
    exact targetDetail_ne _ heq'.symm
  · intro hgood
    obtain ⟨hq, hpast⟩ := quiet_run hr hgood
    exact ⟨hq.silent, hpast⟩

/-- An update at a whole second after a completed startup, with a target straight below. -/
def guidedUpdate (second : Int) (armed : Bool) : RuntimeCall :=
  .update { connected := true, armed := armed, systemId := some 1 } { phase := .completed }
    { phase := .accepted } (seconds second) (some { downM := .finite 1 })

def reports (n : Nat) : List RuntimeCall := List.replicate n (.onActionSent true 0)

def enabledRuntime : ReportingRuntime where
  runtime := restart { config := { enabled := true } }

theorem ran_of_playable {calls : List RuntimeCall}
    (hp : playable ReportingRuntime.step ReportingRuntime.legal enabledRuntime calls = true) :
    Ran { enabled := true } (play ReportingRuntime.step [] enabledRuntime calls).1
      (play ReportingRuntime.step [] enabledRuntime calls).2 :=
  ⟨_, rfl, Run.start.play_legal hp⟩

/-- Guidance starts, LAND is requested after the warm-up and accepted, and the vehicle lands. -/
def landedCalls : List RuntimeCall :=
  guidedUpdate 0 true :: reports 1 ++ guidedUpdate 1 true :: reports 2 ++
    [.onCommandAck .land .accepted 0 1 (seconds 2), guidedUpdate 3 false]

/-- The target stays in view while three LAND requests go unanswered. -/
def unansweredCalls : List RuntimeCall :=
  guidedUpdate 0 true :: reports 1 ++ guidedUpdate 1 true :: reports 2 ++
    guidedUpdate 3 true :: reports 2 ++ guidedUpdate 5 true :: reports 2 ++
    guidedUpdate 7 true :: reports 1

theorem silent_exactly_landed :
    ∃ h s, Ran { enabled := true } h s ∧ s.runtime.phase = .completed ∧
      ((s.runtime.Silent ∧ ∀ e ∈ h, e.before.runtime.Silent ∧ EndsWell e) ↔
        ∀ e ∈ h, ¬ExhaustedUnderGuidance e) := by
  have hran : playable ReportingRuntime.step ReportingRuntime.legal enabledRuntime landedCalls =
      true := by decide +kernel
  exact ⟨_, _, ran_of_playable hran, by decide +kernel, silent_exactly (ran_of_playable hran)⟩

/-- The runtime fails, goes on guiding, and hides the reason. -/
theorem failed_but_guiding :
    ∃ h s, Ran { enabled := true } h s ∧ s.runtime.phase = .failed ∧
      s.runtime.visionLandingTargetActive = true ∧
      s.runtime.failReason ≠ some s.runtime.detail ∧
      ∃ e ∈ h, (∃ vehicle startup failsafe now landingTarget,
          e.input = .update vehicle startup failsafe now landingTarget) ∧
        (e.after ReportingRuntime.step).runtime.phase = .failed ∧ e.output ≠ [] := by
  have hran : playable ReportingRuntime.step ReportingRuntime.legal enabledRuntime
      unansweredCalls = true := by decide +kernel
  refine ⟨_, _, ran_of_playable hran, by decide +kernel, by decide +kernel, by decide +kernel, ?_⟩
  refine ⟨_, List.mem_cons_of_mem _ List.mem_cons_self, ⟨_, _, _, _, _, rfl⟩, ?_, ?_⟩
  · decide +kernel
  · decide +kernel

end AutonomyRuntime
end OnboardAutonomy
