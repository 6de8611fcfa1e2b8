import OnboardAutonomy.LandingEvidence
import OnboardAutonomy.Retries

namespace OnboardAutonomy
open ExactDouble Histories Retries
set_option autoImplicit true

def isLand (a : FlightActionRequest) : Bool := a.action == .land

/-- What a call of the runtime means to the LAND request. -/
def AutonomyRuntime.landEvent (e : AutonomyEntry) : Event TimePoint :=
  match e.input with
  | .update _ _ _ now _ =>
    match e.output.find? isLand with
    | some a => .asked a.confirmation.toNat now
    | none => .silent
  | .onActionSent request sent _ =>
    if request.action = .land ∧ sent = false then .unsent else .silent
  | .onCommandAck action outcome _ source now =>
    if e.before.awaits action source then
      if outcome = .inProgress then .progress now else .settled
    else .silent
  | .restart => .silent

namespace AutonomyRuntime

/-- The LAND request as the runtime keeps track of it while it may still be made. -/
def asking (r : AutonomyRuntime) : Asking TimePoint where
  attempt := r.landAttempt
  pending := if r.awaitingLandAck then some r.acknowledgementDeadline else none

theorem asking_pending {r : AutonomyRuntime} :
    r.asking.pending = some deadline ↔
      r.awaitingLandAck = true ∧ r.acknowledgementDeadline = deadline := by
  rw [asking]
  cases r.awaitingLandAck with
  | true => exact ⟨fun h => ⟨rfl, Option.some.inj h⟩, fun h => congrArg some h.2⟩
  | false => exact ⟨fun h => (by cases h), fun h => (by cases h.1)⟩

theorem landDue_iff {r : AutonomyRuntime} :
    r.landDue now ↔ r.phase = .active ∧ ∀ deadline, r.asking.pending = some deadline →
      deadline ≤ now := by
  simp only [landDue, asking_pending, not_and, Int.not_lt]
  constructor
  · intro ⟨hp, hw⟩
    refine ⟨hp, ?_⟩
    intro deadline hd
    rw [← hd.2]
    exact hw hd.1
  · intro ⟨hp, hw⟩
    exact ⟨hp, fun ha => hw _ ⟨ha, rfl⟩⟩

/-- Everything a decision can do about the LAND request, when it is or is not due to the target. -/
inductive Commands (due : Prop) (now : TimePoint) (r : AutonomyRuntime) :
    AutonomyRuntime → List FlightActionRequest → Prop where
  | held : ¬(due ∧ r.landDue now) → r'.phase = r.phase → r'.asking = r.asking →
      actions.filter isLand = [] → Commands due now r r' actions
  | gaveUp : due → r.landExhausted now → r'.phase = .failed → r'.awaitingLandAck = false →
      actions.filter isLand = [] → Commands due now r r' actions
  | requested : due → r.landDue now → r.landAttempt < kMaximumLandAttempts →
      r'.phase = r.phase →
      r'.asking = r.asking.next kAcknowledgementTimeout (.asked r.landAttempt now) →
      actions.filter isLand = [r.landRequest] → Commands due now r r' actions

theorem Commands.transfer {s r : AutonomyRuntime} (hc : Commands due now s r' actions)
    (hphase : s.phase = r.phase) (hasking : s.asking = r.asking)
    (hrequest : s.landRequest = r.landRequest) : Commands due now r r' actions := by
  have hdue : s.landDue now ↔ r.landDue now := by rw [landDue_iff, landDue_iff, hphase, hasking]
  have hattempt : s.landAttempt = r.landAttempt := congrArg Asking.attempt hasking
  cases hc with
  | held hn hp ha hf =>
    rw [hdue] at hn
    exact .held hn (hp.trans hphase) (ha.trans hasking) hf
  | gaveUp hd hx hp ha hf =>
    rw [landExhausted, hdue, hattempt] at hx
    exact .gaveUp hd hx hp ha hf
  | requested hd hl hlt hp ha hf =>
    rw [hasking, hattempt] at ha
    rw [hattempt] at hlt
    exact .requested hd (hdue.1 hl) hlt (hp.trans hphase) ha (hf.trans (by rw [hrequest]))

section Decisions
variable {vehicle : VehicleSnapshot} {landingTarget : Option BodyFramePosition} {now : TimePoint}

theorem Commands.prepend (hc : Commands due now r r' actions)
    (hf : others.filter isLand = []) : Commands due now r r' (others ++ actions) := by
  have heq : (others ++ actions).filter isLand = actions.filter isLand := by
    rw [List.filter_append, hf, List.nil_append]
  cases hc with
  | held hn hp ha hn' => exact .held hn hp ha (heq.trans hn')
  | gaveUp hd hx hp ha hn' => exact .gaveUp hd hx hp ha (heq.trans hn')
  | requested hd hl hlt hp ha hn' => exact .requested hd hl hlt hp ha (heq.trans hn')

theorem Commands.describe (hc : Commands due now r r' actions) (detail : String) :
    Commands due now r { r' with detail := detail } actions := by
  cases hc with
  | held hn hp ha hf => exact .held hn hp ha hf
  | gaveUp hd hx hp ha hf => exact .gaveUp hd hx hp ha hf
  | requested hd hl hlt hp ha hf => exact .requested hd hl hlt hp ha hf

theorem updateLandCommand_commands (hdue : due) (r : AutonomyRuntime) (now : TimePoint) :
    Commands due now r (r.updateLandCommand now).1 (r.updateLandCommand now).2.toList := by
  rcases r.updateLandCommand_cases now with ⟨hn, hu⟩ | ⟨hx, hu⟩ | ⟨hd, hlt, hu⟩
  · rw [hu]
    exact .held (fun h => hn h.2) rfl rfl rfl
  · rw [hu]
    exact .gaveUp hdue hx rfl rfl rfl
  · rw [hu]
    exact .requested hdue hd hlt rfl rfl rfl

/-- What has been true of the target for long enough that LAND is due. -/
def landWarranted (r : AutonomyRuntime) (approved : Bool) (now : TimePoint) : Prop :=
  if approved then r.landCommandAfter.getD (now + kLandingTargetWarmup) ≤ now
  else r.config.targetLossLandAfter ≤ now - r.targetMissingSince.getD now

/-- The timers after a decision. -/
structure Timers (r : AutonomyRuntime) (approved : Bool) (now : TimePoint) (r' : AutonomyRuntime) :
    Prop where
  warmup : r'.landCommandAfter =
    if approved then some (r.landCommandAfter.getD (now + kLandingTargetWarmup)) else none
  missing : r'.targetMissingSince =
    if approved then none else some (r.targetMissingSince.getD now)

theorem search_commands (r : AutonomyRuntime) (now : TimePoint) :
    Commands (r.landWarranted false now) now r (r.search now).1 (r.search now).2 := by
  simp only [search]
  split
  · rename_i hp
    refine .held ?_ rfl rfl rfl
    intro h
    rw [h.2.1] at hp
    cases hp
  split
  · rename_i hdue
    have hdue : r.landWarranted false now := hdue
    exact (updateLandCommand_commands hdue _ now).transfer rfl rfl rfl
  · rename_i hdue
    exact .held (fun h => hdue h.1) rfl rfl rfl

theorem targets_without_land (h : actions = [] ∨ actions = [landingTargetRequest intent now]) :
    actions.filter isLand = [] := by
  rcases h with h | h <;> rw [h] <;> rfl

/-- While active an approved intent starts the warm-up at the latest. -/
theorem streamTarget_active {r : AutonomyRuntime} (hp : r.phase = .active)
    (intent : DesiredMotion) (now : TimePoint) :
    ∃ next, ((r.startWarmup now).streamTarget intent now).1 =
      r.tracking (some (r.landCommandAfter.getD (now + kLandingTargetWarmup))) next := by
  obtain ⟨after, next, hstream, hafter, _⟩ := r.streamTarget_warmup intent now
  refine ⟨next, ?_⟩
  rw [hstream]
  have hkeeps : ((r.startWarmup now).streamTarget intent now).1.landCommandAfter =
      (r.startWarmup now).landCommandAfter := by
    rw [streamTarget]
    split <;> rfl
  have hstarted : (r.startWarmup now).landCommandAfter =
      some (r.landCommandAfter.getD (now + kLandingTargetWarmup)) := by
    rw [startWarmup]
    cases hc : r.landCommandAfter with
    | none => simp only [Option.isNone_none, hp, and_self, ↓reduceIte, Option.getD_none]
    | some after => simp only [Option.isNone_some, Bool.false_eq_true, false_and, ↓reduceIte,
        Option.getD_some]
  have heq : after = some (r.landCommandAfter.getD (now + kLandingTargetWarmup)) := by
    rw [← hstarted, ← hkeeps, hstream]
    rfl
  rw [heq]

theorem guide_commands (r : AutonomyRuntime) (intent : DesiredMotion) (now : TimePoint) :
    Commands (r.landWarranted true now) now r (r.guide intent now).1 (r.guide intent now).2 := by
  obtain ⟨after, next, hstream, _, hactions⟩ := r.streamTarget_warmup intent now
  have htargets := targets_without_land hactions
  rw [guide]
  dsimp only
  rw [hstream]
  by_cases hp : r.phase = .active
  · obtain ⟨next', hactive⟩ := streamTarget_active hp intent now
    rw [hstream] at hactive
    have hafter : after = some (r.landCommandAfter.getD (now + kLandingTargetWarmup)) :=
      congrArg landCommandAfter hactive
    split
    · rename_i hw
      have hdue : r.landWarranted true now := by
        simp only [warmedUp, tracking, hafter, Bool.and_eq_true, decide_eq_true_eq] at hw
        exact hw.2
      have hfilter : ((r.startWarmup now).streamTarget intent now).2.filter isLand = [] := htargets
      have hc : Commands (r.landWarranted true now) now r _ _ :=
        (updateLandCommand_commands hdue (r.tracking after next) now).transfer rfl rfl rfl
      exact (hc.prepend hfilter).describe (targetDetail intent.landingTarget)
    · rename_i hw
      refine .held ?_ rfl rfl ?_
      · intro h
        apply hw
        simp only [warmedUp, tracking, hafter, hp, beq_self_eq_true, Bool.true_and,
          decide_eq_true_eq]
        exact h.1
      · rw [Option.toList_none, List.append_nil]
        exact htargets
  · have hw : (r.tracking after next).warmedUp now = false := by
      rw [warmedUp, tracking]
      cases after with
      | none => rfl
      | some after => simp only [beq_eq_false_iff_ne.2 hp, Bool.false_and]
    rw [hw]
    refine .held (fun h => hp h.2.1) rfl rfl ?_
    rw [if_neg Bool.false_ne_true, Option.toList_none, List.append_nil]
    exact htargets

/-- The intent of a decision is approved. -/
def approves (vehicle : VehicleSnapshot) (landingTarget : Option BodyFramePosition)
    (now : TimePoint) : Bool :=
  (supervised vehicle landingTarget now).approved.isSome

theorem act_commands (ha : act r vehicle landingTarget now = (r', actions)) :
    Commands (r.landWarranted (approves vehicle landingTarget now) now) now r r' actions := by
  rw [act] at ha
  rw [approves]
  cases hm : (supervised vehicle landingTarget now).approved with
  | none =>
    have hc := search_commands
      { r with motionSafetyStatus := (supervised vehicle landingTarget now).status } now
    rw [hm] at ha
    dsimp only at ha
    rw [ha] at hc
    exact hc.transfer rfl rfl rfl
  | some intent =>
    have hc := guide_commands
      { r with motionSafetyStatus := (supervised vehicle landingTarget now).status } intent now
    rw [hm] at ha
    dsimp only at ha
    rw [ha] at hc
    exact hc.transfer rfl rfl rfl

theorem updateLandCommand_timers (r : AutonomyRuntime) (now : TimePoint) :
    (r.updateLandCommand now).1.landCommandAfter = r.landCommandAfter ∧
      (r.updateLandCommand now).1.targetMissingSince = r.targetMissingSince := by
  rcases r.updateLandCommand_cases now with ⟨_, hu⟩ | ⟨_, hu⟩ | ⟨_, _, hu⟩ <;> rw [hu] <;>
    exact ⟨rfl, rfl⟩

theorem search_timers (r : AutonomyRuntime) (now : TimePoint) :
    Timers r false now (r.search now).1 := by
  simp only [search]
  split
  · exact ⟨rfl, rfl⟩
  split
  · obtain ⟨hw, hm⟩ := updateLandCommand_timers { r with
      visionLandingTargetActive := false
      landCommandAfter := none
      nextLandingTarget := now
      targetMissingSince := some (r.targetMissingSince.getD now)
      detail := "Vision unavailable; requesting fallback LAND" } now
    exact ⟨hw, hm⟩
  · exact ⟨rfl, rfl⟩

theorem guide_timers {r : AutonomyRuntime} (hp : r.phase = .active) (intent : DesiredMotion)
    (now : TimePoint) : Timers r true now (r.guide intent now).1 := by
  obtain ⟨next, hstream⟩ := streamTarget_active hp intent now
  rw [guide]
  dsimp only
  rw [hstream]
  split
  · obtain ⟨hw, hm⟩ := updateLandCommand_timers (r.tracking _ next) now
    exact ⟨hw, hm⟩
  · exact ⟨rfl, rfl⟩

theorem act_timers (hp : r.phase = .active)
    (ha : act r vehicle landingTarget now = (r', actions)) :
    Timers r (approves vehicle landingTarget now) now r' := by
  rw [act] at ha
  rw [approves]
  cases hm : (supervised vehicle landingTarget now).approved with
  | none =>
    obtain ⟨hw, ht⟩ := search_timers
      { r with motionSafetyStatus := (supervised vehicle landingTarget now).status } now
    rw [hm] at ha
    dsimp only at ha
    rw [ha] at hw ht
    exact ⟨hw, ht⟩
  | some intent =>
    obtain ⟨hw, ht⟩ := guide_timers
      (r := { r with motionSafetyStatus := (supervised vehicle landingTarget now).status }) hp
      intent now
    rw [hm] at ha
    dsimp only at ha
    rw [ha] at hw ht
    exact ⟨hw, ht⟩

end Decisions
/-- The runtime keeps track of the LAND request for as long as it may be made. -/
structure Tracks (a : Asking TimePoint) (r : AutonomyRuntime) : Prop where
  mayLand : r.phase = .waitingForStartup ∨ r.phase = .active → a = r.asking
  quiet : r.phase ≠ .waitingForStartup → r.phase ≠ .active → r.awaitingLandAck = false

theorem Tracks.follow {r r' : AutonomyRuntime} (ht : Tracks a r) (hp : r'.phase = r.phase)
    (hasking : r'.asking = r.asking) : Tracks a r' := by
  refine ⟨?_, ?_⟩
  · rw [hp, hasking]
    exact ht.mayLand
  · rw [hp]
    intro hw ha
    have hquiet := ht.quiet hw ha
    cases hn : r'.awaitingLandAck with
    | false => rfl
    | true =>
      have hpending := asking_pending.2 ⟨hn, rfl⟩
      rw [hasking, asking_pending, hquiet] at hpending
      cases hpending.1

theorem Tracks.resting {r : AutonomyRuntime} (hw : r.phase ≠ .waitingForStartup)
    (ha : r.phase ≠ .active) (hn : r.awaitingLandAck = false) : Tracks a r :=
  ⟨fun h => (h.elim hw ha).elim, fun _ _ => hn⟩

theorem Tracks.fail (a : Asking TimePoint) (r : AutonomyRuntime) (detail : String) :
    Tracks a (r.fail detail) := by
  refine .resting ?_ ?_ rfl
  · intro h
    cases h
  · intro h
    cases h

/-- The event of a call is allowed, and the runtime keeps track of it. -/
def Heeds (a : Asking TimePoint) (e : Event TimePoint) (r' : AutonomyRuntime) : Prop :=
  a.Allows kMaximumLandAttempts e ∧ Tracks (a.next kAcknowledgementTimeout e) r'

theorem landEvent_silent {e : AutonomyEntry}
    (hi : e.input = .update vehicle startup failsafe now landingTarget)
    (hf : e.output.filter isLand = []) : landEvent e = .silent := by
  rw [landEvent, hi]
  dsimp only
  rw [← List.head?_filter, hf]
  rfl

theorem landEvent_asked {e : AutonomyEntry}
    (hi : e.input = .update vehicle startup failsafe now landingTarget)
    (hf : e.output.filter isLand = [landRequest r]) (hlt : r.landAttempt < kMaximumLandAttempts) :
    landEvent e = .asked r.landAttempt now := by
  rw [landEvent, hi]
  dsimp only
  rw [← List.head?_filter, hf]
  exact congrArg (Event.asked · now) (UInt8.toNat_ofNat_of_lt' (hlt.trans (by decide)))

theorem Tracks.update (ht : Tracks a r)
    (hu : Updated vehicle startup failsafe now landingTarget r r' actions) :
    Heeds a (landEvent ⟨r, .update vehicle startup failsafe now landingTarget, actions⟩) r' := by
  have hsilent (hf : actions.filter isLand = []) (ht' : Tracks a r') :
      Heeds a (landEvent ⟨r, .update vehicle startup failsafe now landingTarget, actions⟩) r' := by
    rw [landEvent_silent rfl hf]
    exact ⟨trivial, ht'⟩
  cases hu with
  | rest _ => exact hsilent rfl ht
  | wait detail _ _ => exact hsilent rfl (ht.follow rfl rfl)
  | refuse detail _ _ => exact hsilent rfl (.fail a r detail)
  | abort systemId detail _ => exact hsilent rfl (.fail a _ detail)
  | @land b hb hp _ _ =>
    apply hsilent rfl
    cases hb with
    | engaged _ =>
      refine .resting (by intro h; cases h) (by intro h; cases h) ?_
      exact ht.quiet (by rw [hp]; decide) (by rw [hp]; decide)
    | activated _ _ _ => cases hp
  | @touchDown b hb hp _ =>
    apply hsilent rfl
    cases hb with
    | engaged _ => exact ht.follow rfl rfl
    | activated _ _ _ => cases hp
  | @act b _ _ hb _ _ hact =>
    have hasking : b.asking = r.asking := by
      cases hb with
      | engaged _ => rfl
      | activated _ _ _ => rfl
    have hactive (hp : b.phase = .active) : a = b.asking := by
      rw [hasking]
      cases hb with
      | engaged _ => exact ht.mayLand (.inr hp)
      | activated hw _ _ => exact ht.mayLand (.inl hw)
    have hb' : Tracks a b := by
      cases hb with
      | engaged _ => exact ht
      | activated _ _ _ => exact ⟨fun _ => hactive rfl, fun _ h => absurd rfl h⟩
    cases act_commands hact with
    | held _ hp ha hf => exact hsilent hf (hb'.follow hp ha)
    | gaveUp _ _ hp ha hf =>
      exact hsilent hf (.resting (by rw [hp]; decide) (by rw [hp]; decide) ha)
    | requested _ hl hlt hp ha hf =>
      rw [landEvent_asked rfl hf hlt]
      obtain ⟨hphase, hdue⟩ := landDue_iff.1 hl
      rw [hactive hphase]
      refine ⟨⟨rfl, hlt, rfl, hdue⟩, fun _ => ha.symm, fun _ hn => ?_⟩
      exact absurd (hp.trans hphase) hn

theorem onActionSent_unsent (r : AutonomyRuntime) (request : FlightActionRequest)
    (hl : request.action = .land) (now : TimePoint) :
    r.onActionSent request false now = { r with awaitingLandAck := false } ∨
      ∃ detail, r.onActionSent request false now =
        fail { r with awaitingLandAck := false } detail := by
  simp only [onActionSent, hl]
  rw [if_neg (by decide), if_neg (by decide)]
  split
  · exact .inr ⟨_, rfl⟩
  · exact .inl rfl

theorem Tracks.onActionSent (ht : Tracks a r) (request : FlightActionRequest) (sent : Bool)
    (now : TimePoint) :
    Heeds a (landEvent ⟨r, .onActionSent request sent now, []⟩)
      (r.onActionSent request sent now) := by
  rw [landEvent]
  dsimp only
  split
  · rename_i h
    obtain ⟨hl, hs⟩ := h
    rw [hs]
    refine ⟨trivial, ?_⟩
    rcases r.onActionSent_unsent request hl now with hr | ⟨detail, hr⟩
    · rw [hr]
      refine ⟨?_, fun _ _ => rfl⟩
      intro hp
      rw [ht.mayLand hp]
      rfl
    · rw [hr]
      exact .fail _ _ detail
  · rename_i h
    refine ⟨trivial, ?_⟩
    rcases r.onActionSent_cases request sent now with ⟨_, _, hr⟩ | hr | ⟨hl, hs, _⟩
    · rw [hr]
      exact ht.follow rfl rfl
    · rw [hr]
      exact ht
    · exact absurd ⟨hl, hs⟩ h

theorem Tracks.onCommandAck (ht : Tracks a r) (action : FlightAction)
    (outcome : FlightCommandAckOutcome) (rawResult source : UInt8) (now : TimePoint) :
    Heeds a (landEvent ⟨r, .onCommandAck action outcome rawResult source now, []⟩)
      (r.onCommandAck action outcome rawResult source now) := by
  rw [landEvent]
  dsimp only
  rcases r.onCommandAck_cases action outcome rawResult source now with
    ⟨hn, hr⟩ | ⟨hawaits, hcase⟩
  · rw [hn, hr]
    exact ⟨trivial, ht⟩
  obtain ⟨_, hwaiting, _⟩ := (r.awaits_iff action source).1 hawaits
  have hpending : r.asking.pending = some r.acknowledgementDeadline :=
    asking_pending.2 ⟨hwaiting, rfl⟩
  have hphase : r.phase = .waitingForStartup ∨ r.phase = .active := by
    by_contra h
    rw [not_or] at h
    rw [ht.quiet h.1 h.2] at hwaiting
    cases hwaiting
  rw [hawaits, if_pos rfl]
  rcases hcase with ⟨ho, hr⟩ | ⟨ho, hr⟩ | ⟨ho, detail, hr⟩
  · rw [hr, if_neg (by rw [ho]; decide)]
    exact ⟨trivial, .resting (by intro h; cases h) (by intro h; cases h) rfl⟩
  · rw [hr, if_pos ho, ht.mayLand hphase]
    refine ⟨Option.isSome_iff_exists.2 ⟨_, hpending⟩, ?_, ?_⟩
    · intro _
      simp only [Asking.next, asking, extend, hwaiting, ↓reduceIte, Option.map_some]
    · intro hw ha
      exact (hphase.elim hw ha).elim
  · rw [hr, if_neg (by rw [ho]; decide)]
    exact ⟨trivial, .fail _ _ detail⟩

theorem landEvent_times (e : AutonomyEntry) : ∀ t ∈ (landEvent e).time, t ∈ e.input.times := by
  intro t ht
  rw [landEvent] at ht
  cases hi : e.input with
  | update vehicle startup failsafe now landingTarget =>
    rw [hi] at ht
    dsimp only at ht
    split at ht
    · exact List.mem_singleton.2 (Option.some.inj ht).symm
    · cases ht
  | onActionSent request sent now =>
    rw [hi] at ht
    dsimp only at ht
    split at ht <;> cases ht
  | onCommandAck action outcome rawResult source now =>
    rw [hi] at ht
    dsimp only at ht
    split at ht
    · split at ht
      · exact List.mem_singleton.2 (Option.some.inj ht).symm
      · cases ht
    · cases ht
  | restart =>
    rw [hi] at ht
    cases ht

theorem Tracks.restart (r : AutonomyRuntime) : Tracks {} r.restart := by
  refine ⟨fun _ => rfl, fun _ _ => rfl⟩

/-- In every run the calls since the last restart keep to the protocol, and the runtime keeps
track of them. -/
theorem land_orderly {config : AutonomyRuntimeConfig} (hr : RanFreely config h r) :
    Orderly kMaximumLandAttempts kAcknowledgementTimeout ((sinceRestart h).map landEvent) ∧
      Tracks (Asking.after kAcknowledgementTimeout ((sinceRestart h).map landEvent)) r := by
  obtain ⟨initial, hnew, hr⟩ := hr
  apply hr.history_invariant (fun h r =>
    Orderly kMaximumLandAttempts kAcknowledgementTimeout ((sinceRestart h).map landEvent) ∧
      Tracks (Asking.after kAcknowledgementTimeout ((sinceRestart h).map landEvent)) r)
  · refine ⟨.nil, ?_⟩
    rw [new_eq hnew]
    split
    · exact .restart _
    · exact .resting (by intro h; cases h) (by intro h; cases h) rfl
  intro h r call _ hi hl
  obtain ⟨ho, ht⟩ := hi
  have hkeep (hc : call.restarts = false)
      (hh : Heeds (Asking.after kAcknowledgementTimeout ((sinceRestart h).map landEvent))
        (landEvent ⟨r, call, (step r call).2⟩) (step r call).1) :
      Orderly kMaximumLandAttempts kAcknowledgementTimeout
        ((sinceRestart (⟨r, call, (step r call).2⟩ :: h)).map landEvent) ∧
      Tracks (Asking.after kAcknowledgementTimeout
        ((sinceRestart (⟨r, call, (step r call).2⟩ :: h)).map landEvent)) (step r call).1 := by
    rw [sinceRestart, since_keep _ hc]
    exact ⟨ho.call landEvent_times (since_subset _ h) hl hh.1, hh.2⟩
  cases call with
  | update vehicle startup failsafe now landingTarget =>
    exact hkeep rfl (ht.update (update_updated rfl))
  | onActionSent request sent now => exact hkeep rfl (ht.onActionSent request sent now)
  | onCommandAck action outcome rawResult source now =>
    exact hkeep rfl (ht.onCommandAck action outcome rawResult source now)
  | restart =>
    rw [sinceRestart, since_cut _ rfl]
    exact ⟨.nil, .restart r⟩

end AutonomyRuntime
end OnboardAutonomy
