import OnboardAutonomy.CommandRetries

namespace OnboardAutonomy
open ExactDouble Histories Retries
set_option autoImplicit true

namespace AutonomyRuntime

/-- The runtime is active, or a completed startup makes it active. -/
def engages (r : AutonomyRuntime) (startup : FlightStartupSnapshot) : Bool :=
  r.phase == .active || (r.phase == .waitingForStartup && startup.phase == .completed)

/-- The guards of an update that come before its decision. -/
def passes (vehicle : VehicleSnapshot) (failsafe : CompanionLinkFailsafeSnapshot) : Bool :=
  vehicle.connected && vehicle.systemId.isSome && failsafe.accepted && vehicle.armed

/-- The time of an update that passes the guards while active, and whether its intent is
approved. -/
def decision (e : AutonomyEntry) : Option (TimePoint × Bool) :=
  match e.input with
  | .update vehicle startup failsafe now landingTarget =>
    if e.before.engages startup && passes vehicle failsafe then
      some (now, approves vehicle landingTarget now)
    else none
  | .onActionSent .. | .onCommandAck .. | .restart => none

/-- Until when the answer to a LAND request is waited for. -/
def outstanding (h : List AutonomyEntry) : Option TimePoint :=
  (Asking.after kAcknowledgementTimeout (h.map landEvent)).pending

/-- How many LAND requests were made. -/
def landRequests (h : List AutonomyEntry) : Nat :=
  ((h.map landEvent).filterMap Event.confirmation).length

/-- The timers agree with the decisions so far, as a decision at a time would read them. -/
structure Timing (r : AutonomyRuntime) (decisions : List (TimePoint × Bool)) (t : TimePoint) :
    Prop where
  warmup : r.landCommandAfter.getD (t + kLandingTargetWarmup) =
    streakStart true t decisions + kLandingTargetWarmup
  missing : r.targetMissingSince.getD t = streakStart false t decisions

/-- What the timers of a runtime say about the decisions since its last restart. -/
structure Judges (config : AutonomyRuntimeConfig) (decisions : List (TimePoint × Bool))
    (r : AutonomyRuntime) : Prop where
  config : r.config = config
  waiting : r.phase = .waitingForStartup → decisions = [] ∧ r.landCommandAfter = none
  active : r.phase = .active → ∀ t, Timing r decisions t

/-- The streak of equal approval has lasted long enough for LAND. -/
def StreakWarrants (config : AutonomyRuntimeConfig) (approved : Bool) (s now : TimePoint) : Prop :=
  (approved = true ∧ s + seconds 1 ≤ now) ∨
    (approved = false ∧ config.targetLossLandAfter ≤ now - s)

theorem Timing.warranted {config : AutonomyRuntimeConfig} (ht : Timing r decisions now)
    (hc : r.config = config) (approved : Bool) : r.landWarranted approved now ↔
      StreakWarrants config approved (streakStart approved now decisions) now := by
  rw [landWarranted, StreakWarrants]
  cases approved with
  | true =>
    rw [if_pos rfl, ht.warmup]
    exact ⟨fun h => .inl ⟨rfl, h⟩, fun h => h.elim (·.2) fun h => (by cases h.1)⟩
  | false =>
    rw [if_neg Bool.false_ne_true, ht.missing, hc]
    exact ⟨fun h => .inr ⟨rfl, h⟩, fun h => h.elim (fun h => (by cases h.1)) (·.2)⟩

theorem Timing.decide {decisions : List (TimePoint × Bool)} (ht : Timing b decisions now)
    (hr : Timers b approved now r) (t : TimePoint) : Timing r ((now, approved) :: decisions) t := by
  cases approved with
  | true =>
    refine ⟨?_, ?_⟩
    · rw [hr.warmup, streakStart_same]
      exact ht.warmup
    · rw [hr.missing, streakStart_change (by decide)]
      rfl
  | false =>
    refine ⟨?_, ?_⟩
    · rw [hr.warmup, streakStart_change (by decide)]
      rfl
    · rw [hr.missing, streakStart_same]
      exact ht.missing

theorem Judges.follow {config : AutonomyRuntimeConfig} (hj : Judges config decisions r)
    (hc : r'.config = r.config) (hp : r'.phase = r.phase)
    (hw : r'.landCommandAfter = r.landCommandAfter)
    (hm : r'.targetMissingSince = r.targetMissingSince) : Judges config decisions r' := by
  refine ⟨hc.trans hj.config, ?_, ?_⟩
  · rw [hp, hw]
    exact hj.waiting
  · rw [hp]
    intro ha t
    obtain ⟨hwarmup, hmissing⟩ := hj.active ha t
    exact ⟨by rw [hw, hwarmup], by rw [hm, hmissing]⟩

theorem Judges.resting {config : AutonomyRuntimeConfig} (hc : r.config = config)
    (hw : r.phase ≠ .waitingForStartup) (ha : r.phase ≠ .active) : Judges config decisions r :=
  ⟨hc, fun h => absurd h hw, fun h => absurd h ha⟩

theorem Judges.fail {config : AutonomyRuntimeConfig} {r : AutonomyRuntime}
    (hc : r.config = config) (detail : String) :
    Judges config decisions (r.fail detail) :=
  .resting hc (by intro h; cases h) (by intro h; cases h)

section Updates
variable {vehicle : VehicleSnapshot} {startup : FlightStartupSnapshot}
  {failsafe : CompanionLinkFailsafeSnapshot} {now : TimePoint}
  {landingTarget : Option BodyFramePosition}

theorem Begun.config (hb : Begun startup failsafe now r b) : b.config = r.config := by
  cases hb with
  | engaged _ => rfl
  | activated _ _ _ => rfl

theorem Judges.begun {config : AutonomyRuntimeConfig} (hj : Judges config decisions r)
    (hb : Begun startup failsafe now r b) (hp : b.phase = .active) : Timing b decisions now := by
  cases hb with
  | engaged _ => exact hj.active hp now
  | activated hw _ _ =>
    obtain ⟨hnone, hafter⟩ := hj.waiting hw
    rw [hnone]
    refine ⟨?_, rfl⟩
    show r.landCommandAfter.getD _ = _
    rw [hafter]
    rfl

theorem Begun.engages (hb : Begun startup failsafe now r b) (hp : b.phase = .active) :
    r.engages startup = true := by
  rw [AutonomyRuntime.engages]
  cases hb with
  | engaged _ => rw [hp]; rfl
  | activated hw hs _ => rw [hw, hs]; rfl

theorem Checked.passes (hc : Checked vehicle failsafe) (ha : vehicle.armed = true) :
    AutonomyRuntime.passes vehicle failsafe = true := by
  rw [AutonomyRuntime.passes, hc.connected, hc.identified, hc.accepted, ha]
  rfl

theorem Begun.decides (hb : Begun startup failsafe now r b) (hp : b.phase = .active)
    (hc : Checked vehicle failsafe) (ha : vehicle.armed = true) :
    decision ⟨r, .update vehicle startup failsafe now landingTarget, actions⟩ =
      some (now, approves vehicle landingTarget now) := by
  rw [decision]
  dsimp only
  rw [hb.engages hp, hc.passes ha]
  rfl

theorem Judges.update {config : AutonomyRuntimeConfig} (hj : Judges config decisions r)
    (hu : Updated vehicle startup failsafe now landingTarget r r' actions) :
    Judges config ((decision ⟨r, .update vehicle startup failsafe now landingTarget,
      actions⟩).toList ++ decisions) r' := by
  have hbegun {b : AutonomyRuntime} (hb : Begun startup failsafe now r b) : b.config = config :=
    hb.config.trans hj.config
  cases hu with
  | rest hr =>
    refine .resting hj.config ?_ ?_
    · intro h
      rw [h] at hr
      cases hr
    · intro h
      rw [h] at hr
      cases hr
  | wait detail hp hs =>
    have hnone : r.engages startup = false := by
      rw [AutonomyRuntime.engages, hp, beq_eq_false_iff_ne.2 hs]
      rfl
    rw [decision]
    dsimp only
    rw [hnone]
    exact hj.follow rfl rfl rfl rfl
  | refuse detail _ _ => exact .fail hj.config detail
  | @abort b systemId detail hb =>
    have hc : b.config = config := hbegun hb
    exact .resting hc (by intro h; cases h) (by intro h; cases h)
  | @land b hb _ _ _ =>
    have hc : b.config = config := hbegun hb
    exact .resting hc (by intro h; cases h) (by intro h; cases h)
  | @touchDown b hb hp _ =>
    have hc : b.config = config := hbegun hb
    have hl : (touchDown { b with vehicleSystemId := vehicle.systemId }).phase = .landing := hp
    exact .resting hc (by rw [hl]; decide) (by rw [hl]; decide)
  | @act b _ _ hb hc ha hact =>
    obtain ⟨hphase, _, hconfig, _, _, _⟩ := act_acts rfl hact
    have hb' : b.config = config := hbegun hb
    have hconfig : r'.config = config := hconfig.trans hb'
    rcases engaged_cases hb.phase with hp | hl
    · have ht : Timing { b with vehicleSystemId := vehicle.systemId } decisions now :=
        ⟨(hj.begun hb hp).warmup, (hj.begun hb hp).missing⟩
      rw [hb.decides hp hc ha]
      refine ⟨hconfig, ?_, fun _ t => ht.decide (act_timers hp hact) t⟩
      intro hw
      rcases hphase with hphase | hphase
      · rw [hphase, hp] at hw
        cases hw
      · rw [hphase] at hw
        cases hw
    · rcases hphase with hphase | hphase
      · exact .resting hconfig (by rw [hphase, hl]; decide) (by rw [hphase, hl]; decide)
      · exact .resting hconfig (by rw [hphase]; decide) (by rw [hphase]; decide)

end Updates

theorem Judges.onActionSent {config : AutonomyRuntimeConfig} (hj : Judges config decisions r)
    (request : FlightActionRequest) (sent : Bool) (now : TimePoint) :
    Judges config decisions (r.onActionSent request sent now) := by
  rcases r.onActionSent_cases request sent now with ⟨_, _, hs⟩ | hs | ⟨_, _, hs | hs⟩
  · rw [hs]
    exact hj.follow rfl rfl rfl rfl
  · rw [hs]
    exact hj
  · rw [hs]
    exact hj.follow rfl rfl rfl rfl
  · rw [hs]
    exact .fail hj.config _

theorem Judges.onCommandAck {config : AutonomyRuntimeConfig} (hj : Judges config decisions r)
    (action : FlightAction) (outcome : FlightCommandAckOutcome) (rawResult source : UInt8)
    (now : TimePoint) :
    Judges config decisions (r.onCommandAck action outcome rawResult source now) := by
  rcases r.onCommandAck_cases action outcome rawResult source now with
    ⟨_, hs⟩ | ⟨_, ⟨_, hs⟩ | ⟨_, hs⟩ | ⟨_, detail, hs⟩⟩
  · rw [hs]
    exact hj
  · rw [hs]
    exact .resting hj.config (by intro h; cases h) (by intro h; cases h)
  · rw [hs]
    exact hj.follow rfl rfl rfl rfl
  · rw [hs]
    have hc : { r with failureResult := some rawResult }.config = config := hj.config
    exact .fail hc detail

theorem Judges.restart {config : AutonomyRuntimeConfig} {r : AutonomyRuntime}
    (hc : r.config = config) : Judges config [] r.restart := by
  refine ⟨hc, fun _ => ⟨rfl, rfl⟩, ?_⟩
  intro h
  rw [AutonomyRuntime.restart] at h
  dsimp only at h
  split at h <;> cases h

/-- In every run the timers agree with the decisions since the last restart. -/
theorem judges_run {config : AutonomyRuntimeConfig} (hr : RanFreely config h r) :
    Judges config ((sinceRestart h).filterMap decision) r := by
  obtain ⟨initial, hnew, hr⟩ := hr
  apply hr.history_invariant (fun h r => Judges config ((sinceRestart h).filterMap decision) r)
  · rw [new_eq hnew]
    split
    · exact .restart rfl
    · exact .resting rfl (by intro h; cases h) (by intro h; cases h)
  intro h r call _ hj _
  cases call with
  | update vehicle startup failsafe now landingTarget =>
    rw [sinceRestart, since_keep _ rfl, filterMap_cons_toList]
    exact hj.update r.updated
  | onActionSent request sent now =>
    rw [sinceRestart, since_keep _ rfl]
    exact hj.onActionSent request sent now
  | onCommandAck action outcome rawResult source now =>
    rw [sinceRestart, since_keep _ rfl]
    exact hj.onCommandAck action outcome rawResult source now
  | restart =>
    rw [sinceRestart, since_cut _ rfl]
    exact .restart hj.config

/-- An update that passes the guards while active comes to its decision. -/
theorem update_decides {vehicle : VehicleSnapshot} {startup : FlightStartupSnapshot}
    {failsafe : CompanionLinkFailsafeSnapshot} {now : TimePoint}
    {landingTarget : Option BodyFramePosition} {r : AutonomyRuntime}
    (he : r.engages startup = true) (hp : passes vehicle failsafe = true) :
    ∃ b, Begun startup failsafe now r b ∧ b.phase = .active ∧
      r.update vehicle startup failsafe now landingTarget =
        act { b with vehicleSystemId := vehicle.systemId } vehicle landingTarget now := by
  simp only [passes, Bool.and_eq_true] at hp
  obtain ⟨⟨⟨hconnected, hsystem⟩, haccepted⟩, harmed⟩ := hp
  have hsystem : vehicle.systemId.isNone = false := by
    rw [← Option.not_isSome, hsystem]
    rfl
  have hcheck (b : AutonomyRuntime) (hb : b.phase = .active) :
      b.checkVehicle vehicle failsafe now =
        .next { b with vehicleSystemId := vehicle.systemId } := by
    simp [checkVehicle, hconnected, hsystem, haccepted, harmed, hb]
  simp only [engages, Bool.or_eq_true, Bool.and_eq_true, beq_iff_eq] at he
  rcases he with hp | ⟨hp, hs⟩
  · refine ⟨r, .engaged (by rw [hp]; rfl), hp, ?_⟩
    rw [update, if_neg (by rw [hp]; decide), awaitStartup, if_pos (by rw [hp]; decide)]
    dsimp only
    rw [hcheck r hp]
  · refine ⟨r.activate now, .activated hp hs haccepted, rfl, ?_⟩
    rw [update, if_neg (by rw [hp]; decide), awaitStartup, if_neg (by rw [hp]; decide),
      if_neg (by rw [hs]; decide), if_neg (by rw [hs]; decide), if_neg (by rw [haccepted]; decide)]
    dsimp only
    rw [← activate, hcheck _ rfl]

theorem requestsLand_iff (e : AutonomyEntry) : RequestsLand e ↔ e.output.filter isLand ≠ [] := by
  rw [RequestsLand, ne_eq, List.filter_eq_nil_iff]
  simp only [isLand, beq_iff_eq, not_forall, not_not, exists_prop]

/-- An update that passes the guards while active returns a LAND request exactly when the approval
has lasted for a second or has been missing for the configured time, no earlier request is still
waited for, and fewer than three were made. -/
theorem land_exactly {config : AutonomyRuntimeConfig} (hr : RanFreely config (e :: h) r')
    (hd : decision e = some (now, approved)) :
    RequestsLand e ↔
      StreakWarrants config approved
        (streakStart approved now ((sinceRestart h).filterMap decision)) now ∧
      (∀ deadline, outstanding (sinceRestart h) = some deadline → deadline ≤ now) ∧
      landRequests (sinceRestart h) < 3 := by
  obtain ⟨initial, hnew, hrun⟩ := hr
  obtain ⟨hbefore, _, ho⟩ := hrun.before List.suffix_rfl
  have hr : RanFreely config h e.before := ⟨initial, hnew, hbefore⟩
  obtain ⟨hordered, htracks⟩ := land_orderly hr
  have hjudges := judges_run hr
  rw [decision] at hd
  cases hi : e.input with
  | onActionSent _ _ _ | onCommandAck _ _ _ _ _ | restart => rw [hi] at hd; cases hd
  | update vehicle startup failsafe t landingTarget =>
    rw [hi] at hd ho
    dsimp only at hd
    split at hd
    · rename_i hguards
      rw [Bool.and_eq_true] at hguards
      obtain ⟨b, hb, hphase, hu⟩ :=
        @update_decides vehicle startup failsafe t landingTarget e.before hguards.1 hguards.2
      cases hd
      have hasking : Asking.after kAcknowledgementTimeout ((sinceRestart h).map landEvent) =
          asking { b with vehicleSystemId := vehicle.systemId } := by
        cases hb with
        | engaged _ => exact htracks.mayLand (.inr hphase)
        | activated hw _ _ => exact htracks.mayLand (.inl hw)
      have hconfig : b.config = config := hb.config.trans hjudges.config
      have htiming : Timing { b with vehicleSystemId := vehicle.systemId }
          ((sinceRestart h).filterMap decision) now :=
        ⟨(hjudges.begun hb hphase).warmup, (hjudges.begun hb hphase).missing⟩
      rw [← htiming.warranted hconfig, requestsLand_iff, outstanding, landRequests,
        hordered.attempt_eq, hasking, ho, step, hu]
      cases hact : act { b with vehicleSystemId := vehicle.systemId } vehicle landingTarget now with
      | mk after actions =>
        cases act_commands hact with
        | held hn _ _ hf =>
          refine ⟨fun h => absurd hf h, fun h => absurd ⟨h.1, ?_⟩ hn⟩
          exact landDue_iff.2 ⟨hphase, h.2.1⟩
        | gaveUp _ hx _ _ hf =>
          exact ⟨fun h => absurd hf h, fun h => absurd hx.2 (Nat.not_le_of_lt h.2.2)⟩
        | requested hw hl hlt _ _ hf =>
          refine ⟨fun _ => ⟨hw, (landDue_iff.1 hl).2, hlt⟩, fun _ => ?_⟩
          rw [hf]
          exact List.cons_ne_nil _ _
    · cases hd

/-- Without a target LAND is requested five seconds after the activation. -/
theorem land_exactly_lost :
    ∃ e h r, RanFreely { enabled := true } (e :: h) r ∧ decision e = some (seconds 12, false) ∧
      RequestsLand e := by
  have hr := landing_ran (landingCalls.take 2) (by decide)
  refine ⟨_, _, _, hr, by decide +kernel, ?_⟩
  refine (land_exactly hr (by decide +kernel : decision _ = some (seconds 12, false))).2
    ⟨.inr ⟨rfl, by decide +kernel⟩, ?_, by decide +kernel⟩
  intro deadline hd
  have hnone : outstanding (sinceRestart
      (play step [] enabledAutonomy (landingCalls.take 1)).1) = none := by decide +kernel
  cases hnone.symm.trans hd

end AutonomyRuntime
end OnboardAutonomy
