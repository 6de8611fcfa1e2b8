import OnboardAutonomy.Cadence
import OnboardAutonomy.HoverBound
import Mathlib.Algebra.Order.Group.Int

namespace OnboardAutonomy
open ExactDouble Histories Cadence
set_option autoImplicit true

def isTarget (a : FlightActionRequest) : Bool := a.action == .landingTarget

/-- The times at which the runtime is updated. -/
def AutonomyCall.updateTimes : AutonomyCall → List TimePoint
  | .update _ _ _ now _ => [now]
  | .onActionSent .. | .onCommandAck .. | .restart => []

/-- An update that comes to a decision: its time, whether the intent is approved, and the
LANDING_TARGET requests it returns. -/
structure GuidanceDecision where
  time : TimePoint
  approved : Bool
  targets : List FlightActionRequest

def GuidanceDecision.emits (d : GuidanceDecision) : Bool := !d.targets.isEmpty

namespace AutonomyRuntime

/-- The vehicle is landing, in time and above the touchdown altitude. -/
def descends (r : AutonomyRuntime) (vehicle : VehicleSnapshot) (now : TimePoint) : Bool :=
  r.phase == .landing && now < r.landingDeadline && !touchedDown vehicle

/-- An update while active, or while landing above the touchdown altitude, that passes the guards
comes to a decision. -/
def deliberates (r : AutonomyRuntime) (vehicle : VehicleSnapshot)
    (startup : FlightStartupSnapshot) (failsafe : CompanionLinkFailsafeSnapshot)
    (now : TimePoint) : Bool :=
  (r.engages startup || r.descends vehicle now) && passes vehicle failsafe

def guidance (e : AutonomyEntry) : Option GuidanceDecision :=
  match e.input with
  | .update vehicle startup failsafe now landingTarget =>
    if e.before.deliberates vehicle startup failsafe now then
      some ⟨now, approves vehicle landingTarget now, e.output.filter isTarget⟩
    else none
  | .onActionSent .. | .onCommandAck .. | .restart => none

/-- The runs of a runtime the constructor accepts, with any calls between updates whose times never
go back. -/
def RanInOrder (config : AutonomyRuntimeConfig) (h : List AutonomyEntry) (r : AutonomyRuntime) :
    Prop :=
  ∃ initial, new config = .ok initial ∧
    Run step (fun h _ call => Timed AutonomyCall.updateTimes h call) initial h r

/-- The newest decisions, back to the last one that was not approved. -/
def streak (ds : List GuidanceDecision) : List GuidanceDecision := ds.takeWhile (·.approved)

/-- The times at which the decisions of a streak return a LANDING_TARGET. -/
def emissions (ds : List GuidanceDecision) : List TimePoint :=
  ((streak ds).filter GuidanceDecision.emits).map (·.time)

/-- The timer of the stream agrees with the decisions since the last restart. -/
structure Streams (ds : List GuidanceDecision) (r : AutonomyRuntime) (t : TimePoint) : Prop where
  waiting : r.phase = .waitingForStartup → ds = []
  fresh : r.phase.engaged = true → streak ds = [] → r.nextLandingTarget ≤ t
  timer : ∀ u, (firings kLandingTargetInterval ((streak ds).map (·.time))).head? = some u →
    r.nextLandingTarget = u + kLandingTargetInterval
  warm : r.phase = .active → streak ds ≠ [] → r.landCommandAfter.isSome = true
  asking : r.awaitingLandAck = true → r.phase = .active
  emitted : emissions ds = firings kLandingTargetInterval ((streak ds).map (·.time))
  single : ∀ d ∈ ds, d.targets.length ≤ 1 ∧ (d.emits = true → d.approved = true)

theorem Streams.later {t' : TimePoint} (hs : Streams ds r t) (ht : t ≤ t') : Streams ds r t' :=
  { hs with fresh := fun hp hn => (hs.fresh hp hn).trans ht }

theorem Streams.follow (hs : Streams ds r t) (hnext : r'.nextLandingTarget = r.nextLandingTarget)
    (hafter : r'.landCommandAfter = r.landCommandAfter)
    (hphase : r'.phase = r.phase ∨ r'.phase = .landing ∧ r.phase = .active ∨
      r'.phase.resting = true)
    (hasking : r'.awaitingLandAck = true → r.awaitingLandAck = true ∧ r'.phase = r.phase) :
    Streams ds r' t := by
  refine ⟨?_, ?_, ?_, ?_, ?_, hs.emitted, hs.single⟩
  · intro hw
    rcases hphase with h | ⟨h, _⟩ | h
    · exact hs.waiting (h.symm.trans hw)
    · rw [h] at hw
      cases hw
    · rw [hw] at h
      cases h
  · intro hp
    rw [hnext]
    rcases hphase with h | ⟨_, h⟩ | h
    · rw [h] at hp
      exact hs.fresh hp
    · exact hs.fresh (by rw [h]; rfl)
    · rw [resting_of_engaged hp] at h
      cases h
  · rw [hnext]
    exact hs.timer
  · intro ha
    rw [hafter]
    rcases hphase with h | ⟨h, _⟩ | h
    · exact hs.warm (h.symm.trans ha)
    · rw [h] at ha
      cases ha
    · rw [ha] at h
      cases h
  · intro h
    obtain ⟨hbefore, hp⟩ := hasking h
    exact hp.trans (hs.asking hbefore)

theorem updateLandCommand_stream (r : AutonomyRuntime) (now : TimePoint) :
    (r.updateLandCommand now).1.nextLandingTarget = r.nextLandingTarget ∧
      (r.updateLandCommand now).1.landCommandAfter = r.landCommandAfter ∧
      (r.updateLandCommand now).2.toList.filter isTarget = [] := by
  rcases r.updateLandCommand_cases now with ⟨_, hu⟩ | ⟨_, hu⟩ | ⟨_, _, hu⟩
  · rw [hu]
    exact ⟨rfl, rfl, rfl⟩
  · rw [hu]
    exact ⟨rfl, rfl, rfl⟩
  · rw [hu]
    exact ⟨rfl, rfl, rfl⟩

theorem search_stream (r : AutonomyRuntime) (now : TimePoint) :
    (r.search now).1.nextLandingTarget = now ∧ (r.search now).2.filter isTarget = [] := by
  simp only [search]
  split
  · exact ⟨rfl, rfl⟩
  split
  · obtain ⟨hnext, _, hnone⟩ := updateLandCommand_stream { r with
      visionLandingTargetActive := false
      landCommandAfter := none
      nextLandingTarget := now
      targetMissingSince := some (r.targetMissingSince.getD now)
      detail := "Vision unavailable; requesting fallback LAND" } now
    exact ⟨hnext, hnone⟩
  · exact ⟨rfl, rfl⟩

theorem guide_stream (r : AutonomyRuntime) (intent : DesiredMotion) (now : TimePoint) :
    (r.guide intent now).1.landCommandAfter = (r.startWarmup now).landCommandAfter ∧
      (r.guide intent now).1.nextLandingTarget =
        (if (r.startWarmup now).nextLandingTarget ≤ now then now + kLandingTargetInterval
          else (r.startWarmup now).nextLandingTarget) ∧
      (r.guide intent now).2.filter isTarget =
        if (r.startWarmup now).nextLandingTarget ≤ now then [landingTargetRequest intent now]
        else [] := by
  have hland : ∀ c : AutonomyRuntime,
      (if c.warmedUp now then c.updateLandCommand now else (c, none)).1.nextLandingTarget =
          c.nextLandingTarget ∧
        (if c.warmedUp now then c.updateLandCommand now else (c, none)).1.landCommandAfter =
          c.landCommandAfter ∧
        (if c.warmedUp now then c.updateLandCommand now else (c, none)).2.toList.filter isTarget =
          [] := by
    intro c
    split
    · exact c.updateLandCommand_stream now
    · exact ⟨rfl, rfl, rfl⟩
  rw [guide]
  dsimp only
  rw [streamTarget]
  split
  · obtain ⟨hnext, hafter, hnone⟩ :=
      hland { r.startWarmup now with nextLandingTarget := now + kLandingTargetInterval }
    refine ⟨hafter, hnext, ?_⟩
    rw [List.filter_append, hnone]
    rfl
  · obtain ⟨hnext, hafter, hnone⟩ := hland (r.startWarmup now)
    refine ⟨hafter, hnext, ?_⟩
    rw [List.filter_append, hnone]
    rfl

theorem Streams.startWarmup_timer (hs : Streams ds c now) (hne : streak ds ≠ []) :
    (c.startWarmup now).nextLandingTarget = c.nextLandingTarget := by
  rw [startWarmup]
  dsimp only
  split
  · rename_i h
    have hsome := hs.warm h.2 hne
    rw [Option.isNone_iff_eq_none.1 h.1] at hsome
    cases hsome
  · rfl

theorem Streams.startWarmup_due (hs : Streams ds c now) (hp : c.phase.engaged = true) :
    decide ((c.startWarmup now).nextLandingTarget ≤ now) =
      due kLandingTargetInterval
        (firings kLandingTargetInterval ((streak ds).map (·.time))).head? now := by
  cases hstreak : streak ds with
  | nil =>
    apply decide_eq_true
    rw [startWarmup]
    dsimp only
    split
    · exact Int.le_refl now
    · exact hs.fresh hp hstreak
  | cons d earlier =>
    rw [hs.startWarmup_timer (by rw [hstreak]; exact List.cons_ne_nil _ _), List.map_cons]
    obtain ⟨u, hu, _⟩ := firings_recent (show 0 < kLandingTargetInterval by decide) d.time
      (earlier.map (·.time))
    have htimer := hs.timer u (by rw [hstreak]; exact hu)
    rw [hu, htimer]
    rfl

theorem startWarmup_warm (r : AutonomyRuntime) (now : TimePoint) (ha : r.phase = .active) :
    (r.startWarmup now).landCommandAfter.isSome = true := by
  rw [startWarmup]
  dsimp only
  split
  · rfl
  · rename_i h
    rw [not_and_or] at h
    rcases h with h | h
    · exact Option.isSome_iff_ne_none.2 fun hn => h (Option.isNone_iff_eq_none.2 hn)
    · exact absurd ha h

theorem engaged_kept (hp : AutonomyRuntimePhase.engaged p = true)
    (hphase : q = p ∨ q = .failed) : q ≠ .waitingForStartup := by
  intro h
  rcases hphase with h' | h'
  · rw [← h', h] at hp
    cases hp
  · rw [h'] at h
    cases h

theorem streak_approved {d : GuidanceDecision} (ha : d.approved = true)
    (ds : List GuidanceDecision) : streak (d :: ds) = d :: streak ds :=
  List.takeWhile_cons_of_pos ha

theorem streak_broken {d : GuidanceDecision} (ha : d.approved = false)
    (ds : List GuidanceDecision) : streak (d :: ds) = [] :=
  List.takeWhile_cons_of_neg (by rw [ha]; exact Bool.false_ne_true)

theorem Streams.reject {d : GuidanceDecision} (hs : Streams ds c now)
    (ha : d.approved = false) (hnone : d.targets = []) (hnext : r.nextLandingTarget = now)
    (hphase : r.phase ≠ .waitingForStartup)
    (hasking : r.awaitingLandAck = true → r.phase = .active) : Streams (d :: ds) r now := by
  have hstreak := streak_broken ha ds
  refine ⟨fun h => absurd h hphase, fun _ _ => Int.le_of_eq hnext, ?_, ?_, hasking, ?_, ?_⟩
  · intro u hu
    rw [hstreak] at hu
    cases hu
  · exact fun _ h => absurd hstreak h
  · rw [emissions, hstreak]
    rfl
  · intro x hx
    rcases List.mem_cons.1 hx with hx | hx
    · rw [hx, GuidanceDecision.emits, hnone]
      exact ⟨Nat.zero_le 1, fun h => (by cases h)⟩
    · exact hs.single x hx

theorem Streams.approve (hs : Streams ds c now) (hp : c.phase.engaged = true)
    (hphase : r.phase = c.phase ∨ r.phase = .failed)
    (hasking : r.awaitingLandAck = true → r.phase = .active)
    (hafter : r.landCommandAfter = (c.startWarmup now).landCommandAfter)
    (hnext : r.nextLandingTarget =
      if (c.startWarmup now).nextLandingTarget ≤ now then now + kLandingTargetInterval
      else (c.startWarmup now).nextLandingTarget)
    (htargets : targets = if (c.startWarmup now).nextLandingTarget ≤ now then [request] else []) :
    Streams (⟨now, true, targets⟩ :: ds) r now := by
  have hdue := hs.startWarmup_due hp
  have hstreak : streak (⟨now, true, targets⟩ :: ds) = ⟨now, true, targets⟩ :: streak ds :=
    streak_approved rfl ds
  refine ⟨fun h => absurd h (engaged_kept hp hphase), ?_, ?_, ?_, hasking, ?_, ?_⟩
  · intro _ h
    rw [hstreak] at h
    cases h
  · intro u hu
    rw [hstreak, List.map_cons] at hu
    rw [hnext]
    by_cases hle : (c.startWarmup now).nextLandingTarget ≤ now
    · rw [decide_eq_true hle] at hdue
      rw [firings_due hdue.symm] at hu
      cases hu
      rw [if_pos hle]
    · rw [decide_eq_false hle] at hdue
      rw [firings_early hdue.symm] at hu
      have hne : streak ds ≠ [] := by
        intro h
        rw [h] at hu
        cases hu
      rw [if_neg hle, hs.startWarmup_timer hne]
      exact hs.timer u hu
  · intro h _
    rw [hafter]
    apply startWarmup_warm
    rcases hphase with h' | h'
    · rw [← h', h]
    · rw [h'] at h
      cases h
  · have hemitted := hs.emitted
    rw [emissions] at hemitted
    rw [emissions, hstreak, List.map_cons]
    by_cases hle : (c.startWarmup now).nextLandingTarget ≤ now
    · rw [if_pos hle] at htargets
      rw [decide_eq_true hle] at hdue
      rw [firings_due hdue.symm, List.filter_cons_of_pos (by rw [htargets]; rfl), List.map_cons,
        hemitted]
    · rw [if_neg hle] at htargets
      rw [decide_eq_false hle] at hdue
      rw [firings_early hdue.symm,
        List.filter_cons_of_neg (by rw [htargets]; exact Bool.false_ne_true), hemitted]
  · intro x hx
    rcases List.mem_cons.1 hx with hx | hx
    · rw [hx, htargets]
      refine ⟨?_, fun _ => rfl⟩
      dsimp only
      split
      · exact Nat.le_refl 1
      · exact Nat.zero_le 1
    · exact hs.single x hx

theorem Streams.act {vehicle : VehicleSnapshot} {landingTarget : Option BodyFramePosition}
    (hs : Streams ds c now) (hp : c.phase.engaged = true)
    (hsystem : c.vehicleSystemId = vehicle.systemId)
    (ha : act c vehicle landingTarget now = (r, actions)) :
    Streams (⟨now, approves vehicle landingTarget now, actions.filter isTarget⟩ :: ds) r now := by
  have hacts := act_acts hsystem ha
  have hphase := hacts.phase
  have hasking : r.awaitingLandAck = true → r.phase = .active := by
    intro h
    obtain ⟨hsame, hactive⟩ := hacts.awaiting h
    rw [hsame]
    exact hactive.elim hs.asking id
  rw [AutonomyRuntime.act] at ha
  rw [approves]
  cases hm : (supervised vehicle landingTarget now).approved with
  | none =>
    obtain ⟨hnext, hnone⟩ := search_stream
      { c with motionSafetyStatus := (supervised vehicle landingTarget now).status } now
    rw [hm] at ha
    dsimp only at ha
    rw [ha] at hnext hnone
    exact hs.reject rfl hnone hnext (engaged_kept hp hphase) hasking
  | some intent =>
    obtain ⟨hafter, hnext, htargets⟩ := guide_stream
      { c with motionSafetyStatus := (supervised vehicle landingTarget now).status } intent now
    rw [hm] at ha
    dsimp only at ha
    rw [ha] at hafter hnext htargets
    have hs' : Streams ds
        { c with motionSafetyStatus := (supervised vehicle landingTarget now).status } now :=
      hs.follow rfl rfl (.inl rfl) fun h => ⟨h, rfl⟩
    exact hs'.approve hp hphase hasking hafter hnext htargets

section Updates
variable {vehicle : VehicleSnapshot} {startup : FlightStartupSnapshot}
  {failsafe : CompanionLinkFailsafeSnapshot} {now : TimePoint}
  {landingTarget : Option BodyFramePosition}

theorem Streams.begun (hs : Streams ds r now) (hb : Begun startup failsafe now r b) :
    Streams ds b now := by
  cases hb with
  | engaged _ => exact hs
  | activated hw _ _ =>
    have hnone := hs.waiting hw
    rw [hnone] at hs ⊢
    exact ⟨fun _ => rfl, fun _ _ => Int.le_refl now, fun u hu => (by cases hu),
      fun _ h => absurd rfl h, fun _ => rfl, hs.emitted, hs.single⟩

/-- While landing the checks of an update let its decision through or end it without a request. -/
theorem checkVehicle_landing {r : AutonomyRuntime} (hl : r.phase = .landing) :
    (r.deliberates vehicle startup failsafe now = true ∧
      r.checkVehicle vehicle failsafe now = .next { r with vehicleSystemId := vehicle.systemId }) ∨
    (r.deliberates vehicle startup failsafe now = false ∧
      ∃ r', r.checkVehicle vehicle failsafe now = .done r' [] ∧
        r'.nextLandingTarget = r.nextLandingTarget ∧ r'.landCommandAfter = r.landCommandAfter ∧
        (r'.phase = .landing ∨ r'.phase.resting = true) ∧
        (r'.awaitingLandAck = true → r.awaitingLandAck = true)) := by
  have hengages : r.engages startup = false := by
    rw [engages, hl]
    rfl
  rw [deliberates, descends, passes, hengages, hl, checkVehicle]
  split
  · rename_i hseen
    refine .inr ⟨?_, _, rfl, rfl, rfl, .inr rfl, fun h => (by cases h)⟩
    rw [Bool.or_eq_true, Bool.not_eq_true', Option.isNone_iff_eq_none] at hseen
    rcases hseen with h | h
    · simp [h]
    · simp [h]
  rename_i hseen
  split
  · rename_i haccepted
    refine .inr ⟨?_, _, rfl, rfl, rfl, .inr rfl, fun h => (by cases h)⟩
    rw [Bool.not_eq_true'] at haccepted
    simp [haccepted]
  rename_i haccepted
  rw [Bool.or_eq_true, Bool.not_eq_true', Option.isNone_iff_eq_none, not_or,
    Bool.not_eq_false] at hseen
  rw [Bool.not_eq_true', Bool.not_eq_false] at haccepted
  have hidentified := Option.isSome_iff_ne_none.2 hseen.2
  dsimp only
  cases harmed : vehicle.armed with
  | false =>
    refine .inr ⟨by simp, land { r with vehicleSystemId := vehicle.systemId }, ?_, rfl, rfl,
      .inr rfl, id⟩
    exact if_pos ⟨hl, rfl⟩
  | true =>
    rw [if_neg fun h => (by cases h.2), if_neg fun h => (by cases h.2)]
    by_cases hdeadline : r.landingDeadline ≤ now
    · refine .inr ⟨by simp [hdeadline], fail { r with vehicleSystemId := vehicle.systemId }
        "Vehicle did not complete landing", ?_, rfl, rfl, .inr rfl, fun h => (by cases h)⟩
      exact if_pos ⟨hl, hdeadline⟩
    rw [if_neg fun h => hdeadline h.2]
    cases htouched : touchedDown vehicle with
    | true =>
      refine .inr ⟨by simp, touchDown { r with vehicleSystemId := vehicle.systemId }, ?_, rfl, rfl,
        .inl hl, id⟩
      exact if_pos ⟨hl, rfl⟩
    | false =>
      refine .inl ⟨?_, ?_⟩
      · rw [hseen.1, hidentified, haccepted, decide_eq_true (Int.not_le.1 hdeadline)]
        rfl
      · rw [if_neg fun h => (by cases h.2), hl]

theorem landing_cases {r : AutonomyRuntime} (hl : r.phase = .landing) :
    (r.deliberates vehicle startup failsafe now = true ∧
      r.update vehicle startup failsafe now landingTarget =
        act { r with vehicleSystemId := vehicle.systemId } vehicle landingTarget now) ∨
    (r.deliberates vehicle startup failsafe now = false ∧
      ∃ r', r.update vehicle startup failsafe now landingTarget = (r', []) ∧
        r'.nextLandingTarget = r.nextLandingTarget ∧ r'.landCommandAfter = r.landCommandAfter ∧
        (r'.phase = .landing ∨ r'.phase.resting = true) ∧
        (r'.awaitingLandAck = true → r.awaitingLandAck = true)) := by
  rw [update, if_neg (by rw [hl]; decide), awaitStartup, if_pos (by rw [hl]; decide)]
  dsimp only
  rcases @checkVehicle_landing vehicle startup failsafe now r hl with ⟨hd, hc⟩ | ⟨hd, r', hc, hr⟩
  · rw [hc]
    exact .inl ⟨hd, rfl⟩
  · rw [hc]
    exact .inr ⟨hd, r', rfl, hr⟩

theorem Streams.decided {vehicle : VehicleSnapshot} (hs : Streams ds b now)
    (hp : b.phase.engaged = true) (hd : r.deliberates vehicle startup failsafe now = true)
    (hu : r.update vehicle startup failsafe now landingTarget =
      AutonomyRuntime.act { b with vehicleSystemId := vehicle.systemId } vehicle landingTarget
        now) :
    Streams ((guidance ⟨r, .update vehicle startup failsafe now landingTarget,
      (r.update vehicle startup failsafe now landingTarget).2⟩).toList ++ ds)
      (r.update vehicle startup failsafe now landingTarget).1 now := by
  have hs' : Streams ds { b with vehicleSystemId := vehicle.systemId } now :=
    hs.follow rfl rfl (.inl rfl) fun h => ⟨h, rfl⟩
  have hact : Streams (⟨now, approves vehicle landingTarget now,
      (r.update vehicle startup failsafe now landingTarget).2.filter isTarget⟩ :: ds)
      (r.update vehicle startup failsafe now landingTarget).1 now := hs'.act hp rfl hu.symm
  rw [guidance]
  dsimp only
  rw [if_pos hd]
  exact hact

theorem guidance_none {r : AutonomyRuntime}
    (hd : r.deliberates vehicle startup failsafe now = false) :
    guidance ⟨r, .update vehicle startup failsafe now landingTarget, actions⟩ = none := by
  rw [guidance]
  dsimp only
  rw [hd]
  rfl

theorem Begun.deliberates (hb : Begun startup failsafe now r b) (hl : r.phase ≠ .landing)
    (hc : Checked vehicle failsafe) (ha : vehicle.armed = true) :
    ¬r.deliberates vehicle startup failsafe now = false := by
  have hp : b.phase = .active := by
    rcases engaged_cases hb.phase with hp | hp
    · exact hp
    · cases hb with
      | engaged _ => exact absurd hp hl
      | activated _ _ _ => cases hp
  rw [AutonomyRuntime.deliberates, hb.engages hp, hc.passes ha]
  exact Bool.noConfusion

theorem Streams.undecided (hs : Streams ds r now) (hl : r.phase ≠ .landing)
    (hd : r.deliberates vehicle startup failsafe now = false)
    (hu : Updated vehicle startup failsafe now landingTarget r r' actions) :
    Streams ds r' now := by
  cases hu with
  | rest _ => exact hs
  | wait detail _ _ => exact hs.follow rfl rfl (.inl rfl) fun h => ⟨h, rfl⟩
  | refuse detail _ _ => exact hs.follow rfl rfl (.inr (.inr rfl)) fun h => (by cases h)
  | abort systemId detail hb =>
    exact (hs.begun hb).follow rfl rfl (.inr (.inr rfl)) fun h => (by cases h)
  | land hb hp _ _ | touchDown hb hp _ =>
    cases hb with
    | engaged _ => exact absurd hp hl
    | activated _ _ _ => cases hp
  | act hb hc ha _ => exact absurd hd (hb.deliberates hl hc ha)

/-- An update keeps the timer in agreement with the decisions. -/
theorem Streams.update (hs : Streams ds r now) :
    Streams ((guidance ⟨r, .update vehicle startup failsafe now landingTarget,
      (r.update vehicle startup failsafe now landingTarget).2⟩).toList ++ ds)
      (r.update vehicle startup failsafe now landingTarget).1 now := by
  by_cases hl : r.phase = .landing
  · rcases @landing_cases vehicle startup failsafe now landingTarget r hl with
      ⟨hd, hu⟩ | ⟨hd, r', hu, hnext, hafter, hp, hasking⟩
    · exact hs.decided (by rw [hl]; rfl) hd hu
    · rw [guidance_none hd, hu]
      apply hs.follow hnext hafter (hp.imp (·.trans hl.symm) .inr)
      intro h
      have hactive := hs.asking (hasking h)
      rw [hl] at hactive
      cases hactive
  · cases hd : r.deliberates vehicle startup failsafe now with
    | true =>
      have hdescends : r.descends vehicle now = false := by
        rw [descends, beq_eq_false_iff_ne.2 hl]
        rfl
      have hguards := hd
      rw [deliberates, hdescends, Bool.or_false, Bool.and_eq_true] at hguards
      obtain ⟨b, hb, hp, hu⟩ := @update_decides vehicle startup failsafe now landingTarget r
        hguards.1 hguards.2
      exact (hs.begun hb).decided (by rw [hp]; rfl) hd hu
    | false =>
      rw [guidance_none hd]
      exact hs.undecided hl hd r.updated

end Updates

theorem Streams.onActionSent (hs : Streams ds r t) (request : FlightActionRequest) (sent : Bool)
    (now : TimePoint) : Streams ds (r.onActionSent request sent now) t := by
  rcases r.onActionSent_cases request sent now with ⟨_, _, he⟩ | he | ⟨_, _, he | he⟩
  · rw [he]
    exact hs.follow rfl rfl (.inl rfl) fun h => ⟨h, rfl⟩
  · rw [he]
    exact hs
  · rw [he]
    exact hs.follow rfl rfl (.inl rfl) fun h => (by cases h)
  · rw [he]
    exact hs.follow rfl rfl (.inr (.inr rfl)) fun h => (by cases h)

theorem Streams.onCommandAck (hs : Streams ds r t) (action : FlightAction)
    (outcome : FlightCommandAckOutcome) (rawResult source : UInt8) (now : TimePoint) :
    Streams ds (r.onCommandAck action outcome rawResult source now) t := by
  rcases r.onCommandAck_cases action outcome rawResult source now with
    ⟨_, he⟩ | ⟨hawaits, ⟨_, he⟩ | ⟨_, he⟩ | ⟨_, detail, he⟩⟩
  · rw [he]
    exact hs
  · rw [he]
    have hactive := hs.asking ((r.awaits_iff action source).1 hawaits).2.1
    exact hs.follow rfl rfl (.inr (.inl ⟨rfl, hactive⟩)) fun h => (by cases h)
  · rw [he]
    exact hs.follow rfl rfl (.inl rfl) fun h => ⟨h, rfl⟩
  · rw [he]
    exact hs.follow rfl rfl (.inr (.inr rfl)) fun h => (by cases h)

theorem Streams.restart (r : AutonomyRuntime) (t : TimePoint) : Streams [] r.restart t := by
  refine ⟨fun _ => rfl, ?_, fun u hu => (by cases hu), fun _ h => absurd rfl h,
    fun h => (by cases h), rfl, fun d h => (by cases h)⟩
  intro hp
  rw [AutonomyRuntime.restart] at hp
  dsimp only at hp
  split at hp
  · cases hp
  · cases hp

/-- In every run the timer of the stream agrees with the decisions since the last restart. -/
theorem streams_run {config : AutonomyRuntimeConfig} (hr : RanInOrder config h r)
    (ht : ∀ e ∈ h, ∀ u ∈ e.input.updateTimes, u ≤ t) :
    Streams ((sinceRestart h).filterMap guidance) r t := by
  obtain ⟨initial, hnew, hr⟩ := hr
  have hrun := hr.history_invariant (fun h r => ∀ t, (∀ e ∈ h, ∀ u ∈ e.input.updateTimes, u ≤ t) →
    Streams ((sinceRestart h).filterMap guidance) r t)
  apply hrun
  · intro t _
    rw [new_eq hnew]
    split
    · exact .restart _ t
    · exact ⟨fun h => (by cases h), fun h => (by cases h), fun u hu => (by cases hu),
        fun h => (by cases h), fun h => (by cases h), rfl, fun d h => (by cases h)⟩
  · intro h r call _ hi hl t ht
    have hpast : ∀ e ∈ h, ∀ u ∈ e.input.updateTimes, u ≤ t :=
      fun e he => ht e (List.mem_cons_of_mem _ he)
    cases call with
    | update vehicle startup failsafe now landingTarget =>
      rw [sinceRestart, since_keep _ rfl, filterMap_cons_toList]
      have hs := hi now fun e he u hu => hl.2 e he u hu now List.mem_cons_self
      exact hs.update.later (ht _ List.mem_cons_self now List.mem_cons_self)
    | onActionSent request sent now =>
      rw [sinceRestart, since_keep _ rfl]
      exact (hi t hpast).onActionSent request sent now
    | onCommandAck action outcome rawResult source now =>
      rw [sinceRestart, since_keep _ rfl]
      exact (hi t hpast).onCommandAck action outcome rawResult source now
    | restart =>
      rw [sinceRestart, since_cut _ rfl]
      exact .restart r t
  · exact ht

theorem step_targets {call : AutonomyCall} (ho : output = (step r call).2)
    (hnone : guidance ⟨r, call, output⟩ = none) : output.filter isTarget = [] := by
  rw [ho] at hnone ⊢
  cases call with
  | onActionSent _ _ _ | onCommandAck _ _ _ _ _ | restart => rfl
  | update vehicle startup failsafe now landingTarget =>
    have hd : r.deliberates vehicle startup failsafe now = false := by
      rw [guidance] at hnone
      dsimp only at hnone
      split at hnone
      · cases hnone
      · rename_i hd
        exact Bool.eq_false_of_not_eq_true hd
    change (r.update vehicle startup failsafe now landingTarget).2.filter isTarget = []
    by_cases hl : r.phase = .landing
    · rcases @landing_cases vehicle startup failsafe now landingTarget r hl with
        ⟨hd', _⟩ | ⟨_, r', hu, _⟩
      · rw [hd] at hd'
        cases hd'
      · rw [hu]
        rfl
    · cases hu : r.update vehicle startup failsafe now landingTarget with
      | mk r' actions =>
        have hupdated := update_updated hu
        dsimp only
        cases hupdated with
        | act hb hc ha _ => exact absurd hd (hb.deliberates hl hc ha)
        | _ => rfl

theorem sinceRestart_targets {config : AutonomyRuntimeConfig} (hr : RanInOrder config h r)
    (he : e ∈ sinceRestart h) (hnone : guidance e = none) : e.output.filter isTarget = [] := by
  obtain ⟨initial, _, hr⟩ := hr
  obtain ⟨_, _, _, _, ho⟩ := hr.reached (since_subset _ h he)
  exact step_targets ho hnone

theorem guidance_targets {e : AutonomyEntry} (hg : guidance e = some d) :
    d.targets = e.output.filter isTarget := by
  rw [guidance] at hg
  split at hg
  · split at hg
    · cases hg
      rfl
    · cases hg
  all_goals cases hg

theorem updates_bounded (h : List AutonomyEntry) :
    ∃ t, ∀ e ∈ h, ∀ u ∈ e.input.updateTimes, u ≤ t := by
  induction h with
  | nil => exact ⟨0, fun e he => (by cases he)⟩
  | cons x h ih =>
    obtain ⟨t, ht⟩ := ih
    have hx : ∃ t', ∀ u ∈ x.input.updateTimes, u ≤ t' := by
      cases x.input with
      | update _ _ _ now _ => exact ⟨now, fun u hu => Int.le_of_eq (List.mem_singleton.1 hu)⟩
      | onActionSent _ _ _ | onCommandAck _ _ _ _ _ | restart =>
        exact ⟨0, fun u hu => (by cases hu)⟩
    obtain ⟨t', ht'⟩ := hx
    refine ⟨max t t', fun e he u hu => ?_⟩
    rcases List.mem_cons.1 he with he | he
    · rw [he] at hu
      exact (ht' u hu).trans (le_max_right t t')
    · exact (ht e he u hu).trans (le_max_left t t')

/-- LANDING_TARGET requests are returned by approved decisions only, one by each, and in the current
streak of approvals they follow a timer of 200 ms that the streak starts anew. -/
theorem guidance_streams {config : AutonomyRuntimeConfig} (hr : RanInOrder config h r) :
    (∀ e ∈ sinceRestart h, e.output.filter isTarget ≠ [] →
      (e.output.filter isTarget).length = 1 ∧
        ∃ d, guidance e = some d ∧ d.approved = true ∧ d.targets = e.output.filter isTarget) ∧
    emissions ((sinceRestart h).filterMap guidance) = firings (milliseconds 200)
      ((streak ((sinceRestart h).filterMap guidance)).map (·.time)) ∧
    (emissions ((sinceRestart h).filterMap guidance)).Pairwise fun later earlier =>
      earlier + milliseconds 200 ≤ later := by
  obtain ⟨t, ht⟩ := updates_bounded h
  have hs := streams_run hr ht
  refine ⟨?_, hs.emitted, ?_⟩
  · intro e he hne
    cases hg : guidance e with
    | none => exact absurd (sinceRestart_targets hr he hg) hne
    | some d =>
      have hd : d ∈ (sinceRestart h).filterMap guidance := List.mem_filterMap.2 ⟨e, he, hg⟩
      have htargets := guidance_targets hg
      obtain ⟨hle, happroved⟩ := hs.single d hd
      rw [htargets] at hle
      refine ⟨Nat.le_antisymm hle (List.length_pos_iff.2 hne), d, rfl, happroved ?_, htargets⟩
      rw [GuidanceDecision.emits, htargets, Bool.not_eq_true']
      exact List.isEmpty_eq_false_iff.2 hne
  · rw [hs.emitted]
    exact firings_spaced (by decide) _

theorem played_in_order (calls : List AutonomyCall)
    (ht : (calls.flatMap AutonomyCall.updateTimes).Pairwise (· ≤ ·)) :
    RanInOrder { enabled := true } (play step [] enabledAutonomy calls).1
      (play step [] enabledAutonomy calls).2 := by
  refine ⟨enabledAutonomy, rfl, Run.start.play_timed ?_ ht⟩
  intro e he
  cases he

/-- A target that is in view for a while, seen every 100 ms. -/
def steadyCalls (n : Nat) : List AutonomyCall :=
  (List.range n).map fun k => .update (copter 4 true 8) { phase := .completed }
    { phase := .accepted } (milliseconds (100 * k)) (some targetBelow)

theorem guidance_streams_steady :
    emissions ((sinceRestart (play step [] enabledAutonomy (steadyCalls 5)).1).filterMap
      guidance) = firings (milliseconds 200) [milliseconds 400, milliseconds 300,
        milliseconds 200, milliseconds 100, 0] := by
  have h := (guidance_streams (played_in_order (steadyCalls 5) (by decide +kernel))).2.1
  exact h.trans (by decide +kernel)

/-- A target that is lost for a moment is streamed again at once. -/
def reacquiredCalls : List AutonomyCall :=
  [.update (copter 4 true 8) { phase := .completed } { phase := .accepted } 0 (some targetBelow),
   .update (copter 4 true 8) { phase := .completed } { phase := .accepted } (milliseconds 50) none,
   .update (copter 4 true 8) { phase := .completed } { phase := .accepted } (milliseconds 100)
     (some targetBelow)]

theorem reacquired_early :
    ¬∀ config h r, RanInOrder config h r →
      ((((sinceRestart h).filterMap guidance).filter GuidanceDecision.emits).map
        (·.time)).Pairwise fun later earlier => earlier + milliseconds 200 ≤ later := by
  intro hclaim
  have hspaced := hclaim _ _ _ (played_in_order reacquiredCalls (by decide))
  revert hspaced
  decide +kernel

end AutonomyRuntime

end OnboardAutonomy
