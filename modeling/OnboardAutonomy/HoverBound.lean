import OnboardAutonomy.LandDecision
import Mathlib.Tactic.Linarith

namespace OnboardAutonomy
open ExactDouble Histories Retries
set_option autoImplicit true

namespace AutonomyRuntime

def updateTime (e : AutonomyEntry) : Option TimePoint :=
  match e.input with
  | .update _ _ _ now _ => some now
  | .onActionSent .. | .onCommandAck .. | .restart => none

/-- A LAND request is returned at a time up to a bound. -/
def LandsBy (h : List AutonomyEntry) (bound : TimePoint) : Prop :=
  ∃ e ∈ h, RequestsLand e ∧ ∃ now, updateTime e = some now ∧ now ≤ bound

/-- Up to a bound one of the decisions ends a streak of equal approval that is long enough. -/
def SettlesBy (config : AutonomyRuntimeConfig) (decisions : List (TimePoint × Bool))
    (bound : TimePoint) : Prop :=
  ∃ now approved older, (now, approved) :: older <:+ decisions ∧ now ≤ bound ∧
    StreakWarrants config approved (streakStart approved now older) now

theorem settlesBy_cons {config : AutonomyRuntimeConfig} :
    SettlesBy config ((now, approved) :: decisions) bound ↔
      (now ≤ bound ∧ StreakWarrants config approved (streakStart approved now decisions) now) ∨
        SettlesBy config decisions bound := by
  constructor
  · intro ⟨t, v, older, hs, hle, hw⟩
    rcases List.suffix_cons_iff.1 hs with heq | hs
    · cases heq
      exact .inl ⟨hle, hw⟩
    · exact .inr ⟨t, v, older, hs, hle, hw⟩
  · rintro (⟨hle, hw⟩ | ⟨t, v, older, hs, hle, hw⟩)
    · exact ⟨now, approved, decisions, List.suffix_rfl, hle, hw⟩
    · exact ⟨t, v, older, hs.trans (List.suffix_cons _ _), hle, hw⟩

theorem landsBy_cons : LandsBy (e :: h) bound ↔
    (RequestsLand e ∧ ∃ now, updateTime e = some now ∧ now ≤ bound) ∨ LandsBy h bound := by
  simp only [LandsBy, List.mem_cons, or_and_right, exists_or, exists_eq_left]

theorem Updated.decides (hu : Updated vehicle startup failsafe now landingTarget r r' actions)
    (hl : actions.filter isLand ≠ []) :
    decision ⟨r, .update vehicle startup failsafe now landingTarget, actions⟩ =
      some (now, approves vehicle landingTarget now) := by
  cases hu with
  | rest _ | wait _ _ _ | refuse _ _ _ | abort _ _ _ | land _ _ _ _ | touchDown _ _ _ =>
    exact absurd rfl hl
  | @act b _ _ hb hc ha hact =>
    cases act_commands hact with
    | held _ _ _ hf | gaveUp _ _ _ _ hf => exact absurd hf hl
    | requested _ hdue _ _ _ _ =>
      exact hb.decides hdue.1 hc ha

theorem unrequested (hn : ∀ e ∈ h, ¬RequestsLand e) :
    outstanding h = none ∧ landRequests h = 0 := by
  have hquiet : ∀ x ∈ h.map landEvent, x.confirmation = none := by
    intro x hx
    obtain ⟨e, he, hx⟩ := List.mem_map.1 hx
    have hnone := hn e he
    rw [requestsLand_iff, ne_eq, not_not] at hnone
    rw [← hx, landEvent]
    cases e.input with
    | update vehicle startup failsafe now landingTarget =>
      dsimp only
      rw [← List.head?_filter, hnone]
      rfl
    | onActionSent request sent now => dsimp only; split <;> rfl
    | onCommandAck action outcome rawResult source now =>
      dsimp only
      split
      · split <;> rfl
      · rfl
    | restart => rfl
  refine ⟨after_unasked hquiet, ?_⟩
  rw [landRequests, List.length_eq_zero_iff, List.filterMap_eq_nil_iff]
  exact hquiet

theorem RanFreely.requested {config : AutonomyRuntimeConfig} (hr : RanFreely config h r)
    (he : e ∈ h) (hl : RequestsLand e) : ∃ now, updateTime e = some now ∧ now ∈ e.input.times := by
  obtain ⟨_, _, hr⟩ := hr
  obtain ⟨_, _, _, _, ho⟩ := hr.reached he
  obtain ⟨a, ha, _⟩ := hl
  rw [ho] at ha
  rw [updateTime]
  cases hi : e.input with
  | update vehicle startup failsafe now landingTarget => exact ⟨now, rfl, List.mem_singleton_self _⟩
  | onActionSent _ _ _ | onCommandAck _ _ _ _ _ | restart => rw [hi] at ha; cases ha

theorem decision_update
    (hd : decision ⟨r, .update vehicle startup failsafe now landingTarget, actions⟩ =
      some (t, approved)) : t = now := by
  rw [decision] at hd
  dsimp only at hd
  split at hd
  · cases hd
    rfl
  · cases hd

theorem undecided_request
    (hd : decision ⟨r, .update vehicle startup failsafe now landingTarget,
      (step r (.update vehicle startup failsafe now landingTarget)).2⟩ = none) :
    ¬RequestsLand ⟨r, .update vehicle startup failsafe now landingTarget,
      (step r (.update vehicle startup failsafe now landingTarget)).2⟩ := by
  intro hland
  have hdecides := Updated.decides r.updated ((requestsLand_iff _).1 hland)
  rw [step] at hd
  rw [hd] at hdecides
  cases hdecides

theorem landsBy_nil {config : AutonomyRuntimeConfig} :
    LandsBy [] bound ↔ SettlesBy config [] bound := by
  constructor
  · rintro ⟨_, he, _⟩
    cases he
  · rintro ⟨_, _, _, hs, _⟩
    cases List.suffix_nil.1 hs

/-- Up to a bound LAND is requested exactly when a streak of equal approval is long enough. -/
theorem lands_by_exactly {config : AutonomyRuntimeConfig} (hr : RanFreely config h r)
    (bound : TimePoint) :
    LandsBy (sinceRestart h) bound ↔
      SettlesBy config ((sinceRestart h).filterMap decision) bound := by
  obtain ⟨initial, hnew, hr⟩ := hr
  apply hr.history_invariant fun h r => LandsBy (sinceRestart h) bound ↔
    SettlesBy config ((sinceRestart h).filterMap decision) bound
  · exact landsBy_nil
  intro h r call hrun ih hl
  have hnext : RanFreely config (⟨r, call, (step r call).2⟩ :: h) (step r call).1 :=
    ⟨initial, hnew, hrun.next hl⟩
  have hother (hc : call.restarts = false)
      (hd : decision ⟨r, call, (step r call).2⟩ = none) (ho : (step r call).2 = []) :
      LandsBy (sinceRestart (⟨r, call, (step r call).2⟩ :: h)) bound ↔ SettlesBy config
        ((sinceRestart (⟨r, call, (step r call).2⟩ :: h)).filterMap decision) bound := by
    rw [sinceRestart, since_keep _ hc, filterMap_cons_toList, hd, landsBy_cons]
    refine (or_iff_right ?_).trans ih
    rintro ⟨⟨a, ha, _⟩, _⟩
    rw [ho] at ha
    cases ha
  cases call with
  | onActionSent request sent now => exact hother rfl rfl rfl
  | onCommandAck action outcome rawResult source now => exact hother rfl rfl rfl
  | restart =>
    rw [sinceRestart, since_cut _ rfl]
    exact landsBy_nil
  | update vehicle startup failsafe now landingTarget =>
    rw [sinceRestart, since_keep _ rfl, landsBy_cons, filterMap_cons_toList]
    cases hd : decision ⟨r, .update vehicle startup failsafe now landingTarget,
        (step r (.update vehicle startup failsafe now landingTarget)).2⟩ with
    | none =>
      exact (or_iff_right fun h => undecided_request hd h.1).trans ih
    | some d =>
      obtain ⟨t, approved⟩ := d
      obtain rfl := decision_update hd
      have hexact := land_exactly hnext hd
      rw [Option.toList_some, List.singleton_append, settlesBy_cons]
      constructor
      · rintro (⟨hland, _, htime, hle⟩ | hland)
        · cases htime
          exact .inl ⟨hle, (hexact.1 hland).1⟩
        · exact .inr (ih.1 hland)
      · rintro (⟨hle, hw⟩ | hsettles)
        · by_cases hearlier : ∃ e ∈ sinceRestart h, RequestsLand e
          · obtain ⟨e, he, hland⟩ := hearlier
            obtain ⟨earlier, htime, hmem⟩ :=
              RanFreely.requested ⟨initial, hnew, hrun⟩ (since_subset _ h he) hland
            have hle' : earlier ≤ t :=
              hl.2 e (since_subset _ h he) earlier hmem t (List.mem_singleton_self t)
            exact .inr ⟨e, he, hland, earlier, htime, hle'.trans hle⟩
          · obtain ⟨hnone, hzero⟩ := unrequested fun e he hl => hearlier ⟨e, he, hl⟩
            refine .inl ⟨hexact.2 ⟨hw, ?_, ?_⟩, t, rfl, hle⟩
            · intro deadline hdeadline
              rw [hnone] at hdeadline
              cases hdeadline
            · rw [hzero]
              decide
        · exact .inr (ih.2 hsettles)

/-- When LAND must have been requested by, at the latest, after an activation. -/
def hoverBound (config : AutonomyRuntimeConfig) (t0 : TimePoint) (d : Duration) : TimePoint :=
  t0 + config.targetLossLandAfter + seconds 1 + 2 * d

/-- How long a streak of equal approval must last. -/
def streakLimit (config : AutonomyRuntimeConfig) (approved : Bool) : Duration :=
  if approved then seconds 1 else config.targetLossLandAfter

theorem streakWarrants_iff {config : AutonomyRuntimeConfig} :
    StreakWarrants config approved s now ↔ s + streakLimit config approved ≤ now := by
  rw [StreakWarrants, streakLimit]
  cases approved with
  | true => exact ⟨fun h => h.elim (·.2) fun h => (by cases h.1), fun h => .inl ⟨rfl, h⟩⟩
  | false =>
    rw [if_neg Bool.false_ne_true]
    refine ⟨fun h => ?_, fun h => .inr ⟨rfl, Int.le_sub_left_of_add_le h⟩⟩
    rcases h with ⟨h, _⟩ | ⟨_, h⟩
    · cases h
    · exact Int.add_le_of_le_sub_left h

theorem streakLimit_add {config : AutonomyRuntimeConfig} (approved : Bool) :
    streakLimit config approved + streakLimit config (!approved) =
      config.targetLossLandAfter + seconds 1 := by
  cases approved with
  | true => exact Int.add_comm _ _
  | false => rfl

theorem streakLimit_pos {config : AutonomyRuntimeConfig} (hloss : 0 < config.targetLossLandAfter)
    (approved : Bool) : 0 < streakLimit config approved := by
  cases approved with
  | true => exact (by decide : 0 < seconds 1)
  | false => exact hloss

/-- Decisions at most `d` apart that change at most once are settled before the bound is reached:
an unsettled streak of either kind is shorter than its limit. -/
theorem unsettled_early {config : AutonomyRuntimeConfig} (hloss : 0 < config.targetLossLandAfter)
    (hd : 0 ≤ d)
    (hspaced : (((now, approved) :: decisions).map Prod.fst).IsChain fun later earlier =>
      later - earlier ≤ d)
    (hfirst : ((now, approved) :: decisions).getLast?.map Prod.fst = some t0)
    (hchanges : changes ((now, approved) :: decisions) ≤ 1)
    (hunsettled : ¬SettlesBy config ((now, approved) :: decisions) (hoverBound config t0 d)) :
    now + d < hoverBound config t0 d ∧
      (changes ((now, approved) :: decisions) = 0 → streakStart approved now decisions = t0) ∧
      streakStart approved now decisions ≤ t0 + streakLimit config (!approved) + d := by
  have hpos := streakLimit_pos hloss approved
  have hother := streakLimit_pos hloss (!approved)
  have hsum : streakLimit config approved + streakLimit config (!approved) =
      config.targetLossLandAfter + seconds 1 := streakLimit_add approved
  induction decisions generalizing now approved with
  | nil =>
    have heq : now = t0 := Option.some.inj hfirst
    rw [heq, streakStart, hoverBound]
    refine ⟨?_, fun _ => rfl, ?_⟩
    · linarith
    · linarith
  | cons x older ih =>
    obtain ⟨t, v⟩ := x
    rw [settlesBy_cons, not_or, streakWarrants_iff] at hunsettled
    obtain ⟨hnow, hearlier⟩ := hunsettled
    rw [List.map_cons, List.map_cons, List.isChain_cons_cons] at hspaced
    obtain ⟨hgap, hspaced⟩ := hspaced
    rw [List.getLast?_cons_cons] at hfirst
    rw [changes] at hchanges ⊢
    have hold : changes ((t, v) :: older) ≤ 1 := (Nat.le_add_right _ _).trans hchanges
    obtain ⟨hearly, hstart, hle⟩ := @ih t v hspaced hfirst hold hearlier
      (streakLimit_pos hloss v) (streakLimit_pos hloss !v) (streakLimit_add v)
    have hbound : now ≤ hoverBound config t0 d := by linarith
    by_cases hsame : approved = v
    · rw [← hsame] at hstart hle ⊢
      rw [streakStart_same, if_pos rfl, Nat.add_zero]
      rw [← hsame, streakStart_same] at hnow
      have hshort := not_le.1 fun h => hnow ⟨hbound, h⟩
      refine ⟨?_, hstart, hle⟩
      rw [hoverBound]
      linarith
    · have hv : v = !approved := Bool.eq_not_of_ne fun h => hsame h.symm
      rw [if_neg hsame] at hchanges ⊢
      have hnone : changes ((t, v) :: older) = 0 :=
        Nat.le_zero.1 (Nat.le_of_succ_le_succ hchanges)
      have ht := hstart hnone
      rw [settlesBy_cons, not_or, streakWarrants_iff, ht, hv] at hearlier
      have hshort := not_le.1 fun h => hearlier.1 ⟨by linarith, h⟩
      rw [streakStart_change fun h => hsame h.symm]
      refine ⟨?_, fun h => absurd h (Nat.succ_ne_zero _), by linarith⟩
      rw [hoverBound]
      linarith

/-- A target that appears or disappears at most once, in decisions close enough together, leads to
a LAND request before the bound is reached. -/
theorem steady_lands {config : AutonomyRuntimeConfig} (hr : RanFreely config h r) (hd : 0 ≤ d)
    (hspaced : (((sinceRestart h).filterMap decision).map Prod.fst).IsChain fun later earlier =>
      later - earlier ≤ d)
    (hfirst : ((sinceRestart h).filterMap decision).getLast?.map Prod.fst = some t0)
    (hreached : ∃ now approved older, (sinceRestart h).filterMap decision =
      (now, approved) :: older ∧ hoverBound config t0 d ≤ now)
    (hchanges : changes ((sinceRestart h).filterMap decision) ≤ 1) :
    LandsBy (sinceRestart h) (hoverBound config t0 d) := by
  rw [lands_by_exactly hr]
  obtain ⟨now, approved, older, heq, hle⟩ := hreached
  rw [heq] at hspaced hfirst hchanges ⊢
  by_contra hunsettled
  have hloss : 0 < config.targetLossLandAfter := by
    obtain ⟨_, hnew, _⟩ := hr
    rw [new] at hnew
    split at hnew
    · cases hnew
    · rename_i h
      exact not_le.1 h
  have hearly := (unsettled_early hloss hd hspaced hfirst hchanges hunsettled).1
  linarith

/-- After an activation LAND is requested within the bound exactly when a streak of equal approval
lasts long enough within it, as it does when the approval changes at most once. -/
theorem hover_ends_exactly {config : AutonomyRuntimeConfig} (hr : RanFreely config h r)
    (t0 : TimePoint) (d : Duration) :
    (LandsBy (sinceRestart h) (hoverBound config t0 d) ↔
      SettlesBy config ((sinceRestart h).filterMap decision) (hoverBound config t0 d)) ∧
    (0 ≤ d → (((sinceRestart h).filterMap decision).map Prod.fst).IsChain
        (fun later earlier => later - earlier ≤ d) →
      ((sinceRestart h).filterMap decision).getLast?.map Prod.fst = some t0 →
      (∃ now approved older, (sinceRestart h).filterMap decision = (now, approved) :: older ∧
        hoverBound config t0 d ≤ now) →
      changes ((sinceRestart h).filterMap decision) ≤ 1 →
      LandsBy (sinceRestart h) (hoverBound config t0 d)) := by
  constructor
  · exact lands_by_exactly hr _
  · intro hd hspaced hfirst hreached hchanges
    exact steady_lands hr hd hspaced hfirst hreached hchanges

theorem hover_ends_exactly_lost :
    LandsBy (sinceRestart (play step [] enabledAutonomy (landingCalls.take 2)).1)
      (hoverBound { enabled := true } (seconds 7) (seconds 1)) := by
  refine (hover_ends_exactly (landing_ran (landingCalls.take 2) (by decide)) (seconds 7)
    (seconds 1)).1.2 ⟨seconds 12, false, [(seconds 7, false)], ?_, by decide, ?_⟩
  · have hd : ((sinceRestart (play step [] enabledAutonomy (landingCalls.take 2)).1).filterMap
        decision) = [(seconds 12, false), (seconds 7, false)] := by decide +kernel
    rw [hd]
  · exact .inr ⟨rfl, by decide +kernel⟩

def guarded (e : AutonomyEntry) : Bool :=
  match e.input with
  | .update vehicle _ failsafe _ _ => passes vehicle failsafe
  | .onActionSent .. | .onCommandAck .. | .restart => true

/-- The runtime becomes active at `t0`, is updated at most `d` apart until after the bound, and
every update passes the guards. -/
structure Watched (h : List AutonomyEntry) (t0 : TimePoint) (d : Duration) (bound : TimePoint) :
    Prop where
  activated : ∃ e ∈ h, e.before.phase = .waitingForStartup ∧ (decision e).map Prod.fst = some t0
  spaced : (h.filterMap updateTime).IsChain fun later earlier => later - earlier ≤ d
  sound : ∀ e ∈ h, guarded e = true
  reaches : ∃ t ∈ h.filterMap updateTime, bound ≤ t

def targetBelow : BodyFramePosition where
  forwardM := .finite 0
  rightM := .finite 0
  downM := .finite 8

/-- Every half second the target appears or disappears. -/
def flickerCalls (n : Nat) : List AutonomyCall :=
  (List.range n).map fun k => .update (copter 4 true 8) { phase := .completed }
    { phase := .accepted } (milliseconds (500 * k)) (if k % 2 = 0 then some targetBelow else none)

/-- Over a flickering target the copter hovers on. -/
theorem flicker_hovers :
    ¬∀ config h r t0 d, RanFreely config h r → 0 < d → d ≤ seconds 1 →
      Watched (sinceRestart h) t0 d (hoverBound config t0 d) →
      LandsBy (sinceRestart h) (hoverBound config t0 d) := by
  intro hclaim
  have hr := landing_ran (flickerCalls 16) (by decide +kernel)
  have hw : Watched (sinceRestart (play step [] enabledAutonomy (flickerCalls 16)).1) 0
      (milliseconds 500) (hoverBound { enabled := true } 0 (milliseconds 500)) :=
    ⟨by decide +kernel, by decide +kernel, by decide +kernel, by decide +kernel⟩
  obtain ⟨e, he, hland, _⟩ := hclaim _ _ _ _ _ hr (by decide) (by decide) hw
  have hnone : ∀ e ∈ sinceRestart (play step [] enabledAutonomy (flickerCalls 16)).1,
      e.output.filter isLand = [] := by decide +kernel
  exact (requestsLand_iff e).1 hland (hnone e he)

end AutonomyRuntime
end OnboardAutonomy
