import OnboardAutonomy.StartupDeadlines
import Mathlib.Data.List.Chain
import Mathlib.Tactic.Linarith

namespace OnboardAutonomy
open Histories
set_option autoImplicit true

namespace FlightStartupController

/-- The times of the updates of a history, newest first. -/
def updateTimes (h : List StartupEntry) : List TimePoint :=
  h.filterMap fun e =>
    match e.input with
    | .update _ _ _ now => some now
    | .onActionSent .. | .onCommandAck .. | .restart => none

/-- Every update comes at most `d` after the one before. -/
def Paced (d : Duration) (times : List TimePoint) : Prop :=
  times.IsChain fun later earlier => later ≤ earlier + d

/-- The update finds a vehicle to start. -/
def FindsVehicle (t : TimePoint) : StartupEntry → Prop :=
  Sees fun vehicle _ _ now =>
    vehicle.connected = true ∧ vehicle.systemId.isSome = true ∧ now = t

/-- The latest deadline of a phase of a startup that began at `t0`. A commanding phase can be left
by the first update behind its deadline. -/
def limit (t0 : TimePoint) (d : Duration) : FlightStartupPhase → TimePoint
  | .waitingForReadiness => t0 + kReadinessTimeout
  | .settingGuided => t0 + kReadinessTimeout + kModeChangeTimeout
  | .arming => t0 + kReadinessTimeout + kModeChangeTimeout + d + kArmingTimeout
  | .takingOff =>
    t0 + kReadinessTimeout + kModeChangeTimeout + d + kArmingTimeout + d + kTakeoffTimeout
  | .disabled | .waitingForVehicle | .completed | .failed => t0

/-- How long a startup can last from the first vehicle to the last deadline. -/
def startupBound (d : Duration) : Duration := seconds 155 + 2 * d

theorem limit_le (hd : 0 ≤ d) (t0 : TimePoint) (phase : FlightStartupPhase) :
    limit t0 d phase ≤ t0 + startupBound d := by
  have hbound : startupBound d = 155000000000 + 2 * d := rfl
  have hready : kReadinessTimeout = 90000000000 := rfl
  have hmode : kModeChangeTimeout = 10000000000 := rfl
  have harming : kArmingTimeout = 10000000000 := rfl
  have htakeoff : kTakeoffTimeout = 45000000000 := rfl
  cases phase <;> simp only [limit, hbound, hready, hmode, harming, htakeoff] <;> linarith

section Updates
variable {vehicle : VehicleSnapshot} {telemetryReady : Bool}
  {failsafe : CompanionLinkFailsafeSnapshot} {now t0 : TimePoint} {d : Duration}

/-- The startup is within its limits, at an update or on its way through one. -/
structure Within (t0 : TimePoint) (d : Duration) (now : TimePoint) (c : FlightStartupController) :
    Prop where
  begins : c.phase = .waitingForVehicle → now = t0
  deadline : c.phase.timeout.isSome = true → c.phaseDeadline ≤ limit t0 d c.phase
  soon : c.phase.timeout.isSome = true → now < c.phaseDeadline + d

theorem Within.follow (hw : Within t0 d now c) (hphase : e.phase = c.phase)
    (hdeadline : e.phaseDeadline = c.phaseDeadline) : Within t0 d now e := by
  obtain ⟨hbegins, hlimit, hsoon⟩ := hw
  rw [← hphase, ← hdeadline] at hlimit
  rw [← hphase] at hbegins
  rw [← hphase, ← hdeadline] at hsoon
  exact ⟨hbegins, hlimit, hsoon⟩

theorem within_resting (h : c.phase.resting = true) : Within t0 d now c := by
  have hnone : c.phase.timeout = none ∧ c.phase ≠ .waitingForVehicle := by
    cases hp : c.phase <;> rw [hp] at h <;> first | cases h; done | exact ⟨rfl, fun h => by cases h⟩
  refine ⟨fun hp => absurd hp hnone.2, fun ht => ?_, fun ht => ?_⟩
  · rw [hnone.1] at ht
    cases ht
  · rw [hnone.1] at ht
    cases ht

theorem within_entered (hd : 0 ≤ d) (he : c.phase.timeout = some timeout) (hpos : 0 < timeout)
    (hdeadline : c.phaseDeadline = now + timeout) (hlimit : now + timeout ≤ limit t0 d c.phase) :
    Within t0 d now c := by
  refine ⟨fun hp => ?_, fun _ => ?_, fun _ => ?_⟩
  · rw [hp] at he
    cases he
  · rw [hdeadline]
    exact hlimit
  · rw [hdeadline]
    linarith

theorem within_round (hd : 0 ≤ d) (hw : Within t0 d now c)
    (hr : Round vehicle telemetryReady failsafe now c flow) :
    flow.Leads (Within t0 d now) fun e _ => Within t0 d now e := by
  cases hr with
  | stay detail => exact hw.follow rfl rfl
  | fail detail _ => exact within_resting rfl
  | latch hp _ _ _ _ =>
    have ht : now = t0 := hw.begins hp
    exact within_entered hd rfl (by decide) rfl (by rw [ht]; exact le_refl _)
  | ready hp hlive _ =>
    have hdeadline := hw.deadline (by rw [hp]; rfl)
    rw [hp] at hdeadline
    refine within_entered hd rfl (by decide) rfl ?_
    exact add_le_add_left (hlive.le.trans hdeadline) _
  | guided hp _ _ =>
    have hdeadline := hw.deadline (by rw [hp]; rfl)
    have hsoon := hw.soon (by rw [hp]; rfl)
    rw [hp] at hdeadline
    refine within_entered hd rfl (by decide) rfl ?_
    exact add_le_add_left (hsoon.le.trans (add_le_add_left hdeadline _)) _
  | armed hp _ _ =>
    have hdeadline := hw.deadline (by rw [hp]; rfl)
    have hsoon := hw.soon (by rw [hp]; rfl)
    rw [hp] at hdeadline
    refine within_entered hd rfl (by decide) rfl ?_
    exact add_le_add_left (hsoon.le.trans (add_le_add_left hdeadline _)) _
  | climbed _ _ _ _ => exact within_resting rfl
  | request action altitudeM _ _ _ _ => exact hw.follow rfl rfl

theorem Within.update (hd : 0 ≤ d) (hw : Within t0 d now c) :
    Within t0 d now (c.update vehicle telemetryReady failsafe now).1 := by
  apply update_rule (P := Within t0 d now) (Q := fun e _ => Within t0 d now e) hw
  · exact fun _ => hw
  · exact fun _ _ _ => within_resting rfl
  · exact fun _ _ hw _ hr => within_round hd hw hr

theorem started_round {c : FlightStartupController} (hp : c.phase ≠ .waitingForVehicle)
    (hr : Round vehicle telemetryReady failsafe now c flow) :
    flow.Leads (fun e => e.phase ≠ .waitingForVehicle) fun e _ => e.phase ≠ .waitingForVehicle := by
  cases hr with
  | stay detail => exact hp
  | fail detail _ => exact fun h => by cases h
  | latch h _ _ _ _ => exact absurd h hp
  | ready _ _ _ => exact fun h => by cases h
  | guided _ _ _ => exact fun h => by cases h
  | armed _ _ _ => exact fun h => by cases h
  | climbed _ _ _ _ => exact fun h => by cases h
  | request action altitudeM _ _ _ _ => exact hp

theorem update_started {c : FlightStartupController} (hp : c.phase ≠ .waitingForVehicle) :
    (c.update vehicle telemetryReady failsafe now).1.phase ≠ .waitingForVehicle := by
  apply update_rule (P := fun e => e.phase ≠ .waitingForVehicle)
    (Q := fun e _ => e.phase ≠ .waitingForVehicle) hp
  · exact fun _ => hp
  · exact fun _ _ _ h => by cases h
  · exact fun _ _ hp _ hr => started_round hp hr

theorem transitions_started {c : FlightStartupController} (hp : c.phase ≠ .waitingForVehicle)
    (hg : Guarded vehicle failsafe c) (rounds : Nat) :
    (c.transitions vehicle telemetryReady failsafe now rounds).1.phase ≠ .waitingForVehicle := by
  apply transitions_rule (P := fun e => e.phase ≠ .waitingForVehicle)
    (Q := fun e _ => e.phase ≠ .waitingForVehicle) _ _ rounds hp hg
  · exact fun _ _ _ h => by cases h
  · exact fun _ _ hp _ hr => started_round hp hr

theorem update_begins (hconnected : vehicle.connected = true)
    (hid : vehicle.systemId.isSome = true) (c : FlightStartupController) :
    (c.update vehicle telemetryReady failsafe now).1.phase ≠ .waitingForVehicle := by
  by_cases hp : c.phase = .waitingForVehicle
  · have hwait : (!vehicle.connected || vehicle.systemId.isNone) = false := by
      rw [hconnected, ← Option.not_isSome, hid]
      rfl
    have hloop : (c.update vehicle telemetryReady failsafe now) =
        c.transitions vehicle telemetryReady failsafe now 8 := by
      rw [update, if_neg (by simp [hp]), if_neg (by simp [hp]), if_neg (by simp [hp])]
    rw [hloop, transitions, updatePhase, hp]
    dsimp only
    rw [if_neg (by rw [hwait]; exact Bool.false_ne_true)]
    split
    · rename_i hnext
      split at hnext
      · cases hnext
      · cases hnext
        exact transitions_started (fun h => by cases h)
          ⟨fun _ => hconnected, fun h => by cases h⟩ 7
    · rename_i hdone
      split at hdone
      · cases hdone
        exact fun h => by cases h
      · cases hdone
  · exact update_started hp

end Updates

theorem updateTimes_update {vehicle : VehicleSnapshot} {failsafe : CompanionLinkFailsafeSnapshot}
    {now : TimePoint} (h : List StartupEntry) :
    updateTimes (⟨c, .update vehicle telemetryReady failsafe now, actions⟩ :: h) =
      now :: updateTimes h := rfl

/-- How far a startup is, as seen from its updates since it was restarted. -/
structure OnTime (d : Duration) (seen : List StartupEntry) (c : FlightStartupController) :
    Prop where
  waiting : c.phase = .waitingForVehicle → ∀ e ∈ seen, ∀ t, ¬FindsVehicle t e
  disabled : c.phase = .disabled → c.config.enabled = false
  begun : Paced d (updateTimes seen) → c.phase.timeout.isSome = true →
    ∃ t0 last, (updateTimes seen).head? = some last ∧ t0 ≤ last ∧
      (∀ t ∈ updateTimes seen, t ≤ last) ∧ (∀ e ∈ seen, ∀ t, FindsVehicle t e → t0 ≤ t) ∧
      last < c.phaseDeadline ∧ c.phaseDeadline ≤ limit t0 d c.phase

theorem onTime_begin (config : FlightStartupConfig) (d : Duration) :
    OnTime d [] (restart { config := config }) := by
  refine ⟨fun _ e he => absurd he List.not_mem_nil, fun hp => ?_, fun _ ht => ?_⟩
  · rw [restart] at hp ⊢
    dsimp only at hp ⊢
    split at hp
    · cases hp
    · rename_i he
      exact Bool.eq_false_iff.2 he
  · rw [restart] at ht
    dsimp only at ht
    split at ht
    · cases ht
    · cases ht

theorem OnTime.unseen (ho : OnTime d seen c) (hm : Moves c c') {call : StartupCall}
    (hcall : updateTimes [⟨c, call, []⟩] = [])
    (hphase : c'.phase = c.phase ∧ c'.phaseDeadline = c.phaseDeadline ∨ c'.phase = .failed) :
    OnTime d (⟨c, call, []⟩ :: seen) c' := by
  have hfinds : ∀ t, ¬FindsVehicle t (⟨c, call, []⟩ : StartupEntry) := by
    intro t hf
    cases call with
    | update vehicle telemetryReady failsafe now => cases hcall
    | onActionSent request sent now => exact hf
    | onCommandAck action outcome rawResult source now => exact hf
    | restart => exact hf
  have htimes : updateTimes (⟨c, call, []⟩ :: seen) = updateTimes seen := by
    rw [← List.nil_append (updateTimes seen), ← hcall]
    exact List.filterMap_append (l := [_])
  rcases hphase with ⟨hphase, hdeadline⟩ | hfailed
  · refine ⟨fun hp => ?_, fun hp => ?_, ?_⟩
    · rw [hphase] at hp
      exact List.forall_mem_cons.2 ⟨hfinds, ho.waiting hp⟩
    · rw [hphase] at hp
      rw [hm.config]
      exact ho.disabled hp
    · rw [htimes, hphase, hdeadline]
      intro hpaced ht
      obtain ⟨t0, last, hlast, hle, hall, hfound, hlive, hlimit⟩ := ho.begun hpaced ht
      refine ⟨t0, last, hlast, hle, hall, ?_, hlive, hlimit⟩
      exact List.forall_mem_cons.2 ⟨fun t hf => absurd hf (hfinds t), hfound⟩
  · refine ⟨fun hp => ?_, fun hp => ?_, fun _ ht => ?_⟩
    · rw [hfailed] at hp
      cases hp
    · rw [hfailed] at hp
      cases hp
    · rw [hfailed] at ht
      cases ht

theorem timeout_of_begun {c : FlightStartupController} (hwait : c.phase ≠ .waitingForVehicle)
    (hrest : c.phase.resting ≠ true) : c.phase.timeout.isSome = true := by
  cases hp : c.phase with
  | waitingForVehicle => exact absurd hp hwait
  | disabled | completed | failed => exact absurd (by rw [hp]; rfl) hrest
  | waitingForReadiness | settingGuided | arming | takingOff => rfl

theorem OnTime.update {vehicle : VehicleSnapshot} {failsafe : CompanionLinkFailsafeSnapshot}
    {now : TimePoint} (ho : OnTime d seen c) (hd : 0 ≤ d)
    (hpast : ∀ t ∈ updateTimes seen, t ≤ now) :
    OnTime d (⟨c, .update vehicle telemetryReady failsafe now, actions⟩ :: seen)
      (c.update vehicle telemetryReady failsafe now).1 := by
  have hm := moves_update c vehicle telemetryReady failsafe now
  have hlive : Live (c.update vehicle telemetryReady failsafe now).1 now := c.update_live
  refine ⟨fun hp => ?_, fun hp => ?_, fun hpaced ht => ?_⟩
  · have hwait : c.phase = .waitingForVehicle := by
      by_contra hstarted
      exact update_started hstarted hp
    refine List.forall_mem_cons.2 ⟨fun t hf => ?_, ho.waiting hwait⟩
    exact update_begins hf.1 hf.2.1 c hp
  · rw [hm.config]
    by_cases hp' : c.phase = .disabled
    · exact ho.disabled hp'
    · exact absurd hp (hm.enabled hp')
  · rw [updateTimes_update] at hpaced ⊢
    have hall : ∀ t ∈ now :: updateTimes seen, t ≤ now :=
      List.forall_mem_cons.2 ⟨le_refl now, hpast⟩
    by_cases hwait : c.phase = .waitingForVehicle
    · have hw : Within now d now c := by
        refine ⟨fun _ => rfl, fun h => ?_, fun h => ?_⟩
        · rw [hwait] at h
          cases h
        · rw [hwait] at h
          cases h
      refine ⟨now, now, rfl, le_refl now, hall, ?_, hlive ht, (hw.update hd).deadline ht⟩
      refine List.forall_mem_cons.2 ⟨fun t hf => le_of_eq hf.2.2, fun e he t hf => ?_⟩
      exact absurd hf (ho.waiting hwait e he t)
    · have hrest : c.phase.resting ≠ true := by
        intro hrest
        rw [update_resting c hrest] at ht
        cases hp : c.phase <;> rw [hp] at hrest ht <;> first | cases hrest; done | cases ht
      obtain ⟨hlate, hpaced⟩ := List.isChain_cons.1 hpaced
      obtain ⟨t0, last, hlast, hle, hbefore, hfound, hdue, hlimit⟩ :=
        ho.begun hpaced (timeout_of_begun hwait hrest)
      have hnow : now ≤ last + d := hlate last hlast
      have hlater : last ≤ now := hpast last (List.mem_of_mem_head? hlast)
      have hw : Within t0 d now c :=
        ⟨fun hp => absurd hp hwait, fun _ => hlimit, fun _ => by linarith⟩
      refine ⟨t0, now, rfl, hle.trans hlater, hall, ?_, hlive ht, (hw.update hd).deadline ht⟩
      refine List.forall_mem_cons.2 ⟨fun t hf => ?_, hfound⟩
      rw [← hf.2.2]
      exact hle.trans hlater

theorem updateTimes_past {vehicle : VehicleSnapshot} {failsafe : CompanionLinkFailsafeSnapshot}
    {now : TimePoint} {h : List StartupEntry}
    (hl : Timed StartupCall.times h (.update vehicle telemetryReady failsafe now)) :
    ∀ t ∈ updateTimes (sinceRestart h), t ≤ now := by
  intro t ht
  obtain ⟨e, he, hinput⟩ := List.mem_filterMap.1 ht
  refine hl.2 e (since_subset _ h he) t ?_ now List.mem_cons_self
  split at hinput
  · rename_i hcall
    rw [hcall, ← Option.some.inj hinput]
    exact List.mem_cons_self
  · cases hinput
  · cases hinput
  · cases hinput

/-- Along every run the startup is on time. -/
theorem Ran.onTime {config : FlightStartupConfig} (hr : Ran config h c) (hd : 0 ≤ d) :
    OnTime d (sinceRestart h) c := by
  obtain ⟨initial, hnew, hr⟩ := hr
  apply hr.history_invariant (fun h c => OnTime d (sinceRestart h) c)
  · rw [new_eq hnew]
    split
    · exact onTime_begin config d
    · rename_i he
      exact ⟨(fun h => by cases h), fun _ => Bool.eq_false_iff.2 he, fun _ h => by cases h⟩
  intro h c call _ ho hl
  cases call with
  | update vehicle telemetryReady failsafe now =>
    rw [sinceRestart, since_keep _ rfl]
    exact ho.update hd (updateTimes_past hl)
  | onActionSent request sent now =>
    rw [sinceRestart, since_keep _ rfl]
    refine ho.unseen (moves_onActionSent c request sent now) rfl ?_
    rcases c.onActionSent_cases request sent now with heq | ⟨-, heq | ⟨detail, heq⟩⟩
    · exact .inl (by rw [heq]; exact ⟨rfl, rfl⟩)
    · exact .inl (by rw [heq]; exact ⟨rfl, rfl⟩)
    · exact .inr (by rw [heq]; rfl)
  | onCommandAck action outcome rawResult source now =>
    rw [sinceRestart, since_keep _ rfl]
    refine ho.unseen (moves_onCommandAck c action outcome rawResult source now) rfl ?_
    rcases c.onCommandAck_cases action outcome rawResult source now with
      ⟨-, heq⟩ | ⟨-, ⟨-, heq⟩ | ⟨-, heq⟩ | ⟨-, detail, heq⟩⟩
    · exact .inl (by rw [heq]; exact ⟨rfl, rfl⟩)
    · exact .inl (by rw [heq]; exact ⟨rfl, rfl⟩)
    · exact .inl (by rw [heq]; exact ⟨rfl, rfl⟩)
    · exact .inr (by rw [heq]; rfl)
  | restart =>
    rw [sinceRestart, since_cut _ rfl]
    exact onTime_begin c.config d

/-- A startup does not go on for ever: once an update has found a vehicle, and while updates keep
coming at most `d` apart, it is completed or failed by the first update that comes 155 seconds and
twice `d` after, whatever the vehicle reports or acknowledges. -/
theorem startup_ends {config : FlightStartupConfig} (hr : Ran config h c)
    (henabled : config.enabled = true) {d : Duration} (hd : 0 ≤ d)
    (hpaced : Paced d (updateTimes (sinceRestart h))) {e : StartupEntry}
    (he : e ∈ sinceRestart h) {t0 t : TimePoint} (hfinds : FindsVehicle t0 e)
    (ht : t ∈ updateTimes (sinceRestart h)) (hlate : t0 + startupBound d ≤ t) :
    c.phase = .completed ∨ c.phase = .failed := by
  have ho : OnTime d (sinceRestart h) c := hr.onTime hd
  have hconfig : c.config = config := (progress_run hr).1
  have hwait : c.phase ≠ .waitingForVehicle := fun hp => ho.waiting hp e he t0 hfinds
  have hdisabled : c.phase ≠ .disabled := by
    intro hp
    have hoff := ho.disabled hp
    rw [hconfig, henabled] at hoff
    cases hoff
  have htimeout : c.phase.timeout.isSome ≠ true := by
    intro htimeout
    obtain ⟨first, last, -, -, hall, hfound, hlive, hlimit⟩ := ho.begun hpaced htimeout
    have hfirst : first ≤ t0 := hfound e he t0 hfinds
    have hlast : t ≤ last := hall t ht
    have hbound := limit_le hd first c.phase
    linarith
  cases hp : c.phase with
  | completed => exact .inl rfl
  | failed => exact .inr rfl
  | waitingForVehicle => exact absurd hp hwait
  | disabled => exact absurd hp hdisabled
  | waitingForReadiness | settingGuided | arming | takingOff =>
    exact absurd (by rw [hp]; rfl) htimeout

/-- A copter that never gets its telemetry, looked at every hundred seconds. -/
def unreadyCalls : List StartupCall :=
  [1, 101, 201, 301, 401].map fun second =>
    .update (copter 0 false 0) false { phase := .accepted } (seconds second)

theorem startup_ends_unready :
    (play step [] enabledStartup unreadyCalls).2.phase = .completed ∨
      (play step [] enabledStartup unreadyCalls).2.phase = .failed := by
  have htimes : updateTimes (sinceRestart (play step [] enabledStartup unreadyCalls).1) =
      [401, 301, 201, 101, 1].map seconds := rfl
  have hpaced : Paced (seconds 100)
      (updateTimes (sinceRestart (play step [] enabledStartup unreadyCalls).1)) := by
    rw [htimes, Paced]
    decide
  refine startup_ends (startup_ran unreadyCalls (by decide)) rfl (by decide) hpaced
    (.tail _ (.tail _ (.tail _ (.tail _ (.head _)))))
    (show FindsVehicle (seconds 1) _ from ⟨rfl, rfl, rfl⟩) (t := seconds 401) ?_ ?_
  · rw [htimes]
    exact List.mem_cons_self
  · decide

end FlightStartupController
end OnboardAutonomy
