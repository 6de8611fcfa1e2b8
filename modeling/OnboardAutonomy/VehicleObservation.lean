import OnboardAutonomy.VehicleReadiness
import Mathlib.Data.List.Nodup

namespace OnboardAutonomy
open Histories
set_option autoImplicit true

namespace VehicleEvent

/-- Everything but looking at the state. -/
def reports : VehicleEvent → Bool
  | snapshot _ => false
  | _ => true

/-- The time at which a text was given as a warning. -/
def warningOf (text : String) (e : VehicleEvent) : Option TimePoint :=
  e.warning.bind fun w => if w.text = text then some w.lastSeen else none

theorem warningOf_some {e : VehicleEvent} (he : e.warning = some w) (text : String) :
    e.warningOf text = if w.text = text then some w.lastSeen else none := by
  rw [warningOf, he]
  rfl

theorem warningOf_none {e : VehicleEvent} (he : e.warning = none) (text : String) :
    e.warningOf text = none := by
  rw [warningOf, he]
  rfl

theorem latest_warningOf_reports (text : String) (es : List VehicleEvent) :
    latest (warningOf text) (es.filter reports) = latest (warningOf text) es := by
  apply latest_filter
  intro e _ he
  cases e with
  | snapshot now => rfl
  | _ => cases he

end VehicleEvent

namespace VehicleState

/-- The stored warnings are distinct texts with the time of their newest occurrence, and one is
missing only when it was too old at some call. -/
structure Listed (h : List VehicleEvent) (s : VehicleState) : Prop where
  distinct : (s.warnings.map (·.text)).Nodup
  newest : ∀ w ∈ s.warnings, latest (VehicleEvent.warningOf w.text) h = some w.lastSeen
  kept : ∀ text t, latest (VehicleEvent.warningOf text) h = some t →
    ⟨text, t⟩ ∈ s.warnings ∨ ∃ e ∈ h, ∃ u ∈ e.times, kWarningTimeout < u - t

theorem Listed.start : Listed [] {} :=
  ⟨List.nodup_nil, fun _ h => (by cases h), fun _ _ h => (by cases h)⟩

theorem noteWarning_texts (text : String) (now : TimePoint) (ws : List WarningEntry) :
    (noteWarning text now ws).map (·.text) = ws.map (·.text) ∨
      text ∉ ws.map (·.text) ∧
        (noteWarning text now ws).map (·.text) = ws.map (·.text) ++ [text] := by
  induction ws with
  | nil => exact .inr ⟨List.not_mem_nil, rfl⟩
  | cons w ws ih =>
    rw [noteWarning]
    split
    · exact .inl rfl
    · rename_i hne
      rw [List.map_cons, List.map_cons]
      rcases ih with ih | ⟨hnew, ih⟩
      · rw [ih]
        exact .inl rfl
      · rw [ih]
        refine .inr ⟨?_, rfl⟩
        intro hmem
        rcases List.mem_cons.1 hmem with he | hmem
        · exact hne he.symm
        · exact hnew hmem

theorem noteWarning_distinct (hd : (ws.map (·.text)).Nodup) (text : String) (now : TimePoint) :
    ((noteWarning text now ws).map (·.text)).Nodup := by
  rcases noteWarning_texts text now ws with h | ⟨hnew, h⟩
  · rw [h]
    exact hd
  · rw [h, ← List.concat_eq_append]
    exact List.Nodup.concat hnew hd

theorem noteWarning_mem_iff (hd : (ws.map (·.text)).Nodup) (text : String) (now : TimePoint)
    (w : WarningEntry) :
    w ∈ noteWarning text now ws ↔ w = ⟨text, now⟩ ∨ w ∈ ws ∧ w.text ≠ text := by
  induction ws with
  | nil =>
    rw [noteWarning, List.mem_singleton]
    exact ⟨.inl, fun h => h.resolve_right fun h => List.not_mem_nil h.1⟩
  | cons v ws ih =>
    rw [List.map_cons, List.nodup_cons] at hd
    rw [noteWarning]
    split
    · rename_i htext
      rw [List.mem_cons, htext]
      constructor
      · intro h
        rcases h with h | h
        · exact .inl h
        · refine .inr ⟨List.mem_cons_of_mem _ h, fun he => hd.1 ?_⟩
          rw [htext, ← he]
          exact List.mem_map_of_mem h
      · intro h
        rcases h with h | ⟨h, hne⟩
        · exact .inl h
        · rcases List.mem_cons.1 h with he | h
          · exact absurd (he ▸ htext) hne
          · exact .inr h
    · rename_i hne
      rw [List.mem_cons, ih hd.2, List.mem_cons]
      constructor
      · intro h
        rcases h with h | h | ⟨h, hw⟩
        · rw [h]
          exact .inr ⟨.inl rfl, hne⟩
        · exact .inl h
        · exact .inr ⟨.inr h, hw⟩
      · intro h
        rcases h with h | ⟨h | h, hw⟩
        · exact .inr (.inl h)
        · exact .inl h
        · exact .inr (.inr ⟨h, hw⟩)

theorem Listed.silent (hs : Listed h s) (he : e.warning = none) (hw : s'.warnings = s.warnings) :
    Listed (e :: h) s' := by
  constructor
  · rw [hw]
    exact hs.distinct
  · intro w hmem
    rw [hw] at hmem
    rw [latest_silent h (VehicleEvent.warningOf_none he w.text)]
    exact hs.newest w hmem
  · intro text t ht
    rw [latest_silent h (VehicleEvent.warningOf_none he text)] at ht
    rw [hw]
    rcases hs.kept text t ht with hstored | ⟨e', he', hold⟩
    · exact .inl hstored
    · exact .inr ⟨e', List.mem_cons_of_mem _ he', hold⟩

theorem Listed.note (hs : Listed h s) (he : e.warning = some ⟨text, now⟩) :
    Listed (e :: h) { s with warnings := noteWarning text now s.warnings } := by
  constructor
  · exact noteWarning_distinct hs.distinct text now
  · intro w hmem
    rcases (noteWarning_mem_iff hs.distinct text now w).1 hmem with heq | ⟨hmem, hne⟩
    · rw [heq, latest_report h (by rw [VehicleEvent.warningOf_some he, if_pos rfl])]
    · rw [latest_silent h (by rw [VehicleEvent.warningOf_some he, if_neg hne.symm])]
      exact hs.newest w hmem
  · intro text' t ht
    by_cases heq : text = text'
    · rw [latest_report h (by rw [VehicleEvent.warningOf_some he, if_pos heq])] at ht
      rw [← heq, ← Option.some.inj ht]
      exact .inl ((noteWarning_mem_iff hs.distinct text now _).2 (.inl rfl))
    · rw [latest_silent h (by rw [VehicleEvent.warningOf_some he, if_neg heq])] at ht
      rcases hs.kept text' t ht with hstored | ⟨e', he', hold⟩
      · refine .inl ((noteWarning_mem_iff hs.distinct text now _).2 (.inr ⟨hstored, ?_⟩))
        exact fun h => heq h.symm
      · exact .inr ⟨e', List.mem_cons_of_mem _ he', hold⟩

theorem Listed.erase (hs : Listed h s) (now : TimePoint) :
    Listed (.snapshot now :: h) (s.eraseOldWarnings now) := by
  have hsilent := hs.silent (e := .snapshot now) rfl rfl
  constructor
  · exact (List.filter_sublist.map _).nodup hs.distinct
  · exact fun w hmem => hsilent.newest w (List.mem_filter.1 hmem).1
  · intro text t ht
    rcases hsilent.kept text t ht with hstored | hold
    · by_cases hrecent : now - t > kWarningTimeout
      · exact .inr ⟨_, List.mem_cons_self, now, List.mem_cons_self, hrecent⟩
      · refine .inl (List.mem_filter.2 ⟨hstored, ?_⟩)
        rw [decide_eq_false hrecent]
        rfl
    · exact .inr hold

theorem Listed.step (hs : Listed h s) (e : VehicleEvent) : Listed (e :: h) (s.step e).1 := by
  cases e with
  | statusText severity text now =>
    simp only [VehicleState.step, onStatusText]
    split
    · rename_i hkept
      apply hs.note
      rw [VehicleEvent.warning, if_pos hkept]
    · rename_i hkept
      exact hs.silent (by rw [VehicleEvent.warning, if_neg hkept]) rfl
  | snapshot now => exact hs.erase now
  | systemStatus sensorsEnabled sensorsHealthy voltageV currentA remainingPct now =>
    apply hs.silent rfl
    simp only [VehicleState.step, onSystemStatus]
    split
    · rfl
    · rfl
  | _ => exact hs.silent rfl rfl

theorem Ran.listed (hr : Ran h s) : Listed (vehicleEvents h) s :=
  hr.history_invariant (fun h s => Listed (vehicleEvents h) s) .start
    fun _ _ e _ hi _ => hi.step e

theorem Listed.mem_erase (hs : Listed h s) (hpast : ∀ e ∈ h, ∀ u ∈ e.times, u ≤ now)
    (w : WarningEntry) : w ∈ (s.eraseOldWarnings now).warnings ↔
      latest (VehicleEvent.warningOf w.text) h = some w.lastSeen ∧
        now - w.lastSeen ≤ kWarningTimeout := by
  rw [eraseOldWarnings, List.mem_filter, Bool.not_eq_true', decide_eq_false_iff_not, gt_iff_lt,
    Int.not_lt]
  constructor
  · exact fun h => ⟨hs.newest w h.1, h.2⟩
  · intro ⟨hlatest, hrecent⟩
    refine ⟨?_, hrecent⟩
    rcases hs.kept w.text w.lastSeen hlatest with hstored | ⟨e, he, u, hu, hold⟩
    · exact hstored
    · have hle := Int.sub_le_sub_right (hpast e he u hu) w.lastSeen
      exact absurd (Int.le_trans hle hrecent) (Int.not_le.2 hold)

/-- The state without its warnings. -/
def facts (s : VehicleState) : VehicleState := { s with warnings := [] }

theorem facts_step_reports {s q : VehicleState} (e : VehicleEvent) (h : s.facts = q.facts) :
    (s.step e).1.facts = (q.step e).1.facts := by
  have hstep : ∀ s : VehicleState, (s.step e).1.facts = (s.facts.step e).1.facts := by
    intro s
    cases e with
    | systemStatus sensorsEnabled sensorsHealthy voltageV currentA remainingPct now =>
      simp only [VehicleState.step, onSystemStatus]
      split
      · rfl
      · rfl
    | statusText severity text now =>
      simp only [VehicleState.step, onStatusText]
      split
      · rfl
      · rfl
    | _ => rfl
  rw [hstep s, hstep q, h]

/-- Looking at the state changes nothing but its warnings. -/
theorem facts_step_snapshot {e : VehicleEvent} (he : e.reports = false) (s : VehicleState) :
    (s.step e).1.facts = s.facts := by
  cases e with
  | snapshot now => rfl
  | _ => cases he

/-- The state after some reports, oldest last. -/
def reported : List VehicleEvent → VehicleState
  | [] => {}
  | e :: es => ((reported es).step e).1

theorem Ran.facts_eq (hr : Ran h s) :
    s.facts = (reported ((vehicleEvents h).filter VehicleEvent.reports)).facts := by
  apply hr.history_invariant fun h s =>
    s.facts = (reported ((vehicleEvents h).filter VehicleEvent.reports)).facts
  · rfl
  · intro h s e _ hi _
    change (s.step e).1.facts =
      (reported ((e :: vehicleEvents h).filter VehicleEvent.reports)).facts
    cases he : e.reports with
    | true =>
      rw [List.filter_cons_of_pos he]
      exact facts_step_reports e hi
    | false =>
      rw [List.filter_cons_of_neg (by rw [he]; exact Bool.false_ne_true), ← hi]
      exact facts_step_snapshot he s

theorem report_of_perm {s q : VehicleState} (hfacts : s.facts = q.facts)
    (hperm : s.warnings.Perm q.warnings) (now : TimePoint) :
    { s.report now with warnings := [] } = { q.report now with warnings := [] } := by
  have hs : s = { q with warnings := s.warnings } := by
    have hfields := congrArg (fun x : VehicleState => { x with warnings := s.warnings }) hfacts
    exact hfields
  generalize s.warnings = ws at hs hperm
  rw [hs]
  have hbattery : hasBatteryWarning { q with warnings := ws } = q.hasBatteryWarning :=
    hperm.any_eq
  have hrecent : hasRecentWarning { q with warnings := ws } now = q.hasRecentWarning now :=
    hperm.any_eq
  simp only [report, batteryReady, hbattery, hrecent]
  cases hconnected : isFresh q.lastHeartbeat now kHeartbeatTimeout with
  | true => simp only [identity, hconnected, if_true]; rfl
  | false => simp only [identity, hconnected, Bool.false_eq_true, if_false]

theorem report_warnings (s : VehicleState) (now : TimePoint) :
    (s.report now).warnings = s.warnings.map (·.text) := by
  rw [report]
  split
  · rfl
  · rfl

/-- The reports of a history, newest first. -/
def reportsOf (h : List VehicleEntry) : List VehicleEvent :=
  (vehicleEvents h).filter VehicleEvent.reports

/-- Snapshots of two histories with the same reports, whenever they were looked at: they agree on
everything but the order of the warnings, and these are the texts that came up recently. -/
theorem snapshot_depends_on_reports (hr : Ran h s) (hr' : Ran h' s')
    (hsame : reportsOf h = reportsOf h') (hl : Timed VehicleEvent.times h (.snapshot now))
    (hl' : Timed VehicleEvent.times h' (.snapshot now)) :
    { (s.snapshot now).2 with warnings := [] } = { (s'.snapshot now).2 with warnings := [] } ∧
      (s.snapshot now).2.warnings.Perm (s'.snapshot now).2.warnings ∧
      (s.snapshot now).2.warnings.Nodup ∧
      ∀ text, text ∈ (s.snapshot now).2.warnings ↔
        ∃ t, latest (VehicleEvent.warningOf text) (reportsOf h) = some t ∧
          now - t ≤ kWarningTimeout := by
  have hpast : ∀ h : List VehicleEntry, Timed VehicleEvent.times h (.snapshot now) →
      ∀ e ∈ vehicleEvents h, ∀ u ∈ e.times, u ≤ now := by
    intro h hl e he u hu
    obtain ⟨entry, hentry, rfl⟩ := List.mem_map.1 he
    exact hl.2 entry hentry u hu now List.mem_cons_self
  have hmem : ∀ w, w ∈ (s.eraseOldWarnings now).warnings ↔
      latest (VehicleEvent.warningOf w.text) (reportsOf h) = some w.lastSeen ∧
        now - w.lastSeen ≤ kWarningTimeout := by
    intro w
    rw [hr.listed.mem_erase (hpast h hl), reportsOf, VehicleEvent.latest_warningOf_reports]
  have hmem' : ∀ w, w ∈ (s'.eraseOldWarnings now).warnings ↔
      latest (VehicleEvent.warningOf w.text) (reportsOf h) = some w.lastSeen ∧
        now - w.lastSeen ≤ kWarningTimeout := by
    intro w
    rw [hr'.listed.mem_erase (hpast h' hl'), hsame, reportsOf,
      VehicleEvent.latest_warningOf_reports]
  have hdistinct := (hr.listed.erase now).distinct
  have hperm : (s.eraseOldWarnings now).warnings.Perm (s'.eraseOldWarnings now).warnings := by
    have hdistinct' := (hr'.listed.erase now).distinct
    apply (List.perm_ext_iff_of_nodup (List.Nodup.of_map _ hdistinct)
      (List.Nodup.of_map _ hdistinct')).2
    exact fun w => (hmem w).trans (hmem' w).symm
  have hfacts : (s.eraseOldWarnings now).facts = (s'.eraseOldWarnings now).facts := by
    have hs : s.facts = (reported (reportsOf h)).facts := hr.facts_eq
    have hs' : s'.facts = (reported (reportsOf h')).facts := hr'.facts_eq
    exact hs.trans (hsame ▸ hs'.symm)
  rw [snapshot, snapshot]
  dsimp only
  refine ⟨report_of_perm hfacts hperm now, ?_⟩
  rw [report_warnings, report_warnings]
  refine ⟨hperm.map _, hdistinct, fun text => ?_⟩
  constructor
  · intro ht
    obtain ⟨w, hw, rfl⟩ := List.mem_map.1 ht
    exact ⟨w.lastSeen, (hmem w).1 hw⟩
  · rintro ⟨t, ht⟩
    exact List.mem_map.2 ⟨⟨text, t⟩, (hmem ⟨text, t⟩).2 ht, rfl⟩

/-- A warning, then the same warning later; the second history is looked at in between. -/
def repeatedWarning : List VehicleEvent :=
  [.statusText 4 "PreArm: compass" 0, .statusText 4 "PreArm: compass" (seconds 40)]

def repeatedWarningObserved : List VehicleEvent :=
  [.statusText 4 "PreArm: compass" 0, .snapshot (seconds 35),
    .statusText 4 "PreArm: compass" (seconds 40)]

theorem snapshot_depends_on_reports_repeated :
    let plain := play step [] {} repeatedWarning
    let observed := play step [] {} repeatedWarningObserved
    { (plain.2.snapshot (seconds 41)).2 with warnings := [] } =
        { (observed.2.snapshot (seconds 41)).2 with warnings := [] } ∧
      (plain.2.snapshot (seconds 41)).2.warnings.Perm
        (observed.2.snapshot (seconds 41)).2.warnings := by
  intro plain observed
  have hplain : Ran plain.1 plain.2 := Run.start.play_timed (by decide) (by decide)
  have hobserved : Ran observed.1 observed.2 := Run.start.play_timed (by decide) (by decide)
  have htimed : Timed VehicleEvent.times plain.1 (.snapshot (seconds 41)) :=
    ⟨List.pairwise_singleton _ _, by decide⟩
  have htimed' : Timed VehicleEvent.times observed.1 (.snapshot (seconds 41)) :=
    ⟨List.pairwise_singleton _ _, by decide⟩
  have h := snapshot_depends_on_reports hplain hobserved rfl htimed htimed'
  exact ⟨h.1, h.2.1⟩

end VehicleState

end OnboardAutonomy
