import OnboardAutonomy.ApplicationRuns
import OnboardAutonomy.SitlHarness

namespace OnboardAutonomy
open ExactDouble DecimalText JsonText
set_option autoImplicit true

theorem numberValue_nat (n : Nat) : Json.numberValue (toString n).toList = n := by
  rw [numberValue_plain, toString_value]
  rw [List.all_eq_true]
  intro c hc
  rw [toString_digits.2 c hc]
  rfl

theorem numberValue_int (n : Int) : Json.numberValue (toString n).toList = n := by
  rw [numberValue_plain, int_value]
  cases n with
  | ofNat n =>
    rw [List.all_eq_true]
    intro c hc
    have hdigit : c.isDigit = true := toString_digits (n := n).2 c hc
    rw [hdigit]
    rfl
  | negSucc n =>
    have htext : (toString (Int.negSucc n)).toList = '-' :: (toString (n + 1)).toList := by
      simp [toString, Int.repr]
    rw [htext, List.all_cons, List.all_eq_true.2]
    · rfl
    · intro c hc
      rw [toString_digits.2 c hc]
      rfl

/-- What the parts of a snapshot have to do with each other. -/
structure VehicleSnapshot.Coherent (v : VehicleSnapshot) : Prop where
  armable : v.armable = true →
    v.gpsReady = true ∧ v.batteryReady = true ∧ v.systemHealthOk = true
  gps : v.gpsReady = true ↔ v.connected = true ∧ ∃ fix, v.gpsFixType = some fix ∧ 3 ≤ fix
  battery : v.batteryReady = true → v.connected = true ∧ v.systemHealthKnown = true ∧
    v.batteryVoltageV.isSome = true ∧ ∀ percent ∈ v.batteryRemainingPct, 20 ≤ percent
  health : v.systemHealthKnown = true → v.connected = true

theorem VehicleState.report_coherent (s : VehicleState) (now : TimePoint) :
    (s.report now).Coherent := by
  rw [report]
  dsimp only
  split
  · rename_i hconnected
    constructor
    · intro h
      rw [Bool.and_eq_true, Bool.and_eq_true, Bool.and_eq_true] at h
      exact ⟨h.1.1.1, h.1.1.2, h.1.2⟩
    · refine Iff.trans ?_ (and_iff_right hconnected).symm
      rw [gpsReady, Bool.and_eq_true]
      cases s.gpsFixType with
      | none => simp
      | some fix => simp
    · intro h
      rw [batteryReady, Bool.and_eq_true, Bool.and_eq_true, Bool.and_eq_true,
        Bool.and_eq_true] at h
      obtain ⟨⟨⟨⟨hfresh, hvoltage⟩, hsensor⟩, _⟩, hpercent⟩ := h
      rw [batterySensorHealthy, Bool.and_eq_true, Bool.and_eq_true] at hsensor
      refine ⟨hconnected, hsensor.1.1, ?_, ?_⟩
      · dsimp only
        rw [if_pos hfresh]
        cases hv : s.batteryVoltageV with
        | none =>
          rw [voltageMeetsArmingThreshold, hv] at hvoltage
          cases hvoltage
        | some _ => rfl
      · dsimp only
        rw [if_pos hfresh]
        intro percent hp
        rw [Option.mem_def.1 hp] at hpercent
        exact of_decide_eq_true hpercent
    · exact fun _ => hconnected
  · rename_i hlost
    constructor
    · exact fun h => by cases h
    · constructor
      · exact fun h => by cases h
      · exact fun h => absurd h.1 hlost
    · exact fun h => by cases h
    · exact fun h => by cases h

/-- What the harness sees of the vehicle in the document of a snapshot. -/
structure Seen (v : VehicleSnapshot) (j : Json) : Prop where
  connected : j.get "connected" = .bool v.connected
  gpsReady : j.get "gps_ready" = .bool v.gpsReady
  batteryReady : j.get "battery_ready" = .bool v.batteryReady
  systemHealthKnown : j.get "system_health_known" = .bool v.systemHealthKnown
  systemHealthOk : j.get "system_health_ok" = .bool v.systemHealthOk
  armable : j.get "armable" = .bool v.armable
  gpsFixType : j.get "gps_fix_type" = optionalNumber v.gpsFixType
  batteryVoltageV : j.get "battery_voltage_v" = optionalDecimal 2 v.batteryVoltageV
  batteryRemainingPct : j.get "battery_remaining_pct" =
    optionalNumber (v.batteryRemainingPct.map Int8.toInt)
  warnings : j.get "warnings" = .array (v.warnings.map jsonString)

theorem tree_seen (s : Serialised.AppSnapshot) : Seen s.vehicle s.tree where
  connected := rfl
  gpsReady := rfl
  batteryReady := rfl
  systemHealthKnown := rfl
  systemHealthOk := rfl
  armable := rfl
  gpsFixType := rfl
  batteryVoltageV := rfl
  batteryRemainingPct := rfl
  warnings := rfl

section Verdicts
variable {v : VehicleSnapshot} {j : Json}

theorem isFalse_bool (b : Bool) : (Json.bool b).isFalse = !b := rfl

theorem unusable_fix (hc : v.Coherent) (hconnected : v.connected = true) :
    ((optionalNumber v.gpsFixType).isNone ||
      (optionalNumber v.gpsFixType).number?.any fun fix => fix < 3) = !v.gpsReady := by
  cases hfix : v.gpsFixType with
  | none =>
    have hunready : v.gpsReady = false := by
      rw [← Bool.not_eq_true, hc.gps, hfix]
      exact fun h => by
        obtain ⟨_, _, h, _⟩ := h
        cases h
    rw [hunready]
    rfl
  | some fix =>
    have hvalue : Json.numberValue (toString fix).toList = (fix.toNat : ℚ) :=
      numberValue_nat fix.toNat
    have hready : v.gpsReady = true ↔ 3 ≤ fix := by
      rw [hc.gps, hfix]
      exact ⟨fun h => by
        obtain ⟨_, _, h, hle⟩ := h
        cases h
        exact hle, fun h => ⟨hconnected, fix, rfl, h⟩⟩
    have hlt : (decide ((fix.toNat : ℚ) < 3)) = !v.gpsReady := by
      rw [Bool.eq_iff_iff, decide_eq_true_iff, Bool.not_eq_true', ← Bool.not_eq_true, hready,
        UInt8.le_iff_toNat_le, not_le]
      exact Nat.cast_lt (α := ℚ) (n := 3)
    rw [← hlt, ← hvalue]
    rfl

theorem low_battery : ((optionalNumber (v.batteryRemainingPct.map Int8.toInt)).number?.any
      fun remaining => 0 ≤ remaining && remaining < 20) = true ↔
    ∃ percent, v.batteryRemainingPct = some percent ∧ 0 ≤ percent ∧ percent < 20 := by
  cases v.batteryRemainingPct with
  | none => simp [optionalNumber, Json.number?]
  | some percent =>
    have hvalue : Json.numberValue (toString percent.toInt).toList = (percent.toInt : ℚ) :=
      numberValue_int percent.toInt
    have hany : (optionalNumber ((some percent).map Int8.toInt)).number?.any
        (fun remaining => 0 ≤ remaining && remaining < 20) =
          (decide ((0 : ℚ) ≤ percent.toInt) && decide ((percent.toInt : ℚ) < 20)) := by
      rw [← hvalue]
      rfl
    rw [hany, Bool.and_eq_true, decide_eq_true_iff, decide_eq_true_iff]
    constructor
    · intro h
      refine ⟨percent, rfl, Int8.le_iff_toInt_le.2 ?_, Int8.lt_iff_toInt_lt.2 ?_⟩
      · exact_mod_cast h.1
      · exact_mod_cast h.2
    · intro h
      obtain ⟨_, hp, hle, hlt⟩ := h
      cases hp
      have hle := Int8.le_iff_toInt_le.1 hle
      have hlt := Int8.lt_iff_toInt_lt.1 hlt
      exact ⟨by exact_mod_cast hle, by exact_mod_cast hlt⟩

theorem ready_iff (hs : Seen v j) (hc : v.Coherent) :
    snapshotIsReady j = true ↔ v.armable = true := by
  have hfix : (optionalNumber v.gpsFixType).isNone = v.gpsFixType.isNone := by
    cases v.gpsFixType <;> rfl
  have hvoltage : (optionalDecimal 2 v.batteryVoltageV).isNone = v.batteryVoltageV.isNone := by
    cases v.batteryVoltageV <;> rfl
  have hverdict : snapshotIsReady j = (v.connected && !v.gpsFixType.isNone &&
      !v.batteryVoltageV.isNone && v.systemHealthKnown && v.gpsReady && v.batteryReady &&
      v.systemHealthOk && v.armable) := by
    rw [snapshotIsReady, snapshotHasRequiredTelemetry, hs.connected, hs.gpsFixType,
      hs.batteryVoltageV, hs.systemHealthKnown, hs.gpsReady, hs.batteryReady, hs.systemHealthOk,
      hs.armable, hfix, hvoltage]
    rfl
  constructor
  · intro h
    rw [hverdict, Bool.and_eq_true] at h
    exact h.2
  · intro h
    obtain ⟨hgps, hbattery, hhealth⟩ := hc.armable h
    obtain ⟨hconnected, fix, hfixed, _⟩ := hc.gps.1 hgps
    obtain ⟨_, hknown, hvolts, _⟩ := hc.battery hbattery
    obtain ⟨voltage, hvolts⟩ := Option.isSome_iff_exists.1 hvolts
    rw [hverdict, hconnected, hfixed, hvolts, hknown, hgps, hbattery, hhealth, h]
    rfl

theorem disconnected_iff (hs : Seen v j) :
    snapshotIsDisconnected j = true ↔ v.connected = false := by
  rw [snapshotIsDisconnected, hs.connected, isFalse_bool, Bool.not_eq_true']

theorem gps_failure_iff (hs : Seen v j) (hc : v.Coherent) :
    snapshotHasGpsFailure j = true ↔ v.gpsReady = false ∧ v.batteryReady = true := by
  have hverdict : snapshotHasGpsFailure j = (v.connected &&
      ((optionalNumber v.gpsFixType).isNone ||
        (optionalNumber v.gpsFixType).number?.any fun fix => fix < 3) &&
      !v.gpsReady && v.batteryReady && v.systemHealthKnown && !v.armable) := by
    rw [snapshotHasGpsFailure, hs.connected, hs.gpsFixType, hs.gpsReady, hs.batteryReady,
      hs.systemHealthKnown, hs.armable]
    rfl
  constructor
  · intro h
    rw [hverdict] at h
    simp only [Bool.and_eq_true, Bool.not_eq_true'] at h
    exact ⟨h.1.1.1.2, h.1.1.2⟩
  · intro h
    obtain ⟨hgps, hbattery⟩ := h
    obtain ⟨hconnected, hknown, _, _⟩ := hc.battery hbattery
    have harmable : v.armable = false := by
      by_contra harmable
      have hready := (hc.armable (Bool.eq_true_of_not_eq_false harmable)).1
      rw [hgps] at hready
      cases hready
    rw [hverdict, unusable_fix hc hconnected, hconnected, hgps, hbattery, hknown, harmable]
    rfl

/-- The battery is below what the companion asks for, and not below nothing. -/
theorem low_battery_iff (hs : Seen v j) (hc : v.Coherent) :
    snapshotHasLowBattery j = true ↔ v.gpsReady = true ∧ v.systemHealthKnown = true ∧
      ∃ percent, v.batteryRemainingPct = some percent ∧ 0 ≤ percent ∧ percent < 20 := by
  have hverdict : snapshotHasLowBattery j = (v.connected && v.gpsReady &&
      ((optionalNumber (v.batteryRemainingPct.map Int8.toInt)).number?.any
        fun remaining => 0 ≤ remaining && remaining < 20) &&
      !v.batteryReady && v.systemHealthKnown && !v.armable) := by
    rw [snapshotHasLowBattery, hs.connected, hs.gpsReady, hs.batteryRemainingPct,
      hs.batteryReady, hs.systemHealthKnown, hs.armable]
    rfl
  constructor
  · intro h
    rw [hverdict] at h
    simp only [Bool.and_eq_true] at h
    exact ⟨h.1.1.1.1.2, h.1.2, low_battery.1 h.1.1.1.2⟩
  · intro h
    obtain ⟨hgps, hknown, percent, hpercent, hle, hlt⟩ := h
    have hbattery : v.batteryReady = false := by
      by_contra hready
      obtain ⟨_, _, _, henough⟩ := hc.battery (Bool.eq_true_of_not_eq_false hready)
      exact absurd (Int8.lt_of_lt_of_le hlt (henough percent hpercent)) Int8.lt_irrefl
    have harmable : v.armable = false := by
      by_contra harmable
      have hready := (hc.armable (Bool.eq_true_of_not_eq_false harmable)).2.1
      rw [hbattery] at hready
      cases hready
    rw [hverdict, hc.health hknown, hgps, low_battery.2 ⟨percent, hpercent, hle, hlt⟩, hbattery,
      hknown, harmable]
    rfl

theorem expected_warnings (warnings : List String) :
    (warnings.map jsonString).any (fun
      | .string warning => expectedWarning warning
      | _ => false) = warnings.any fun warning => expectedWarning warning.toList :=
  List.any_map

theorem prearm_failure_iff (hs : Seen v j) (hc : v.Coherent) :
    snapshotHasPrearmFailure j = true ↔ v.gpsReady = true ∧ v.batteryReady = true ∧
      v.systemHealthOk = false ∧ ∃ w ∈ v.warnings, expectedWarning w.toList = true := by
  have hverdict : snapshotHasPrearmFailure j = (v.connected && v.gpsReady && v.batteryReady &&
      v.systemHealthKnown && !v.systemHealthOk &&
      (v.warnings.any fun warning => expectedWarning warning.toList) && !v.armable) := by
    rw [snapshotHasPrearmFailure, hs.connected, hs.gpsReady, hs.batteryReady,
      hs.systemHealthKnown, hs.systemHealthOk, hs.warnings, hs.armable, ← expected_warnings]
    rfl
  constructor
  · intro h
    rw [hverdict] at h
    simp only [Bool.and_eq_true, Bool.not_eq_true'] at h
    exact ⟨h.1.1.1.1.1.2, h.1.1.1.1.2, h.1.1.2, List.any_eq_true.1 h.1.2⟩
  · intro h
    obtain ⟨hgps, hbattery, hhealth, hwarnings⟩ := h
    obtain ⟨hconnected, hknown, _, _⟩ := hc.battery hbattery
    have harmable : v.armable = false := by
      by_contra harmable
      have hok := (hc.armable (Bool.eq_true_of_not_eq_false harmable)).2.2
      rw [hhealth] at hok
      cases hok
    rw [hverdict, hconnected, hgps, hbattery, hknown, hhealth, List.any_eq_true.2 hwarnings,
      harmable]
    rfl

end Verdicts

/-- The five conditions the harness of the simulator waits for. -/
def verdicts : List (Json → Bool) :=
  [snapshotIsReady, snapshotIsDisconnected, snapshotHasGpsFailure, snapshotHasLowBattery,
    snapshotHasPrearmFailure]

/-- The first thing that is wrong with a vehicle, if anything is. -/
def firstFault (v : VehicleSnapshot) : Nat :=
  if !v.connected then 1
  else if !v.gpsReady then 2
  else if !v.batteryReady then 3
  else if !v.systemHealthOk then 4
  else 0

theorem verdict_fault {v : VehicleSnapshot} (hs : Seen v j) (hc : v.Coherent) :
    ∀ verdict ∈ verdicts.zipIdx, verdict.1 j = true → firstFault v = verdict.2 := by
  intro verdict hmem h
  have hconnected (hgps : v.gpsReady = true) : v.connected = true := (hc.gps.1 hgps).1
  simp only [verdicts, List.zipIdx_cons, List.zipIdx_nil, List.mem_cons, List.not_mem_nil,
    or_false] at hmem
  rcases hmem with rfl | rfl | rfl | rfl | rfl
  · obtain ⟨hgps, hbattery, hhealth⟩ := hc.armable ((ready_iff hs hc).1 h)
    simp [firstFault, hconnected hgps, hgps, hbattery, hhealth]
  · simp [firstFault, (disconnected_iff hs).1 h]
  · obtain ⟨hgps, hbattery⟩ := (gps_failure_iff hs hc).1 h
    simp [firstFault, (hc.battery hbattery).1, hgps]
  · obtain ⟨hgps, _, percent, hpercent, _, hlt⟩ := (low_battery_iff hs hc).1 h
    have hbattery : v.batteryReady = false := by
      by_contra hready
      obtain ⟨_, _, _, henough⟩ := hc.battery (Bool.eq_true_of_not_eq_false hready)
      exact absurd (Int8.lt_of_lt_of_le hlt (henough percent hpercent)) Int8.lt_irrefl
    simp [firstFault, hconnected hgps, hgps, hbattery]
  · obtain ⟨hgps, hbattery, hhealth, _⟩ := (prearm_failure_iff hs hc).1 h
    simp [firstFault, hconnected hgps, hgps, hbattery, hhealth]

/-- The harness takes a snapshot it reads for what it is: it calls a vehicle ready exactly when the
companion calls it armable, and every fault it waits for is one of the companion's, where its own
limits for the fix and the charge add nothing. No two of its verdicts fit one snapshot. -/
theorem verdicts_agree (app : CompanionApplication) (hs : s = (app.snapshot source detector now).2)
    (hj : Document s.serialised.toJson.toList j) :
    (snapshotIsReady j = true ↔ s.vehicle.armable = true) ∧
    (snapshotIsDisconnected j = true ↔ s.vehicle.connected = false) ∧
    (snapshotHasGpsFailure j = true ↔
      s.vehicle.gpsReady = false ∧ s.vehicle.batteryReady = true) ∧
    (snapshotHasLowBattery j = true ↔
      s.vehicle.gpsReady = true ∧ s.vehicle.systemHealthKnown = true ∧
      ∃ percent, s.vehicle.batteryRemainingPct = some percent ∧ 0 ≤ percent ∧ percent < 20) ∧
    (snapshotHasPrearmFailure j = true ↔ s.vehicle.gpsReady = true ∧
      s.vehicle.batteryReady = true ∧ s.vehicle.systemHealthOk = false ∧
      ∃ w ∈ s.vehicle.warnings, expectedWarning w.toList = true) ∧
    ∀ verdict ∈ verdicts.zipIdx, verdict.1 j = true → firstFault s.vehicle = verdict.2 := by
  have hcoherent : s.vehicle.Coherent := by
    rw [hs]
    exact VehicleState.report_coherent _ now
  have hseen : Seen s.vehicle j := by
    rw [((toJson_document _).1 hj).2]
    exact tree_seen s.serialised
  exact ⟨ready_iff hseen hcoherent, disconnected_iff hseen, gps_failure_iff hseen hcoherent,
    low_battery_iff hseen hcoherent, prearm_failure_iff hseen hcoherent,
    verdict_fault hseen hcoherent⟩

/-- A check that the document of a snapshot can be read. -/
def Serialised.AppSnapshot.readable (s : Serialised.AppSnapshot) : Bool :=
  (s.strings.all fun written => written.toList.all controlFree) &&
    s.decimals.all fun value => value.all Double.isFinite

theorem readable_document {s : Serialised.AppSnapshot} (h : s.readable = true) :
    Document s.toJson.toList s.tree := by
  rw [Serialised.AppSnapshot.readable, Bool.and_eq_true, List.all_eq_true, List.all_eq_true] at h
  refine (toJson_document s).2 ⟨⟨fun written hw => ?_, fun value hv => ?_⟩, rfl⟩
  · exact List.all_eq_true.1 (h.1 written hw)
  · exact (Option.all_eq_true _ _).1 (h.2 value hv)

/-- A quadrotor that reports readiness is ready for the harness, too. -/
theorem verdicts_agree_ready : ∃ h app s j,
    CompanionApplication.Ran flightOptions h app ∧
    s = (app.snapshot {} "" (seconds 7)).2 ∧ Document s.serialised.toJson.toList j ∧
    snapshotIsReady j = true := by
  obtain ⟨h, app, hr, hcheck⟩ := CompanionApplication.ran_of_check flightOptions
    (readyFlight 1 0) (by decide) (fun _ app =>
      (app.snapshot {} "" (seconds 7)).2.vehicle.armable &&
      (app.snapshot {} "" (seconds 7)).2.serialised.readable) (by decide +kernel)
  rw [Bool.and_eq_true] at hcheck
  have hj := readable_document hcheck.2
  exact ⟨h, app, _, _, hr, rfl, hj, (verdicts_agree app rfl hj).1.2 hcheck.1⟩

end OnboardAutonomy
