import OnboardAutonomy.Histories
import OnboardAutonomy.VehicleState

namespace OnboardAutonomy
open ExactDouble Histories
set_option autoImplicit true

/-- A call of the vehicle state. -/
inductive VehicleEvent where
  | heartbeat (systemId componentId vehicleType autopilotType baseMode : UInt8)
      (customMode : UInt32) (systemStatus : UInt8) (now : TimePoint)
  | gps (fixType satellitesVisible : UInt8) (now : TimePoint)
  | globalPosition (relativeAltitudeMm : Int32) (now : TimePoint)
  | localPosition (northM eastM downM : Double) (now : TimePoint)
  | attitude (rollRad pitchRad yawRad : Double) (now : TimePoint)
  | battery (voltageV currentA : Option Double) (remainingPct : Option Int8) (now : TimePoint)
  | batteryArmingVoltage (voltageV : Double) (now : TimePoint)
  | autopilotMetadata (metadata : AutopilotMetadata)
  | systemStatus (sensorsEnabled sensorsHealthy : UInt32) (voltageV currentA : Option Double)
      (remainingPct : Option Int8) (now : TimePoint)
  | statusText (severity : UInt8) (text : String) (now : TimePoint)
  | snapshot (now : TimePoint)

namespace VehicleEvent

def times : VehicleEvent → List TimePoint
  | heartbeat _ _ _ _ _ _ _ now => [now]
  | gps _ _ now => [now]
  | globalPosition _ now => [now]
  | localPosition _ _ _ now => [now]
  | attitude _ _ _ now => [now]
  | battery _ _ _ now => [now]
  | batteryArmingVoltage _ now => [now]
  | autopilotMetadata _ => []
  | systemStatus _ _ _ _ _ now => [now]
  | statusText _ _ now => [now]
  | snapshot now => [now]

def heartbeatAt : VehicleEvent → Option TimePoint
  | heartbeat _ _ _ _ _ _ _ now => some now
  | _ => none

def gpsReport : VehicleEvent → Option (TimePoint × UInt8)
  | gps fixType _ now => some (now, fixType)
  | _ => none

def altitudeReport : VehicleEvent → Option (TimePoint × Double)
  | globalPosition relativeAltitudeMm now =>
    some (now, .finite (relativeAltitudeMm.toInt / 1000))
  | _ => none

/-- The enabled and the healthy sensors. -/
def sensorReport : VehicleEvent → Option (TimePoint × UInt32 × UInt32)
  | systemStatus sensorsEnabled sensorsHealthy _ _ _ now =>
    some (now, sensorsEnabled, sensorsHealthy)
  | _ => none

/-- Any of the battery's data, which need not include a voltage. -/
def batteryReport : VehicleEvent → Option (TimePoint × Option Double × Option Int8)
  | battery voltageV _ remainingPct now => some (now, voltageV, remainingPct)
  | systemStatus _ _ voltageV currentA remainingPct now =>
    if voltageV.isSome || currentA.isSome || remainingPct.isSome then
      some (now, voltageV, remainingPct)
    else none
  | _ => none

def voltageReport (e : VehicleEvent) : Option (TimePoint × Double) :=
  e.batteryReport.bind fun report => report.2.1.map (report.1, ·)

def remainingReport (e : VehicleEvent) : Option Int8 := e.batteryReport.bind (·.2.2)

def armingVoltage : VehicleEvent → Option Double
  | batteryArmingVoltage voltageV _ => some (Double.max (.finite 0) voltageV)
  | _ => none

/-- A text that counts as a warning. -/
def warning : VehicleEvent → Option WarningEntry
  | statusText severity text now =>
    if VehicleState.keepsStatusText severity text then some ⟨text, now⟩ else none
  | _ => none

end VehicleEvent

namespace VehicleState

def step (s : VehicleState) : VehicleEvent → VehicleState × Option VehicleSnapshot
  | .heartbeat systemId componentId vehicleType autopilotType baseMode customMode systemStatus
      now =>
    (s.onHeartbeat systemId componentId vehicleType autopilotType baseMode customMode systemStatus
      now, none)
  | .gps fixType satellitesVisible now => (s.onGps fixType satellitesVisible now, none)
  | .globalPosition relativeAltitudeMm now => (s.onGlobalPosition relativeAltitudeMm now, none)
  | .localPosition northM eastM downM now => (s.onLocalPosition northM eastM downM now, none)
  | .attitude rollRad pitchRad yawRad now => (s.onAttitude rollRad pitchRad yawRad now, none)
  | .battery voltageV currentA remainingPct now =>
    (s.onBattery voltageV currentA remainingPct now, none)
  | .batteryArmingVoltage voltageV now => (s.onBatteryArmingVoltage voltageV now, none)
  | .autopilotMetadata metadata => (s.onAutopilotMetadata metadata, none)
  | .systemStatus sensorsEnabled sensorsHealthy voltageV currentA remainingPct now =>
    (s.onSystemStatus sensorsEnabled sensorsHealthy voltageV currentA remainingPct now, none)
  | .statusText severity text now => (s.onStatusText severity text now, none)
  | .snapshot now => ((s.snapshot now).1, some (s.snapshot now).2)

/-- The stored data are the newest reports, each group with the stamp it was given. -/
structure Recorded (h : List VehicleEvent) (s : VehicleState) : Prop where
  heartbeat : s.lastHeartbeat = latest VehicleEvent.heartbeatAt h
  gps : s.lastGps = (latest VehicleEvent.gpsReport h).map (·.1)
  fix : s.gpsFixType = (latest VehicleEvent.gpsReport h).map (·.2)
  globalPosition : s.lastGlobalPosition = (latest VehicleEvent.altitudeReport h).map (·.1)
  altitude : s.relativeAltitudeM = (latest VehicleEvent.altitudeReport h).map (·.2)
  systemStatus : s.lastSystemStatus = (latest VehicleEvent.sensorReport h).map (·.1)
  sensors : ∀ report, latest VehicleEvent.sensorReport h = some report →
    s.sensorsEnabled = report.2.1 ∧ s.sensorsHealthy = report.2.2
  battery : s.lastBattery = (latest VehicleEvent.batteryReport h).map (·.1)
  voltage : s.batteryVoltageV = (latest VehicleEvent.voltageReport h).map (·.2)
  remaining : s.batteryRemainingPct = latest VehicleEvent.remainingReport h
  arming : s.batteryArmingVoltageV = latest VehicleEvent.armingVoltage h

/-- Every stored warning has been reported, and a reported one is stored with a stamp at least as
new until it is too old. -/
structure Warned (h : List VehicleEvent) (s : VehicleState) : Prop where
  reported : ∀ w ∈ s.warnings, ∃ e ∈ h, e.warning = some w
  stored : ∀ e ∈ h, ∀ w, e.warning = some w →
    (∃ w' ∈ s.warnings, w'.text = w.text ∧ w.lastSeen ≤ w'.lastSeen) ∨
      ∃ e' ∈ h, ∃ t ∈ e'.times, kWarningTimeout < t - w.lastSeen

theorem Recorded.start : Recorded [] {} :=
  ⟨rfl, rfl, rfl, rfl, rfl, rfl, fun _ h => (by cases h), rfl, rfl, rfl, rfl⟩

theorem Recorded.updateBattery (hs : Recorded h s) (currentA : Option Double)
    (hreport : e.batteryReport = some (now, voltageV, remainingPct)) :
    (s.updateBatteryLocked voltageV currentA remainingPct now).lastBattery =
        (latest VehicleEvent.batteryReport (e :: h)).map (·.1) ∧
      (s.updateBatteryLocked voltageV currentA remainingPct now).batteryVoltageV =
        (latest VehicleEvent.voltageReport (e :: h)).map (·.2) ∧
      (s.updateBatteryLocked voltageV currentA remainingPct now).batteryRemainingPct =
        latest VehicleEvent.remainingReport (e :: h) := by
  refine ⟨?_, ?_, ?_⟩
  · rw [latest_report h hreport]
    rfl
  · rw [latest_cons, VehicleEvent.voltageReport, hreport, updateBatteryLocked, hs.voltage]
    cases voltageV <;> rfl
  · rw [latest_cons, VehicleEvent.remainingReport, hreport, updateBatteryLocked, hs.remaining]
    rfl

theorem Recorded.step (hs : Recorded h s) (e : VehicleEvent) :
    Recorded (e :: h) (s.step e).1 := by
  cases e with
  | heartbeat _ _ _ _ _ _ _ now => exact { hs with heartbeat := rfl }
  | gps fixType _ now => exact { hs with gps := rfl, fix := rfl }
  | globalPosition relativeAltitudeMm now =>
    exact { hs with globalPosition := rfl, altitude := rfl }
  | localPosition _ _ _ _ => exact { hs with }
  | attitude _ _ _ _ => exact { hs with }
  | battery voltageV currentA remainingPct now =>
    obtain ⟨hbattery, hvoltage, hremaining⟩ := hs.updateBattery currentA
      (e := .battery voltageV currentA remainingPct now) rfl
    exact { hs with battery := hbattery, voltage := hvoltage, remaining := hremaining }
  | batteryArmingVoltage voltageV now => exact { hs with arming := rfl }
  | autopilotMetadata metadata => exact { hs with }
  | systemStatus sensorsEnabled sensorsHealthy voltageV currentA remainingPct now =>
    have hsensors : ∀ report, latest VehicleEvent.sensorReport
        (.systemStatus sensorsEnabled sensorsHealthy voltageV currentA remainingPct now :: h) =
          some report → sensorsEnabled = report.2.1 ∧ sensorsHealthy = report.2.2 := by
      intro report hreport
      cases hreport
      exact ⟨rfl, rfl⟩
    simp only [VehicleState.step, onSystemStatus]
    split
    · rename_i hany
      have hreport : VehicleEvent.batteryReport (.systemStatus sensorsEnabled sensorsHealthy
          voltageV currentA remainingPct now) = some (now, voltageV, remainingPct) := by
        rw [VehicleEvent.batteryReport, if_pos hany]
      obtain ⟨hbattery, hvoltage, hremaining⟩ := hs.updateBattery currentA hreport
      exact { hs with
        systemStatus := rfl
        sensors := hsensors
        battery := hbattery
        voltage := hvoltage
        remaining := hremaining }
    · rename_i hnone
      have hreport : VehicleEvent.batteryReport (.systemStatus sensorsEnabled sensorsHealthy
          voltageV currentA remainingPct now) = none := by
        rw [VehicleEvent.batteryReport, if_neg hnone]
      exact { hs with
        systemStatus := rfl
        sensors := hsensors
        battery := by rw [latest_silent h hreport]; exact hs.battery
        voltage := by
          rw [latest_silent h (by rw [VehicleEvent.voltageReport, hreport]; rfl)]
          exact hs.voltage
        remaining := by
          rw [latest_silent h (by rw [VehicleEvent.remainingReport, hreport]; rfl)]
          exact hs.remaining }
  | statusText severity text now =>
    simp only [VehicleState.step, onStatusText]
    split
    · exact { hs with }
    · exact { hs with }
  | snapshot now => exact { hs with }

theorem noteWarning_newest (text : String) (now : TimePoint) (ws : List WarningEntry) :
    ⟨text, now⟩ ∈ noteWarning text now ws := by
  induction ws with
  | nil => exact List.mem_cons_self
  | cons w ws ih =>
    rw [noteWarning]
    split
    · rename_i htext
      rw [htext]
      exact List.mem_cons_self
    · exact List.mem_cons_of_mem _ ih

theorem noteWarning_mem (hw : w ∈ noteWarning text now ws) : w ∈ ws ∨ w = ⟨text, now⟩ := by
  induction ws with
  | nil => exact .inr (List.mem_singleton.1 hw)
  | cons v ws ih =>
    rw [noteWarning] at hw
    split at hw
    · rename_i htext
      rcases List.mem_cons.1 hw with hw | hw
      · rw [hw, htext]
        exact .inr rfl
      · exact .inl (List.mem_cons_of_mem _ hw)
    · rcases List.mem_cons.1 hw with hw | hw
      · rw [hw]
        exact .inl List.mem_cons_self
      · exact (ih hw).imp_left (List.mem_cons_of_mem _)

theorem noteWarning_keeps (hw : w ∈ ws) (text : String) (now : TimePoint) :
    ∃ w' ∈ noteWarning text now ws, w'.text = w.text ∧
      (w'.lastSeen = w.lastSeen ∨ w'.lastSeen = now) := by
  induction ws with
  | nil => cases hw
  | cons v ws ih =>
    rw [noteWarning]
    split
    · rcases List.mem_cons.1 hw with hw | hw
      · rw [hw]
        exact ⟨_, List.mem_cons_self, rfl, .inr rfl⟩
      · exact ⟨w, List.mem_cons_of_mem _ hw, rfl, .inl rfl⟩
    · rcases List.mem_cons.1 hw with hw | hw
      · rw [hw]
        exact ⟨_, List.mem_cons_self, rfl, .inl rfl⟩
      · obtain ⟨w', hw', h⟩ := ih hw
        exact ⟨w', List.mem_cons_of_mem _ hw', h⟩

theorem Warned.start : Warned [] {} :=
  ⟨fun _ h => (by cases h), fun _ h => (by cases h)⟩

theorem Warned.silent (hs : Warned h s) (he : e.warning = none) (hw : s'.warnings = s.warnings) :
    Warned (e :: h) s' := by
  constructor
  · intro w hmem
    rw [hw] at hmem
    obtain ⟨e', he', hwarning⟩ := hs.reported w hmem
    exact ⟨e', List.mem_cons_of_mem _ he', hwarning⟩
  · intro e' he' w hwarning
    rw [hw]
    rcases List.mem_cons.1 he' with heq | he'
    · rw [heq, he] at hwarning
      cases hwarning
    · rcases hs.stored e' he' w hwarning with hstored | ⟨e'', he'', hold⟩
      · exact .inl hstored
      · exact .inr ⟨e'', List.mem_cons_of_mem _ he'', hold⟩

theorem warning_time {e : VehicleEvent} (he : e.warning = some w) : w.lastSeen ∈ e.times := by
  cases e with
  | statusText severity text now =>
    rw [VehicleEvent.warning] at he
    split at he
    · cases he
      exact List.mem_cons_self
    · cases he
  | _ => cases he

theorem Warned.note (hs : Warned h s) (he : e.warning = some ⟨text, now⟩)
    (hpast : ∀ e' ∈ h, ∀ u ∈ e'.times, u ≤ now) :
    Warned (e :: h) { s with warnings := noteWarning text now s.warnings } := by
  constructor
  · intro w hmem
    rcases noteWarning_mem hmem with hmem | heq
    · obtain ⟨e', he', hwarning⟩ := hs.reported w hmem
      exact ⟨e', List.mem_cons_of_mem _ he', hwarning⟩
    · rw [heq]
      exact ⟨e, List.mem_cons_self, he⟩
  · intro e' he' w hwarning
    rcases List.mem_cons.1 he' with heq | he'
    · rw [heq, he] at hwarning
      cases hwarning
      exact .inl ⟨_, noteWarning_newest text now s.warnings, rfl, Int.le_refl _⟩
    · rcases hs.stored e' he' w hwarning with ⟨v, hv, htext, hle⟩ | ⟨e'', he'', hold⟩
      · obtain ⟨v', hv', htext', hseen⟩ := noteWarning_keeps hv text now
        refine .inl ⟨v', hv', htext'.trans htext, ?_⟩
        rcases hseen with hseen | hseen
        · rw [hseen]
          exact hle
        · rw [hseen]
          exact hpast e' he' _ (warning_time hwarning)
      · exact .inr ⟨e'', List.mem_cons_of_mem _ he'', hold⟩

theorem Warned.erase (hs : Warned h s) (now : TimePoint) :
    Warned (.snapshot now :: h) (s.eraseOldWarnings now) := by
  constructor
  · intro w hmem
    obtain ⟨e', he', hwarning⟩ := hs.reported w (List.mem_filter.1 hmem).1
    exact ⟨e', List.mem_cons_of_mem _ he', hwarning⟩
  · intro e' he' w hwarning
    rcases List.mem_cons.1 he' with heq | he'
    · rw [heq] at hwarning
      cases hwarning
    · rcases hs.stored e' he' w hwarning with ⟨v, hv, htext, hle⟩ | ⟨e'', he'', hold⟩
      · by_cases hrecent : now - v.lastSeen > kWarningTimeout
        · refine .inr ⟨_, List.mem_cons_self, now, List.mem_cons_self, ?_⟩
          exact Int.lt_of_lt_of_le hrecent (Int.sub_le_sub_left hle now)
        · refine .inl ⟨v, List.mem_filter.2 ⟨hv, ?_⟩, htext, hle⟩
          rw [decide_eq_false hrecent]
          rfl
      · exact .inr ⟨e'', List.mem_cons_of_mem _ he'', hold⟩

theorem Warned.step (hs : Warned h s) (e : VehicleEvent)
    (hpast : ∀ e' ∈ h, ∀ u ∈ e'.times, ∀ t ∈ e.times, u ≤ t) : Warned (e :: h) (s.step e).1 := by
  cases e with
  | statusText severity text now =>
    simp only [VehicleState.step, onStatusText]
    split
    · rename_i hkept
      apply hs.note
      · rw [VehicleEvent.warning, if_pos hkept]
      · exact fun e' he' u hu => hpast e' he' u hu now List.mem_cons_self
    · rename_i hkept
      exact hs.silent (by rw [VehicleEvent.warning, if_neg hkept]) rfl
  | snapshot now => exact hs.erase now
  | systemStatus sensorsEnabled sensorsHealthy voltageV currentA remainingPct now =>
    apply hs.silent rfl
    simp only [VehicleState.step, onSystemStatus]
    split
    · rfl
    · rfl
  | _ => exact hs.silent rfl rfl

end VehicleState

section Evidence

/-- The newest report of some kind is recent and satisfies a condition. -/
def Recent (report : VehicleEvent → Option (TimePoint × α)) (timeout : Duration) (P : α → Prop)
    (h : List VehicleEvent) (now : TimePoint) : Prop :=
  ∃ t a, latest report h = some (t, a) ∧ now - t ≤ timeout ∧ P a

theorem recent_some (hr : latest report h = some r) :
    Recent report timeout P h now ↔ now - r.1 ≤ timeout ∧ P r.2 := by
  constructor
  · intro ⟨t, a, hlatest, hp⟩
    rw [hr] at hlatest
    cases hlatest
    exact hp
  · intro hp
    exact ⟨r.1, r.2, hr, hp⟩

theorem recent_none (hr : latest report h = none) : ¬Recent report timeout P h now := by
  intro ⟨t, a, hlatest, _⟩
  rw [hr] at hlatest
  cases hlatest

def GpsFixed : List VehicleEvent → TimePoint → Prop :=
  Recent VehicleEvent.gpsReport kGpsTimeout fun fixType => 3 ≤ fixType

def SensorsHealthy : List VehicleEvent → TimePoint → Prop :=
  Recent VehicleEvent.sensorReport kSystemStatusTimeout fun sensors =>
    sensors.1 &&& ~~~sensors.2 = 0

def BatterySensorHealthy : List VehicleEvent → TimePoint → Prop :=
  Recent VehicleEvent.sensorReport kSystemStatusTimeout fun sensors =>
    sensors.1 &&& kBatterySensorFlag ≠ 0 ∧ sensors.2 &&& kBatterySensorFlag ≠ 0

/-- The battery's stamp is recent, whatever the report that renewed it carried. -/
def BatteryRenewed : List VehicleEvent → TimePoint → Prop :=
  Recent VehicleEvent.batteryReport kBatteryTimeout fun _ => True

/-- The newest voltage meets the arming voltage, however old it is. -/
def VoltageSufficient (h : List VehicleEvent) : Prop :=
  ∃ t voltage threshold, latest VehicleEvent.voltageReport h = some (t, voltage) ∧
    latest VehicleEvent.armingVoltage h = some threshold ∧
    (threshold.beq (.finite 0) = true ∨ threshold.ble voltage = true)

def RemainingSufficient (h : List VehicleEvent) : Prop :=
  ∀ percent, latest VehicleEvent.remainingReport h = some percent → kMinimumBatteryPercent ≤ percent

/-- Every warning of some kind is older than the timeout. -/
def Unwarned (P : String → Bool) (timeout : Duration) (h : List VehicleEvent) (now : TimePoint) :
    Prop :=
  ∀ e ∈ h, ∀ w, e.warning = some w → P w.text = true → timeout < now - w.lastSeen

end Evidence

namespace VehicleState

theorem gpsReady_iff (hs : Recorded h s) : s.gpsReady now = true ↔ GpsFixed h now := by
  rw [gpsReady, hs.gps, hs.fix, GpsFixed]
  cases hr : latest VehicleEvent.gpsReport h with
  | none => simp [isFresh, recent_none hr]
  | some report => simp [isFresh, recent_some hr]

theorem systemHealthOk_iff (hs : Recorded h s) :
    s.systemHealthOk now = true ↔ SensorsHealthy h now := by
  rw [systemHealthOk, hs.systemStatus, SensorsHealthy]
  cases hr : latest VehicleEvent.sensorReport h with
  | none => simp [isFresh, recent_none hr]
  | some report =>
    obtain ⟨henabled, hhealthy⟩ := hs.sensors report hr
    simp [isFresh, recent_some hr, henabled, hhealthy]

theorem batterySensorHealthy_iff (hs : Recorded h s) :
    s.batterySensorHealthy now = true ↔ BatterySensorHealthy h now := by
  rw [batterySensorHealthy, hs.systemStatus, BatterySensorHealthy]
  cases hr : latest VehicleEvent.sensorReport h with
  | none => simp [isFresh, recent_none hr]
  | some report =>
    obtain ⟨henabled, hhealthy⟩ := hs.sensors report hr
    simp [isFresh, recent_some hr, henabled, hhealthy, and_assoc]

theorem batteryRenewed_iff (hs : Recorded h s) :
    isFresh s.lastBattery now kBatteryTimeout = true ↔ BatteryRenewed h now := by
  rw [hs.battery, BatteryRenewed]
  cases hr : latest VehicleEvent.batteryReport h with
  | none => simp [isFresh, recent_none hr]
  | some report => simp [isFresh, recent_some hr]

theorem voltageMeetsArmingThreshold_iff (hs : Recorded h s) :
    s.voltageMeetsArmingThreshold = true ↔ VoltageSufficient h := by
  rw [voltageMeetsArmingThreshold, hs.voltage, hs.arming, VoltageSufficient]
  cases latest VehicleEvent.voltageReport h with
  | none => simp
  | some report =>
    cases latest VehicleEvent.armingVoltage h with
    | none => simp
    | some threshold => simp [Prod.ext_iff]

theorem unwarned_iff (hs : Warned h s) (hpast : ∀ e ∈ h, ∀ t ∈ e.times, t ≤ now)
    (P : String → Bool) (htimeout : timeout ≤ kWarningTimeout) :
    ((s.eraseOldWarnings now).warnings.all fun w => !(P w.text && now - w.lastSeen ≤ timeout)) =
      true ↔ Unwarned P timeout h now := by
  rw [List.all_eq_true]
  constructor
  · intro hall e he w hwarning hw
    rcases hs.stored e he w hwarning with ⟨v, hv, htext, hle⟩ | ⟨e', he', t, ht, hold⟩
    · have hnewer := Int.sub_le_sub_left hle now
      by_cases hrecent : now - v.lastSeen > kWarningTimeout
      · exact Int.lt_of_le_of_lt htimeout (Int.lt_of_lt_of_le hrecent hnewer)
      · have hkept := hall v (List.mem_filter.2 ⟨hv, by rw [decide_eq_false hrecent]; rfl⟩)
        rw [htext, hw, Bool.true_and, Bool.not_eq_true', decide_eq_false_iff_not] at hkept
        exact Int.lt_of_lt_of_le (Int.not_le.1 hkept) hnewer
    · have hlater := Int.sub_le_sub_right (hpast e' he' t ht) w.lastSeen
      exact Int.lt_of_le_of_lt htimeout (Int.lt_of_lt_of_le hold hlater)
  · intro hnone w hw
    obtain ⟨e, he, hwarning⟩ := hs.reported w (List.mem_filter.1 hw).1
    rw [Bool.not_eq_true', Bool.and_eq_false_iff]
    cases hp : P w.text with
    | false => exact .inl rfl
    | true => exact .inr (decide_eq_false (Int.not_le.2 (hnone e he w hwarning hp)))

theorem hasBatteryWarning_iff (hs : Warned h s) (hpast : ∀ e ∈ h, ∀ t ∈ e.times, t ≤ now) :
    (s.eraseOldWarnings now).hasBatteryWarning = false ↔
      Unwarned containsBattery kWarningTimeout h now := by
  rw [← unwarned_iff hs hpast containsBattery (Int.le_refl _), hasBatteryWarning,
    List.any_eq_false, List.all_eq_true]
  constructor
  · intro hnone w hw
    rw [Bool.eq_false_iff.2 (hnone w hw), Bool.false_and]
    rfl
  · intro hall w hw
    have hrecent := (List.mem_filter.1 hw).2
    have hold := hall w hw
    rw [Bool.not_eq_true', decide_eq_false_iff_not, gt_iff_lt, Int.not_lt] at hrecent
    rw [decide_eq_true hrecent, Bool.and_true, Bool.not_eq_true'] at hold
    rw [hold]
    exact Bool.false_ne_true

theorem hasRecentWarning_iff (hs : Warned h s) (hpast : ∀ e ∈ h, ∀ t ∈ e.times, t ≤ now) :
    (s.eraseOldWarnings now).hasRecentWarning now = false ↔
      Unwarned (fun _ => true) kBlockingWarningTimeout h now := by
  rw [← unwarned_iff hs hpast (fun _ => true) (by decide), hasRecentWarning, List.any_eq_false,
    List.all_eq_true]
  simp only [Bool.true_and, Bool.not_eq_true', Bool.not_eq_true]

theorem batteryReady_iff (hr : Recorded h s) (hw : Warned h s)
    (hpast : ∀ e ∈ h, ∀ t ∈ e.times, t ≤ now) :
    (s.eraseOldWarnings now).batteryReady now = true ↔
      BatteryRenewed h now ∧ VoltageSufficient h ∧ BatterySensorHealthy h now ∧
        Unwarned containsBattery kWarningTimeout h now ∧ RemainingSufficient h := by
  rw [← batteryRenewed_iff hr, ← voltageMeetsArmingThreshold_iff hr, ← batterySensorHealthy_iff hr,
    ← hasBatteryWarning_iff hw hpast, batteryReady, RemainingSufficient, ← hr.remaining]
  have heq : (s.eraseOldWarnings now).batteryRemainingPct = s.batteryRemainingPct := rfl
  rw [heq]
  simp only [Bool.and_eq_true, Bool.not_eq_true', and_assoc]
  cases s.batteryRemainingPct with
  | none => simp; rfl
  | some percent => simp; rfl

theorem snapshot_readiness (s : VehicleState) (now : TimePoint) :
    (s.snapshot now).2.connected = isFresh s.lastHeartbeat now kHeartbeatTimeout ∧
    (s.snapshot now).2.gpsReady = ((s.snapshot now).2.connected && s.gpsReady now) ∧
    (s.snapshot now).2.batteryReady =
      ((s.snapshot now).2.connected && (s.eraseOldWarnings now).batteryReady now) ∧
    (s.snapshot now).2.systemHealthOk = ((s.snapshot now).2.connected && s.systemHealthOk now) ∧
    (s.snapshot now).2.armable = ((s.snapshot now).2.gpsReady && (s.snapshot now).2.batteryReady &&
      (s.snapshot now).2.systemHealthOk && !(s.eraseOldWarnings now).hasRecentWarning now) ∧
    (s.snapshot now).2.relativeAltitudeM =
      if (s.snapshot now).2.connected &&
          isFresh s.lastGlobalPosition now kGlobalPositionTimeout then
        s.relativeAltitudeM
      else none := by
  rw [snapshot, report]
  dsimp only
  have hconnected : ((s.eraseOldWarnings now).identity now).connected =
      isFresh s.lastHeartbeat now kHeartbeatTimeout := rfl
  cases hf : isFresh s.lastHeartbeat now kHeartbeatTimeout with
  | false =>
    rw [hf] at hconnected
    rw [hconnected, if_neg Bool.false_ne_true, hconnected]
    exact ⟨rfl, rfl, rfl, rfl, rfl, rfl⟩
  | true =>
    rw [hf] at hconnected
    rw [hconnected, if_pos rfl]
    exact ⟨rfl, rfl, rfl, rfl, rfl, rfl⟩

theorem armable_iff (hr : Recorded h s) (hw : Warned h s)
    (hpast : ∀ e ∈ h, ∀ t ∈ e.times, t ≤ now) :
    (s.snapshot now).2.armable = true ↔
      isFresh (latest VehicleEvent.heartbeatAt h) now kHeartbeatTimeout = true ∧
      GpsFixed h now ∧ (s.eraseOldWarnings now).batteryReady now = true ∧ SensorsHealthy h now ∧
      Unwarned (fun _ => true) kBlockingWarningTimeout h now := by
  obtain ⟨hconnected, hgps, hbattery, hhealth, harmable, _⟩ := s.snapshot_readiness now
  rw [← gpsReady_iff hr, ← systemHealthOk_iff hr, ← hasRecentWarning_iff hw hpast, ← hr.heartbeat,
    harmable, hgps, hbattery, hhealth, hconnected]
  cases isFresh s.lastHeartbeat now kHeartbeatTimeout with
  | false => simp
  | true => simp [and_assoc]

end VehicleState
end OnboardAutonomy
