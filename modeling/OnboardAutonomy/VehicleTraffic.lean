import OnboardAutonomy.MavlinkDecoder
import OnboardAutonomy.VehicleReports

namespace OnboardAutonomy
open ExactDouble Histories
set_option autoImplicit true

/-- The messages on the link with the times they are handled at, newest first. -/
abbrev Traffic := List (MavlinkMessage × TimePoint)

/-- The call of the vehicle state a message amounts to. -/
def MavlinkMessage.vehicleEvent (m : MavlinkMessage) (now : TimePoint) : Option VehicleEvent :=
  match m.payload with
  | .heartbeat type autopilot baseMode customMode systemStatus =>
    if autopilot = MAV_AUTOPILOT_INVALID then none
    else some (.heartbeat m.sysid m.compid type autopilot baseMode customMode systemStatus now)
  | .gpsRawInt fixType satellitesVisible => some (.gps fixType satellitesVisible now)
  | .globalPositionInt relativeAlt => some (.globalPosition relativeAlt now)
  | .localPositionNed x y z => some (.localPosition x y z now)
  | .attitude roll pitch yaw => some (.attitude roll pitch yaw now)
  | .batteryStatus voltages voltagesExt currentBattery batteryRemaining =>
    some (.battery (batteryVoltage voltages voltagesExt) (currentFromCentiampere currentBattery)
      (remainingPercent batteryRemaining) now)
  | .sysStatus sensorsEnabled sensorsHealth voltageBattery currentBattery batteryRemaining =>
    some (.systemStatus sensorsEnabled sensorsHealth (sysStatusVoltage voltageBattery)
      (currentFromCentiampere currentBattery) (remainingPercent batteryRemaining) now)
  | .autopilotVersion flightSwVersion capabilities boardVersion vendorId productId =>
    if m.compid ≠ MAV_COMP_ID_AUTOPILOT1 then none
    else some (.autopilotMetadata
      (autopilotMetadata flightSwVersion capabilities boardVersion vendorId productId))
  | .paramValue paramId value _ =>
    if parameterId paramId = "BATT_ARM_VOLT" then some (.batteryArmingVoltage value now) else none
  | .statustext severity text => some (.statusText severity (statusText text) now)
  | .commandAck .. => none
  | .other .. => none

theorem handleMessage_event (s : VehicleState) (m : MavlinkMessage) (now : TimePoint) :
    handleMessage s m now = match m.vehicleEvent now with
      | some e => (s.step e).1
      | none => s := by
  rw [handleMessage, MavlinkMessage.vehicleEvent]
  cases m.payload <;> first | rfl | (dsimp only; split <;> rfl)

theorem MavlinkMessage.vehicleEvent_times {m : MavlinkMessage} (he : m.vehicleEvent now = some e)
    (ht : t ∈ e.times) : t = now := by
  rw [vehicleEvent] at he
  cases hp : m.payload <;> rw [hp] at he <;> dsimp only at he <;> (try split at he) <;> cases he <;>
    first | exact List.mem_singleton.1 ht | cases ht

namespace Traffic

/-- The vehicle state after the messages. -/
def fed : Traffic → VehicleState
  | [] => {}
  | (m, now) :: h => handleMessage (fed h) m now

def events (h : Traffic) : List VehicleEvent := h.filterMap fun x => x.1.vehicleEvent x.2

/-- Times do not go back, and end before the present. -/
def Ordered (h : Traffic) (now : TimePoint) : Prop :=
  h.Pairwise (fun x y => y.2 ≤ x.2) ∧ ∀ x ∈ h, x.2 ≤ now

/-- The system of a heartbeat that the vehicle state accepts. -/
def selectedBy (x : MavlinkMessage × TimePoint) : Option UInt8 :=
  match x.1.payload with
  | .heartbeat _ autopilot _ _ _ =>
    if autopilot = MAV_AUTOPILOT_INVALID then none else some x.1.sysid
  | _ => none

def own (system : UInt8) (h : Traffic) : Traffic := h.filter (·.1.sysid == system)

theorem fed_recorded (h : Traffic) : (fed h).Recorded (events h) := by
  induction h with
  | nil => exact .start
  | cons x h ih =>
    rw [fed, handleMessage_event, events, List.filterMap_cons]
    cases x.1.vehicleEvent x.2 with
    | none => exact ih
    | some e => exact ih.step e

theorem events_past {h : Traffic} (hpast : ∀ x ∈ h, x.2 ≤ now) :
    ∀ e ∈ events h, ∀ t ∈ e.times, t ≤ now := by
  intro e he t ht
  obtain ⟨x, hx, hevent⟩ := List.mem_filterMap.1 he
  rw [MavlinkMessage.vehicleEvent_times hevent ht]
  exact hpast x hx

theorem fed_warned {h : Traffic} (ho : h.Pairwise fun x y => y.2 ≤ x.2) :
    (fed h).Warned (events h) := by
  induction h with
  | nil => exact .start
  | cons x h ih =>
    obtain ⟨hpast, ho⟩ := List.pairwise_cons.1 ho
    rw [fed, handleMessage_event, events, List.filterMap_cons]
    cases he : x.1.vehicleEvent x.2 with
    | none => exact ih ho
    | some e =>
      apply (ih ho).step e
      intro e' he' u hu t ht
      rw [MavlinkMessage.vehicleEvent_times he ht]
      exact events_past hpast e' he' u hu

end Traffic

/-- Two snapshots say the same about readiness and altitude. -/
structure SameReadiness (a b : VehicleSnapshot) : Prop where
  gps : a.gpsReady = b.gpsReady
  battery : a.batteryReady = b.batteryReady
  health : a.systemHealthOk = b.systemHealthOk
  armable : a.armable = b.armable
  altitude : a.relativeAltitudeM = b.relativeAltitudeM

/-- Two histories of calls whose reports about readiness are the same. -/
structure SameReports (h k : List VehicleEvent) : Prop where
  heartbeat : latest VehicleEvent.heartbeatAt h = latest VehicleEvent.heartbeatAt k
  gps : latest VehicleEvent.gpsReport h = latest VehicleEvent.gpsReport k
  altitude : latest VehicleEvent.altitudeReport h = latest VehicleEvent.altitudeReport k
  sensors : latest VehicleEvent.sensorReport h = latest VehicleEvent.sensorReport k
  battery : latest VehicleEvent.batteryReport h = latest VehicleEvent.batteryReport k
  voltage : latest VehicleEvent.voltageReport h = latest VehicleEvent.voltageReport k
  remaining : latest VehicleEvent.remainingReport h = latest VehicleEvent.remainingReport k
  arming : latest VehicleEvent.armingVoltage h = latest VehicleEvent.armingVoltage k
  warnings : h.filterMap VehicleEvent.warning = k.filterMap VehicleEvent.warning

theorem SameReports.unwarned (hs : SameReports h k) :
    Unwarned P timeout h now ↔ Unwarned P timeout k now := by
  have hmem (h : List VehicleEvent) : Unwarned P timeout h now ↔
      ∀ w ∈ h.filterMap VehicleEvent.warning, P w.text = true → timeout < now - w.lastSeen := by
    constructor
    · intro hu w hw
      obtain ⟨e, he, hwarning⟩ := List.mem_filterMap.1 hw
      exact hu e he w hwarning
    · intro hu e he w hwarning
      exact hu w (List.mem_filterMap.2 ⟨e, he, hwarning⟩)
  rw [hmem, hmem, hs.warnings]

theorem SameReports.recent (hr : latest report h = latest report k) :
    Recent report timeout P h now ↔ Recent report timeout P k now := by
  rw [Recent, Recent, hr]

theorem SameReadiness.of_state {s t : VehicleState} (hheartbeat : s.lastHeartbeat = t.lastHeartbeat)
    (hgps : s.gpsReady now = t.gpsReady now)
    (hbattery : (s.eraseOldWarnings now).batteryReady now =
      (t.eraseOldWarnings now).batteryReady now)
    (hhealth : s.systemHealthOk now = t.systemHealthOk now)
    (hwarning : (s.eraseOldWarnings now).hasRecentWarning now =
      (t.eraseOldWarnings now).hasRecentWarning now)
    (hposition : s.lastGlobalPosition = t.lastGlobalPosition)
    (haltitude : s.relativeAltitudeM = t.relativeAltitudeM) :
    SameReadiness (s.snapshot now).2 (t.snapshot now).2 := by
  obtain ⟨hsc, hsg, hsb, hsh, hsa, hsz⟩ := s.snapshot_readiness now
  obtain ⟨htc, htg, htb, hth, hta, htz⟩ := t.snapshot_readiness now
  have hconnected : (s.snapshot now).2.connected = (t.snapshot now).2.connected := by
    rw [hsc, htc, hheartbeat]
  have hgps : (s.snapshot now).2.gpsReady = (t.snapshot now).2.gpsReady := by
    rw [hsg, htg, hconnected, hgps]
  have hbattery : (s.snapshot now).2.batteryReady = (t.snapshot now).2.batteryReady := by
    rw [hsb, htb, hconnected, hbattery]
  have hhealth : (s.snapshot now).2.systemHealthOk = (t.snapshot now).2.systemHealthOk := by
    rw [hsh, hth, hconnected, hhealth]
  refine ⟨hgps, hbattery, hhealth, ?_, ?_⟩
  · rw [hsa, hta, hgps, hbattery, hhealth, hwarning]
  · rw [hsz, htz, hconnected, hposition, haltitude]

theorem SameReports.readiness (hs : SameReports h k) (hrh : VehicleState.Recorded h s)
    (hrk : VehicleState.Recorded k t) (hwh : VehicleState.Warned h s)
    (hwk : VehicleState.Warned k t) (hph : ∀ e ∈ h, ∀ u ∈ e.times, u ≤ now)
    (hpk : ∀ e ∈ k, ∀ u ∈ e.times, u ≤ now) :
    SameReadiness (s.snapshot now).2 (t.snapshot now).2 := by
  apply SameReadiness.of_state
  · rw [hrh.heartbeat, hrk.heartbeat, hs.heartbeat]
  · rw [Bool.eq_iff_iff, VehicleState.gpsReady_iff hrh, VehicleState.gpsReady_iff hrk]
    exact SameReports.recent hs.gps
  · rw [Bool.eq_iff_iff, VehicleState.batteryReady_iff hrh hwh hph,
      VehicleState.batteryReady_iff hrk hwk hpk, VoltageSufficient, VoltageSufficient, hs.voltage,
      hs.arming, RemainingSufficient, RemainingSufficient, hs.remaining, hs.unwarned]
    rw [BatteryRenewed, BatterySensorHealthy, SameReports.recent hs.battery,
      SameReports.recent hs.sensors]
  · rw [Bool.eq_iff_iff, VehicleState.systemHealthOk_iff hrh, VehicleState.systemHealthOk_iff hrk]
    exact SameReports.recent hs.sensors
  · rw [← Bool.not_inj_iff, Bool.eq_iff_iff, Bool.not_eq_true', Bool.not_eq_true',
      VehicleState.hasRecentWarning_iff hwh hph, VehicleState.hasRecentWarning_iff hwk hpk,
      hs.unwarned]
  · rw [hrh.globalPosition, hrk.globalPosition, hs.altitude]
  · rw [hrh.altitude, hrk.altitude, hs.altitude]

/-- A message that reports something readiness or the altitude depends on. -/
def MavlinkMessage.reachesReadiness (m : MavlinkMessage) : Bool :=
  match m.payload with
  | .gpsRawInt .. => true
  | .globalPositionInt .. => true
  | .batteryStatus .. => true
  | .sysStatus .. => true
  | .paramValue paramId _ _ => parameterId paramId == "BATT_ARM_VOLT"
  | .statustext severity text => VehicleState.keepsStatusText severity (statusText text)
  | _ => false

theorem MavlinkMessage.quiet {m : MavlinkMessage} (hm : m.reachesReadiness = false)
    (he : m.vehicleEvent now = some e) :
    e.gpsReport = none ∧ e.altitudeReport = none ∧ e.sensorReport = none ∧
      e.batteryReport = none ∧ e.armingVoltage = none ∧ e.warning = none := by
  rw [reachesReadiness] at hm
  rw [vehicleEvent] at he
  cases hp : m.payload <;> rw [hp] at he hm <;> dsimp only at he hm
  case heartbeat =>
    split at he
    · cases he
    · cases he
      exact ⟨rfl, rfl, rfl, rfl, rfl, rfl⟩
  case localPositionNed =>
    cases he
    exact ⟨rfl, rfl, rfl, rfl, rfl, rfl⟩
  case attitude =>
    cases he
    exact ⟨rfl, rfl, rfl, rfl, rfl, rfl⟩
  case autopilotVersion =>
    split at he
    · cases he
    · cases he
      exact ⟨rfl, rfl, rfl, rfl, rfl, rfl⟩
  case paramValue =>
    rw [beq_eq_false_iff_ne] at hm
    rw [if_neg hm] at he
    cases he
  case statustext =>
    cases he
    refine ⟨rfl, rfl, rfl, rfl, rfl, ?_⟩
    rw [VehicleEvent.warning, hm]
    rfl
  all_goals cases hm
  all_goals cases he

namespace Traffic

theorem latest_own {h : Traffic} (report : VehicleEvent → Option β)
    (hs : ∀ x ∈ h, x.1.sysid ≠ system → ∀ e, x.1.vehicleEvent x.2 = some e → report e = none) :
    latest report (events (own system h)) = latest report (events h) := by
  rw [events, events, latest_filterMap, latest_filterMap]
  apply latest_filter
  intro x hx hforeign
  cases he : x.1.vehicleEvent x.2 with
  | none => rfl
  | some e => exact hs x hx (by simpa using hforeign) e he

theorem heartbeatAt_event (x : MavlinkMessage × TimePoint) :
    (x.1.vehicleEvent x.2).bind VehicleEvent.heartbeatAt = (selectedBy x).map fun _ => x.2 := by
  rw [MavlinkMessage.vehicleEvent, selectedBy]
  cases x.1.payload <;> first | rfl | (dsimp only; split <;> rfl)

theorem selectedBy_sysid {x : MavlinkMessage × TimePoint} {id : UInt8}
    (hx : selectedBy x = some id) : x.1.sysid = id := by
  rw [selectedBy] at hx
  split at hx
  · split at hx
    · cases hx
    · exact Option.some.inj hx
  · cases hx

/-- The newest accepted heartbeat is the selected system's own. -/
theorem heartbeat_own {h : Traffic} (hs : latest selectedBy h = some system) :
    latest VehicleEvent.heartbeatAt (events (own system h)) =
      latest VehicleEvent.heartbeatAt (events h) := by
  rw [events, events, latest_filterMap, latest_filterMap]
  simp only [heartbeatAt_event]
  induction h with
  | nil => rfl
  | cons x h ih =>
    cases hx : selectedBy x with
    | none =>
      rw [latest_silent h hx] at hs
      rw [latest_silent h (by rw [hx]; rfl), ← ih hs, own, List.filter_cons]
      split
      · exact latest_silent _ (by rw [hx]; rfl)
      · rfl
    | some id =>
      rw [latest_report h hx] at hs
      have hown : (x.1.sysid == system) = true := by
        rw [selectedBy_sysid hx, Option.some.inj hs]
        exact beq_self_eq_true system
      rw [own, List.filter_cons, if_pos hown, latest_report h (b := x.2) (by rw [hx]; rfl),
        latest_report _ (b := x.2) (by rw [hx]; rfl)]

theorem warnings_own {h : Traffic} (hs : ∀ x ∈ h, x.1.sysid ≠ system →
    ∀ e, x.1.vehicleEvent x.2 = some e → e.warning = none) :
    (events (own system h)).filterMap VehicleEvent.warning =
      (events h).filterMap VehicleEvent.warning := by
  rw [events, events, List.filterMap_filterMap, List.filterMap_filterMap, own,
    List.filterMap_filter]
  apply List.filterMap_congr
  intro x hx
  split
  · rfl
  · rename_i hforeign
    cases he : x.1.vehicleEvent x.2 with
    | none => rfl
    | some e => exact (hs x hx (by simpa using hforeign) e he).symm

theorem sameReports_own {h : Traffic} (hs : latest selectedBy h = some system)
    (hq : ∀ x ∈ h, x.1.sysid ≠ system → x.1.reachesReadiness = false) :
    SameReports (events (own system h)) (events h) := by
  have hquiet (x : MavlinkMessage × TimePoint) (hx : x ∈ h) (hf : x.1.sysid ≠ system)
      (e : VehicleEvent) (he : x.1.vehicleEvent x.2 = some e) :=
    MavlinkMessage.quiet (hq x hx hf) he
  have hbattery (x : MavlinkMessage × TimePoint) (hx : x ∈ h) (hf : x.1.sysid ≠ system)
      (e : VehicleEvent) (he : x.1.vehicleEvent x.2 = some e) : e.batteryReport = none :=
    (hquiet x hx hf e he).2.2.2.1
  exact {
    heartbeat := heartbeat_own hs
    gps := latest_own _ fun x hx hf e he => (hquiet x hx hf e he).1
    altitude := latest_own _ fun x hx hf e he => (hquiet x hx hf e he).2.1
    sensors := latest_own _ fun x hx hf e he => (hquiet x hx hf e he).2.2.1
    battery := latest_own _ hbattery
    voltage := latest_own _ fun x hx hf e he => by
      rw [VehicleEvent.voltageReport, hbattery x hx hf e he]
      rfl
    remaining := latest_own _ fun x hx hf e he => by
      rw [VehicleEvent.remainingReport, hbattery x hx hf e he]
      rfl
    arming := latest_own _ fun x hx hf e he => (hquiet x hx hf e he).2.2.2.2.1
    warnings := warnings_own fun x hx hf e he => (hquiet x hx hf e he).2.2.2.2.2 }

theorem Ordered.own {h : Traffic} (ho : Ordered h now) (system : UInt8) :
    Ordered (own system h) now :=
  ⟨ho.1.filter _, fun x hx => ho.2 x (List.mem_filter.1 hx).1⟩

theorem Ordered.cons {h : Traffic} (ho : Ordered h now) (hle : now ≤ x.2) :
    Ordered (x :: h) x.2 := by
  have hpast : ∀ y ∈ h, y.2 ≤ x.2 := fun y hy => (ho.2 y hy).trans hle
  refine ⟨List.pairwise_cons.2 ⟨hpast, ho.1⟩, ?_⟩
  intro y hy
  rcases List.mem_cons.1 hy with hy | hy
  · exact (congrArg Prod.snd hy).le
  · exact hpast y hy

/-- The snapshot of a link that other systems leave in peace is the one of the own messages. -/
theorem readiness_own {h : Traffic} (ho : Ordered h now) (hs : latest selectedBy h = some system)
    (hq : ∀ x ∈ h, x.1.sysid ≠ system → x.1.reachesReadiness = false) :
    SameReadiness ((fed (own system h)).snapshot now).2 ((fed h).snapshot now).2 :=
  (sameReports_own hs hq).readiness (fed_recorded _) (fed_recorded _)
    (fed_warned (ho.own system).1) (fed_warned ho.1) (events_past (ho.own system).2)
    (events_past ho.2)

end Traffic
end OnboardAutonomy
