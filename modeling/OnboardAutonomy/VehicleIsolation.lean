import OnboardAutonomy.VehicleTraffic

namespace OnboardAutonomy
open ExactDouble Histories
set_option autoImplicit true

namespace Traffic

/-- Whatever messages of a class other systems send, readiness is decided by the messages of the
system the newest accepted heartbeat is from. -/
def Isolated (system : UInt8) (F : MavlinkMessage → Prop) : Prop :=
  ∀ h k now, Ordered h now → Ordered k now → latest selectedBy h = some system →
    latest selectedBy k = some system → (∀ x ∈ h ++ k, x.1.sysid ≠ system → F x.1) →
    own system h = own system k →
    SameReadiness ((fed h).snapshot now).2 ((fed k).snapshot now).2

/-- Added to some messages of the system itself, the message changes its readiness. -/
def Disturbs (system : UInt8) (m : MavlinkMessage) : Prop :=
  ∃ h now, Ordered h now ∧ latest selectedBy h = some system ∧ (∀ x ∈ h, x.1.sysid = system) ∧
    ¬SameReadiness ((fed ((m, now) :: h)).snapshot now).2 ((fed h).snapshot now).2

theorem Disturbs.not_isolated (hd : Disturbs system m) (hm : m.reachesReadiness = true)
    (hs : m.sysid ≠ system) (hf : F m) : ¬Isolated system F := by
  intro hi
  obtain ⟨h, now, ho, hselected, hown, hdifferent⟩ := hd
  have hsilent : selectedBy (m, now) = none := by
    rw [MavlinkMessage.reachesReadiness] at hm
    rw [selectedBy]
    cases hp : m.payload <;> first | rfl | (rw [hp] at hm; cases hm)
  apply hdifferent
  apply hi _ _ now (ho.cons (x := (m, now)) (Int.le_refl now)) ho _ hselected
  · intro x hx hforeign
    rcases List.mem_cons.1 hx with hx | hx
    · rw [hx]
      exact hf
    · rcases List.mem_append.1 hx with hx | hx
      · exact absurd (hown x hx) hforeign
      · exact absurd (hown x hx) hforeign
  · rw [own, List.filter_cons, if_neg (by simpa using hs)]
    rfl
  · rw [latest_silent h hsilent]
    exact hselected

section Disturbances
variable {system sysid compid : UInt8}

def heartbeatOf (system : UInt8) : MavlinkMessage := ⟨system, 1, .heartbeat 2 3 0 0 3⟩

/-- The system with its heartbeat and one more report, all at the same time. -/
def reporting (system : UInt8) (payloads : List MavlinkPayload) : Traffic :=
  payloads.map (fun payload => (⟨system, 1, payload⟩, 0)) ++ [(heartbeatOf system, 0)]

theorem reporting_ordered (system : UInt8) (payloads : List MavlinkPayload) :
    Ordered (reporting system payloads) 0 := by
  have hzero : ∀ x ∈ reporting system payloads, x.2 = 0 := by
    intro x hx
    rcases List.mem_append.1 hx with hx | hx
    · obtain ⟨payload, _, rfl⟩ := List.mem_map.1 hx
      rfl
    · rw [List.mem_singleton.1 hx]
  refine ⟨List.pairwise_of_forall_mem_list ?_, fun x hx => (hzero x hx).le⟩
  intro x hx y hy
  rw [hzero x hx, hzero y hy]

theorem reporting_own (system : UInt8) (payloads : List MavlinkPayload) :
    ∀ x ∈ reporting system payloads, x.1.sysid = system := by
  intro x hx
  rcases List.mem_append.1 hx with hx | hx
  · obtain ⟨payload, _, rfl⟩ := List.mem_map.1 hx
    rfl
  · rw [List.mem_singleton.1 hx]
    rfl

theorem Disturbs.of_reporting (payloads : List MavlinkPayload)
    (hs : latest selectedBy (reporting system payloads) = some system)
    (hd : ¬SameReadiness ((fed ((m, 0) :: reporting system payloads)).snapshot 0).2
      ((fed (reporting system payloads)).snapshot 0).2) : Disturbs system m :=
  ⟨reporting system payloads, 0, reporting_ordered _ _, hs, reporting_own _ _, hd⟩

theorem readiness_system (s : VehicleState) (id : Option UInt8) (now : TimePoint) :
    SameReadiness ({ s with systemId := id }.snapshot now).2 (s.snapshot now).2 :=
  .of_state rfl rfl rfl rfl rfl rfl rfl

theorem gps_disturbs (fixType satellitesVisible : UInt8) :
    Disturbs system ⟨sysid, compid, .gpsRawInt fixType satellitesVisible⟩ := by
  by_cases hfix : 3 ≤ fixType
  · apply Disturbs.of_reporting [] rfl
    intro hsame
    have hgps : decide (3 ≤ fixType) = false := hsame.gps
    exact of_decide_eq_false hgps hfix
  · apply Disturbs.of_reporting [.gpsRawInt 3 10] rfl
    intro hsame
    have hgps : decide (3 ≤ fixType) = true := hsame.gps
    exact hfix (of_decide_eq_true hgps)

theorem position_disturbs (relativeAlt : Int32) :
    Disturbs system ⟨sysid, compid, .globalPositionInt relativeAlt⟩ := by
  apply Disturbs.of_reporting [] rfl
  intro hsame
  have haltitude : some (Double.finite (relativeAlt.toInt / 1000)) = none := hsame.altitude
  cases haltitude

theorem onSystemStatus_health (s : VehicleState) (enabled healthy : UInt32)
    (voltageV currentA : Option Double) (remainingPct : Option Int8) (now : TimePoint) :
    (s.onSystemStatus enabled healthy voltageV currentA remainingPct now).systemHealthOk now =
        (enabled &&& ~~~healthy == 0) ∧
      (s.onSystemStatus enabled healthy voltageV currentA remainingPct now).lastHeartbeat =
        s.lastHeartbeat := by
  have hfresh : isFresh (some now) now kSystemStatusTimeout = true :=
    decide_eq_true (by rw [Int.sub_self]; decide)
  rw [VehicleState.onSystemStatus]
  split
  · rw [VehicleState.systemHealthOk, VehicleState.updateBatteryLocked, hfresh, Bool.true_and]
    exact ⟨rfl, rfl⟩
  · rw [VehicleState.systemHealthOk, hfresh, Bool.true_and]
    exact ⟨rfl, rfl⟩

theorem status_disturbs (sensorsEnabled sensorsHealth : UInt32) (voltageBattery : UInt16)
    (currentBattery : Int16) (batteryRemaining : Int8) :
    Disturbs system ⟨sysid, compid, .sysStatus sensorsEnabled sensorsHealth voltageBattery
      currentBattery batteryRemaining⟩ := by
  have hadded (payloads : List MavlinkPayload)
      (hbeat : (fed (reporting system payloads)).lastHeartbeat = some 0) :
      ((fed ((⟨sysid, compid, .sysStatus sensorsEnabled sensorsHealth voltageBattery currentBattery
        batteryRemaining⟩, 0) :: reporting system payloads)).snapshot 0).2.systemHealthOk =
          (sensorsEnabled &&& ~~~sensorsHealth == 0) := by
    obtain ⟨hconnected, _, _, hhealth, _⟩ := VehicleState.snapshot_readiness
      (fed ((⟨sysid, compid, .sysStatus sensorsEnabled sensorsHealth voltageBattery currentBattery
        batteryRemaining⟩, 0) :: reporting system payloads)) 0
    rw [hhealth, hconnected, fed, handleMessage]
    dsimp only
    obtain ⟨hok, hkept⟩ := onSystemStatus_health (fed (reporting system payloads))
      sensorsEnabled sensorsHealth (sysStatusVoltage voltageBattery)
      (currentFromCentiampere currentBattery) (remainingPercent batteryRemaining) 0
    rw [hok, hkept, hbeat]
    rfl
  cases hhealth : sensorsEnabled &&& ~~~sensorsHealth == 0 with
  | true =>
    apply Disturbs.of_reporting [] rfl
    intro hsame
    have hnow := hsame.health
    rw [hadded [] rfl, hhealth] at hnow
    cases hnow
  | false =>
    apply Disturbs.of_reporting [.sysStatus 0 0 0 (-1) (-1)] rfl
    intro hsame
    have hnow := hsame.health
    have hbase : ((fed (reporting system [.sysStatus 0 0 0 (-1) (-1)])).snapshot
        0).2.systemHealthOk = true :=
      (readiness_system (fed (reporting 1 [.sysStatus 0 0 0 (-1) (-1)])) (some system)
        0).health.trans (by decide +kernel)
    rw [hadded _ rfl, hhealth, hbase] at hnow
    cases hnow

/-- A system that is ready to be armed, except for what it says of the arming voltage. -/
def readyPayloads : List MavlinkPayload :=
  [.gpsRawInt 3 10, .sysStatus kBatterySensorFlag kBatterySensorFlag 15000 (-1) (-1)]

/-- The same system once it has said that any voltage will do. -/
def readyTraffic (system : UInt8) : Traffic :=
  reporting system (.paramValue "BATT_ARM_VOLT" (.finite 0) 9 :: readyPayloads)

def readyState : VehicleState :=
  (fed (reporting 1 readyPayloads)).onBatteryArmingVoltage (.finite 0) 0

theorem fed_ready : fed (readyTraffic system) = { readyState with systemId := some system } := by
  have hid : parameterId "BATT_ARM_VOLT" = "BATT_ARM_VOLT" := by decide +kernel
  rw [readyTraffic, reporting, List.map_cons, List.cons_append, fed, handleMessage]
  dsimp only
  rw [if_pos hid]
  rfl

theorem readyTraffic_ready : ((fed (readyTraffic system)).snapshot 0).2.batteryReady = true ∧
    ((fed (readyTraffic system)).snapshot 0).2.armable = true := by
  have hready : (readyState.snapshot 0).2.batteryReady = true ∧
      (readyState.snapshot 0).2.armable = true := by decide +kernel
  have hsame := readiness_system readyState (some system) 0
  rw [fed_ready]
  exact ⟨hsame.battery.trans hready.1, hsame.armable.trans hready.2⟩

theorem Disturbs.of_ready (hd : ¬SameReadiness
    ((fed ((m, 0) :: readyTraffic system)).snapshot 0).2
    ((fed (readyTraffic system)).snapshot 0).2) : Disturbs system m :=
  .of_reporting _ rfl hd

/-- The same system eleven seconds later, without news of its battery. -/
def staleTraffic (system : UInt8) : Traffic :=
  (⟨system, 1, .sysStatus kBatterySensorFlag kBatterySensorFlag 0 (-1) (-1)⟩, seconds 11) ::
    (heartbeatOf system, seconds 11) :: readyTraffic system

theorem fed_stale : fed (staleTraffic system) = { readyState with
    systemId := some system
    lastHeartbeat := some (seconds 11)
    lastSystemStatus := some (seconds 11) } := by
  rw [staleTraffic, fed, fed, fed_ready]
  rfl

theorem text_disturbs (hm : VehicleState.keepsStatusText severity (statusText text) = true) :
    Disturbs system ⟨sysid, compid, .statustext severity text⟩ := by
  apply Disturbs.of_ready
  intro hsame
  have hbase : ((fed (readyTraffic system)).snapshot 0).2.armable = true := readyTraffic_ready.2
  have hadded : fed ((⟨sysid, compid, .statustext severity text⟩, 0) :: readyTraffic system) =
      { fed (readyTraffic system) with warnings := [⟨statusText text, 0⟩] } := by
    rw [fed, handleMessage]
    dsimp only
    rw [VehicleState.onStatusText, if_pos hm, fed_ready]
    rfl
  have harmable := hsame.armable
  obtain ⟨_, _, _, _, hblocked, _⟩ := VehicleState.snapshot_readiness
    (fed ((⟨sysid, compid, .statustext severity text⟩, 0) :: readyTraffic system)) 0
  have hrecent : (({ fed (readyTraffic system) with
      warnings := [⟨statusText text, 0⟩] } : VehicleState).eraseOldWarnings 0).hasRecentWarning 0 =
        true := rfl
  rw [hbase, hblocked, hadded, hrecent, Bool.not_true, Bool.and_false] at harmable
  cases harmable

theorem arming_disturbs (hm : parameterId paramId = "BATT_ARM_VOLT") (value : Double)
    (type : UInt8) : Disturbs system ⟨sysid, compid, .paramValue paramId value type⟩ := by
  have hadded (h : Traffic) : fed ((⟨sysid, compid, .paramValue paramId value type⟩, 0) :: h) =
      (fed h).onBatteryArmingVoltage value 0 := by
    rw [fed, handleMessage]
    exact if_pos hm
  have hbattery : ((readyState.onBatteryArmingVoltage value 0).snapshot 0).2.batteryReady =
      (readyState.onBatteryArmingVoltage value 0).voltageMeetsArmingThreshold := by
    obtain ⟨hconnected, _, hready, _⟩ :=
      (readyState.onBatteryArmingVoltage value 0).snapshot_readiness 0
    have hrest : isFresh readyState.lastHeartbeat 0 kHeartbeatTimeout = true ∧
        isFresh readyState.lastBattery 0 kBatteryTimeout = true ∧
        readyState.batterySensorHealthy 0 = true := by decide +kernel
    have hparts : ((readyState.onBatteryArmingVoltage value 0).eraseOldWarnings 0).batteryReady 0 =
        (isFresh readyState.lastBattery 0 kBatteryTimeout &&
          (readyState.onBatteryArmingVoltage value 0).voltageMeetsArmingThreshold &&
          readyState.batterySensorHealthy 0 && true && true) := rfl
    rw [hrest.2.1, hrest.2.2, Bool.true_and, Bool.and_true, Bool.and_true, Bool.and_true] at hparts
    rw [hready, hconnected, hparts]
    exact congrArg (· && _) hrest.1
  cases hmeets : (readyState.onBatteryArmingVoltage value 0).voltageMeetsArmingThreshold with
  | true =>
    apply Disturbs.of_reporting readyPayloads rfl
    intro hsame
    have hbase : ((fed (reporting system readyPayloads)).snapshot 0).2.batteryReady = false :=
      (readiness_system (fed (reporting 1 readyPayloads)) (some system) 0).battery.trans
        (by decide +kernel)
    have hnow := hsame.battery
    rw [hbase, hadded] at hnow
    have hwith := (readiness_system (readyState.onBatteryArmingVoltage value 0) (some system)
      0).battery
    rw [hbattery, hmeets] at hwith
    exact Bool.false_ne_true (hnow.symm.trans hwith)
  | false =>
    apply Disturbs.of_ready
    intro hsame
    have hnow := hsame.battery
    rw [readyTraffic_ready.1, hadded, fed_ready] at hnow
    have hwith := (readiness_system (readyState.onBatteryArmingVoltage value 0) (some system)
      0).battery
    rw [hbattery, hmeets] at hwith
    exact Bool.false_ne_true (hwith.symm.trans hnow)

def staleState : VehicleState :=
  { readyState with lastHeartbeat := some (seconds 11), lastSystemStatus := some (seconds 11) }

/-- Any battery report makes the stamp new again; the old voltage still counts. -/
theorem renewed_ready (voltageV currentA : Option Double) (hlow : ∀ percent,
    remainingPct = some percent → kMinimumBatteryPercent ≤ percent) :
    ((staleState.updateBatteryLocked voltageV currentA remainingPct (seconds 11)).snapshot
      (seconds 11)).2.batteryReady = true := by
  obtain ⟨hconnected, _, hready, _⟩ := (staleState.updateBatteryLocked voltageV currentA
    remainingPct (seconds 11)).snapshot_readiness (seconds 11)
  have hvoltage : (staleState.updateBatteryLocked voltageV currentA remainingPct
      (seconds 11)).voltageMeetsArmingThreshold = true := by
    cases voltageV with
    | none => rfl
    | some voltage => rfl
  have hrest : isFresh staleState.lastHeartbeat (seconds 11) kHeartbeatTimeout = true ∧
      isFresh (some (seconds 11)) (seconds 11) kBatteryTimeout = true ∧
      staleState.batterySensorHealthy (seconds 11) = true := by decide +kernel
  have hparts : ∃ b, b = true ∧ ((staleState.updateBatteryLocked voltageV currentA remainingPct
      (seconds 11)).eraseOldWarnings (seconds 11)).batteryReady (seconds 11) =
        (isFresh (some (seconds 11)) (seconds 11) kBatteryTimeout &&
          (staleState.updateBatteryLocked voltageV currentA remainingPct
            (seconds 11)).voltageMeetsArmingThreshold &&
          staleState.batterySensorHealthy (seconds 11) && true && b) := by
    cases remainingPct with
    | none => exact ⟨true, rfl, rfl⟩
    | some percent => exact ⟨_, decide_eq_true (hlow percent rfl), rfl⟩
  obtain ⟨b, rfl, hparts⟩ := hparts
  rw [hready, hconnected, hparts, hvoltage, hrest.2.1, hrest.2.2]
  exact congrArg (· && true) hrest.1

theorem low_unready (s : VehicleState) (voltageV currentA : Option Double)
    (hlow : ¬kMinimumBatteryPercent ≤ percent) :
    ((s.updateBatteryLocked voltageV currentA (some percent) now).snapshot now).2.batteryReady =
      false := by
  obtain ⟨_, _, hready, _⟩ :=
    (s.updateBatteryLocked voltageV currentA (some percent) now).snapshot_readiness now
  have hpercent : ∃ b, ((s.updateBatteryLocked voltageV currentA (some percent)
      now).eraseOldWarnings now).batteryReady now =
        (b && decide (kMinimumBatteryPercent ≤ percent)) := ⟨_, rfl⟩
  obtain ⟨b, hb⟩ := hpercent
  rw [hready, hb, decide_eq_false hlow, Bool.and_false, Bool.and_false]

theorem battery_disturbs (voltages : Fin 10 → UInt16) (voltagesExt : Fin 4 → UInt16)
    (currentBattery : Int16) (batteryRemaining : Int8) :
    Disturbs system ⟨sysid, compid, .batteryStatus voltages voltagesExt currentBattery
      batteryRemaining⟩ := by
  by_cases hlow : ∀ percent, remainingPercent batteryRemaining = some percent →
      kMinimumBatteryPercent ≤ percent
  · refine ⟨staleTraffic system, seconds 11, ?_, rfl, ?_, ?_⟩
    · have hlater : (0 : TimePoint) ≤ seconds 11 := by decide
      have hready : Ordered (readyTraffic system) 0 := reporting_ordered _ _
      have hbeat := hready.cons (x := (heartbeatOf system, seconds 11)) hlater
      exact hbeat.cons (Int.le_refl (seconds 11))
    · intro x hx
      rcases List.mem_cons.1 hx with hx | hx
      · rw [hx]
      · rcases List.mem_cons.1 hx with hx | hx
        · rw [hx]
          rfl
        · exact reporting_own _ _ x hx
    · intro hsame
      have hbase : ((fed (staleTraffic system)).snapshot (seconds 11)).2.batteryReady = false := by
        rw [fed_stale]
        exact (readiness_system staleState (some system) _).battery.trans (by decide +kernel)
      have hwith := (readiness_system (staleState.updateBatteryLocked
        (batteryVoltage voltages voltagesExt) (currentFromCentiampere currentBattery)
        (remainingPercent batteryRemaining) (seconds 11)) (some system) (seconds 11)).battery
      have hnow := hsame.battery
      rw [hbase, fed, fed_stale] at hnow
      rw [renewed_ready _ _ hlow] at hwith
      exact Bool.false_ne_true (hnow.symm.trans hwith)
  · apply Disturbs.of_ready
    intro hsame
    have hnow := hsame.battery
    rw [readyTraffic_ready.1, fed, handleMessage] at hnow
    dsimp only at hnow
    simp only [not_forall] at hlow
    obtain ⟨percent, hpercent, hlow⟩ := hlow
    rw [hpercent, VehicleState.onBattery, low_unready _ _ _ hlow] at hnow
    cases hnow

theorem disturbs_of_reaches (hm : m.reachesReadiness = true) : Disturbs system m := by
  obtain ⟨sysid, compid, payload⟩ := m
  rw [MavlinkMessage.reachesReadiness] at hm
  cases payload with
  | gpsRawInt fixType satellitesVisible => exact gps_disturbs fixType satellitesVisible
  | globalPositionInt relativeAlt => exact position_disturbs relativeAlt
  | batteryStatus voltages voltagesExt current remaining =>
    exact battery_disturbs voltages voltagesExt current remaining
  | sysStatus enabled health voltage current remaining =>
    exact status_disturbs enabled health voltage current remaining
  | paramValue paramId value type => exact arming_disturbs (beq_iff_eq.1 hm) value type
  | statustext severity text => exact text_disturbs hm
  | heartbeat _ _ _ _ _ | localPositionNed _ _ _ | attitude _ _ _ | autopilotVersion _ _ _ _ _
  | commandAck _ _ _ _ _ _ | other _ _ => cases hm

end Disturbances

/-- The snapshot is about one vehicle exactly when no other system on the link sends a message that
reports something readiness or the altitude depends on. -/
theorem isolated_iff (system : UInt8) (F : MavlinkMessage → Prop) :
    Isolated system F ↔ ∀ m, F m → m.sysid ≠ system → m.reachesReadiness = false := by
  constructor
  · intro hi m hf hs
    rw [Bool.eq_false_iff]
    intro hm
    exact (disturbs_of_reaches hm).not_isolated hm hs hf hi
  · intro hquiet h k now hh hk hsh hsk hforeign hown
    obtain ⟨hgps, hbattery, hhealth, harmable, haltitude⟩ :=
      readiness_own hh hsh fun x hx hs => hquiet x.1 (hforeign x (List.mem_append_left _ hx) hs) hs
    obtain ⟨kgps, kbattery, khealth, karmable, kaltitude⟩ :=
      readiness_own hk hsk fun x hx hs => hquiet x.1 (hforeign x (List.mem_append_right _ hx) hs) hs
    rw [hown] at hgps hbattery hhealth harmable haltitude
    exact ⟨hgps.symm.trans kgps, hbattery.symm.trans kbattery, hhealth.symm.trans khealth,
      harmable.symm.trans karmable, haltitude.symm.trans kaltitude⟩

/-- A position fix that another system reports makes vehicle 1 look ready to navigate. -/
theorem readiness_of_other_system : ¬Isolated 1 fun _ => True := by
  intro hi
  have hsame := hi ((⟨2, 1, .gpsRawInt 3 10⟩, 0) :: reporting 1 []) (reporting 1 []) 0
    ((reporting_ordered 1 []).cons (Int.le_refl 0)) (reporting_ordered 1 []) rfl rfl
    (fun _ _ _ => trivial) rfl
  exact absurd hsame.gps (by decide +kernel)

end Traffic
end OnboardAutonomy
