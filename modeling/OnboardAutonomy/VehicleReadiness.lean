import OnboardAutonomy.VehicleReports

namespace OnboardAutonomy
open ExactDouble Histories
set_option autoImplicit true

abbrev VehicleEntry := Entry VehicleState VehicleEvent (Option VehicleSnapshot)

/-- The calls of a history, newest first. -/
def vehicleEvents (h : List VehicleEntry) : List VehicleEvent := h.map (·.input)

/-- The evidence that the vehicle can be armed, except for the age of the voltage. -/
structure OtherEvidence (h : List VehicleEvent) (now : TimePoint) : Prop where
  heartbeat : ∃ t, latest VehicleEvent.heartbeatAt h = some t ∧ now - t ≤ kHeartbeatTimeout
  gps : GpsFixed h now
  sensors : SensorsHealthy h now
  batterySensor : BatterySensorHealthy h now
  voltage : VoltageSufficient h
  remaining : RemainingSufficient h
  unwarned : Unwarned (fun _ => true) kBlockingWarningTimeout h now
  batteryUnwarned : Unwarned containsBattery kWarningTimeout h now

/-- The newest voltage itself is recent. -/
def VoltageRecent : List VehicleEvent → TimePoint → Prop :=
  Recent VehicleEvent.voltageReport kBatteryTimeout fun _ => True

namespace VehicleState

/-- The runs of the vehicle state, with calls in the order of their times. -/
def Ran (h : List VehicleEntry) (s : VehicleState) : Prop :=
  Run step (fun h _ e => Timed VehicleEvent.times h e) {} h s

theorem Ran.recorded (hr : Ran h s) :
    Recorded (vehicleEvents h) s ∧ Warned (vehicleEvents h) s := by
  apply hr.history_invariant fun h s => Recorded (vehicleEvents h) s ∧ Warned (vehicleEvents h) s
  · exact ⟨.start, .start⟩
  · intro h s e _ hi hl
    refine ⟨hi.1.step e, hi.2.step e ?_⟩
    intro e' he' u hu t ht
    obtain ⟨entry, hentry, rfl⟩ := List.mem_map.1 he'
    exact hl.2 entry hentry u hu t ht

/-- A snapshot that shows the vehicle armable has all the evidence but one thing: the battery has
reported something recently, not necessarily its voltage. -/
theorem armable_evidence (hr : Ran h s) (hl : Timed VehicleEvent.times h (.snapshot now)) :
    (s.snapshot now).2.armable = true ↔
      OtherEvidence (vehicleEvents h) now ∧ BatteryRenewed (vehicleEvents h) now := by
  obtain ⟨hrecorded, hwarned⟩ := hr.recorded
  have hpast : ∀ e ∈ vehicleEvents h, ∀ t ∈ e.times, t ≤ now := by
    intro e he t ht
    obtain ⟨entry, hentry, rfl⟩ := List.mem_map.1 he
    exact hl.2 entry hentry t ht now List.mem_cons_self
  rw [armable_iff hrecorded hwarned hpast, batteryReady_iff hrecorded hwarned hpast]
  constructor
  · intro ⟨hheartbeat, hgps, ⟨hrenewed, hvoltage, hsensor, hbattery, hremaining⟩, hsensors, hnone⟩
    have hseen : ∃ t, latest VehicleEvent.heartbeatAt (vehicleEvents h) = some t ∧
        now - t ≤ kHeartbeatTimeout := by
      cases hlatest : latest VehicleEvent.heartbeatAt (vehicleEvents h) with
      | none =>
        rw [hlatest] at hheartbeat
        cases hheartbeat
      | some t =>
        rw [hlatest] at hheartbeat
        exact ⟨t, rfl, of_decide_eq_true hheartbeat⟩
    exact ⟨⟨hseen, hgps, hsensors, hsensor, hvoltage, hremaining, hnone, hbattery⟩, hrenewed⟩
  · intro ⟨ho, hrenewed⟩
    obtain ⟨t, hlatest, hfresh⟩ := ho.heartbeat
    refine ⟨?_, ho.gps, ⟨hrenewed, ho.voltage, ho.batterySensor, ho.batteryUnwarned,
      ho.remaining⟩, ho.sensors, ho.unwarned⟩
    rw [hlatest]
    exact decide_eq_true hfresh

/-- A snapshot shows the vehicle armable on recent evidence alone, unless all other evidence is
there and the battery's stamp was renewed by reports without a voltage. -/
theorem armable_witnessed_iff (hr : Ran h s) (hl : Timed VehicleEvent.times h (.snapshot now)) :
    ((s.snapshot now).2.armable = true →
      OtherEvidence (vehicleEvents h) now ∧ VoltageRecent (vehicleEvents h) now) ↔
    ¬(OtherEvidence (vehicleEvents h) now ∧ BatteryRenewed (vehicleEvents h) now ∧
      ¬VoltageRecent (vehicleEvents h) now) := by
  rw [armable_evidence hr hl]
  constructor
  · intro hw ⟨ho, hrenewed, hold⟩
    exact hold (hw ⟨ho, hrenewed⟩).2
  · intro hn ⟨ho, hrenewed⟩
    exact ⟨ho, not_not.1 fun hold => hn ⟨ho, hrenewed, hold⟩⟩

/-- A vehicle reports its voltage once, and eleven seconds later everything else. -/
def reportsWithoutVoltage : List VehicleEvent :=
  [.battery (some (.finite 15)) none none 0,
   .batteryArmingVoltage (.finite 14) 0,
   .heartbeat 1 1 2 3 0 0 3 (seconds 11),
   .gps 3 10 (seconds 11),
   .systemStatus kBatterySensorFlag kBatterySensorFlag none none (some 80) (seconds 11)]

theorem reportsWithoutVoltage_ran :
    Ran (play step [] {} reportsWithoutVoltage).1 (play step [] {} reportsWithoutVoltage).2 ∧
      Timed VehicleEvent.times (play step [] {} reportsWithoutVoltage).1
        (.snapshot (seconds 11)) := by
  constructor
  · apply Run.start.play_timed
    · intro e he
      cases he
    · decide
  · refine ⟨List.pairwise_singleton _ _, ?_⟩
    intro e he u hu t ht
    have hpast : ∀ e ∈ vehicleEvents (play step [] {} reportsWithoutVoltage).1, ∀ u ∈ e.times,
        u ≤ seconds 11 := by decide +kernel
    rw [List.mem_singleton.1 ht]
    exact hpast e.input (List.mem_map_of_mem he) u hu

theorem armable_witnessed_iff_old :
    ((((play step [] {} reportsWithoutVoltage).2.snapshot (seconds 11)).2.armable = true →
      OtherEvidence (vehicleEvents (play step [] {} reportsWithoutVoltage).1) (seconds 11) ∧
        VoltageRecent (vehicleEvents (play step [] {} reportsWithoutVoltage).1) (seconds 11)) ↔
    ¬(OtherEvidence (vehicleEvents (play step [] {} reportsWithoutVoltage).1) (seconds 11) ∧
      BatteryRenewed (vehicleEvents (play step [] {} reportsWithoutVoltage).1) (seconds 11) ∧
      ¬VoltageRecent (vehicleEvents (play step [] {} reportsWithoutVoltage).1) (seconds 11))) :=
  armable_witnessed_iff reportsWithoutVoltage_ran.1 reportsWithoutVoltage_ran.2

/-- The vehicle counts as armable on a voltage that is older than the battery timeout. -/
theorem armable_on_old_voltage :
    ∃ h s now, Ran h s ∧ Timed VehicleEvent.times h (.snapshot now) ∧
      (s.snapshot now).2.armable = true ∧ ¬VoltageRecent (vehicleEvents h) now := by
  refine ⟨_, _, seconds 11, reportsWithoutVoltage_ran.1, reportsWithoutVoltage_ran.2,
    by decide +kernel, ?_⟩
  intro hrecent
  have hlatest : latest VehicleEvent.voltageReport
      (vehicleEvents (play step [] {} reportsWithoutVoltage).1) = some (0, .finite 15) := by
    decide +kernel
  rw [VoltageRecent, recent_some hlatest] at hrecent
  exact absurd hrecent.1 (by decide)

end VehicleState
end OnboardAutonomy
