import OnboardAutonomy.VehicleTraffic

namespace OnboardAutonomy
open ExactDouble Histories
set_option autoImplicit true

/-- The value a field carries when its voltage is not sent. -/
def kVoltageNotSent : UInt16 := 65535

/-- A cell that carries a voltage. -/
def presentCell (cell : UInt16) : Bool := cell != 0 && cell != kVoltageNotSent

def presentCells (cells : List UInt16) : List UInt16 := cells.filter presentCell

def addVolts (total : Double) (cell : UInt16) : Double := total.plus (volts cell)

/-- The voltage of the pack, if any cell carries one. -/
def packVoltage (cells : List UInt16) : Option Double :=
  if presentCells cells = [] then none else some ((presentCells cells).foldl addVolts (.finite 0))

theorem volts_near (cell : UInt16) :
    ∃ v, volts cell = .finite v ∧ |v - cell.toNat / 1000| ≤ roundingError := by
  have hcell : (cell.toNat : ℚ) < 65536 := by exact_mod_cast cell.toNat_lt
  apply rounded_near
  rw [abs_of_nonneg (by positivity)]
  linarith

theorem addVolts_near (cells : List UInt16) (total sum : ℚ) (added : ℕ)
    (hcount : added + cells.length ≤ 14) (hsum : 0 ≤ sum ∧ sum ≤ 66 * added)
    (hnear : |total - sum| ≤ 2 * added * roundingError) :
    ∃ v, cells.foldl addVolts (.finite total) = .finite v ∧
      |v - (sum + (cells.map UInt16.toNat).sum / 1000)| ≤
        2 * (added + cells.length : ℕ) * roundingError := by
  induction cells generalizing total sum added with
  | nil =>
    refine ⟨total, rfl, ?_⟩
    rwa [List.map_nil, List.sum_nil, Nat.cast_zero, zero_div, add_zero, List.length_nil, add_zero]
  | cons cell cells ih =>
    rw [List.length_cons] at hcount
    obtain ⟨v, hv, hvnear⟩ := volts_near cell
    have hcell : (cell.toNat : ℚ) ≤ 65535 := by exact_mod_cast Nat.le_of_lt_succ cell.toNat_lt
    have hcell0 : (0 : ℚ) ≤ cell.toNat := by positivity
    have hadded : (added : ℚ) ≤ 13 := by exact_mod_cast (by omega : added ≤ 13)
    have hbudget : 2 * added * roundingError ≤ 26 * roundingError := by
      have herror0 : 0 ≤ roundingError := by norm_num [roundingError]
      nlinarith
    have herror : roundingError ≤ 1 / 1000 := by norm_num [roundingError]
    rw [abs_le] at hnear hvnear
    obtain ⟨r, hr, hrnear⟩ : ∃ r, Double.rounded (total + v) = .finite r ∧
        |r - (total + v)| ≤ roundingError := by
      apply rounded_near
      rw [abs_lt]
      exact ⟨by linarith, by linarith⟩
    have hnext : addVolts (.finite total) cell = .finite r := by
      rw [addVolts, hv]
      exact hr
    rw [abs_le] at hrnear
    obtain ⟨w, hw, hwnear⟩ := ih r (sum + cell.toNat / 1000) (added + 1)
      (by omega) ⟨by linarith, by push_cast; linarith⟩
      (by rw [abs_le]; push_cast; exact ⟨by linarith, by linarith⟩)
    refine ⟨w, by rw [List.foldl_cons, hnext, hw], ?_⟩
    rw [List.map_cons, List.sum_cons, List.length_cons, Nat.cast_add, add_div, ← add_assoc,
      Nat.add_comm cells.length 1, ← Nat.add_assoc]
    exact hwnear

/-- The voltage of a pack is the sum of its cells up to rounding. -/
theorem packVoltage_near {cells : List UInt16} (hcount : cells.length ≤ 14)
    (hv : packVoltage cells = some v) :
    ∃ q, v = .finite q ∧
      |q - ((presentCells cells).map UInt16.toNat).sum / 1000| ≤ 28 * roundingError := by
  rw [packVoltage] at hv
  split at hv
  · cases hv
  · have hpresent : (presentCells cells).length ≤ 14 :=
      (List.length_filter_le presentCell cells).trans hcount
    obtain ⟨q, hq, hnear⟩ := addVolts_near (presentCells cells) 0 0 0
      (by omega) (by norm_num) (by norm_num)
    refine ⟨q, (Option.some.inj hv).symm.trans hq, ?_⟩
    rw [zero_add, Nat.zero_add] at hnear
    refine hnear.trans ?_
    have hlength : ((presentCells cells).length : ℚ) ≤ 14 := by exact_mod_cast hpresent
    have herror : 0 ≤ roundingError := by norm_num [roundingError]
    nlinarith

namespace MavlinkPayload

/-- The battery voltage a message carries, where the values for none are none. -/
def carriedVoltage : MavlinkPayload → Option Double
  | .batteryStatus voltages voltagesExt _ _ =>
    packVoltage (List.ofFn voltages ++ List.ofFn voltagesExt)
  | .sysStatus _ _ voltageBattery _ _ =>
    if voltageBattery = 0 ∨ voltageBattery = kVoltageNotSent then none
    else some (volts voltageBattery)
  | _ => none

/-- The voltage the decoder hands to the vehicle state. -/
def decodedVoltage : MavlinkPayload → Option Double
  | .batteryStatus voltages voltagesExt _ _ => batteryVoltage voltages voltagesExt
  | .sysStatus _ _ voltageBattery _ _ => sysStatusVoltage voltageBattery
  | _ => none

/-- A system status that does not send the voltage. -/
def withholdsVoltage : MavlinkPayload → Bool
  | .sysStatus _ _ voltageBattery _ _ => voltageBattery == kVoltageNotSent
  | _ => false

end MavlinkPayload

theorem field_pos {value : UInt16} (h : value ≠ 0) : 0 < value := by
  rcases Nat.eq_zero_or_pos value.toNat with hzero | hpos
  · exact absurd (UInt16.toNat_inj.1 hzero) h
  · exact UInt16.lt_iff_toNat_lt.2 hpos

theorem addVoltage_present (h : presentCell cell = true) (total : Option Double) :
    addVoltage total cell = some ((total.getD (.finite 0)).plus (volts cell)) := by
  rw [presentCell, Bool.and_eq_true, bne_iff_ne, bne_iff_ne] at h
  exact if_pos ⟨field_pos h.1, h.2⟩

theorem addVoltage_absent (h : presentCell cell = false) (total : Option Double) :
    addVoltage total cell = total := by
  apply if_neg
  intro hpresent
  have hcell : presentCell cell = true := by
    rw [presentCell, Bool.and_eq_true, bne_iff_ne, bne_iff_ne]
    exact ⟨fun hzero => absurd hpresent.1 (by rw [hzero]; decide), hpresent.2⟩
  rw [hcell] at h
  cases h

theorem presentCells_present (h : presentCell cell = true) (cells : List UInt16) :
    presentCells (cell :: cells) = cell :: presentCells cells :=
  List.filter_cons_of_pos h

theorem presentCells_absent (h : presentCell cell = false) (cells : List UInt16) :
    presentCells (cell :: cells) = presentCells cells :=
  List.filter_cons_of_neg (by rw [h]; exact Bool.false_ne_true)

theorem addVoltage_total (total : Double) (cells : List UInt16) :
    cells.foldl addVoltage (some total) =
      some ((presentCells cells).foldl addVolts total) := by
  induction cells generalizing total with
  | nil => rfl
  | cons cell cells ih =>
    rw [List.foldl_cons]
    cases h : presentCell cell with
    | true => 
      rw [addVoltage_present h, Option.getD_some, ← addVolts, ih, presentCells_present h,
        List.foldl_cons]
    | false => rw [addVoltage_absent h, ih, presentCells_absent h]

theorem addVoltage_pack (cells : List UInt16) :
    cells.foldl addVoltage none = packVoltage cells := by
  induction cells with
  | nil => rfl
  | cons cell cells ih =>
    rw [List.foldl_cons]
    cases h : presentCell cell with
    | true =>
      rw [addVoltage_present h, addVoltage_total, packVoltage, presentCells_present h,
        if_neg (List.cons_ne_nil _ _), List.foldl_cons, Option.getD_none, ← addVolts]
    | false => rw [addVoltage_absent h, ih, packVoltage, packVoltage, presentCells_absent h]

/-- The two paths of the decoder differ from what is carried in one value only. -/
theorem MavlinkPayload.decodedVoltage_eq (p : MavlinkPayload) :
    p.decodedVoltage =
      if p.withholdsVoltage then some (volts kVoltageNotSent) else p.carriedVoltage := by
  cases p with
  | batteryStatus voltages voltagesExt _ _ => exact addVoltage_pack _
  | sysStatus _ _ voltageBattery _ _ =>
    simp only [decodedVoltage, withholdsVoltage, carriedVoltage, sysStatusVoltage, beq_iff_eq]
    by_cases hsent : voltageBattery = kVoltageNotSent
    · rw [hsent]
      rfl
    rw [if_neg hsent]
    by_cases hzero : voltageBattery = 0
    · rw [hzero]
      rfl
    rw [if_pos (field_pos hzero), if_neg (fun h => h.elim hzero hsent)]
  | _ => rfl

theorem MavlinkPayload.carriedVoltage_withheld {p : MavlinkPayload}
    (h : p.withholdsVoltage = true) : p.carriedVoltage = none := by
  cases p with
  | sysStatus _ _ voltageBattery _ _ => exact if_pos (.inr (beq_iff_eq.1 h))
  | _ => cases h

theorem MavlinkMessage.voltageReport (m : MavlinkMessage) (now : TimePoint) :
    ((m.vehicleEvent now).bind VehicleEvent.voltageReport).map (·.2) =
      m.payload.decodedVoltage := by
  rw [vehicleEvent]
  cases m.payload with
  | batteryStatus voltages voltagesExt _ _ =>
    simp only [Option.bind_some, VehicleEvent.voltageReport, VehicleEvent.batteryReport,
      MavlinkPayload.decodedVoltage, Option.map_map]
    cases batteryVoltage voltages voltagesExt <;> rfl
  | sysStatus _ _ voltageBattery currentBattery batteryRemaining =>
    simp only [Option.bind_some, VehicleEvent.voltageReport, VehicleEvent.batteryReport,
      MavlinkPayload.decodedVoltage]
    cases sysStatusVoltage voltageBattery with
    | none => split <;> rfl
    | some voltage => rfl
  | heartbeat _ _ _ _ _ => dsimp only; split <;> rfl
  | autopilotVersion _ _ _ _ _ => dsimp only; split <;> rfl
  | paramValue _ _ _ => dsimp only; split <;> rfl
  | _ => rfl

namespace Traffic

/-- The voltage of the newest message that carries one. -/
def carriedVoltage (h : Traffic) : Option Double := latest (·.1.payload.carriedVoltage) h

theorem fed_voltage (h : Traffic) :
    (fed h).batteryVoltageV = latest (·.1.payload.decodedVoltage) h := by
  rw [(fed_recorded h).voltage, events, latest_filterMap]
  induction h with
  | nil => rfl
  | cons x h ih =>
    rw [latest_cons, latest_cons, ← ih, ← MavlinkMessage.voltageReport x.1 x.2]
    cases (x.1.vehicleEvent x.2).bind VehicleEvent.voltageReport <;> rfl

/-- The newest message carries no voltage, and the stored one stays. -/
def Unchanged : Traffic → Prop
  | [] => True
  | x :: h => x.1.payload.carriedVoltage = none →
    (fed (x :: h)).batteryVoltageV = (fed h).batteryVoltageV

/-- The stored voltage is the one of the newest message that carries one, a message without one
leaves it, and without any the check against the arming voltage fails. -/
structure VoltageFaithful (h : Traffic) : Prop where
  stored : (fed h).batteryVoltageV = h.carriedVoltage
  unchanged : h.Unchanged
  missing : h.carriedVoltage = none → (fed h).voltageMeetsArmingThreshold = false

/-- Whenever a system status does not send the voltage, the voltage is the one that its field would
stand for. -/
def WithheldHarmless (h : Traffic) : Prop :=
  ∀ x g, x :: g <:+ h → x.1.payload.withholdsVoltage = true →
    carriedVoltage g = some (volts kVoltageNotSent)

theorem carriedVoltage_cons (x : MavlinkMessage × TimePoint) (h : Traffic) :
    carriedVoltage (x :: h) = x.1.payload.carriedVoltage.or (carriedVoltage h) := latest_cons _ x h

theorem fed_voltage_cons (x : MavlinkMessage × TimePoint) (h : Traffic) :
    (fed (x :: h)).batteryVoltageV =
      x.1.payload.decodedVoltage.or (fed h).batteryVoltageV := by
  rw [fed_voltage, fed_voltage, latest_cons]

theorem stored_carried {h : Traffic} (hh : h.WithheldHarmless) :
    (fed h).batteryVoltageV = h.carriedVoltage := by
  induction h with
  | nil => rfl
  | cons x h ih =>
    have hbefore := ih fun y g hg => hh y g (hg.trans (List.suffix_cons x h))
    rw [fed_voltage_cons, carriedVoltage_cons, hbefore, MavlinkPayload.decodedVoltage_eq]
    cases hw : x.1.payload.withholdsVoltage with
    | false => rfl
    | true =>
      rw [MavlinkPayload.carriedVoltage_withheld hw, hh x h (List.suffix_refl _) hw]
      rfl

theorem WithheldHarmless.faithful {h : Traffic} (hh : h.WithheldHarmless) : h.VoltageFaithful where
  stored := stored_carried hh
  unchanged := by
    cases h with
    | nil => trivial
    | cons x h =>
      intro hnone
      rw [stored_carried hh, carriedVoltage_cons, hnone, Option.none_or,
        stored_carried fun y g hg => hh y g (hg.trans (List.suffix_cons x h))]
  missing hnone := by
    rw [VehicleState.voltageMeetsArmingThreshold, stored_carried hh, hnone]

/-- Along the messages the battery voltage is the one they carry, and missing data are not taken
for a voltage, exactly as long as a withheld voltage does no harm. -/
theorem battery_voltage_faithful_iff (h : Traffic) :
    (∀ g, g <:+ h → VoltageFaithful g) ↔ h.WithheldHarmless := by
  constructor
  · intro hall x g hg hw
    have hstored := (hall (x :: g) hg).stored
    rw [fed_voltage_cons, carriedVoltage_cons, MavlinkPayload.decodedVoltage_eq, if_pos hw,
      MavlinkPayload.carriedVoltage_withheld hw] at hstored
    exact hstored.symm
  · intro hh g hg
    exact WithheldHarmless.faithful fun x k hk => hh x k (hk.trans hg)

/-- The vehicle asks for 10.5 V before arming, and its system status does not send a voltage. -/
def withheldTraffic : Traffic :=
  [(⟨1, 1, .sysStatus 0 0 65535 (-1) (-1)⟩, seconds 2),
    (⟨1, 1, .paramValue "BATT_ARM_VOLT" (.finite (105 / 10)) 9⟩, seconds 1)]

theorem battery_voltage_withheld :
    ¬(∀ (h g : Traffic), g <:+ h → VoltageFaithful g) ∧
      withheldTraffic.carriedVoltage = none ∧
      (fed withheldTraffic).batteryVoltageV = some (volts kVoltageNotSent) ∧
      (fed withheldTraffic).voltageMeetsArmingThreshold = true := by
  have hvoltage : (fed withheldTraffic).batteryVoltageV = some (volts kVoltageNotSent) := by
    decide +kernel
  refine ⟨?_, rfl, hvoltage, by decide +kernel⟩
  intro hall
  have hstored := (hall withheldTraffic withheldTraffic (List.suffix_refl _)).stored
  rw [hvoltage] at hstored
  cases hstored

end Traffic

end OnboardAutonomy
