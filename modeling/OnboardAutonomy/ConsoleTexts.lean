import OnboardAutonomy.ConsoleView
import OnboardAutonomy.SnapshotDocuments

namespace OnboardAutonomy
open ExactDouble DecimalText JsonText
set_option autoImplicit true

namespace Console

/-- A text stays on one line. -/
def Unbroken (text : List Char) : Prop := '\n' ∉ text

instance : Decidable (Unbroken text) := inferInstanceAs (Decidable ('\n' ∉ text))

@[simp] theorem unbroken_append : Unbroken (a ++ b) ↔ Unbroken a ∧ Unbroken b := by
  rw [Unbroken, List.mem_append, not_or]
  rfl

theorem unbroken_number (h : Number text) : Unbroken text := by
  intro hmem
  have hchar := h.chars '\n' hmem
  contradiction

/-- The same of a string. -/
def OneLine (text : String) : Prop := Unbroken text.toList

instance {text : String} : Decidable (OneLine text) := inferInstanceAs (Decidable (Unbroken _))

@[simp] theorem oneLine_append {s t : String} : OneLine (s ++ t) ↔ OneLine s ∧ OneLine t := by
  rw [OneLine, String.toList_append, unbroken_append]
  rfl

theorem OneLine.ite {s t : String} [Decidable p] (hs : OneLine s) (ht : OneLine t) :
    OneLine (if p then s else t) := by
  split
  · exact hs
  · exact ht

@[simp] theorem toString_oneLine {α : Type} [ToString α] [Numeral α] {n : α} :
    OneLine (toString n) :=
  unbroken_number (Numeral.number n)

@[simp] theorem natRepr_oneLine {n : Nat} : OneLine n.repr := toString_oneLine (n := n)

@[simp] theorem intRepr_oneLine {n : Int} : OneLine n.repr := toString_oneLine (n := n)

@[simp] theorem fixed_oneLine {digits : Nat} : OneLine (fixed digits d) := by
  cases d with
  | finite q => exact unbroken_number fixed_number
  | posInf => exact (by decide : OneLine "inf")
  | negInf => exact (by decide : OneLine "-inf")
  | nan => exact (by decide : OneLine "nan")

@[simp] theorem optionally_oneLine {value : Option α} {text : α → String} :
    OneLine (optionally value text) ↔ ∀ a, value = some a → OneLine (text a) := by
  cases value with
  | none =>
    refine iff_of_true (by decide : OneLine "") ?_
    intro a h
    cases h
  | some a =>
    refine ⟨?_, fun h => h a rfl⟩
    intro h b he
    rw [← Option.some.inj he]
    exact h

theorem gpsFixName_oneLine : OneLine (gpsFixName fixType) := by
  unfold gpsFixName
  split <;> decide

theorem flightModeName_oneLine : OneLine (flightModeName mode) := by
  unfold flightModeName
  split <;> simp +decide

theorem autopilotName_oneLine : OneLine (autopilotName type) := by
  unfold autopilotName
  split
  · decide
  · split_ifs <;> simp +decide

theorem firmwareReleaseName_oneLine : OneLine (firmwareReleaseName releaseType) := by
  unfold firmwareReleaseName
  split_ifs <;> decide

theorem firmwareDetail_oneLine : OneLine (firmwareDetail vehicle) := by
  rw [firmwareDetail]
  split_ifs
  · cases vehicle.autopilotMetadata with
    | none => decide
    | some metadata => simp +decide [firmwareReleaseName_oneLine]
  · decide

theorem telemetryDetail_oneLine : OneLine (telemetryDetail telemetry) := by
  rw [telemetryDetail]
  cases telemetry.state <;> simp +decide

theorem companionLinkFailsafeDetail_oneLine {failsafe : CompanionLinkFailsafeSnapshot}
    (h : OneLine failsafe.detail) : OneLine (companionLinkFailsafeDetail failsafe) := by
  rw [companionLinkFailsafeDetail]
  split_ifs <;> simp +decide [h]

theorem cameraStreamDetail_oneLine : OneLine (cameraStreamDetail camera) := by
  have hname : OneLine (cameraPhaseName camera) := by
    rw [cameraPhaseName]
    cases camera.phase <;> decide
  rw [cameraStreamDetail]
  split_ifs <;> simp +decide [hname]

theorem cameraLatencyDetail_oneLine {camera : Serialised.CameraSnapshot}
    (h : OneLine camera.error) : OneLine (cameraLatencyDetail camera) := by
  rw [cameraLatencyDetail]
  split_ifs
  · cases camera.latestLatencyMs <;> simp +decide
  · exact h

theorem visionPipelineDetail_oneLine {vision : Serialised.VisionSnapshot}
    (h : OneLine vision.detector) : OneLine (visionPipelineDetail vision) := by
  simp +decide [visionPipelineDetail, h]

theorem positionDetail_oneLine : OneLine (positionDetail position) := by
  unfold positionDetail
  simp only [oneLine_append, fixed_oneLine, and_true]
  decide

theorem observationDetail_oneLine : OneLine (observationDetail target) := by
  rw [observationDetail, oneLine_append]
  cases target.pose with
  | some pose =>
    simp only [oneLine_append, toString_oneLine, positionDetail_oneLine, and_true]
    decide
  | none =>
    simp only [oneLine_append, toString_oneLine, fixed_oneLine, and_true]
    decide

theorem visionTargetDetail_oneLine : OneLine (visionTargetDetail vision) := by
  unfold visionTargetDetail
  split
  · exact oneLine_append.2 ⟨by decide, positionDetail_oneLine⟩
  · exact oneLine_append.2 ⟨by decide, positionDetail_oneLine⟩
  · decide
  · refine oneLine_append.2 ⟨observationDetail_oneLine, .ite ?_ (by decide)⟩
    simp only [oneLine_append, toString_oneLine, and_true]
    decide

theorem visionTrackStatusDetail_oneLine (h : visionTrackStatusDetail vision = some status) :
    OneLine status := by
  unfold visionTrackStatusDetail at h
  dsimp only at h
  split at h
  · cases h
  · cases h
  · rw [← Option.some.inj h]
    split_ifs <;> simp +decide

theorem altitudeDetail_oneLine : OneLine (altitudeDetail vehicle) := by
  rw [altitudeDetail]
  cases vehicle.relativeAltitudeM <;> simp +decide

theorem gpsDetail_oneLine : OneLine (gpsDetail vehicle) := by
  simp +decide [gpsDetail, gpsFixName_oneLine]

theorem batteryDetail_oneLine : OneLine (batteryDetail vehicle) := by
  rw [batteryDetail]
  cases vehicle.batteryVoltageV <;> cases vehicle.batteryRemainingPct <;> simp +decide

theorem modeDetail_oneLine : OneLine (modeDetail vehicle) := by
  simp only [modeDetail, oneLine_append]
  refine ⟨⟨⟨⟨⟨⟨⟨?_, flightModeName_oneLine⟩, ?_⟩, altitudeDetail_oneLine⟩, ?_⟩,
    gpsDetail_oneLine⟩, ?_⟩, batteryDetail_oneLine⟩
  all_goals decide

theorem overallStatus_oneLine : OneLine (overallStatus snapshot) := by
  rw [overallStatus]
  apply OneLine.ite (by decide)
  apply OneLine.ite (by decide)
  apply OneLine.ite (by decide)
  apply OneLine.ite (by decide)
  apply OneLine.ite (by decide)
  exact .ite (by decide) (by decide)

theorem controllerMode_oneLine : OneLine (controllerMode vehicle) := by
  rw [controllerMode]
  split_ifs <;> simp +decide [flightModeName_oneLine]

theorem autonomyPhaseName_oneLine : OneLine (autonomyPhaseName phase) := by
  cases phase <;> decide

theorem startupPhaseName_oneLine : OneLine (startupPhaseName phase) := by
  cases phase <;> decide

end Console
end OnboardAutonomy
