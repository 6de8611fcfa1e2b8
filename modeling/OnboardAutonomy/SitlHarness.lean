import OnboardAutonomy.SnapshotDocuments
import OnboardAutonomy.DecimalValue

namespace JsonText
open DecimalText
set_option autoImplicit true

namespace Json

/-- What a dictionary gives for a name: the last value it was read with, or nothing. -/
def get (name : String) : Json → Json
  | .object ms => (ms.reverse.lookup name).getD .null
  | _ => .null

def isDictionary : Json → Bool
  | .object _ => true
  | _ => false

def isNone : Json → Bool
  | .null => true
  | _ => false

def isTrue : Json → Bool
  | .bool b => b
  | _ => false

def isFalse : Json → Bool
  | .bool b => !b
  | _ => false

def isText (expected : String) : Json → Bool
  | .string text => text == expected.toList
  | _ => false

/-- The exact value of a number. Reading it as a double rounds it, across no double. -/
def numberValue (text : List Char) : ℚ :=
  let mantissa := text.takeWhile fun c => c ≠ 'e' ∧ c ≠ 'E'
  match text.drop mantissa.length with
  | [] => decimalValue mantissa
  | _ :: exponent => decimalValue mantissa * 10 ^ (decimalValue (exponent.filter (· ≠ '+'))).num

def number? : Json → Option ℚ
  | .number text => some (numberValue text)
  | _ => none

end Json

theorem numberValue_plain (h : text.all fun c => c.isDigit || c = '-' || c = '.') :
    Json.numberValue text = decimalValue text := by
  have hall : ∀ c ∈ text, decide (c ≠ 'e' ∧ c ≠ 'E') = true := by
    intro c hc
    have hplain := List.all_eq_true.1 h c hc
    refine decide_eq_true ⟨?_, ?_⟩
    · rintro rfl
      exact absurd hplain (by decide)
    · rintro rfl
      exact absurd hplain (by decide)
  rw [Json.numberValue, List.takeWhile_eq_self_iff.2 hall, List.drop_length]

end JsonText

namespace OnboardAutonomy
open ExactDouble JsonText
set_option autoImplicit true

def PREARM_FAILURE_FRAGMENT : String := "MOT_SPIN_ARM > MOT_SPIN_MIN"

def snapshotHasRequiredTelemetry (snapshot : Json) : Bool :=
  (snapshot.get "connected").isTrue && !(snapshot.get "gps_fix_type").isNone &&
    !(snapshot.get "battery_voltage_v").isNone && (snapshot.get "system_health_known").isTrue

def snapshotIsReady (snapshot : Json) : Bool :=
  snapshotHasRequiredTelemetry snapshot && (snapshot.get "gps_ready").isTrue &&
    (snapshot.get "battery_ready").isTrue && (snapshot.get "system_health_ok").isTrue &&
    (snapshot.get "armable").isTrue

def snapshotIsDisconnected (snapshot : Json) : Bool := (snapshot.get "connected").isFalse

def snapshotHasGpsFailure (snapshot : Json) : Bool :=
  let fixType := snapshot.get "gps_fix_type"
  let fixIsUnusable := fixType.isNone || fixType.number?.any fun fix => fix < 3
  (snapshot.get "connected").isTrue && fixIsUnusable && (snapshot.get "gps_ready").isFalse &&
    (snapshot.get "battery_ready").isTrue && (snapshot.get "system_health_known").isTrue &&
    (snapshot.get "armable").isFalse

def snapshotHasLowBattery (snapshot : Json) : Bool :=
  let remainingIsLow := (snapshot.get "battery_remaining_pct").number?.any fun remaining =>
    0 ≤ remaining && remaining < 20
  (snapshot.get "connected").isTrue && (snapshot.get "gps_ready").isTrue && remainingIsLow &&
    (snapshot.get "battery_ready").isFalse && (snapshot.get "system_health_known").isTrue &&
    (snapshot.get "armable").isFalse

/-- The warning the harness waits for. -/
def expectedWarning (warning : List Char) : Bool :=
  "PreArm:".toList.isPrefixOf warning &&
    warning.tails.any PREARM_FAILURE_FRAGMENT.toList.isPrefixOf

def snapshotHasPrearmFailure (snapshot : Json) : Bool :=
  let hasExpectedWarning :=
    match snapshot.get "warnings" with
    | .array warnings => warnings.any fun
      | .string warning => expectedWarning warning
      | _ => false
    | _ => false
  (snapshot.get "connected").isTrue && (snapshot.get "gps_ready").isTrue &&
    (snapshot.get "battery_ready").isTrue && (snapshot.get "system_health_known").isTrue &&
    (snapshot.get "system_health_ok").isFalse && hasExpectedWarning &&
    (snapshot.get "armable").isFalse

def snapshotCompletedAutonomy (snapshot : Json) : Bool :=
  let startup := snapshot.get "flight_startup"
  let autonomy := snapshot.get "autonomy"
  startup.isDictionary && (startup.get "phase").isText "completed" && autonomy.isDictionary &&
    (autonomy.get "phase").isText "completed" && (snapshot.get "armed").isFalse

def snapshotFailedAutonomy (snapshot : Json) : Bool :=
  let autonomy := snapshot.get "autonomy"
  autonomy.isDictionary && (autonomy.get "phase").isText "failed"

end OnboardAutonomy
