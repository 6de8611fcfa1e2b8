import OnboardAutonomy.JsonLines
import OnboardAutonomy.SnapshotDocuments

namespace OnboardAutonomy
open ExactDouble DecimalText JsonText
set_option autoImplicit true

def printable (c : Char) : Bool := 0x20 ≤ c.toNat && c.toNat < 0x7f

/-- Nothing a text stream takes for the end of a line. -/
def Solid (c : Char) : Prop := c ≠ '\n' ∧ c ≠ '\r'

theorem printable_solid (h : printable c = true) : Solid c := by
  constructor
  · rintro rfl
    exact absurd h (by decide)
  · rintro rfl
    exact absurd h (by decide)

theorem escapeChar_solid (c : Char) : ∀ d ∈ escapeChar c, Solid d := by
  intro d hd
  unfold escapeChar at hd
  split at hd
  · exact printable_solid (List.all_eq_true.1 (by decide) d hd)
  · exact printable_solid (List.all_eq_true.1 (by decide) d hd)
  · exact printable_solid (List.all_eq_true.1 (by decide) d hd)
  · exact printable_solid (List.all_eq_true.1 (by decide) d hd)
  · exact printable_solid (List.all_eq_true.1 (by decide) d hd)
  · rename_i hline hreturn _
    rw [List.mem_singleton.1 hd]
    exact ⟨hline, hreturn⟩

theorem isDigit_printable (h : c.isDigit = true) : printable c = true := by
  rw [Char.isDigit, Bool.and_eq_true, decide_eq_true_eq, decide_eq_true_eq] at h
  have hlow : 48 ≤ c.toNat := h.1
  have hhigh : c.toNat ≤ 57 := h.2
  rw [printable, Bool.and_eq_true, decide_eq_true_eq, decide_eq_true_eq]
  omega

theorem numberChar_printable (h : isNumberChar c = true) : printable c = true := by
  rw [isNumberChar] at h
  simp only [Bool.or_eq_true, decide_eq_true_eq] at h
  rcases h with ((((h | rfl) | rfl) | rfl) | rfl) | rfl
  · exact isDigit_printable h
  · decide
  · decide
  · decide
  · decide
  · decide

theorem number_printable (h : Number text) : ∀ c ∈ text, printable c = true :=
  fun c hc => numberChar_printable (h.chars c hc)

theorem double_printable (o : Ostringstream) (d : Double) :
    ∀ c ∈ (o.doubleText d).toList, printable c = true := by
  rcases doubleText_spec o d with ⟨-, hnumber⟩ | ⟨hinfinite, -⟩
  · exact number_printable hnumber
  · rw [Ostringstream.doubleText]
    apply List.all_eq_true.1
    cases d with
    | finite q => cases hinfinite
    | posInf =>
      have hword : "inf".toList.all printable = true := by decide
      split <;> exact hword
    | negInf =>
      have hword : "-inf".toList.all printable = true := by decide
      split <;> exact hword
    | nan =>
      have hword : "nan".toList.all printable = true := by decide
      split <;> exact hword

/-- Members whose names and values are written with characters of a kind. -/
def WrittenAll (p : Char → Prop) (ms : List (String × Json)) : Prop :=
  ∀ m ∈ ms, (∀ c ∈ m.1.toList, p c) ∧ m.2.Written p escapeChar

/-- A kind of characters that all printable ones are of. -/
structure Wide (p : Char → Prop) : Prop where
  shown : ∀ c, printable c = true → p c

namespace Wide
variable {p : Char → Prop}

theorem word (hp : Wide p) {text : List Char} (h : text.all printable = true) : ∀ c ∈ text, p c :=
  fun c hc => hp.shown c (List.all_eq_true.1 h c hc)

theorem double (hp : Wide p) (o : Ostringstream) (d : Double) :
    (Json.number (o.doubleText d).toList).Written p escapeChar :=
  fun c hc => hp.shown c (double_printable o d c hc)

theorem decimal (hp : Wide p) : (jsonDecimal digits d).Written p escapeChar :=
  hp.double { isFixed := true, precision := digits } d

theorem optionalDecimal (hp : Wide p) : (optionalDecimal digits value).Written p escapeChar := by
  cases value with
  | none => trivial
  | some d => exact hp.decimal

theorem number (hp : Wide p) {α : Type} [ToString α] [Numeral α] {n : α} :
    (jsonNumber n).Written p escapeChar :=
  fun c hc => hp.shown c (number_printable (Numeral.number n) c hc)

theorem optionalNumber (hp : Wide p) {α : Type} [ToString α] [Numeral α] {value : Option α} :
    (optionalNumber value).Written p escapeChar := by
  cases value with
  | none => trivial
  | some n => exact hp.number

theorem name (hp : Wide p) {s : String} (h : (s.toList.flatMap escapeChar).all printable = true) :
    (jsonString s).Written p escapeChar := hp.word h

theorem array {tree : α → Json} {items : List α} (h : ∀ item, (tree item).Written p escapeChar) :
    (Json.array (items.map tree)).Written p escapeChar :=
  written_array.2 (List.forall_mem_map.2 fun item _ => h item)

theorem option {tree : α → Json} {value : Option α} (h : ∀ a, (tree a).Written p escapeChar) :
    (value.elim .null tree).Written p escapeChar := by
  cases value with
  | none => trivial
  | some a => exact h a

theorem cons (hp : Wide p) {name : String} (hname : name.toList.all printable = true)
    (hj : j.Written p escapeChar) (hms : WrittenAll p ms) : WrittenAll p ((name, j) :: ms) :=
  List.forall_mem_cons.2 ⟨⟨hp.word hname, hj⟩, hms⟩

end Wide

theorem WrittenAll.nil : WrittenAll p [] := fun _ h => absurd h List.not_mem_nil

theorem string_solid {s : String} : (jsonString s).Written Solid escapeChar := by
  intro d hd
  obtain ⟨c, -, hc⟩ := List.mem_flatMap.1 hd
  exact escapeChar_solid c d hc

theorem wide_solid : Wide Solid := ⟨fun _ => printable_solid⟩

theorem CompanionLinkFailsafeSnapshot.solid (f : CompanionLinkFailsafeSnapshot) :
    f.tree.Written Solid escapeChar := by
  have hp := wide_solid
  have haction : (f.action.elim .null fun action =>
      jsonString (ardupilotGcsFailsafeActionName action)).Written Solid escapeChar :=
    Wide.option fun _ => string_solid
  exact written_object.2 <| hp.cons rfl string_solid <| hp.cons rfl string_solid <|
    hp.cons rfl hp.optionalNumber <| hp.cons rfl hp.optionalNumber <| hp.cons rfl haction <|
    hp.cons rfl hp.optionalDecimal <| hp.cons rfl hp.optionalNumber <| hp.cons rfl hp.number <|
    hp.cons rfl hp.number .nil

theorem Serialised.CameraSnapshot.solid (camera : Serialised.CameraSnapshot) :
    camera.tree.Written Solid escapeChar := by
  have hp := wide_solid
  exact written_object.2 <| hp.cons rfl string_solid <| hp.cons rfl string_solid <|
    hp.cons rfl string_solid <| hp.cons rfl hp.number <| hp.cons rfl hp.number <|
    hp.cons rfl hp.number <| hp.cons rfl hp.number <| hp.cons rfl hp.number <|
    hp.cons rfl hp.number <| hp.cons rfl hp.optionalDecimal <|
    hp.cons rfl hp.optionalDecimal <| hp.cons rfl hp.optionalDecimal <|
    hp.cons rfl hp.optionalDecimal <| hp.cons rfl hp.optionalDecimal .nil

theorem TargetPose.solid (pose : TargetPose) : pose.tree.Written Solid escapeChar := by
  have hp := wide_solid
  exact written_object.2 <| hp.cons rfl string_solid <| hp.cons rfl hp.decimal <|
    hp.cons rfl hp.decimal <| hp.cons rfl hp.decimal <| hp.cons rfl hp.decimal <|
    hp.cons rfl (Wide.array fun _ => hp.decimal) .nil

theorem TargetObservation.solid (target : TargetObservation) :
    target.tree.Written Solid escapeChar := by
  have hp := wide_solid
  exact written_object.2 <| hp.cons rfl hp.number <| hp.cons rfl string_solid <|
    hp.cons rfl hp.decimal <| hp.cons rfl hp.decimal <| hp.cons rfl hp.number <|
    hp.cons rfl hp.decimal <| hp.cons rfl (Wide.option TargetPose.solid) .nil

theorem CameraFramePosition.solid (position : CameraFramePosition) :
    position.tree.Written Solid escapeChar := by
  have hp := wide_solid
  exact written_object.2 <| hp.cons rfl string_solid <| hp.cons rfl hp.decimal <|
    hp.cons rfl hp.decimal <| hp.cons rfl hp.decimal .nil

theorem Serialised.TargetTrackSnapshot.solid (track : Serialised.TargetTrackSnapshot) :
    track.tree.Written Solid escapeChar := by
  have hp := wide_solid
  exact written_object.2 <| hp.cons rfl string_solid <| hp.cons rfl hp.optionalNumber <|
    hp.cons rfl hp.number <| hp.cons rfl hp.number <| hp.cons rfl hp.number <|
    hp.cons rfl hp.optionalDecimal <| hp.cons rfl hp.optionalDecimal <|
    hp.cons rfl (Wide.option CameraFramePosition.solid) .nil

theorem Serialised.VisionSnapshot.solid (vision : Serialised.VisionSnapshot) :
    vision.tree.Written Solid escapeChar := by
  have hp := wide_solid
  exact written_object.2 <| hp.cons rfl string_solid <| hp.cons rfl hp.number <|
    hp.cons rfl hp.number <| hp.cons rfl hp.number <| hp.cons rfl hp.optionalDecimal <|
    hp.cons rfl hp.optionalDecimal <| hp.cons rfl hp.optionalDecimal <|
    hp.cons rfl hp.optionalDecimal <| hp.cons rfl (Wide.array TargetObservation.solid) <|
    hp.cons rfl vision.targetTrack.solid .nil

end OnboardAutonomy
