import OnboardAutonomy.DecimalValue
import OnboardAutonomy.SnapshotLines

namespace OnboardAutonomy
open ExactDouble DecimalText JsonText
set_option autoImplicit true

namespace Ostringstream

/-- `[x,y]` -/
def point (o : Ostringstream) (p : ImagePoint) : Ostringstream :=
  o.char '[' |>.double p.xPx |>.char ',' |>.double p.yPx |>.char ']'

def previewPose (o : Ostringstream) (pose : Option TargetPose) : Ostringstream :=
  match pose with
  | none => o.put "null"
  | some pose =>
    o.char '{' |>.firstKey "right_m" |>.double pose.position.rightM
      |>.key "down_m" |>.double pose.position.downM
      |>.key "forward_m" |>.double pose.position.forwardM
      |>.key "object_space_error" |>.double pose.objectSpaceError |>.char '}'

def previewTarget (o : Ostringstream) (target : TargetObservation) : Ostringstream :=
  let o := o.char '{' |>.firstKey "id" |>.number target.id
    |>.key "center" |>.point target.center
    |>.key "corners" |>.char '['
  (o.each point (List.ofFn target.corners)).char ']'
    |>.key "decision_margin" |>.double target.decisionMargin
    |>.key "corrected_bits" |>.number target.correctedBits
    |>.key "pose" |>.previewPose target.pose
    |>.char '}'

def writeOptionalDouble (o : Ostringstream) (value : Option Double) : Ostringstream :=
  match value with
  | some d => o.double d
  | none => o.put "null"

def previewPosition (o : Ostringstream) (position : Option CameraFramePosition) : Ostringstream :=
  match position with
  | some position =>
    o.char '{' |>.firstKey "right_m" |>.double position.rightM
      |>.key "down_m" |>.double position.downM
      |>.key "forward_m" |>.double position.forwardM |>.char '}'
  | none => o.put "null"

end Ostringstream

def targetsJson (targets : List TargetObservation) : List Char :=
  let output := ({} : Ostringstream).setFixed 2 |>.char '['
  ((output.each Ostringstream.previewTarget targets).char ']').text

def targetTrackJson (track : Serialised.TargetTrackSnapshot) : List Char :=
  let output := ({} : Ostringstream).setFixed 3
  (output.char '{' |>.firstKey "phase" |>.quoted (targetTrackPhaseName track.phase).toList
    |>.key "target_id" |>.writeOptionalNumber track.targetId
    |>.key "consecutive_observations" |>.number track.consecutiveObservations
    |>.key "required_observations" |>.number track.requiredObservations
    |>.key "observation_age_ms" |>.writeOptionalDouble track.observationAgeMs
    |>.key "position" |>.previewPosition track.position
    |>.char '}').text

/-- The tree of a point, with two digits. -/
def ImagePoint.tree (p : ImagePoint) : Json := .array [jsonDecimal 2 p.xPx, jsonDecimal 2 p.yPx]

def TargetPose.previewTree (pose : TargetPose) : Json :=
  .object
    [("right_m", jsonDecimal 2 pose.position.rightM),
      ("down_m", jsonDecimal 2 pose.position.downM),
      ("forward_m", jsonDecimal 2 pose.position.forwardM),
      ("object_space_error", jsonDecimal 2 pose.objectSpaceError)]

def TargetObservation.previewTree (target : TargetObservation) : Json :=
  .object
    [("id", jsonNumber target.id),
      ("center", target.center.tree),
      ("corners", .array ((List.ofFn target.corners).map ImagePoint.tree)),
      ("decision_margin", jsonDecimal 2 target.decisionMargin),
      ("corrected_bits", jsonNumber target.correctedBits),
      ("pose", target.pose.elim .null TargetPose.previewTree)]

def CameraFramePosition.previewTree (position : CameraFramePosition) : Json :=
  .object
    [("right_m", jsonDecimal 3 position.rightM),
      ("down_m", jsonDecimal 3 position.downM),
      ("forward_m", jsonDecimal 3 position.forwardM)]

def Serialised.TargetTrackSnapshot.previewTree (track : Serialised.TargetTrackSnapshot) : Json :=
  .object
    [("phase", jsonString (targetTrackPhaseName track.phase)),
      ("target_id", optionalNumber track.targetId),
      ("consecutive_observations", jsonNumber track.consecutiveObservations),
      ("required_observations", jsonNumber track.requiredObservations),
      ("observation_age_ms", optionalDecimal 3 track.observationAgeMs),
      ("position", track.position.elim .null CameraFramePosition.previewTree)]

namespace Ostringstream
variable {o : Ostringstream} {rest : List Char}

end Ostringstream

open Ostringstream

def ImagePoint.decimals (p : ImagePoint) : List (Option Double) := [some p.xPx, some p.yPx]

def TargetPose.previewDecimals (pose : TargetPose) : List (Option Double) :=
  [some pose.position.rightM, some pose.position.downM, some pose.position.forwardM,
    some pose.objectSpaceError]

def TargetObservation.previewDecimals (target : TargetObservation) : List (Option Double) :=
  target.center.decimals ++ (List.ofFn target.corners).flatMap ImagePoint.decimals ++
    [some target.decisionMargin] ++ target.pose.elim [] TargetPose.previewDecimals

def Serialised.TargetTrackSnapshot.previewDecimals (track : Serialised.TargetTrackSnapshot) :
    List (Option Double) :=
  track.observationAgeMs :: track.position.elim [] CameraFramePosition.decimals

theorem ImagePoint.tree_eq (p : ImagePoint) :
    p.tree = .array ([p.xPx, p.yPx].map (jsonDecimal 2)) := rfl

theorem ImagePoint.prints (p : ImagePoint) : Prints p.tree [] p.decimals := by
  rw [tree_eq]
  exact .decimals

theorem TargetPose.previewPrints (pose : TargetPose) :
    Prints pose.previewTree [] pose.previewDecimals :=
  .object <| .cons rfl .decimal <| .cons rfl .decimal <| .cons rfl .decimal <| .one rfl .decimal

theorem TargetObservation.previewPrints (target : TargetObservation) :
    Prints target.previewTree [] target.previewDecimals := by
  have hcorners : Prints (.array ((List.ofFn target.corners).map ImagePoint.tree)) []
      ((List.ofFn target.corners).flatMap ImagePoint.decimals) :=
    .of_eq (.array ImagePoint.prints) (List.flatMap_eq_nil_iff.mpr fun _ _ => rfl) rfl
  have hpose : Prints (target.pose.elim .null TargetPose.previewTree) []
      (target.pose.elim [] TargetPose.previewDecimals) :=
    .of_eq (.option TargetPose.previewPrints) option_nil rfl
  have h : Prints target.previewTree _ _ :=
    .object <| .cons rfl .number <| .cons rfl target.center.prints <| .cons rfl hcorners <|
      .cons rfl .decimal <| .cons rfl .number <| .one rfl hpose
  exact h.of_eq rfl (by simp [TargetObservation.previewDecimals])

theorem CameraFramePosition.previewPrints (position : CameraFramePosition) :
    Prints position.previewTree [] position.decimals :=
  .object <| .cons rfl .decimal <| .cons rfl .decimal <| .one rfl .decimal

theorem Serialised.TargetTrackSnapshot.previewPrints (track : Serialised.TargetTrackSnapshot) :
    Prints track.previewTree [] track.previewDecimals := by
  have hposition : Prints (track.position.elim .null CameraFramePosition.previewTree) []
      (track.position.elim [] CameraFramePosition.decimals) :=
    .of_eq (.option CameraFramePosition.previewPrints) option_nil rfl
  exact .object <| .cons rfl (.name (by cases track.phase <;> rfl)) <|
    .cons rfl .optionalNumber <| .cons rfl .number <| .cons rfl .number <|
    .cons rfl .optionalDecimal <| .one rfl hposition

def Visible (c : Char) : Prop := printable c = true

theorem wide_visible : Wide Visible := ⟨fun _ h => h⟩

theorem ImagePoint.visible (p : ImagePoint) : p.tree.Written Visible escapeChar := by
  rw [tree_eq]
  exact Wide.array fun _ => wide_visible.decimal

theorem TargetPose.visible (pose : TargetPose) : pose.previewTree.Written Visible escapeChar := by
  have hp := wide_visible
  exact written_object.2 <| hp.cons rfl hp.decimal <| hp.cons rfl hp.decimal <|
    hp.cons rfl hp.decimal <| hp.cons rfl hp.decimal .nil

theorem TargetObservation.visible (target : TargetObservation) :
    target.previewTree.Written Visible escapeChar := by
  have hp := wide_visible
  exact written_object.2 <| hp.cons rfl hp.number <| hp.cons rfl target.center.visible <|
    hp.cons rfl (Wide.array ImagePoint.visible) <| hp.cons rfl hp.decimal <|
    hp.cons rfl hp.number <| hp.cons rfl (Wide.option TargetPose.visible) .nil

theorem CameraFramePosition.visible (position : CameraFramePosition) :
    position.previewTree.Written Visible escapeChar := by
  have hp := wide_visible
  exact written_object.2 <| hp.cons rfl hp.decimal <| hp.cons rfl hp.decimal <|
    hp.cons rfl hp.decimal .nil

theorem Serialised.TargetTrackSnapshot.visible (track : Serialised.TargetTrackSnapshot) :
    track.previewTree.Written Visible escapeChar := by
  have hp := wide_visible
  exact written_object.2 <| hp.cons rfl (hp.name (by cases track.phase <;> rfl)) <|
    hp.cons rfl hp.optionalNumber <| hp.cons rfl hp.number <| hp.cons rfl hp.number <|
    hp.cons rfl hp.optionalDecimal <|
    hp.cons rfl (Wide.option CameraFramePosition.visible) .nil

/-- A number that is as near to a finite double as its digits allow. -/
def Shows (digits : Nat) (d : Double) (j : Json) : Prop :=
  ∃ text q, j = .number text ∧ d = .finite q ∧ 2 * 10 ^ digits * |decimalValue text - q| ≤ 1

def Counts (n : Int) (j : Json) : Prop := ∃ text, j = .number text ∧ decimalValue text = n

/-- The only value of a name in an object. -/
def Under (name : String) (holds : Json → Prop) (j : Json) : Prop :=
  ∃ v, j.member name = some v ∧ holds v

def Optionally (holds : α → Json → Prop) (value : Option α) (j : Json) : Prop :=
  match value with
  | none => j = .null
  | some a => holds a j

def ShowsPoint (p : ImagePoint) (j : Json) : Prop :=
  ∃ x y, j = .array [x, y] ∧ Shows 2 p.xPx x ∧ Shows 2 p.yPx y

/-- Every number of a position, to some digits. -/
structure ShowsPosition (digits : Nat) (position : CameraFramePosition) (j : Json) : Prop where
  rightM : Under "right_m" (Shows digits position.rightM) j
  downM : Under "down_m" (Shows digits position.downM) j
  forwardM : Under "forward_m" (Shows digits position.forwardM) j

structure ShowsPose (pose : TargetPose) (j : Json) : Prop extends
    ShowsPosition 2 pose.position j where
  objectSpaceError : Under "object_space_error" (Shows 2 pose.objectSpaceError) j

structure ShowsTarget (target : TargetObservation) (j : Json) : Prop where
  id : Under "id" (Counts target.id) j
  center : Under "center" (ShowsPoint target.center) j
  corners : Under "corners" (fun v => ∃ points, v = .array points ∧
    List.Forall₂ ShowsPoint (List.ofFn target.corners) points) j
  decisionMargin : Under "decision_margin" (Shows 2 target.decisionMargin) j
  correctedBits : Under "corrected_bits" (Counts target.correctedBits) j
  pose : Under "pose" (Optionally ShowsPose target.pose) j

structure ShowsTrack (track : Serialised.TargetTrackSnapshot) (j : Json) : Prop where
  phase : Under "phase" (fun v => v = jsonString (targetTrackPhaseName track.phase)) j
  targetId : Under "target_id" (Optionally Counts track.targetId) j
  consecutiveObservations :
    Under "consecutive_observations" (Counts track.consecutiveObservations) j
  requiredObservations : Under "required_observations" (Counts track.requiredObservations) j
  observationAgeMs : Under "observation_age_ms" (Optionally (Shows 3) track.observationAgeMs) j
  position : Under "position" (Optionally (ShowsPosition 3) track.position) j

theorem shows_decimal (h : FiniteDecimal (some d)) : Shows digits d (jsonDecimal digits d) := by
  cases d with
  | finite q => exact ⟨_, q, rfl, rfl, fixed_near digits q⟩
  | posInf => exact absurd (finiteDecimal_some.1 h) (by decide)
  | negInf => exact absurd (finiteDecimal_some.1 h) (by decide)
  | nan => exact absurd (finiteDecimal_some.1 h) (by decide)

theorem counts_int {n : Int} : Counts n (jsonNumber n) := ⟨_, rfl, int_value⟩

theorem counts_nat {n : Nat} : Counts n (jsonNumber n) :=
  ⟨_, rfl, toString_value.trans (Int.cast_natCast n).symm⟩

theorem optionally_tree {holds : α → Json → Prop} {tree : α → Json} {value : Option α}
    (h : ∀ a, value = some a → holds a (tree a)) :
    Optionally holds value (value.elim .null tree) := by
  cases value with
  | none => rfl
  | some a => exact h a rfl

theorem ImagePoint.shown {p : ImagePoint} (h : ∀ d ∈ p.decimals, FiniteDecimal d) :
    ShowsPoint p p.tree := by
  rw [decimals, List.forall_mem_cons, List.forall_mem_singleton] at h
  exact ⟨_, _, rfl, shows_decimal h.1, shows_decimal h.2⟩

theorem TargetPose.shown {pose : TargetPose} (h : ∀ d ∈ pose.previewDecimals, FiniteDecimal d) :
    ShowsPose pose pose.previewTree := by
  simp only [previewDecimals, List.forall_mem_cons] at h
  exact ⟨⟨⟨_, rfl, shows_decimal h.1⟩, ⟨_, rfl, shows_decimal h.2.1⟩,
    ⟨_, rfl, shows_decimal h.2.2.1⟩⟩, ⟨_, rfl, shows_decimal h.2.2.2.1⟩⟩

theorem TargetObservation.shown {target : TargetObservation}
    (h : ∀ d ∈ target.previewDecimals, FiniteDecimal d) :
    ShowsTarget target target.previewTree := by
  simp only [previewDecimals, List.forall_mem_append, List.forall_mem_singleton] at h
  obtain ⟨⟨⟨hcenter, hcorners⟩, hmargin⟩, hpose⟩ := h
  exact {
    id := ⟨_, rfl, counts_int⟩
    center := ⟨_, rfl, ImagePoint.shown hcenter⟩
    corners := by
      refine ⟨_, rfl, _, rfl, ?_⟩
      rw [List.forall₂_map_right_iff, List.forall₂_same]
      exact fun p hp => ImagePoint.shown fun d hd => hcorners d (List.mem_flatMap_of_mem hp hd)
    decisionMargin := ⟨_, rfl, shows_decimal hmargin⟩
    correctedBits := ⟨_, rfl, counts_int⟩
    pose := ⟨_, rfl, optionally_tree fun pose hsome =>
      TargetPose.shown fun d hd => hpose d (by rw [hsome]; exact hd)⟩ }

theorem CameraFramePosition.shown {position : CameraFramePosition}
    (h : ∀ d ∈ position.decimals, FiniteDecimal d) :
    ShowsPosition 3 position position.previewTree := by
  simp only [decimals, List.forall_mem_cons] at h
  exact ⟨⟨_, rfl, shows_decimal h.1⟩, ⟨_, rfl, shows_decimal h.2.1⟩,
    ⟨_, rfl, shows_decimal h.2.2.1⟩⟩

theorem Serialised.TargetTrackSnapshot.shown {track : Serialised.TargetTrackSnapshot}
    (h : ∀ d ∈ track.previewDecimals, FiniteDecimal d) : ShowsTrack track track.previewTree := by
  simp only [previewDecimals, List.forall_mem_cons] at h
  exact {
    phase := ⟨_, rfl, rfl⟩
    targetId := ⟨_, rfl, optionally_tree fun _ _ => counts_int⟩
    consecutiveObservations := ⟨_, rfl, counts_nat⟩
    requiredObservations := ⟨_, rfl, counts_nat⟩
    observationAgeMs := ⟨_, rfl, optionally_tree fun d hsome => shows_decimal (hsome ▸ h.1)⟩
    position := ⟨_, rfl, optionally_tree fun position hsome =>
      CameraFramePosition.shown fun d hd => h.2 d (by rw [hsome]; exact hd)⟩ }

end OnboardAutonomy
