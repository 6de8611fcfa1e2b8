import OnboardAutonomy.SnapshotTrees

namespace OnboardAutonomy
open ExactDouble DecimalText JsonText
set_option autoImplicit true

/-- A text whose control characters are all escaped. -/
def Plain (written : String) : Prop := ∀ c ∈ written.toList, controlFree c = true

def FiniteDecimal (value : Option Double) : Prop := ∀ d ∈ value, d.isFinite = true

/-- A value reads back exactly when the texts in it are plain and its decimals are finite. -/
structure Prints (j : Json) (strings : List String) (decimals : List (Option Double)) : Prop where
  sound : j.Sound
  clean : j.Clean escapeChar ↔ (∀ s ∈ strings, Plain s) ∧ ∀ d ∈ decimals, FiniteDecimal d

structure PrintsAll (ms : List (String × Json)) (strings : List String)
    (decimals : List (Option Double)) : Prop where
  sound : ∀ m ∈ ms, PlainName m.1 ∧ m.2.Sound
  clean : (∀ m ∈ ms, m.2.Clean escapeChar) ↔
    (∀ s ∈ strings, Plain s) ∧ ∀ d ∈ decimals, FiniteDecimal d

/-- The integers of the program are printed as numbers. -/
class Numeral (α : Type) [ToString α] : Prop where
  number (n : α) : Number (toString n).toList

instance : Numeral Nat := ⟨fun _ => toString_number⟩
instance : Numeral Int := ⟨fun _ => int_number⟩
instance : Numeral UInt8 := ⟨fun _ => toString_number⟩
instance : Numeral UInt16 := ⟨fun _ => toString_number⟩
instance : Numeral UInt32 := ⟨fun _ => toString_number⟩
instance : Numeral UInt64 := ⟨fun _ => toString_number⟩

theorem forall_mem_nil {p : α → Prop} : (∀ x ∈ ([] : List α), p x) ↔ True :=
  iff_true_intro fun _ h => (by cases h)

theorem plainName_of_all (h : name.toList.all unescaped = true) : PlainName name :=
  List.all_eq_true.mp h

theorem plain_of_all {name : String} (h : name.toList.all unescaped = true) : Plain name := by
  intro c hc
  have hplain := List.all_eq_true.mp h c hc
  exact escapeChar_kept.mp (.inl ⟨escapeChar_plain hplain, hplain⟩)

theorem finiteDecimal_some : FiniteDecimal (some d) ↔ d.isFinite = true := by
  simp [FiniteDecimal]

/-- A double is a number when it is finite, and a word that no value begins with when not. -/
theorem doubleText_spec (o : Ostringstream) (d : Double) :
    (d.isFinite = true ∧ Number (o.doubleText d).toList) ∨
      (d.isFinite = false ∧ Unreadable (o.doubleText d).toList) := by
  rw [Ostringstream.doubleText]
  cases d with
  | finite q =>
    refine .inl ⟨rfl, ?_⟩
    split
    · exact fixed_number
    · exact general_number
  | posInf => exact .inr ⟨rfl, by split <;> exact unreadable_inf⟩
  | negInf => exact .inr ⟨rfl, by split <;> exact unreadable_negInf⟩
  | nan => exact .inr ⟨rfl, by split <;> exact unreadable_nan⟩

namespace Prints

theorem always (hsound : j.Sound) (hclean : j.Clean escapeChar) : Prints j [] [] :=
  ⟨hsound, iff_of_true hclean ⟨forall_mem_nil.mpr trivial, forall_mem_nil.mpr trivial⟩⟩

theorem null : Prints .null [] [] := always trivial trivial

theorem bool : Prints (.bool b) [] [] := always trivial trivial

theorem number {α : Type} [ToString α] [Numeral α] {n : α} : Prints (jsonNumber n) [] [] :=
  always (.inl (Numeral.number n)) (Numeral.number n)

theorem optionalNumber {α : Type} [ToString α] [Numeral α] {value : Option α} :
    Prints (optionalNumber value) [] [] := by
  cases value with
  | none => exact null
  | some n => exact number

theorem string_clean : (jsonString s).Clean escapeChar ↔ Plain s :=
  forall₂_congr fun _ _ => escapeChar_kept

theorem string : Prints (jsonString s) [s] [] where
  sound := trivial
  clean := by simp [string_clean]

theorem name {s : String} (h : s.toList.all unescaped = true) : Prints (jsonString s) [] [] :=
  always trivial (string_clean.mpr (plain_of_all h))

theorem double (o : Ostringstream) :
    Prints (.number (o.doubleText d).toList) [] [some d] := by
  have hspec := doubleText_spec o d
  refine ⟨hspec.imp And.right And.right, ?_⟩
  simp only [forall_mem_nil, true_and, List.forall_mem_singleton, finiteDecimal_some]
  rcases hspec with ⟨hfinite, hnumber⟩ | ⟨hinfinite, hno⟩
  · exact iff_of_true hnumber hfinite
  · exact iff_of_false hno.not_number (by rw [hinfinite]; decide)

theorem decimal : Prints (jsonDecimal digits d) [] [some d] :=
  double { isFixed := true, precision := digits }

theorem optionalDecimal : Prints (optionalDecimal digits value) [] [value] := by
  cases value with
  | none => exact ⟨trivial, iff_of_true trivial (by simp [FiniteDecimal])⟩
  | some d => exact decimal

theorem object (h : PrintsAll ms strings decimals) : Prints (.object ms) strings decimals :=
  ⟨sound_object.mpr h.sound, clean_object.trans h.clean⟩

theorem array {tree : α → Json} {strings : α → List String} {decimals : α → List (Option Double)}
    {items : List α} (h : ∀ item, Prints (tree item) (strings item) (decimals item)) :
    Prints (.array (items.map tree)) (items.flatMap strings) (items.flatMap decimals) where
  sound := sound_array.mpr (List.forall_mem_map.mpr fun item _ => (h item).sound)
  clean := by
    rw [clean_array, List.forall_mem_map]
    simp only [(h _).clean, List.mem_flatMap]
    constructor
    · intro hall
      exact ⟨fun s ⟨item, hitem, hs⟩ => (hall item hitem).1 s hs,
        fun d ⟨item, hitem, hd⟩ => (hall item hitem).2 d hd⟩
    · intro hall item hitem
      exact ⟨fun s hs => hall.1 s ⟨item, hitem, hs⟩, fun d hd => hall.2 d ⟨item, hitem, hd⟩⟩

theorem of_eq (h : Prints j strings decimals) (hs : strings = strings')
    (hd : decimals = decimals') : Prints j strings' decimals' := by
  subst hs hd
  exact h

theorem option {tree : α → Json} {strings : α → List String} {decimals : α → List (Option Double)}
    {value : Option α} (h : ∀ a, Prints (tree a) (strings a) (decimals a)) :
    Prints (value.elim .null tree) (value.elim [] strings) (value.elim [] decimals) := by
  cases value with
  | none => exact null
  | some a => exact h a

theorem strings {items : List String} : Prints (.array (items.map jsonString)) items [] :=
  of_eq (array fun _ => string) (List.flatMap_singleton' items)
    (List.flatMap_eq_nil_iff.mpr fun _ _ => rfl)

theorem decimals {items : List Double} :
    Prints (.array (items.map (jsonDecimal digits))) [] (items.map some) :=
  of_eq (array fun _ => decimal) (List.flatMap_eq_nil_iff.mpr fun _ _ => rfl)
    (List.map_eq_flatMap).symm

end Prints

namespace PrintsAll

theorem append (h : PrintsAll ms strings decimals) (h' : PrintsAll ms' strings' decimals') :
    PrintsAll (ms ++ ms') (strings ++ strings') (decimals ++ decimals') where
  sound := List.forall_mem_append.mpr ⟨h.sound, h'.sound⟩
  clean := by
    simp only [List.forall_mem_append, h.clean, h'.clean]
    exact and_and_and_comm

theorem one {name : String} (hname : name.toList.all unescaped = true)
    (hj : Prints j strings decimals) : PrintsAll [(name, j)] strings decimals where
  sound := List.forall_mem_singleton.mpr ⟨plainName_of_all hname, hj.sound⟩
  clean := List.forall_mem_singleton.trans hj.clean

theorem cons {name : String} (hname : name.toList.all unescaped = true)
    (hj : Prints j strings decimals) (hms : PrintsAll ms strings' decimals') :
    PrintsAll ((name, j) :: ms) (strings ++ strings') (decimals ++ decimals') :=
  (one hname hj).append hms

end PrintsAll

def TargetPose.decimals (pose : TargetPose) : List (Option Double) :=
  [some pose.position.rightM, some pose.position.downM, some pose.position.forwardM,
    some pose.objectSpaceError] ++ (List.ofFn pose.rotationTagToCamera).map some

def TargetObservation.decimals (target : TargetObservation) : List (Option Double) :=
  [some target.center.xPx, some target.center.yPx, some target.decisionMargin] ++
    target.pose.elim [] TargetPose.decimals

def CameraFramePosition.decimals (position : CameraFramePosition) : List (Option Double) :=
  [some position.rightM, some position.downM, some position.forwardM]

def Serialised.CameraSnapshot.decimals (camera : Serialised.CameraSnapshot) :
    List (Option Double) :=
  [camera.measuredFps, camera.latestLatencyMs, camera.averageLatencyMs, camera.maximumLatencyMs,
    camera.latestFrameAgeMs]

def Serialised.TargetTrackSnapshot.decimals (track : Serialised.TargetTrackSnapshot) :
    List (Option Double) :=
  [track.observationAgeMs, track.latestDecisionMargin] ++
    track.position.elim [] CameraFramePosition.decimals

def Serialised.VisionSnapshot.decimals (vision : Serialised.VisionSnapshot) :
    List (Option Double) :=
  [vision.latestProcessingMs, vision.averageProcessingMs, vision.maximumProcessingMs,
    vision.lastDetectionAgeMs] ++ vision.latestTargets.flatMap TargetObservation.decimals ++
    vision.targetTrack.decimals

def Serialised.VisionSnapshot.strings (vision : Serialised.VisionSnapshot) : List String :=
  vision.detector :: vision.latestTargets.map (·.family)

def VehicleSnapshot.decimals (v : VehicleSnapshot) : List (Option Double) :=
  [v.relativeAltitudeM, v.localNorthM, v.localEastM, v.localDownM, v.rollRad, v.pitchRad,
    v.yawRad, v.batteryVoltageV, v.batteryCurrentA, v.batteryArmingVoltageV]

/-- All texts of a snapshot that are not fixed names. -/
def Serialised.AppSnapshot.strings (s : Serialised.AppSnapshot) : List String :=
  s.vehicle.warnings ++ [s.companionLinkFailsafe.detail] ++
    s.camera.elim [] (fun camera => [camera.source, camera.error]) ++
    s.vision.elim [] Serialised.VisionSnapshot.strings ++
    [s.flightStartup.detail, s.autonomy.detail]

/-- All doubles of a snapshot that are printed. -/
def Serialised.AppSnapshot.decimals (s : Serialised.AppSnapshot) : List (Option Double) :=
  s.vehicle.decimals ++ [s.companionLinkFailsafe.timeoutS] ++
    s.camera.elim [] Serialised.CameraSnapshot.decimals ++
    s.vision.elim [] Serialised.VisionSnapshot.decimals ++ [some s.flightStartup.targetAltitudeM]

theorem VehicleSnapshot.members_prints (v : VehicleSnapshot) :
    PrintsAll v.members v.warnings v.decimals :=
  .cons rfl .bool <| .cons rfl .bool <| .cons rfl .bool <| .cons rfl .bool <|
  .cons rfl .bool <| .cons rfl .bool <| .cons rfl .bool <|
  .cons rfl .optionalNumber <| .cons rfl .optionalNumber <| .cons rfl .optionalNumber <|
  .cons rfl .optionalNumber <| .cons rfl .optionalNumber <| .cons rfl .optionalNumber <|
  .cons rfl .optionalNumber <| .cons rfl .optionalNumber <|
  .cons rfl .optionalDecimal <| .cons rfl .optionalDecimal <| .cons rfl .optionalDecimal <|
  .cons rfl .optionalDecimal <| .cons rfl .optionalDecimal <| .cons rfl .optionalDecimal <|
  .cons rfl .optionalDecimal <| .cons rfl .optionalDecimal <| .cons rfl .optionalDecimal <|
  .cons rfl .optionalNumber <| .cons rfl .optionalDecimal <|
  .cons rfl .optionalNumber <| .cons rfl .optionalNumber <| .cons rfl .optionalNumber <|
  .cons rfl .optionalNumber <| .cons rfl .optionalNumber <| .cons rfl .optionalNumber <|
  .cons rfl .optionalNumber <| .cons rfl .optionalNumber <| .one rfl .strings

theorem CompanionLinkFailsafeSnapshot.prints (f : CompanionLinkFailsafeSnapshot) :
    Prints f.tree [f.detail] [f.timeoutS] := by
  have haction : Prints (f.action.elim .null fun action =>
      jsonString (ardupilotGcsFailsafeActionName action)) [] [] := by
    cases f.action with
    | none => exact .null
    | some action => exact .name (by cases action <;> rfl)
  exact .object <| .cons rfl (.name (by cases f.phase <;> rfl)) <| .cons rfl .string <|
    .cons rfl .optionalNumber <| .cons rfl .optionalNumber <| .cons rfl haction <|
    .cons rfl .optionalDecimal <| .cons rfl .optionalNumber <| .cons rfl .number <|
    .one rfl .number

theorem Serialised.CameraSnapshot.prints (camera : Serialised.CameraSnapshot) :
    Prints camera.tree [camera.source, camera.error] camera.decimals :=
  .object <| .cons rfl (.name (by cases camera.phase <;> rfl)) <|
    .cons rfl .string <| .cons rfl .string <|
    .cons rfl .number <| .cons rfl .number <| .cons rfl .number <| .cons rfl .number <|
    .cons rfl .number <| .cons rfl .number <|
    .cons rfl .optionalDecimal <| .cons rfl .optionalDecimal <| .cons rfl .optionalDecimal <|
    .cons rfl .optionalDecimal <| .one rfl .optionalDecimal

theorem TargetPose.prints (pose : TargetPose) : Prints pose.tree [] pose.decimals :=
  .object <| .cons rfl (.name rfl) <| .cons rfl .decimal <| .cons rfl .decimal <|
    .cons rfl .decimal <| .cons rfl .decimal <| .one rfl .decimals

theorem option_nil {value : Option α} : value.elim ([] : List β) (fun _ => []) = [] := by
  cases value <;> rfl

theorem TargetObservation.prints (target : TargetObservation) :
    Prints target.tree [target.family] target.decimals := by
  have hpose : Prints (target.pose.elim .null TargetPose.tree) []
      (target.pose.elim [] TargetPose.decimals) :=
    .of_eq (.option TargetPose.prints) option_nil rfl
  exact .object <| .cons rfl .number <| .cons rfl .string <| .cons rfl .decimal <|
    .cons rfl .decimal <| .cons rfl .number <| .cons rfl .decimal <| .one rfl hpose

theorem CameraFramePosition.prints (position : CameraFramePosition) :
    Prints position.tree [] position.decimals :=
  .object <| .cons rfl (.name rfl) <| .cons rfl .decimal <| .cons rfl .decimal <|
    .one rfl .decimal

theorem Serialised.TargetTrackSnapshot.prints (track : Serialised.TargetTrackSnapshot) :
    Prints track.tree [] track.decimals := by
  have hposition : Prints (track.position.elim .null CameraFramePosition.tree) []
      (track.position.elim [] CameraFramePosition.decimals) :=
    .of_eq (.option CameraFramePosition.prints) option_nil rfl
  exact .object <| .cons rfl (.name (by cases track.phase <;> rfl)) <|
    .cons rfl .optionalNumber <| .cons rfl .number <| .cons rfl .number <| .cons rfl .number <|
    .cons rfl .optionalDecimal <| .cons rfl .optionalDecimal <| .one rfl hposition

theorem Serialised.VisionSnapshot.prints (vision : Serialised.VisionSnapshot) :
    Prints vision.tree vision.strings vision.decimals := by
  have h : Prints vision.tree _ _ :=
    .object <| .cons rfl .string <| .cons rfl .number <| .cons rfl .number <|
      .cons rfl .number <| .cons rfl .optionalDecimal <| .cons rfl .optionalDecimal <|
      .cons rfl .optionalDecimal <| .cons rfl .optionalDecimal <|
      .cons rfl (.array TargetObservation.prints) <| .one rfl vision.targetTrack.prints
  refine h.of_eq ?_ ?_
  · simp [Serialised.VisionSnapshot.strings, List.map_eq_flatMap]
  · simp [Serialised.VisionSnapshot.decimals]

theorem FlightStartupSnapshot.prints (o : Ostringstream) (f : FlightStartupSnapshot) :
    Prints (f.tree o.doubleText) [f.detail] [some f.targetAltitudeM] :=
  .object <| .cons rfl (.name (by cases f.phase <;> rfl)) <| .cons rfl .string <|
    .cons rfl (.double o) <| .one rfl .number

theorem AutonomyRuntimeSnapshot.prints (a : AutonomyRuntimeSnapshot) :
    Prints a.tree [a.detail] [] :=
  .object <| .cons rfl (.name (by cases a.phase <;> rfl)) <| .cons rfl .string <|
    .cons rfl .bool <| .one rfl .number

theorem Serialised.AppSnapshot.prints (s : Serialised.AppSnapshot) :
    Prints s.tree s.strings s.decimals := by
  have h : Prints s.tree _ _ :=
    .object <| s.vehicle.members_prints.append <| .cons rfl .bool <|
      .cons rfl s.companionLinkFailsafe.prints <|
      .cons rfl (.option Serialised.CameraSnapshot.prints) <|
      .cons rfl (.option Serialised.VisionSnapshot.prints) <|
      .cons rfl (s.flightStartup.prints s.toFlightStartup) <| .cons rfl s.autonomy.prints <|
      .one rfl .bool
  refine h.of_eq ?_ ?_
  · simp [Serialised.AppSnapshot.strings]
  · simp [Serialised.AppSnapshot.decimals]

/-- Every control character in a text is a line feed, a carriage return or a tab, and every printed
double is finite. -/
structure Serialised.AppSnapshot.Printable (s : Serialised.AppSnapshot) : Prop where
  strings : ∀ written ∈ s.strings, Plain written
  decimals : ∀ value ∈ s.decimals, FiniteDecimal value

/-- A parsed document has every text of the snapshot in its place, and nothing under two names. -/
structure Serialised.AppSnapshot.Carries (s : Serialised.AppSnapshot) (tree : Json) : Prop where
  object : ∃ ms, tree = .object ms
  warnings : tree.path ["warnings"] = some (.array (s.vehicle.warnings.map jsonString))
  failsafeDetail : tree.path ["companion_link_failsafe", "detail"] =
    some (jsonString s.companionLinkFailsafe.detail)
  cameraSource : ∀ camera ∈ s.camera, tree.path ["camera", "source"] =
    some (jsonString camera.source)
  cameraError : ∀ camera ∈ s.camera, tree.path ["camera", "error"] = some (jsonString camera.error)
  detector : ∀ vision ∈ s.vision, tree.path ["vision", "detector"] =
    some (jsonString vision.detector)
  families : ∀ vision ∈ s.vision, ∃ targets, tree.path ["vision", "targets"] =
    some (.array targets) ∧ targets.map (Json.path ["family"]) =
      vision.latestTargets.map fun target => some (jsonString target.family)
  startupDetail : tree.path ["flight_startup", "detail"] = some (jsonString s.flightStartup.detail)
  autonomyDetail : tree.path ["autonomy", "detail"] = some (jsonString s.autonomy.detail)

theorem path_cons : Json.path (name :: names) j = (j.member name).bind (Json.path names) := rfl

theorem Serialised.AppSnapshot.tree_camera {s : Serialised.AppSnapshot}
    {camera : Serialised.CameraSnapshot}
    (h : s.camera = some camera) : s.tree.member "camera" = some camera.tree := by
  have hmember : s.tree.member "camera" =
      some (s.camera.elim .null Serialised.CameraSnapshot.tree) := rfl
  rw [hmember, h]
  rfl

theorem Serialised.AppSnapshot.tree_vision {s : Serialised.AppSnapshot}
    {vision : Serialised.VisionSnapshot}
    (h : s.vision = some vision) : s.tree.member "vision" = some vision.tree := by
  have hmember : s.tree.member "vision" =
      some (s.vision.elim .null Serialised.VisionSnapshot.tree) := rfl
  rw [hmember, h]
  rfl

theorem Serialised.AppSnapshot.tree_carries (s : Serialised.AppSnapshot) : s.Carries s.tree where
  object := ⟨_, rfl⟩
  warnings := rfl
  failsafeDetail := rfl
  cameraSource := by
    intro camera hcamera
    rw [path_cons, tree_camera hcamera]
    rfl
  cameraError := by
    intro camera hcamera
    rw [path_cons, tree_camera hcamera]
    rfl
  detector := by
    intro vision hvision
    rw [path_cons, tree_vision hvision]
    rfl
  families := by
    intro vision hvision
    refine ⟨vision.latestTargets.map TargetObservation.tree, ?_, ?_⟩
    · rw [path_cons, tree_vision hvision]
      rfl
    · rw [List.map_map]
      exact List.map_congr_left fun _ _ => rfl
  startupDetail := rfl
  autonomyDetail := rfl

/-- The document of a snapshot is read as its own tree, or not at all. -/
theorem toJson_document (s : Serialised.AppSnapshot) :
    Document s.toJson.toList tree ↔ s.Printable ∧ tree = s.tree := by
  have hprints := s.prints
  rw [toJson_toList, document_render escapeChar_total hprints.sound, hprints.clean]
  exact and_congr_left fun _ => ⟨fun ⟨hs, hd⟩ => ⟨hs, hd⟩, fun h => ⟨h.strings, h.decimals⟩⟩

/-- A snapshot is written as one document that reads as nothing else and has all its texts exactly
when it has no other control character than those escaped, and no double without digits. -/
theorem snapshot_reads_back_exactly (s : Serialised.AppSnapshot) :
    (∃ tree, Document s.toJson.toList tree ∧ s.Carries tree ∧
      ∀ tree', Document s.toJson.toList tree' → tree' = tree) ↔ s.Printable := by
  simp only [toJson_document]
  constructor
  · rintro ⟨_, ⟨hprintable, -⟩, -⟩
    exact hprintable
  · intro hprintable
    exact ⟨s.tree, ⟨hprintable, rfl⟩, s.tree_carries, fun _ h => h.2⟩

/-- Nothing reads the snapshot behind a status text with a control character. -/
theorem control_character_unreadable :
    let vehicle := handleMessage {} { sysid := 1, compid := 1, payload := .statustext 4 "\x01" } 0
    let snapshot : AppSnapshot := {
      vehicle := (vehicle.snapshot 0).2
      companionLinkFailsafe := {}
      telemetry := {}
      flightStartup := {}
      autonomy := {} }
    snapshot.vehicle.warnings = ["\x01"] ∧
      ¬∃ tree, Document snapshot.serialised.toJson.toList tree := by
  intro vehicle snapshot
  have hwarnings : snapshot.vehicle.warnings = ["\x01"] := by decide +kernel
  refine ⟨hwarnings, ?_⟩
  rintro ⟨tree, htree⟩
  have hprintable := ((toJson_document _).mp htree).1
  have hmem : "\x01" ∈ snapshot.serialised.strings := by
    simp [Serialised.AppSnapshot.strings, AppSnapshot.serialised, hwarnings]
  have hfree : controlFree '\x01' = true := hprintable.strings _ hmem _ (by decide)
  exact absurd hfree (by decide)

end OnboardAutonomy
