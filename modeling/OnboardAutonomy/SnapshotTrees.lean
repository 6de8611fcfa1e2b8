import OnboardAutonomy.SnapshotJson
import OnboardAutonomy.NumberTexts

namespace OnboardAutonomy
open ExactDouble DecimalText JsonText
set_option autoImplicit true

/-- A control character is escaped only when it is a line feed, a carriage return or a tab. -/
def controlFree (c : Char) : Bool :=
  0x20 ≤ c.toNat || c = '\n' || c = '\r' || c = '\t'

theorem escapeChar_spec (c : Char) :
    (controlFree c = true ∧ JsonText.Kept escapeChar c) ∨
      (controlFree c = false ∧ Raw escapeChar c) := by
  by_cases hslash : c = '\\'
  · subst hslash
    exact .inl ⟨rfl, .inr ⟨'\\', rfl, rfl⟩⟩
  by_cases hquote : c = '"'
  · subst hquote
    exact .inl ⟨rfl, .inr ⟨'"', rfl, rfl⟩⟩
  by_cases hline : c = '\n'
  · subst hline
    exact .inl ⟨rfl, .inr ⟨'n', rfl, rfl⟩⟩
  by_cases hreturn : c = '\r'
  · subst hreturn
    exact .inl ⟨rfl, .inr ⟨'r', rfl, rfl⟩⟩
  by_cases htab : c = '\t'
  · subst htab
    exact .inl ⟨rfl, .inr ⟨'t', rfl, rfl⟩⟩
  have hself : escapeChar c = [c] := by
    unfold escapeChar
    split
    · exact absurd rfl hslash
    · exact absurd rfl hquote
    · exact absurd rfl hline
    · exact absurd rfl hreturn
    · exact absurd rfl htab
    · rfl
  by_cases hcontrol : 0x20 ≤ c.toNat
  · exact .inl ⟨by simp [controlFree, hcontrol], .inl ⟨hself, by
      simp [unescaped, hcontrol, hquote, hslash]⟩⟩
  · exact .inr ⟨by simp [controlFree, hcontrol, hline, hreturn, htab], hself, by
      simp [unescaped, hcontrol], hquote, hslash⟩

theorem escapeChar_total (c : Char) : JsonText.Kept escapeChar c ∨ Raw escapeChar c :=
  (escapeChar_spec c).imp And.right And.right

theorem escapeChar_kept : JsonText.Kept escapeChar c ↔ controlFree c = true := by
  rcases escapeChar_spec c with ⟨hfree, hkept⟩ | ⟨hcontrol, hraw⟩
  · exact ⟨fun _ => hfree, fun _ => hkept⟩
  · exact ⟨fun h => absurd h hraw.not_kept, fun h => absurd h (by rw [hcontrol]; decide)⟩

theorem escapeChar_plain (h : unescaped c = true) : escapeChar c = [c] := by
  unfold escapeChar
  split
  · exact absurd h (by decide)
  · exact absurd h (by decide)
  · exact absurd h (by decide)
  · exact absurd h (by decide)
  · exact absurd h (by decide)
  · rfl

theorem plain_flatMap {name : List Char} (h : name.all unescaped = true) :
    name.flatMap escapeChar = name := by
  induction name with
  | nil => rfl
  | cons c name ih =>
    rw [List.all_cons, Bool.and_eq_true] at h
    rw [List.flatMap_cons, ih h.2, escapeChar_plain h.1]
    rfl

/-- A decimal of a fixed number of digits. -/
def jsonDecimal (digits : Nat) (d : Double) : Json := .number (fixed digits d).toList

def jsonNumber [ToString α] (n : α) : Json := .number (toString n).toList

def jsonString (value : String) : Json := .string value.toList

def optionalNumber [ToString α] (value : Option α) : Json := value.elim .null jsonNumber

def optionalDecimal (digits : Nat) (value : Option Double) : Json :=
  value.elim .null (jsonDecimal digits)

namespace Ostringstream

section
variable {o : Ostringstream} {name : String} {rest : List Char}

theorem chars_text {written : List Char} :
    (chars o written).text ++ rest = o.text ++ (written ++ rest) :=
  List.append_assoc ..

theorem firstKey_text : (firstKey o name).text ++ rest =
    o.text ++ '"' :: (name.toList ++ '"' :: ':' :: rest) := by
  rw [firstKey, chars_text, List.cons_append, List.append_assoc]
  rfl

theorem key_text : (key o name).text ++ rest =
    o.text ++ ',' :: '"' :: (name.toList ++ '"' :: ':' :: rest) := by
  rw [key, chars_text, List.cons_append, List.cons_append, List.append_assoc]
  rfl

theorem char_text : (char o c).text ++ rest = o.text ++ c :: rest := chars_text

theorem put_null : (put o "null").text ++ rest = o.text ++ render escapeChar .null rest :=
  chars_text

theorem bool_text : (bool o b).text ++ rest = o.text ++ render escapeChar (.bool b) rest := by
  cases b with
  | true => exact chars_text
  | false => exact chars_text

theorem number_text [ToString α] {n : α} : (number o n).text ++ rest =
    o.text ++ render escapeChar (jsonNumber n) rest := chars_text

theorem double_text : (double o d).text ++ rest =
    o.text ++ render escapeChar (.number (o.doubleText d).toList) rest := chars_text

theorem escaped_text {value : String} : (quoted o (jsonEscape value)).text ++ rest =
    o.text ++ render escapeChar (jsonString value) rest := by
  rw [quoted, chars_text, jsonString, render, List.cons_append, List.append_assoc]
  rfl

theorem name_text (h : name.toList.all unescaped = true) : (quoted o name.toList).text ++ rest =
    o.text ++ render escapeChar (jsonString name) rest := by
  rw [quoted, chars_text, jsonString, render, plain_flatMap h, List.cons_append, List.append_assoc]
  rfl

theorem optionalNumber_text [ToString α] {value : Option α} :
    (writeOptionalNumber o value).text ++ rest =
      o.text ++ render escapeChar (optionalNumber value) rest := by
  cases value with
  | none => exact put_null
  | some n => exact number_text

theorem optionalDecimal_text {digits : Nat} : (writeOptionalDecimal o digits value).text ++ rest =
    o.text ++ render escapeChar (optionalDecimal digits value) rest := by
  cases value with
  | none => exact put_null
  | some d => exact chars_text

end

section
variable {o : Ostringstream} {name : String}

@[simp] theorem char_doubleText : (o.char c).doubleText = o.doubleText := rfl

@[simp] theorem firstKey_doubleText : (o.firstKey name).doubleText = o.doubleText := rfl

@[simp] theorem key_doubleText : (o.key name).doubleText = o.doubleText := rfl

@[simp] theorem quoted_doubleText : (o.quoted written).doubleText = o.doubleText := rfl

@[simp] theorem number_doubleText [ToString α] {n : α} :
    (o.number n).doubleText = o.doubleText := rfl

@[simp] theorem double_doubleText : (o.double d).doubleText = o.doubleText := rfl

@[simp] theorem setFixed_doubleText : (o.setFixed digits).doubleText = fixed digits := rfl

theorem setPrecision_text : (o.setPrecision digits).text = o.text := rfl

theorem setFixed_text : (o.setFixed digits).text = o.text := rfl

end

theorem zipIdx_foldl (write : Ostringstream → α → Ostringstream) (o : Ostringstream)
    (items : List α) (k : Nat) :
    (items.zipIdx (k + 1)).foldl
        (fun o (item, index) => write (if index > 0 then o.char ',' else o) item) o =
      items.foldl (fun o item => write (o.char ',') item) o := by
  induction items generalizing o k with
  | nil => rfl
  | cons item items ih =>
    rw [List.zipIdx_cons, List.foldl_cons, List.foldl_cons, ← ih _ (k + 1)]
    simp only [gt_iff_lt, if_pos (Nat.succ_pos k)]

theorem each_cons {o : Ostringstream} {items : List α} : o.each write (item :: items) =
    items.foldl (fun o item => write (o.char ',') item) (write o item) := by
  rw [each, List.zipIdx_cons, List.foldl_cons]
  exact zipIdx_foldl write _ items 0

/-- A loop over items writes what rendering them writes, when each is written so from every stream
the loop comes to. -/
theorem each_text (write : Ostringstream → α → Ostringstream) (tree : α → Json)
    (inv : Ostringstream → Prop) (hput : ∀ o, inv o → inv (o.char ','))
    (hinv : ∀ o item, inv o → inv (write o item))
    (hwrite : ∀ o item rest, inv o →
      (write o item).text ++ rest = o.text ++ render escapeChar (tree item) rest)
    {o : Ostringstream} {items : List α} {rest : List Char} (ho : inv o) :
    (o.each write items).text ++ rest =
      o.text ++ renderItems escapeChar (items.map tree) rest := by
  cases items with
  | nil => rfl
  | cons item items =>
    rw [each_cons]
    induction items generalizing o item with
    | nil => exact hwrite o item rest ho
    | cons next items ih =>
      rw [List.foldl_cons, ih (hput _ (hinv o item ho)), char_text, hwrite o item _ ho]
      rfl

end Ostringstream

def VehicleSnapshot.members (v : VehicleSnapshot) : List (String × Json) :=
  [("connected", .bool v.connected),
    ("gps_ready", .bool v.gpsReady),
    ("battery_ready", .bool v.batteryReady),
    ("system_health_known", .bool v.systemHealthKnown),
    ("system_health_ok", .bool v.systemHealthOk),
    ("armable", .bool v.armable),
    ("armed", .bool v.armed),
    ("system_id", optionalNumber v.systemId),
    ("component_id", optionalNumber v.componentId),
    ("vehicle_type", optionalNumber v.vehicleType),
    ("autopilot_type", optionalNumber v.autopilotType),
    ("system_status", optionalNumber v.systemStatus),
    ("flight_mode", optionalNumber v.flightMode),
    ("gps_fix_type", optionalNumber v.gpsFixType),
    ("satellites_visible", optionalNumber v.satellitesVisible),
    ("relative_altitude_m", optionalDecimal 2 v.relativeAltitudeM),
    ("local_north_m", optionalDecimal 2 v.localNorthM),
    ("local_east_m", optionalDecimal 2 v.localEastM),
    ("local_down_m", optionalDecimal 2 v.localDownM),
    ("roll_rad", optionalDecimal 2 v.rollRad),
    ("pitch_rad", optionalDecimal 2 v.pitchRad),
    ("yaw_rad", optionalDecimal 2 v.yawRad),
    ("battery_voltage_v", optionalDecimal 2 v.batteryVoltageV),
    ("battery_current_a", optionalDecimal 2 v.batteryCurrentA),
    ("battery_remaining_pct", optionalNumber (v.batteryRemainingPct.map Int8.toInt)),
    ("battery_arming_voltage_v", optionalDecimal 2 v.batteryArmingVoltageV),
    ("firmware_major", optionalNumber (v.autopilotMetadata.map (·.firmwareMajor))),
    ("firmware_minor", optionalNumber (v.autopilotMetadata.map (·.firmwareMinor))),
    ("firmware_patch", optionalNumber (v.autopilotMetadata.map (·.firmwarePatch))),
    ("firmware_release_type", optionalNumber (v.autopilotMetadata.map (·.firmwareReleaseType))),
    ("autopilot_capabilities", optionalNumber (v.autopilotMetadata.map (·.capabilities))),
    ("board_version", optionalNumber (v.autopilotMetadata.map (·.boardVersion))),
    ("board_vendor_id", optionalNumber (v.autopilotMetadata.map (·.vendorId))),
    ("board_product_id", optionalNumber (v.autopilotMetadata.map (·.productId))),
    ("warnings", .array (v.warnings.map jsonString))]

def CompanionLinkFailsafeSnapshot.tree (f : CompanionLinkFailsafeSnapshot) : Json :=
  .object
    [("phase", jsonString (companionLinkFailsafePhaseName f.phase)),
      ("detail", jsonString f.detail),
      ("heartbeat_system_id", optionalNumber f.heartbeatSystemId),
      ("configured_gcs_system_id", optionalNumber f.configuredGcsSystemId),
      ("action", f.action.elim .null fun action =>
        jsonString (ardupilotGcsFailsafeActionName action)),
      ("timeout_s", optionalDecimal 3 f.timeoutS),
      ("options", optionalNumber f.options),
      ("parameters_received", jsonNumber f.parametersReceived),
      ("parameters_required", jsonNumber f.parametersRequired)]

def Serialised.CameraSnapshot.tree (camera : Serialised.CameraSnapshot) : Json :=
  .object
    [("phase", jsonString (cameraPhaseName camera.phase)),
      ("source", jsonString camera.source),
      ("error", jsonString camera.error),
      ("width", jsonNumber camera.width),
      ("height", jsonNumber camera.height),
      ("received_frames", jsonNumber camera.receivedFrames),
      ("dropped_before_processing", jsonNumber camera.droppedBeforeProcessing),
      ("camera_restarts", jsonNumber camera.cameraRestarts),
      ("frames_with_capture_timestamp", jsonNumber camera.framesWithCaptureTimestamp),
      ("measured_fps", optionalDecimal 3 camera.measuredFps),
      ("latest_latency_ms", optionalDecimal 3 camera.latestLatencyMs),
      ("average_latency_ms", optionalDecimal 3 camera.averageLatencyMs),
      ("maximum_latency_ms", optionalDecimal 3 camera.maximumLatencyMs),
      ("latest_frame_age_ms", optionalDecimal 3 camera.latestFrameAgeMs)]

def TargetPose.tree (pose : TargetPose) : Json :=
  .object
    [("frame", jsonString "camera_optical"),
      ("right_m", jsonDecimal 4 pose.position.rightM),
      ("down_m", jsonDecimal 4 pose.position.downM),
      ("forward_m", jsonDecimal 4 pose.position.forwardM),
      ("object_space_error", jsonDecimal 4 pose.objectSpaceError),
      ("rotation_tag_to_camera",
        .array ((List.ofFn pose.rotationTagToCamera).map (jsonDecimal 4)))]

def TargetObservation.tree (target : TargetObservation) : Json :=
  .object
    [("id", jsonNumber target.id),
      ("family", jsonString target.family),
      ("center_x_px", jsonDecimal 2 target.center.xPx),
      ("center_y_px", jsonDecimal 2 target.center.yPx),
      ("corrected_bits", jsonNumber target.correctedBits),
      ("decision_margin", jsonDecimal 2 target.decisionMargin),
      ("pose", target.pose.elim .null TargetPose.tree)]

def CameraFramePosition.tree (position : CameraFramePosition) : Json :=
  .object
    [("frame", jsonString "camera_optical"),
      ("right_m", jsonDecimal 3 position.rightM),
      ("down_m", jsonDecimal 3 position.downM),
      ("forward_m", jsonDecimal 3 position.forwardM)]

def Serialised.TargetTrackSnapshot.tree (track : Serialised.TargetTrackSnapshot) : Json :=
  .object
    [("phase", jsonString (targetTrackPhaseName track.phase)),
      ("target_id", optionalNumber track.targetId),
      ("consecutive_observations", jsonNumber track.consecutiveObservations),
      ("required_observations", jsonNumber track.requiredObservations),
      ("accepted_observations", jsonNumber track.acceptedObservations),
      ("observation_age_ms", optionalDecimal 3 track.observationAgeMs),
      ("latest_decision_margin", optionalDecimal 3 track.latestDecisionMargin),
      ("position", track.position.elim .null CameraFramePosition.tree)]

def Serialised.VisionSnapshot.tree (vision : Serialised.VisionSnapshot) : Json :=
  .object
    [("detector", jsonString vision.detector),
      ("processed_frames", jsonNumber vision.processedFrames),
      ("frames_with_targets", jsonNumber vision.framesWithTargets),
      ("total_targets", jsonNumber vision.totalTargets),
      ("latest_processing_ms", optionalDecimal 3 vision.latestProcessingMs),
      ("average_processing_ms", optionalDecimal 3 vision.averageProcessingMs),
      ("maximum_processing_ms", optionalDecimal 3 vision.maximumProcessingMs),
      ("last_detection_age_ms", optionalDecimal 3 vision.lastDetectionAgeMs),
      ("targets", .array (vision.latestTargets.map TargetObservation.tree)),
      ("target_track", vision.targetTrack.tree)]

/-- The altitude is printed as the stream prints doubles when it comes to it. -/
def FlightStartupSnapshot.tree (print : Double → String) (f : FlightStartupSnapshot) : Json :=
  .object
    [("phase", jsonString (flightStartupPhaseName f.phase)),
      ("detail", jsonString f.detail),
      ("target_altitude_m", .number (print f.targetAltitudeM).toList),
      ("attempt", jsonNumber f.attempt)]

def AutonomyRuntimeSnapshot.tree (a : AutonomyRuntimeSnapshot) : Json :=
  .object
    [("phase", jsonString (autonomyPhaseName a.phase)),
      ("detail", jsonString a.detail),
      ("vision_landing_target_active", .bool a.visionLandingTargetActive),
      ("land_attempt", jsonNumber a.landAttempt)]

/-- What the document of a snapshot stands for. -/
def Serialised.AppSnapshot.tree (s : Serialised.AppSnapshot) : Json :=
  .object (s.vehicle.members ++
    [("companion_heartbeat_active", .bool s.companionHeartbeatActive),
      ("companion_link_failsafe", s.companionLinkFailsafe.tree),
      ("camera", s.camera.elim .null Serialised.CameraSnapshot.tree),
      ("vision", s.vision.elim .null Serialised.VisionSnapshot.tree),
      ("flight_startup", s.flightStartup.tree s.toFlightStartup.doubleText),
      ("autonomy", s.autonomy.tree),
      ("motion_commands_allowed", .bool s.motionCommandsAllowed)])

theorem render_object : render escape (.object ms) rest =
    '{' :: renderMembers escape ms ('}' :: rest) := by rw [render]

theorem render_array : render escape (.array js) rest =
    '[' :: renderItems escape js (']' :: rest) := by rw [render]

namespace Ostringstream

section
variable {o : Ostringstream} {rest : List Char}

theorem companionLinkFailsafePhase_text :
    (quoted o (companionLinkFailsafePhaseName phase).toList).text ++ rest =
      o.text ++ render escapeChar (jsonString (companionLinkFailsafePhaseName phase)) rest :=
  name_text (by cases phase <;> decide)

theorem failsafeAction_text :
    (quoted o (ardupilotGcsFailsafeActionName action).toList).text ++ rest =
      o.text ++ render escapeChar (jsonString (ardupilotGcsFailsafeActionName action)) rest :=
  name_text (by cases action <;> decide)

theorem cameraPhase_text : (quoted o (cameraPhaseName phase).toList).text ++ rest =
    o.text ++ render escapeChar (jsonString (cameraPhaseName phase)) rest :=
  name_text (by cases phase <;> decide)

theorem targetTrackPhase_text : (quoted o (targetTrackPhaseName phase).toList).text ++ rest =
    o.text ++ render escapeChar (jsonString (targetTrackPhaseName phase)) rest :=
  name_text (by cases phase <;> decide)

theorem flightStartupPhase_text : (quoted o (flightStartupPhaseName phase).toList).text ++ rest =
    o.text ++ render escapeChar (jsonString (flightStartupPhaseName phase)) rest :=
  name_text (by cases phase <;> decide)

theorem autonomyPhase_text : (quoted o (autonomyPhaseName phase).toList).text ++ rest =
    o.text ++ render escapeChar (jsonString (autonomyPhaseName phase)) rest :=
  name_text (by cases phase <;> decide)

theorem frame_text : (quoted o "camera_optical".toList).text ++ rest =
    o.text ++ render escapeChar (jsonString "camera_optical") rest :=
  name_text (by decide)

theorem companionLinkFailsafe_text {f : CompanionLinkFailsafeSnapshot} :
    (companionLinkFailsafe o f).text ++ rest = o.text ++ render escapeChar f.tree rest := by
  cases haction : f.action <;>
    simp only [companionLinkFailsafe, CompanionLinkFailsafeSnapshot.tree, haction, Option.elim,
      char_text, firstKey_text, companionLinkFailsafePhase_text, key_text, escaped_text,
      optionalNumber_text, failsafeAction_text, put_null, optionalDecimal_text, number_text,
      render_object, renderMembers]

theorem camera_text {c : Option Serialised.CameraSnapshot} : (camera o c).text ++ rest =
    o.text ++ render escapeChar (c.elim .null Serialised.CameraSnapshot.tree) rest := by
  cases c with
  | none => exact put_null
  | some c =>
    simp only [camera, Serialised.CameraSnapshot.tree, Option.elim, char_text, firstKey_text,
      cameraPhase_text, key_text, escaped_text, number_text, optionalDecimal_text, render_object,
      renderMembers]

theorem decimals_text (digits : Nat) {items : List Double} (h : o.doubleText = fixed digits) :
    (o.each double items).text ++ rest =
      o.text ++ renderItems escapeChar (items.map (jsonDecimal digits)) rest := by
  refine each_text double (jsonDecimal digits) (fun o => o.doubleText = fixed digits) ?_ ?_ ?_ h
  · exact fun _ h => h
  · exact fun _ _ h => h
  · intro o d rest h
    rw [double_text, h, jsonDecimal]

theorem pose_text {p : Option TargetPose} (h : o.isFixed = true) : (pose o p).text ++ rest =
    o.text ++ render escapeChar (p.elim .null TargetPose.tree) rest := by
  cases p with
  | none => exact put_null
  | some p =>
    have hprint : (o.setPrecision 4).doubleText = fixed 4 := by
      funext d
      exact if_pos h
    rw [pose, char_text, char_text, decimals_text 4]
    · simp only [char_text, key_text, double_text, double_doubleText, key_doubleText,
        quoted_doubleText, firstKey_doubleText, char_doubleText, hprint, frame_text, firstKey_text,
        setPrecision_text, Option.elim, TargetPose.tree, jsonDecimal, render_object, render_array,
        renderMembers]
    · exact hprint

theorem target_text {t : TargetObservation} :
    (target o t).text ++ rest = o.text ++ render escapeChar t.tree rest := by
  rw [target, char_text, pose_text]
  · simp only [key_text, double_text, number_text, setFixed_text, escaped_text, firstKey_text,
      char_text, key_doubleText, number_doubleText, double_doubleText, setFixed_doubleText,
      TargetObservation.tree, jsonDecimal, render_object, renderMembers]
  · rfl

theorem targets_text {ts : List TargetObservation} : (o.each target ts).text ++ rest =
    o.text ++ renderItems escapeChar (ts.map TargetObservation.tree) rest :=
  each_text target TargetObservation.tree (fun _ => True) (fun _ _ => trivial)
    (fun _ _ _ => trivial) (fun _ _ _ _ => target_text) trivial

theorem trackPosition_text {p : Option CameraFramePosition} : (trackPosition o p).text ++ rest =
    o.text ++ render escapeChar (p.elim .null CameraFramePosition.tree) rest := by
  cases p with
  | none => exact put_null
  | some p =>
    simp only [trackPosition, CameraFramePosition.tree, Option.elim, char_text, firstKey_text,
      frame_text, key_text, optionalDecimal_text, optionalDecimal, render_object, renderMembers]

theorem targetTrack_text {t : Serialised.TargetTrackSnapshot} : (targetTrack o t).text ++ rest =
    o.text ++ render escapeChar t.tree rest := by
  simp only [targetTrack, Serialised.TargetTrackSnapshot.tree, char_text, firstKey_text,
    targetTrackPhase_text, key_text, optionalNumber_text, number_text, optionalDecimal_text,
    trackPosition_text, render_object, renderMembers]

theorem vision_text {v : Option Serialised.VisionSnapshot} : (vision o v).text ++ rest =
    o.text ++ render escapeChar (v.elim .null Serialised.VisionSnapshot.tree) rest := by
  cases v with
  | none => exact put_null
  | some v =>
    simp only [vision, Serialised.VisionSnapshot.tree, Option.elim, char_text, firstKey_text,
      escaped_text, key_text, number_text, optionalDecimal_text, targets_text, targetTrack_text,
      render_object, render_array, renderMembers]

theorem flightStartup_text {f : FlightStartupSnapshot} : (flightStartup o f).text ++ rest =
    o.text ++ render escapeChar (f.tree o.doubleText) rest := by
  simp only [flightStartup, FlightStartupSnapshot.tree, char_text, firstKey_text,
    flightStartupPhase_text, key_text, escaped_text, double_text, key_doubleText, quoted_doubleText,
    firstKey_doubleText, char_doubleText, number_text, render_object, renderMembers]

theorem autonomy_text {a : AutonomyRuntimeSnapshot} : (autonomy o a).text ++ rest =
    o.text ++ render escapeChar a.tree rest := by
  simp only [autonomy, AutonomyRuntimeSnapshot.tree, char_text, firstKey_text, autonomyPhase_text,
    key_text, escaped_text, bool_text, number_text, render_object, renderMembers]

theorem warnings_text {warnings : List String} :
    (o.each (fun output warning => output.quoted (jsonEscape warning)) warnings).text ++ rest =
      o.text ++ renderItems escapeChar (warnings.map jsonString) rest :=
  each_text _ jsonString (fun _ => True) (fun _ _ => trivial) (fun _ _ _ => trivial)
    (fun _ _ _ _ => escaped_text) trivial

end

theorem openVehicle_closed : openVehicle (char o '}').text = o.text := by
  rw [char, chars, openVehicle, if_pos List.getLast?_concat, List.dropLast_concat]

end Ostringstream

open Ostringstream in
theorem openVehicle_text {v : VehicleSnapshot} : openVehicle v.toJson ++ rest =
    '{' :: renderMembers escapeChar v.members rest := by
  simp only [VehicleSnapshot.toJson, openVehicle_closed, VehicleSnapshot.members, char_text,
    firstKey_text, bool_text, key_text, optionalNumber_text, optionalDecimal_text, warnings_text,
    render_array, renderMembers, List.nil_append]

open Ostringstream in
theorem toJson_toList (s : Serialised.AppSnapshot) :
    s.toJson.toList = render escapeChar s.tree [] := by
  have hne : s.vehicle.members ≠ [] := List.cons_ne_nil _ _
  rw [Serialised.AppSnapshot.toJson, String.toList_ofList, ← List.append_nil (Ostringstream.text _),
    Serialised.AppSnapshot.tree, render_object, renderMembers_append hne]
  simp only [char_text, bool_text, key_text, autonomy_text, flightStartup_text]
  generalize s.toFlightStartup.doubleText = print
  simp only [Serialised.AppSnapshot.toFlightStartup, key_text, vision_text, camera_text,
    companionLinkFailsafe_text, bool_text, chars_text, openVehicle_text, List.nil_append,
    renderMembers]

end OnboardAutonomy
