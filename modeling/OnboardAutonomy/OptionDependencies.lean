import OnboardAutonomy.CommandLineReading

namespace OnboardAutonomy
open ExactDouble
set_option autoImplicit true

/-- The checks that stand between an enabled camera and its use. -/
structure CameraValid (options : CommandLineOptions) (explicit : ExplicitOptions) : Prop where
  width : 0 < options.cameraWidth ∧ options.cameraWidth % 2 = 0
  height : 0 < options.cameraHeight ∧ options.cameraHeight % 2 = 0
  udpPort : explicit.cameraUdpPort = true → options.cameraBackend = .gstreamer
  fps : explicit.cameraFps = true → options.cameraBackend = .rpicam
  calibrated : hasCalibration options = options.apriltagTagSizeM.isSome
  apriltag : hasCalibration options = true → options.apriltagEnabled = true
  extrinsics : hasExtrinsics options = true → hasCalibration options = true
  autonomous : options.autonomous = true → hasExtrinsics options = true

theorem CameraBackend.eq_or (backend : CameraBackend) :
    backend = .rpicam ∨ backend = .gstreamer := by
  cases backend with
  | rpicam => exact .inl rfl
  | gstreamer => exact .inr rfl

theorem validateEnabledCamera_ok (h : validateEnabledCamera options explicit = .ok ()) :
    CameraValid options explicit := by
  rw [validateEnabledCamera] at h
  simp only [reject_bind, reject_ok, Bool.or_eq_false_iff, Bool.and_eq_false_iff,
    beq_eq_false_iff_ne, bne_eq_false_iff_eq, Bool.not_eq_false'] at h
  obtain ⟨⟨⟨⟨hw, hh⟩, hw₂⟩, hh₂⟩, hport, hfps, -, -, -, -, htogether, htag, -, hext, hauto⟩ := h
  have hbackend := CameraBackend.eq_or options.cameraBackend
  exact {
    width := ⟨UInt32.pos_iff_ne_zero.mpr hw, hw₂⟩
    height := ⟨UInt32.pos_iff_ne_zero.mpr hh, hh₂⟩
    udpPort := fun hx => hbackend.resolve_left (hport.resolve_right (by simp [hx]))
    fps := fun hx => hbackend.resolve_right (hfps.resolve_right (by simp [hx]))
    calibrated := htogether
    apriltag := fun hx => htag.resolve_left (by simp [hx])
    extrinsics := fun hx => hext.resolve_left (by simp [hx])
    autonomous := fun hx => hauto.resolve_left (by simp [hx]) }

/-- The checks that accepted options have passed. -/
structure OptionsValid (options : CommandLineOptions) (explicit : ExplicitOptions) : Prop where
  exitAfterAutonomy : options.exitAfterAutonomy = true → options.autonomous = true
  exclusive : ¬(options.interactive = true ∧ options.jsonOutput = true)
  serial : (explicit.serialDevice || explicit.baudRate) = true → options.transport = .serial
  udp : (explicit.udpBind || explicit.udpPort) = true → options.transport = .udp
  used : cameraSettingUsed options explicit = true → options.cameraEnabled = true
  camera : options.cameraEnabled = true → CameraValid options explicit

theorem validateTransport_ok (h : validateTransport options explicit = .ok ()) :
    ((explicit.serialDevice || explicit.baudRate) = true → options.transport = .serial) ∧
      ((explicit.udpBind || explicit.udpPort) = true → options.transport = .udp) := by
  rw [validateTransport.eq_def] at h
  split at h
  · rename_i htransport
    rw [reject_bind] at h
    exact ⟨fun hx => absurd hx (by rw [h.1]; decide), fun _ => htransport⟩
  · rename_i htransport
    rw [reject_bind] at h
    exact ⟨fun _ => htransport, fun hx => absurd hx (by rw [h.1]; decide)⟩

theorem validateCamera_ok (h : validateCamera options explicit = .ok ()) :
    (cameraSettingUsed options explicit = true → options.cameraEnabled = true) ∧
      (options.cameraEnabled = true → CameraValid options explicit) := by
  rw [validateCamera, reject_bind] at h
  obtain ⟨hused, h⟩ := h
  refine ⟨fun hx => ?_, fun hcamera => ?_⟩
  · simpa [hx] using hused
  · simp only [hcamera, Bool.not_true, Bool.false_eq_true, ↓reduceIte] at h
    exact validateEnabledCamera_ok h

theorem validateOptions_ok (h : validateOptions options explicit = .ok ())
    (hhelp : options.showHelp = false) : OptionsValid options explicit := by
  rw [validateOptions] at h
  simp only [hhelp, Bool.false_eq_true, ↓reduceIte, reject_bind] at h
  obtain ⟨-, hexit, hexclusive, h⟩ := h
  obtain ⟨⟨⟩, htransport, hcamera⟩ := bind_ok.mp h
  have ht := validateTransport_ok htransport
  have hc := validateCamera_ok hcamera
  exact {
    exitAfterAutonomy := fun hx => by simpa [hx] using hexit
    exclusive := fun ⟨hi, hj⟩ => by simp [hi, hj] at hexclusive
    serial := ht.1
    udp := ht.2
    used := hc.1
    camera := hc.2 }

theorem parseCommandLine_ok (h : parseCommandLine arguments = .ok options) :
    ∃ p, parseArguments arguments {} = .ok p ∧ validateOptions p.options p.explicit = .ok () ∧
      p.options = options := by
  simp only [parseCommandLine, bind_ok, pure, Except.pure, Except.ok.injEq] at h
  obtain ⟨p, hp, ⟨⟩, hvalid, hoptions⟩ := h
  exact ⟨p, hp, hvalid, hoptions⟩

/-- The switches for camera, vision and preview that are used by being there. -/
def cameraSwitches : List Switch :=
  [.cameraSource, .cameraUdpPort, .cameraWidth, .cameraHeight, .cameraFps, .apriltag,
    .apriltagSizeMm, .cameraPreview, .cameraPreviewPort]

/-- The options of a command line with everything that each of them rests on. A file option is used
when it names a file. -/
structure DependencyClosed (arguments : List String) (options : CommandLineOptions) : Prop where
  autonomous : options.autonomous = true →
    options.cameraEnabled = true ∧ options.apriltagEnabled = true ∧
      options.cameraCalibrationFile ≠ "" ∧ options.apriltagTagSizeM.isSome = true ∧
      options.cameraExtrinsicsFile ≠ ""
  extrinsics : options.cameraExtrinsicsFile ≠ "" → options.cameraCalibrationFile ≠ ""
  calibrated : options.cameraCalibrationFile ≠ "" ↔ options.apriltagTagSizeM.isSome = true
  apriltag : options.cameraCalibrationFile ≠ "" → options.apriltagEnabled = true
  switches : ∀ switch ∈ cameraSwitches,
    given arguments switch = true → options.cameraEnabled = true
  calibrationFile : options.cameraCalibrationFile ≠ "" → options.cameraEnabled = true
  extrinsicsFile : options.cameraExtrinsicsFile ≠ "" → options.cameraEnabled = true
  fps : given arguments .cameraFps = true → options.cameraBackend = .rpicam
  udpPort : given arguments .cameraUdpPort = true → options.cameraBackend = .gstreamer
  serial : given arguments .serialDevice = true ∨ given arguments .baud = true →
    options.transport = .serial
  udp : given arguments .udpBind = true ∨ given arguments .udpPort = true →
    options.transport = .udp
  exclusive : ¬(options.interactive = true ∧ options.jsonOutput = true)
  exitAfterAutonomy : options.exitAfterAutonomy = true → options.autonomous = true
  size : options.cameraEnabled = true →
    (0 < options.cameraWidth ∧ options.cameraWidth % 2 = 0) ∧
      (0 < options.cameraHeight ∧ options.cameraHeight % 2 = 0)

theorem hasCalibration_iff :
    hasCalibration options = true ↔ options.cameraCalibrationFile ≠ "" := by
  rw [hasCalibration, bne_iff_ne]

theorem hasExtrinsics_iff : hasExtrinsics options = true ↔ options.cameraExtrinsicsFile ≠ "" := by
  rw [hasExtrinsics, bne_iff_ne]

theorem OptionsValid.needs_camera (h : OptionsValid options explicit)
    (hused : explicit.cameraSource = true ∨ explicit.cameraUdpPort = true ∨
      explicit.cameraWidth = true ∨ explicit.cameraHeight = true ∨ explicit.cameraFps = true ∨
      explicit.cameraPreviewPort = true ∨ options.apriltagEnabled = true ∨
      options.cameraPreviewEnabled = true ∨ hasCalibration options = true ∨
      hasExtrinsics options = true ∨ options.apriltagTagSizeM.isSome = true) :
    options.cameraEnabled = true := by
  apply h.used
  simp only [cameraSettingUsed, Bool.or_eq_true]
  grind

theorem OptionsValid.closed {p : ParsedOptions} (h : OptionsValid p.options p.explicit)
    (hr : Reading arguments p)
    (hcamera : p.options.autonomous = true → p.options.cameraEnabled = true) :
    DependencyClosed arguments p.options := by
  have hvalid (hused : _) : CameraValid p.options p.explicit := h.camera (h.needs_camera hused)
  have hcalibration : p.options.cameraCalibrationFile ≠ "" → CameraValid p.options p.explicit :=
    fun hc => hvalid (by simp [hasCalibration_iff.mpr hc])
  have hextrinsics : p.options.cameraExtrinsicsFile ≠ "" → CameraValid p.options p.explicit :=
    fun hc => hvalid (by simp [hasExtrinsics_iff.mpr hc])
  exact {
    autonomous := fun ha => by
      have hv := h.camera (hcamera ha)
      have he := hv.autonomous ha
      have hc := hv.extrinsics he
      exact ⟨hcamera ha, hv.apriltag hc, hasCalibration_iff.mp hc, hv.calibrated ▸ hc,
        hasExtrinsics_iff.mp he⟩
    extrinsics := fun he =>
      hasCalibration_iff.mp ((hextrinsics he).extrinsics (hasExtrinsics_iff.mpr he))
    calibrated := by
      rw [← hasCalibration_iff]
      constructor
      · intro hc
        exact (hcalibration (hasCalibration_iff.mp hc)).calibrated ▸ hc
      · intro ht
        exact (hvalid (by simp [ht])).calibrated ▸ ht
    apriltag := fun hc => (hcalibration hc).apriltag (hasCalibration_iff.mpr hc)
    switches := by
      intro switch hmem hgiven
      apply h.needs_camera
      simp only [cameraSwitches, List.mem_cons, List.not_mem_nil, or_false] at hmem
      rcases hmem with rfl | rfl | rfl | rfl | rfl | rfl | rfl | rfl | rfl
      · simp [hr.cameraSource, hgiven]
      · simp [hr.cameraUdpPort, hgiven]
      · simp [hr.cameraWidth, hgiven]
      · simp [hr.cameraHeight, hgiven]
      · simp [hr.cameraFps, hgiven]
      · simp [hr.apriltag, hgiven]
      · simp [hr.tagSize, hgiven]
      · simp [hr.preview, hgiven]
      · simp [hr.cameraPreviewPort, hgiven]
    calibrationFile := fun hc => h.needs_camera (by simp [hasCalibration_iff.mpr hc])
    extrinsicsFile := fun he => h.needs_camera (by simp [hasExtrinsics_iff.mpr he])
    fps := fun hx => by
      rw [← hr.cameraFps] at hx
      exact (hvalid (by simp [hx])).fps hx
    udpPort := fun hx => by
      rw [← hr.cameraUdpPort] at hx
      exact (hvalid (by simp [hx])).udpPort hx
    serial := fun hx => h.serial (by rw [hr.serialDevice, hr.baudRate, Bool.or_eq_true]; exact hx)
    udp := fun hx => h.udp (by rw [hr.udpBind, hr.udpPort, Bool.or_eq_true]; exact hx)
    exclusive := h.exclusive
    exitAfterAutonomy := h.exitAfterAutonomy
    size := fun hc => ⟨(h.camera hc).width, (h.camera hc).height⟩ }

/-- Accepted options are closed exactly when autonomy is not asked for without a camera. -/
theorem accepted_closed_exactly (hparse : parseCommandLine arguments = .ok options)
    (hhelp : options.showHelp = false) :
    DependencyClosed arguments options ↔
      (given arguments .autonomous = true → given arguments .camera = true) := by
  obtain ⟨p, hp, hvalid, rfl⟩ := parseCommandLine_ok hparse
  have hr := parseArguments_reading hp
  have hv := validateOptions_ok hvalid hhelp
  rw [← hr.autonomous, ← hr.camera]
  exact ⟨fun hclosed ha => (hclosed.autonomous ha).1, fun hcamera => hv.closed hr hcamera⟩

/-- A simulated flight with everything it rests on. -/
def gazeboArguments : List String :=
  ["--transport", "udp", "--sitl", "--camera", "--camera-source", "gstreamer",
    "--camera-udp-port", "5601", "--camera-width", "640", "--camera-height", "480", "--apriltag",
    "--camera-calibration", "camera.json", "--apriltag-size-mm", "2000", "--camera-extrinsics",
    "mount.json", "--autonomous", "--exit-after-autonomy"]

def gazeboOptions : CommandLineOptions where
  cameraEnabled := true
  cameraBackend := .gstreamer
  apriltagEnabled := true
  cameraCalibrationFile := "camera.json"
  cameraExtrinsicsFile := "mount.json"
  apriltagTagSizeM := some (.finite 2)
  sitlMode := true
  autonomous := true
  exitAfterAutonomy := true

theorem accepted_closed_exactly_gazebo :
    DependencyClosed gazeboArguments gazeboOptions ↔
      (given gazeboArguments .autonomous = true → given gazeboArguments .camera = true) :=
  accepted_closed_exactly (by decide +kernel) (by decide)

/-- Autonomy alone passes every check, since without a camera the rest of them is left out. -/
theorem blind_autonomy_accepted :
    parseCommandLine ["--autonomous"] = .ok { autonomous := true } ∧
      ¬DependencyClosed ["--autonomous"] { autonomous := true } :=
  ⟨by decide +kernel, fun h => absurd (h.autonomous rfl).1 (by decide)⟩

end OnboardAutonomy
