import OnboardAutonomy.CommandLine

namespace OnboardAutonomy
open ExactDouble
set_option autoImplicit true

/-- The arguments with the values they consume, from left to right. -/
def occurrences : List String → List (String × String)
  | [] => []
  | argument :: rest =>
    if (Switch.ofText argument).any Switch.takesValue then
      match rest with
      | [] => [(argument, "")]
      | value :: rest => (argument, value) :: occurrences rest
    else (argument, "") :: occurrences rest

/-- The switch is among the arguments, not only as the value of another one. -/
def given (arguments : List String) (switch : Switch) : Bool :=
  (occurrences arguments).any fun o => Switch.ofText o.1 == some switch

def namedTransport (value : String) : TransportBackend :=
  if value = "serial" then .serial else .udp

/-- The last `--transport` wins. -/
def effectiveTransport (arguments : List String) : TransportBackend :=
  (occurrences arguments).foldl (fun transport o =>
    if Switch.ofText o.1 = some .transport then namedTransport o.2 else transport) .udp

/-- The records are filled by one occurrence after the other. -/
inductive Filled : List (String × String) → ParsedOptions → ParsedOptions → Prop where
  | nil : Filled [] p p
  | cons : Switch.ofText argument = some switch → p.set switch argument value = .ok p' →
      Filled os p' p'' → Filled ((argument, value) :: os) p p''

theorem parseArguments_filled (h : parseArguments arguments p = .ok p') :
    Filled (occurrences arguments) p p' := by
  induction arguments, p using parseArguments.induct with
  | case1 p =>
    cases h
    exact .nil
  | case2 p argument rest hnone =>
    rw [parseArguments, hnone] at h
    cases h
  | case3 p argument switch hswitch htakes =>
    rw [parseArguments, hswitch] at h
    simp only [htakes, ↓reduceIte, reduceCtorEq] at h
  | case4 p argument switch hswitch htakes value rest message hset =>
    rw [parseArguments, hswitch] at h
    simp only [htakes, ↓reduceIte, hset, reduceCtorEq] at h
  | case5 p argument switch hswitch htakes value rest p₁ hset ih =>
    rw [parseArguments, hswitch] at h
    simp only [htakes, ↓reduceIte, hset] at h
    rw [occurrences.eq_def]
    simp only [hswitch, Option.any_some, htakes, ↓reduceIte]
    exact .cons hswitch hset (ih h)
  | case6 p argument rest switch hswitch htakes message hset =>
    rw [parseArguments, hswitch] at h
    simp only [htakes, Bool.false_eq_true, ↓reduceIte, hset, reduceCtorEq] at h
  | case7 p argument rest switch hswitch htakes p₁ hset ih =>
    rw [parseArguments, hswitch] at h
    simp only [htakes, Bool.false_eq_true, ↓reduceIte, hset] at h
    rw [occurrences.eq_def]
    simp only [hswitch, Option.any_some, htakes, Bool.false_eq_true, ↓reduceIte]
    exact .cons hswitch hset (ih h)

theorem bind_ok {x : Except String α} {f : α → Except String β} :
    (x >>= f) = .ok b ↔ ∃ a, x = .ok a ∧ f a = .ok b := by
  cases x with
  | error message => exact ⟨fun h => (by cases h), fun ⟨_, h, _⟩ => (by cases h)⟩
  | ok a => exact ⟨fun h => ⟨a, rfl, h⟩, fun ⟨_, h, hf⟩ => (by cases h; exact hf)⟩

/-- What one occurrence of a switch does to what the checks and the start-up read. -/
structure Sets (switch : Switch) (value : String) (p p' : ParsedOptions) : Prop where
  transport : p'.options.transport =
    if switch = .transport then namedTransport value else p.options.transport
  calibrationFile : switch ≠ .cameraCalibration →
    p'.options.cameraCalibrationFile = p.options.cameraCalibrationFile
  extrinsicsFile : switch ≠ .cameraExtrinsics →
    p'.options.cameraExtrinsicsFile = p.options.cameraExtrinsicsFile
  tagSize : p'.options.apriltagTagSizeM.isSome =
    (p.options.apriltagTagSizeM.isSome || switch == .apriltagSizeMm)
  camera : p'.options.cameraEnabled = (p.options.cameraEnabled || switch == .camera)
  apriltag : p'.options.apriltagEnabled = (p.options.apriltagEnabled || switch == .apriltag)
  preview : p'.options.cameraPreviewEnabled =
    (p.options.cameraPreviewEnabled || switch == .cameraPreview)
  sitl : p'.options.sitlMode = (p.options.sitlMode || switch == .sitl)
  autonomous : p'.options.autonomous = (p.options.autonomous || switch == .autonomous)
  interactive : p'.options.interactive = (p.options.interactive || switch == .interactive)
  help : p'.options.showHelp = (p.options.showHelp || switch == .help)
  udpBind : p'.explicit.udpBind = (p.explicit.udpBind || switch == .udpBind)
  udpPort : p'.explicit.udpPort = (p.explicit.udpPort || switch == .udpPort)
  serialDevice : p'.explicit.serialDevice = (p.explicit.serialDevice || switch == .serialDevice)
  baudRate : p'.explicit.baudRate = (p.explicit.baudRate || switch == .baud)
  cameraSource : p'.explicit.cameraSource = (p.explicit.cameraSource || switch == .cameraSource)
  cameraUdpPort : p'.explicit.cameraUdpPort =
    (p.explicit.cameraUdpPort || switch == .cameraUdpPort)
  cameraWidth : p'.explicit.cameraWidth = (p.explicit.cameraWidth || switch == .cameraWidth)
  cameraHeight : p'.explicit.cameraHeight = (p.explicit.cameraHeight || switch == .cameraHeight)
  cameraFps : p'.explicit.cameraFps = (p.explicit.cameraFps || switch == .cameraFps)
  cameraPreviewPort : p'.explicit.cameraPreviewPort =
    (p.explicit.cameraPreviewPort || switch == .cameraPreviewPort)

theorem parseTransport_named (h : parseTransport value = .ok transport) :
    transport = namedTransport value := by
  rw [parseTransport.eq_def] at h
  split at h
  · cases h
    rfl
  · cases h
    rfl
  · cases h

theorem set_sets {p : ParsedOptions} (h : p.set switch argument value = .ok p') :
    Sets switch value p p' := by
  cases switch <;> simp only [ParsedOptions.set, bind_ok, pure, Except.pure, Except.ok.injEq] at h
  case transport =>
    obtain ⟨transport, hvalue, rfl⟩ := h
    have hnamed := parseTransport_named hvalue
    constructor <;> simp [hnamed]
  case udpPort | baud | snapshotMs | cameraSource | cameraUdpPort | cameraWidth | cameraHeight
      | cameraFps | apriltagSizeMm | cameraPreviewPort =>
    obtain ⟨_, _, rfl⟩ := h
    constructor <;> simp
  all_goals
    subst h
    constructor <;> simp

theorem Filled.flag {os : List (String × String)} (h : Filled os p p') (f : ParsedOptions → Bool)
    (hset : ∀ {s v p p'}, Sets s v p p' → f p' = (f p || s == switch)) :
    f p' = (f p || os.any fun o => Switch.ofText o.1 == some switch) := by
  induction h with
  | nil => simp
  | @cons argument s p value p₁ os p'' hs hp _ ih =>
    rw [ih, hset (set_sets hp), Bool.or_assoc, List.any_cons]
    simp only [hs, Option.some_beq_some]

theorem Filled.transport {os : List (String × String)} (h : Filled os p p') :
    p'.options.transport = os.foldl (fun transport o =>
      if Switch.ofText o.1 = some .transport then namedTransport o.2 else transport)
      p.options.transport := by
  induction h with
  | nil => rfl
  | cons hs hp _ ih =>
    rw [ih, List.foldl_cons, (set_sets hp).transport]
    simp only [hs, Option.some.injEq]

theorem Filled.file {os : List (String × String)} (h : Filled os p p')
    (f : ParsedOptions → String)
    (hset : ∀ {s v p p'}, Sets s v p p' → s ≠ switch → f p' = f p) (hf : f p' ≠ f p) :
    os.any (fun o => Switch.ofText o.1 == some switch) = true := by
  induction h with
  | nil => exact absurd rfl hf
  | @cons argument s p value p₁ os p'' hs hp _ ih =>
    rw [List.any_cons, Bool.or_eq_true]
    by_cases hswitch : s = switch
    · exact .inl (by simp only [hs, hswitch, BEq.rfl])
    · exact .inr (ih (hset (set_sets hp) hswitch ▸ hf))

/-- What the checks and the start-up read is what the arguments give. -/
structure Reading (arguments : List String) (p : ParsedOptions) : Prop where
  transport : p.options.transport = effectiveTransport arguments
  calibration : hasCalibration p.options = true → given arguments .cameraCalibration = true
  extrinsics : hasExtrinsics p.options = true → given arguments .cameraExtrinsics = true
  tagSize : p.options.apriltagTagSizeM.isSome = given arguments .apriltagSizeMm
  camera : p.options.cameraEnabled = given arguments .camera
  apriltag : p.options.apriltagEnabled = given arguments .apriltag
  preview : p.options.cameraPreviewEnabled = given arguments .cameraPreview
  sitl : p.options.sitlMode = given arguments .sitl
  autonomous : p.options.autonomous = given arguments .autonomous
  interactive : p.options.interactive = given arguments .interactive
  help : p.options.showHelp = given arguments .help
  udpBind : p.explicit.udpBind = given arguments .udpBind
  udpPort : p.explicit.udpPort = given arguments .udpPort
  serialDevice : p.explicit.serialDevice = given arguments .serialDevice
  baudRate : p.explicit.baudRate = given arguments .baud
  cameraSource : p.explicit.cameraSource = given arguments .cameraSource
  cameraUdpPort : p.explicit.cameraUdpPort = given arguments .cameraUdpPort
  cameraWidth : p.explicit.cameraWidth = given arguments .cameraWidth
  cameraHeight : p.explicit.cameraHeight = given arguments .cameraHeight
  cameraFps : p.explicit.cameraFps = given arguments .cameraFps
  cameraPreviewPort : p.explicit.cameraPreviewPort = given arguments .cameraPreviewPort

theorem parseArguments_reading (h : parseArguments arguments {} = .ok p) :
    Reading arguments p := by
  have hf := parseArguments_filled h
  exact {
    transport := hf.transport
    calibration := fun hc => hf.file (·.options.cameraCalibrationFile) (·.calibrationFile)
      (by simpa [hasCalibration] using hc)
    extrinsics := fun hc => hf.file (·.options.cameraExtrinsicsFile) (·.extrinsicsFile)
      (by simpa [hasExtrinsics] using hc)
    tagSize := hf.flag (·.options.apriltagTagSizeM.isSome) (·.tagSize)
    camera := hf.flag (·.options.cameraEnabled) (·.camera)
    apriltag := hf.flag (·.options.apriltagEnabled) (·.apriltag)
    preview := hf.flag (·.options.cameraPreviewEnabled) (·.preview)
    sitl := hf.flag (·.options.sitlMode) (·.sitl)
    autonomous := hf.flag (·.options.autonomous) (·.autonomous)
    interactive := hf.flag (·.options.interactive) (·.interactive)
    help := hf.flag (·.options.showHelp) (·.help)
    udpBind := hf.flag (·.explicit.udpBind) (·.udpBind)
    udpPort := hf.flag (·.explicit.udpPort) (·.udpPort)
    serialDevice := hf.flag (·.explicit.serialDevice) (·.serialDevice)
    baudRate := hf.flag (·.explicit.baudRate) (·.baudRate)
    cameraSource := hf.flag (·.explicit.cameraSource) (·.cameraSource)
    cameraUdpPort := hf.flag (·.explicit.cameraUdpPort) (·.cameraUdpPort)
    cameraWidth := hf.flag (·.explicit.cameraWidth) (·.cameraWidth)
    cameraHeight := hf.flag (·.explicit.cameraHeight) (·.cameraHeight)
    cameraFps := hf.flag (·.explicit.cameraFps) (·.cameraFps)
    cameraPreviewPort := hf.flag (·.explicit.cameraPreviewPort) (·.cameraPreviewPort) }

end OnboardAutonomy
