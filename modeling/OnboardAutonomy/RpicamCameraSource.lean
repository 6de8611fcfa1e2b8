import OnboardAutonomy.ChildStreams
import OnboardAutonomy.FrameWallClock

namespace OnboardAutonomy
open Chunks
set_option autoImplicit true

structure RpicamCameraSource where
  config : RpicamCameraConfig := {}
  frameSize : Nat := 0
  status : CameraSourceStatus := {}
  latestFrame : Option CameraFrame := none
  lastProcessMessage : String := ""
  nextSequence : Nat := 0
  metadataTimestamps : List Int := []

namespace RpicamCameraSource

def new (config : RpicamCameraConfig) : Except String RpicamCameraSource :=
  match config.checkedFrameSize with
  | .error e => .error e
  | .ok frameSize => .ok {
      config := config
      frameSize := frameSize
      status := { description := "rpicam-vid camera " ++ toString config.cameraIndex } }

def prepareAttempt (s : RpicamCameraSource) : RpicamCameraSource :=
  { s with lastProcessMessage := "", latestFrame := none, metadataTimestamps := [] }

/-- A line of the metadata stream adds its timestamp to those that wait for their frames. -/
def noteMetadata (s : RpicamCameraSource) (line : List Char) : RpicamCameraSource :=
  match parseRpicamFrameWallClockNs line with
  | none => s
  | some timestamp => { s with metadataTimestamps := s.metadataTimestamps ++ [timestamp] }

/-- The thread that reads the metadata stream. -/
def metadataReader (s : RpicamCameraSource) (reads : List (PipeRead Char)) : RpicamCameraSource :=
  readLines noteMetadata s [] reads

/-- The first timestamp, if there is one when the wait is over. -/
def waitForMetadata (s : RpicamCameraSource) : RpicamCameraSource × Option Int :=
  match s.metadataTimestamps with
  | [] => (s, none)
  | timestamp :: rest => ({ s with metadataTimestamps := rest }, some timestamp)

def setFailure (s : RpicamCameraSource) (error : String) : RpicamCameraSource :=
  { s with status := { s.status with phase := .failed, error := error } }

def publish (s : RpicamCameraSource) (frame : CameraFrame) : RpicamCameraSource :=
  { s with
    latestFrame := some frame
    status := { s.status with
      overwrittenFrames :=
        if s.latestFrame.isSome then s.status.overwrittenFrames + 1
        else s.status.overwrittenFrames
      producedFrames := s.status.producedFrames + 1
      phase := .streaming
      error := "" } }

/-- A frame with the number that was given out last. -/
def image (s : RpicamCameraSource) (capturedAt receivedAt : Int) (yuv420 : List UInt8) :
    CameraFrame where
  sequence := s.nextSequence
  width := s.config.width
  height := s.config.height
  capturedAt := some capturedAt
  receivedAt := receivedAt
  yuv420 := yuv420

def stopRequested : List PipeTurn → Bool
  | .stopRequested :: _ => true
  | _ => false

/-- The state in which a frame that was read waits for its timestamp: the frame has its number, and
some metadata lines have come in. -/
def received (s : RpicamCameraSource) (lines : List (List Char)) : RpicamCameraSource :=
  lines.foldl noteMetadata { s with nextSequence := s.nextSequence + 1 }

theorem noteMetadata_timestamps (s : RpicamCameraSource) (lines : List (List Char)) :
    (lines.foldl noteMetadata s).metadataTimestamps =
      s.metadataTimestamps ++ lines.filterMap parseRpicamFrameWallClockNs := by
  induction lines generalizing s with
  | nil => exact (List.append_nil _).symm
  | cons line lines ih =>
    rw [List.foldl_cons, ih, noteMetadata]
    cases hline : parseRpicamFrameWallClockNs line with
    | none => rw [List.filterMap_cons_none hline]
    | some timestamp =>
      rw [List.filterMap_cons_some hline]
      exact List.append_assoc s.metadataTimestamps [timestamp] _

/-- The timestamps that wait are those of the lines, in the order in which the lines come in. -/
theorem metadataReader_timestamps (s : RpicamCameraSource) (reads : List (PipeRead Char)) :
    (s.metadataReader reads).metadataTimestamps = s.metadataTimestamps ++
      (pieces '\n' (delivered reads)).filterMap parseRpicamFrameWallClockNs := by
  rw [metadataReader, readLines_eq s List.not_mem_nil, noteMetadata_timestamps, List.nil_append]

theorem noteMetadata_frame (s : RpicamCameraSource) (line : List Char) :
    (s.noteMetadata line).frameSize = s.frameSize ∧ (s.noteMetadata line).config = s.config ∧
      (s.noteMetadata line).nextSequence = s.nextSequence := by
  rw [noteMetadata]
  split <;> exact ⟨rfl, rfl, rfl⟩

theorem noteMetadata_lines (s : RpicamCameraSource) (lines : List (List Char)) :
    (lines.foldl noteMetadata s).frameSize = s.frameSize ∧
      (lines.foldl noteMetadata s).config = s.config ∧
      (lines.foldl noteMetadata s).nextSequence = s.nextSequence := by
  induction lines generalizing s with
  | nil => exact ⟨rfl, rfl, rfl⟩
  | cons line lines ih =>
    obtain ⟨hsize, hconfig, hnext⟩ := ih (s.noteMetadata line)
    obtain ⟨hsize', hconfig', hnext'⟩ := s.noteMetadata_frame line
    exact ⟨hsize.trans hsize', hconfig.trans hconfig', hnext.trans hnext'⟩

theorem waitForMetadata_frame (s : RpicamCameraSource) :
    s.waitForMetadata.1.frameSize = s.frameSize ∧ s.waitForMetadata.1.config = s.config ∧
      s.waitForMetadata.1.nextSequence = s.nextSequence := by
  rw [waitForMetadata]
  split <;> exact ⟨rfl, rfl, rfl⟩

theorem received_frame (s : RpicamCameraSource) (lines : List (List Char)) :
    (s.received lines).waitForMetadata.1.frameSize = s.frameSize ∧
      (s.received lines).waitForMetadata.1.config = s.config ∧
      (s.received lines).waitForMetadata.1.nextSequence = s.nextSequence + 1 := by
  obtain ⟨hsize, hconfig, hnext⟩ := (s.received lines).waitForMetadata_frame
  obtain ⟨hsize', hconfig', hnext'⟩ :=
    noteMetadata_lines { s with nextSequence := s.nextSequence + 1 } lines
  exact ⟨hsize.trans hsize', hconfig.trans hconfig', hnext.trans hnext'⟩

/-- The frames that are read and find a timestamp, until a stop is asked for, the stream ends or
a timestamp is missing. The clock says when the frame with a number was complete, and the metadata
are the lines that come in up to the end of its wait. -/
def frameLoop (s : RpicamCameraSource) (positive : 0 < s.frameSize) (clock : Nat → Int)
    (metadata : Nat → List (List Char)) (readResult : ReadResult) (turns : List PipeTurn) :
    List CameraFrame × RpicamCameraSource × ReadResult :=
  match turns with
  | .stopRequested :: _ => ([], s, readResult)
  | turns =>
    match _h : readExact s.frameSize turns with
    | (.complete, yuv420, rest) =>
      let receivedAt := clock (s.nextSequence + 1)
      let waited := (s.received (metadata (s.nextSequence + 1))).waitForMetadata
      match waited.2 with
      | none =>
        ([],
          if stopRequested rest then waited.1
          else waited.1.setFailure "camera frame arrived without FrameWallClock metadata",
          .complete)
      | some capturedAt =>
        let frame := waited.1.image capturedAt receivedAt yuv420
        let (images, final) := frameLoop (waited.1.publish frame)
          ((received_frame s _).1 ▸ positive) clock metadata .complete rest
        (frame :: images, final)
    | (result, _, _) => ([], s, result)
termination_by (turns.map PipeTurn.held).sum
decreasing_by
  have hread := readExact_outcome s.frameSize turns
  rw [_h] at hread
  have hheld := hread.2.2
  omega

theorem frameLoop_step (s : RpicamCameraSource) (positive : 0 < s.frameSize) (clock : Nat → Int)
    (metadata : Nat → List (List Char)) (readResult : ReadResult) (turns : List PipeTurn) :
    (s.frameLoop positive clock metadata readResult turns).1 = [] ∨
      ∃ (frame : CameraFrame) (next : RpicamCameraSource) (rest : List PipeTurn)
          (positive' : 0 < next.frameSize),
        frame.yuv420.length = s.frameSize ∧
        videoBytes turns = frame.yuv420 ++ videoBytes rest ∧
        (rest.map PipeTurn.held).sum < (turns.map PipeTurn.held).sum ∧
        (s.frameLoop positive clock metadata readResult turns).1 =
          frame :: (next.frameLoop positive' clock metadata .complete rest).1 ∧
        frame.sequence = s.nextSequence + 1 ∧ frame.width = s.config.width ∧
        frame.height = s.config.height ∧ next.frameSize = s.frameSize ∧
        next.config = s.config ∧ next.nextSequence = s.nextSequence + 1 := by
  obtain ⟨hsize, hconfig, hnext⟩ := s.received_frame (metadata (s.nextSequence + 1))
  rw [frameLoop.eq_def]
  split
  · exact .inl rfl
  · split
    · rename_i yuv420 rest hread
      dsimp only
      split
      · exact .inl rfl
      · rename_i capturedAt _
        let waited := (s.received (metadata (s.nextSequence + 1))).waitForMetadata.1
        let frame := waited.image capturedAt (clock (s.nextSequence + 1)) yuv420
        have hwhole := readExact_outcome s.frameSize turns
        rw [hread] at hwhole
        refine .inr ⟨frame, waited.publish frame, rest,
          Nat.lt_of_lt_of_eq positive hsize.symm, hwhole.1, hwhole.2.1, ?_, rfl, hnext, ?_, ?_,
          hsize, hconfig, hnext⟩
        · have hheld := hwhole.2.2
          omega
        · exact congrArg RpicamCameraConfig.width hconfig
        · exact congrArg RpicamCameraConfig.height hconfig
    · exact .inl rfl

/-- The frames are the first blocks of the stream, numbered from the next number on. -/
theorem frameLoop_images (s : RpicamCameraSource) (positive : 0 < s.frameSize) (clock : Nat → Int)
    (metadata : Nat → List (List Char)) (readResult : ReadResult) (turns : List PipeTurn) :
    (s.frameLoop positive clock metadata readResult turns).1.map
        (fun frame => (frame.yuv420, frame.sequence)) <+:
      (blocks s.frameSize (videoBytes turns)).zipIdx (s.nextSequence + 1) := by
  rcases s.frameLoop_step positive clock metadata readResult turns with
    hnil | ⟨frame, next, rest, positive', hfull, hbytes, hheld, hloop, hnumber, -, -, hsize, -,
      hnext⟩
  · rw [hnil]
    exact List.nil_prefix
  · have ih := next.frameLoop_images positive' clock metadata .complete rest
    have hblocks : blocks s.frameSize (frame.yuv420 ++ videoBytes rest) =
        frame.yuv420 :: blocks s.frameSize (videoBytes rest) := blocks_append positive hfull
    rw [hsize, hnext] at ih
    rw [hloop, hbytes, hblocks, List.zipIdx_cons, List.map_cons, hnumber]
    exact (List.cons_prefix_cons).2 ⟨rfl, ih⟩
termination_by (turns.map PipeTurn.held).sum
decreasing_by exact hheld

theorem frameLoop_dimensions (s : RpicamCameraSource) (positive : 0 < s.frameSize)
    (clock : Nat → Int) (metadata : Nat → List (List Char)) (readResult : ReadResult)
    (turns : List PipeTurn) :
    ∀ frame ∈ (s.frameLoop positive clock metadata readResult turns).1,
      frame.width = s.config.width ∧ frame.height = s.config.height := by
  rcases s.frameLoop_step positive clock metadata readResult turns with
    hnil | ⟨frame, next, rest, positive', -, -, hheld, hloop, -, hwidth, hheight, -, hconfig, -⟩
  · rw [hnil]
    exact fun frame hframe => absurd hframe List.not_mem_nil
  · have ih := next.frameLoop_dimensions positive' clock metadata .complete rest
    rw [hconfig] at ih
    rw [hloop, List.forall_mem_cons]
    exact ⟨⟨hwidth, hheight⟩, ih⟩
termination_by (turns.map PipeTurn.held).sum
decreasing_by exact hheld

theorem waitForMetadata_stamp (s : RpicamCameraSource) :
    s.waitForMetadata.2 = s.metadataTimestamps.head? := by
  rw [waitForMetadata]
  split <;> rename_i h <;> rw [h] <;> rfl

theorem frameLoop_first (s : RpicamCameraSource) (positive : 0 < s.frameSize) (clock : Nat → Int)
    (readResult : ReadResult) (hbytes : bytes.length = s.frameSize)
    (hline : parseRpicamFrameWallClockNs line = some timestamp) :
    (s.frameLoop positive clock (fun _ => [line]) readResult [.readable (.got bytes)]).1 ≠ [] := by
  have hne : bytes ≠ [] := List.length_pos_iff.1 (hbytes ▸ positive)
  have hstamp : (s.received [line]).waitForMetadata.2 ≠ none := by
    rw [waitForMetadata_stamp, received, List.foldl_cons, List.foldl_nil, noteMetadata, hline,
      Ne, List.head?_eq_none_iff]
    exact List.append_ne_nil_of_right_ne_nil _ (List.cons_ne_nil _ _)
  have hread := readExact_outcome s.frameSize [.readable (.got bytes)]
  rw [frameLoop]
  · split
    · dsimp only
      split
      · rename_i hnone
        exact absurd hnone hstamp
      · exact List.cons_ne_nil _ _
    · rename_i result part rest hnot hpart
      rw [hpart] at hread
      have hshort : videoBytes [.readable (.got bytes)] = part ∧ part.length < s.frameSize := by
        cases result with
        | complete => exact (hnot rfl).elim
        | stopped | endOfFile | timedOut | failed => exact hread
      rw [videoBytes, if_neg hne, videoBytes, List.append_nil] at hshort
      rw [← hshort.1, hbytes] at hshort
      exact absurd hshort.2 (Nat.lt_irrefl _)
  · intro tail h
    cases h

end RpicamCameraSource

/-- The frame has a byte for each of its pixels. -/
def HoldsLuma (frame : CameraFrame) : Prop :=
  frame.width.toNat * frame.height.toNat ≤ frame.yuv420.length

/-- Every frame that is published holds its luma plane. -/
def GStreamerCameraConfig.LumaHeld (config : GStreamerCameraConfig) : Prop :=
  ∀ (s : GStreamerCameraSource) (positive : 0 < s.frameSize) (clock : Nat → Int)
    (readResult : ReadResult) (turns : List PipeTurn),
    s.config = config → checkedFrameSize config = .ok s.frameSize →
    ∀ frame ∈ (s.frameLoop positive clock readResult turns).1, HoldsLuma frame

def RpicamCameraConfig.LumaHeld (config : RpicamCameraConfig) : Prop :=
  ∀ (s : RpicamCameraSource) (positive : 0 < s.frameSize) (clock : Nat → Int)
    (metadata : Nat → List (List Char)) (readResult : ReadResult) (turns : List PipeTurn),
    s.config = config → config.checkedFrameSize = .ok s.frameSize →
    ∀ frame ∈ (s.frameLoop positive clock metadata readResult turns).1, HoldsLuma frame

theorem image_length {images : List CameraFrame}
    (h : images.map (fun frame => (frame.yuv420, frame.sequence)) <+:
      (blocks size bytes).zipIdx k) : ∀ frame ∈ images, frame.yuv420.length = size := by
  intro frame hframe
  have hpair := h.subset (List.mem_map_of_mem hframe)
  exact length_of_mem_blocks (List.fst_mem_of_mem_zipIdx hpair)

theorem RpicamCameraSource.frameLoop_length (s : RpicamCameraSource) (positive : 0 < s.frameSize)
    (clock : Nat → Int) (metadata : Nat → List (List Char)) (readResult : ReadResult)
    (turns : List PipeTurn) :
    ∀ frame ∈ (s.frameLoop positive clock metadata readResult turns).1,
      frame.yuv420.length = s.frameSize :=
  image_length (s.frameLoop_images positive clock metadata readResult turns)

theorem GStreamerCameraSource.frameLoop_length (s : GStreamerCameraSource)
    (positive : 0 < s.frameSize) (clock : Nat → Int) (readResult : ReadResult)
    (turns : List PipeTurn) :
    ∀ frame ∈ (s.frameLoop positive clock readResult turns).1,
      frame.yuv420.length = s.frameSize := by
  apply image_length
  rw [s.frameLoop_images positive clock readResult turns]

theorem GStreamerCameraSource.frameLoop_first (s : GStreamerCameraSource)
    (positive : 0 < s.frameSize) (clock : Nat → Int) (readResult : ReadResult)
    (hbytes : bytes.length = s.frameSize) :
    (s.frameLoop positive clock readResult [.readable (.got bytes)]).1 ≠ [] := by
  intro hnil
  have hframes := s.frameLoop_images positive clock readResult [.readable (.got bytes)]
  have hne : bytes ≠ [] := List.length_pos_iff.1 (hbytes ▸ positive)
  rw [hnil, videoBytes, if_neg hne, videoBytes, blocks_append positive hbytes] at hframes
  cases hframes

theorem GStreamerCameraConfig.lumaHeld_iff (config : GStreamerCameraConfig) :
    config.LumaHeld ↔ config.Refused ∨ FrameFits config.width config.height := by
  rw [← frameBytes_luma_iff config.accepted, ← checkedFrameSize_eq]
  constructor
  · intro h bytes hsize
    let s : GStreamerCameraSource := { config := config, frameSize := bytes }
    have hpos : 0 < s.frameSize := frameBytes_pos config.accepted hsize
    have hfirst := s.frameLoop_first hpos (fun _ => 0) .complete (List.length_replicate (a := 0))
    obtain ⟨frame, hframe⟩ := List.exists_mem_of_ne_nil _ hfirst
    have hluma := h s hpos _ _ _ rfl hsize frame hframe
    obtain ⟨hwidth, hheight⟩ := s.frameLoop_dimensions hpos _ _ _ frame hframe
    rwa [HoldsLuma, hwidth, hheight, s.frameLoop_length hpos _ _ _ frame hframe] at hluma
  · intro h s positive clock readResult turns hconfig hsize frame hframe
    obtain ⟨hwidth, hheight⟩ := s.frameLoop_dimensions positive _ _ _ frame hframe
    rw [HoldsLuma, hwidth, hheight, hconfig, s.frameLoop_length positive _ _ _ frame hframe]
    exact h s.frameSize hsize

theorem RpicamCameraConfig.lumaHeld_iff (config : RpicamCameraConfig) :
    config.LumaHeld ↔ config.Refused ∨ FrameFits config.width config.height := by
  rw [← frameBytes_luma_iff config.accepted, ← checkedFrameSize]
  constructor
  · intro h bytes hsize
    let s : RpicamCameraSource := { config := config, frameSize := bytes }
    have hpos : 0 < s.frameSize := frameBytes_pos config.accepted hsize
    have hline : parseRpicamFrameWallClockNs "\"FrameWallClock\": 1".toList = some 1 := by
      decide +kernel
    have hfirst := s.frameLoop_first hpos (fun _ => 0) .complete
      (List.length_replicate (a := 0)) hline
    obtain ⟨frame, hframe⟩ := List.exists_mem_of_ne_nil _ hfirst
    have hluma := h s hpos _ _ _ _ rfl hsize frame hframe
    obtain ⟨hwidth, hheight⟩ := s.frameLoop_dimensions hpos _ _ _ _ frame hframe
    rwa [HoldsLuma, hwidth, hheight, s.frameLoop_length hpos _ _ _ _ frame hframe] at hluma
  · intro h s positive clock metadata readResult turns hconfig hsize frame hframe
    obtain ⟨hwidth, hheight⟩ := s.frameLoop_dimensions positive _ _ _ _ frame hframe
    rw [HoldsLuma, hwidth, hheight, hconfig, s.frameLoop_length positive _ _ _ _ frame hframe]
    exact h s.frameSize hsize

/-- A frame size is exact, and every frame that is published holds its luma plane, exactly when the
configuration is refused or the bytes of a frame can be counted in 64 bits. -/
theorem frame_sizes_iff (config : GStreamerCameraConfig) (rpicamConfig : RpicamCameraConfig) :
    ((FrameSizeExact config.width config.height (checkedFrameSize config) ↔
        config.Refused ∨ FrameFits config.width config.height) ∧
      (config.LumaHeld ↔ config.Refused ∨ FrameFits config.width config.height)) ∧
    (FrameSizeExact rpicamConfig.width rpicamConfig.height rpicamConfig.checkedFrameSize ↔
        rpicamConfig.Refused ∨ FrameFits rpicamConfig.width rpicamConfig.height) ∧
      (rpicamConfig.LumaHeld ↔
        rpicamConfig.Refused ∨ FrameFits rpicamConfig.width rpicamConfig.height) := by
  constructor
  · exact ⟨frameBytes_exact_iff config.accepted, config.lumaHeld_iff⟩
  · exact ⟨frameBytes_exact_iff rpicamConfig.accepted, rpicamConfig.lumaHeld_iff⟩

theorem frame_size_wraps :
    ¬FrameSizeExact 4294967294 4294967294
        (checkedFrameSize { width := 4294967294, height := 4294967294 }) ∧
      ¬FrameSizeExact 4294967294 4294967294
        (RpicamCameraConfig.checkedFrameSize { width := 4294967294, height := 4294967294 }) := by
  constructor
  · intro h
    have hexact := h 9223372011084972038 (by decide +kernel)
    exact absurd hexact.1 (by decide +kernel)
  · intro h
    have hexact := h 9223372011084972038 (by decide +kernel)
    exact absurd hexact.1 (by decide +kernel)

end OnboardAutonomy
