import OnboardAutonomy.CameraMonitor

namespace OnboardAutonomy
set_option autoImplicit true

structure GStreamerCameraConfig where
  width : UInt32 := 640
  height : UInt32 := 480
  udpPort : UInt16 := 5601
  frameTimeoutMs : UInt32 := 2000
  restartDelayMs : UInt32 := 500

/-- The number of bytes in a frame, counted in 64 bits. -/
def checkedFrameSize (config : GStreamerCameraConfig) : Except String Nat :=
  if config.width = 0 ∨ config.height = 0 ∨ config.udpPort = 0 ∨ config.frameTimeoutMs = 0 ∨
      config.restartDelayMs = 0 ∨ config.width % 2 ≠ 0 ∨ config.height % 2 ≠ 0 then
    .error ("GStreamer camera dimensions and UDP port must be " ++
      "positive, recovery timings must be non-zero; I420 dimensions must be even")
  else
    let pixels := config.width.toNat * config.height.toNat
    let bytes := (pixels + pixels / 2) % 2 ^ 64
    if 2 ^ 64 - 1 < bytes then .error "GStreamer camera frame size is too large" else .ok bytes

/-- How the stream of one attempt came to an end. -/
inductive StreamEnd where
  | noPipes (reason : String)
  | noChild (reason : String)
  | timedOut
  | failed
  | exited (status : Nat)
  | signalled (signal : Nat)
  | ended

structure GStreamerCameraSource where
  config : GStreamerCameraConfig := {}
  frameSize : Nat := 0
  status : CameraSourceStatus := {}
  latestFrame : Option CameraFrame := none
  lastProcessMessage : String := ""
  nextSequence : Nat := 0

namespace GStreamerCameraSource

def new (config : GStreamerCameraConfig) : Except String GStreamerCameraSource :=
  match checkedFrameSize config with
  | .error e => .error e
  | .ok frameSize => .ok {
      config := config
      frameSize := frameSize
      status := { description := "GStreamer RTP/H.264 UDP " ++ toString config.udpPort } }

def takeLatestFrame (s : GStreamerCameraSource) : GStreamerCameraSource × Option CameraFrame :=
  ({ s with latestFrame := none }, s.latestFrame)

def prepareAttempt (s : GStreamerCameraSource) : GStreamerCameraSource :=
  { s with lastProcessMessage := "", latestFrame := none }

/-- A line the process writes to its error stream. -/
def noteProcessMessage (s : GStreamerCameraSource) (line : String) : GStreamerCameraSource :=
  if line = "" then s else { s with lastProcessMessage := line }

/-- The frame takes the place of the last one. -/
def publish (s : GStreamerCameraSource) (frame : CameraFrame) : GStreamerCameraSource :=
  { s with
    latestFrame := some frame
    status := { s.status with
      overwrittenFrames :=
        if s.latestFrame.isSome then s.status.overwrittenFrames + 1
        else s.status.overwrittenFrames
      producedFrames := s.status.producedFrames + 1
      phase := .streaming
      error := "" } }

/-- The frame of what was read completely, with the next number. -/
def nextFrame (s : GStreamerCameraSource) (yuv420 : List UInt8) (receivedAt : Int) :
    CameraFrame where
  sequence := s.nextSequence + 1
  width := s.config.width
  height := s.config.height
  yuv420 := yuv420
  receivedAt := receivedAt

/-- What the loop does with a frame that was read completely. -/
def frameRead (s : GStreamerCameraSource) (yuv420 : List UInt8) (receivedAt : Int) :
    GStreamerCameraSource :=
  publish { s with nextSequence := s.nextSequence + 1 } (s.nextFrame yuv420 receivedAt)

def failureText (s : GStreamerCameraSource) : StreamEnd → String
  | .noPipes reason => "unable to create GStreamer pipes: " ++ reason
  | .noChild reason => "unable to fork GStreamer: " ++ reason
  | .timedOut => "GStreamer frame stalled for " ++ toString s.config.frameTimeoutMs ++ " ms"
  | .failed => "failed to read the GStreamer I420 stream"
  | .exited status => "gst-launch-1.0 exited with status " ++ toString status ++
      if s.lastProcessMessage = "" then "" else ": " ++ s.lastProcessMessage
  | .signalled signal => "gst-launch-1.0 stopped by signal " ++ toString signal
  | .ended => "GStreamer I420 stream ended unexpectedly"

def setFailure (s : GStreamerCameraSource) (error : String) : GStreamerCameraSource :=
  { s with status := { s.status with phase := .failed, error := error } }

def setReconnecting (s : GStreamerCameraSource) (error : String) : GStreamerCameraSource :=
  { s with
    latestFrame := none
    status := { s.status with
      phase := .reconnecting
      error := error
      restartCount := s.status.restartCount + 1 } }

/-- Between two attempts the loop of the worker repeats the failure it found. -/
def reconnect (s : GStreamerCameraSource) : GStreamerCameraSource :=
  s.setReconnecting (if s.status.error = "" then "GStreamer camera stopped unexpectedly"
    else s.status.error)

def setStopped (s : GStreamerCameraSource) : GStreamerCameraSource :=
  { s with status := { s.status with phase := .stopped } }

end GStreamerCameraSource

/-- An atomic step of the worker of the source, or a poll of the monitor. -/
inductive CameraStep where
  | prepareAttempt
  | processMessage (line : String)
  | publish (yuv420 : List UInt8) (receivedAt : Int)
  | fail (streamEnd : StreamEnd)
  | reconnect
  | stop
  | poll (batch : TargetDetectionBatch) (now : TimePoint)

/-- A source and the monitor that polls it. -/
structure Camera where
  source : GStreamerCameraSource := {}
  monitor : CameraMonitor := {}

namespace Camera

/-- One step and the frame it takes from the source; the detector's answer for the frame comes in
with the poll. -/
def step (c : Camera) : CameraStep → Camera × Option CameraFrame
  | .prepareAttempt => ({ c with source := c.source.prepareAttempt }, none)
  | .processMessage line => ({ c with source := c.source.noteProcessMessage line }, none)
  | .publish yuv420 receivedAt =>
    ({ c with source := c.source.frameRead yuv420 receivedAt }, none)
  | .fail streamEnd =>
    ({ c with source := c.source.setFailure (c.source.failureText streamEnd) }, none)
  | .reconnect => ({ c with source := c.source.reconnect }, none)
  | .stop => ({ c with source := c.source.setStopped }, none)
  | .poll batch now =>
    ({ source := c.source.takeLatestFrame.1
       monitor := c.monitor.poll (c.source.takeLatestFrame.2.map fun frame => (frame, batch)) now },
      c.source.takeLatestFrame.2)

def snapshot (c : Camera) (now : TimePoint) : CameraSnapshot :=
  c.monitor.snapshot c.source.status now

end Camera

end OnboardAutonomy
