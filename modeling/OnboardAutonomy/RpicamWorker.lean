import OnboardAutonomy.Histories
import OnboardAutonomy.RpicamCameraSource

namespace OnboardAutonomy
open Histories
set_option autoImplicit true

/-- Where the worker of the source stands between two of its atomic actions. -/
inductive RpicamStage where
  | head
  | preparing
  | opening
  | forked
  | turning
  | reading
  | waiting
  | publishing
  | closing
  | reaping
  | returned
  | pausing
  | stopped
deriving DecidableEq

/-- Between the start and the joins of the reader threads. -/
def RpicamStage.attended : RpicamStage → Bool
  | .turning | .reading | .waiting | .publishing | .closing | .reaping => true
  | _ => false

inductive ChildStatus where
  | exited (status : Nat)
  | signalled (signal : Nat)
  | other
deriving DecidableEq

/-- The process of an attempt, up to the `waitpid` that takes its status. -/
inductive Child where
  | absent
  | running (interrupted : Bool)
  | exited (status : ChildStatus)
deriving DecidableEq

/-- `kill(child, SIGINT)`. -/
def Child.interrupt : Child → Child
  | .running _ => .running true
  | child => child

def Child.isRunning : Child → Bool
  | .running _ => true
  | _ => false

/-- Why an attempt did not get as far as its frames. -/
inductive OpenFailure where
  | noPipes (reason : String)
  | noChild (reason : String)

/-- The source with the stop token of its worker, where the worker stands, the child with whether
`child_pid_` has its number, and the two locals of `run_once` that outlive one action. -/
structure RpicamWorker where
  source : RpicamCameraSource := {}
  stopRequested : Bool := false
  stage : RpicamStage := .head
  child : Child := .absent
  childPid : Bool := false
  frame : CameraFrame := {}
  readResult : ReadResult := .complete

/-- An atomic action of the worker, of the two reader threads, of the application that takes frames,
of the child or of the destructor, which asks for a stop and then looks for the child. -/
inductive RpicamStep where
  | enter
  | clearTimestamps
  | «open» (failure : Option OpenFailure)
  | attend
  | turn
  | frameRead (yuv420 : List UInt8) (receivedAt : Int)
  | readEnded (result : ReadResult)
  | stamp
  | publish
  | hangUp
  | join (status : ChildStatus)
  | reconnect
  | resume
  | metadataLine (line : List Char)
  | processMessage (line : String)
  | take
  | childExits (status : ChildStatus)
  | requestStop
  | stopChild

abbrev RpicamEntry := Entry RpicamWorker RpicamStep (Option CameraFrame)

namespace RpicamCameraSource

def clearFrame (s : RpicamCameraSource) : RpicamCameraSource :=
  { s with lastProcessMessage := "", latestFrame := none }

def clearTimestamps (s : RpicamCameraSource) : RpicamCameraSource :=
  { s with metadataTimestamps := [] }

theorem prepareAttempt_eq (s : RpicamCameraSource) :
    s.prepareAttempt = s.clearFrame.clearTimestamps := rfl

def takeLatestFrame (s : RpicamCameraSource) : RpicamCameraSource × Option CameraFrame :=
  ({ s with latestFrame := none }, s.latestFrame)

def noteProcessMessage (s : RpicamCameraSource) (line : String) : RpicamCameraSource :=
  if line = "" then s else { s with lastProcessMessage := line }

def openFailureText : OpenFailure → String
  | .noPipes reason => "unable to create rpicam pipes: " ++ reason
  | .noChild reason => "unable to fork rpicam-vid: " ++ reason

/-- What an attempt that was not stopped says of its end. -/
def failureText (s : RpicamCameraSource) (result : ReadResult) (status : ChildStatus) : String :=
  match result, status with
  | .timedOut, _ => "rpicam frame stalled for " ++ toString s.config.frameTimeoutMs ++ " ms"
  | .failed, _ => "failed to read the rpicam YUV stream"
  | _, .exited status => "rpicam-vid exited with status " ++ toString status ++
      if s.lastProcessMessage = "" then "" else ": " ++ s.lastProcessMessage
  | _, .signalled signal => "rpicam-vid stopped by signal " ++ toString signal
  | _, .other => "rpicam YUV stream ended unexpectedly"

def setReconnecting (s : RpicamCameraSource) (error : String) : RpicamCameraSource :=
  { s with
    latestFrame := none
    status := { s.status with
      phase := .reconnecting
      error := error
      restartCount := s.status.restartCount + 1 } }

/-- Between two attempts the loop of the worker repeats the failure it found. -/
def reconnect (s : RpicamCameraSource) : RpicamCameraSource :=
  s.setReconnecting (if s.status.error = "" then "rpicam camera stopped unexpectedly"
    else s.status.error)

def setStopped (s : RpicamCameraSource) : RpicamCameraSource :=
  { s with status := { s.status with phase := .stopped } }

end RpicamCameraSource

namespace RpicamWorker

/-- The worker leaves the loop of `run`. -/
def stop (w : RpicamWorker) : RpicamWorker :=
  { w with source := w.source.setStopped, stage := .stopped }

def enter (w : RpicamWorker) : RpicamWorker :=
  if w.stopRequested then w.stop
  else { w with source := w.source.clearFrame, stage := .preparing }

def «open» (w : RpicamWorker) : Option OpenFailure → RpicamWorker
  | some failure =>
    { w with
      source := w.source.setFailure (RpicamCameraSource.openFailureText failure)
      stage := .returned }
  | none => { w with child := .running false, stage := .forked }

/-- The number of the child is stored and the readers are started. -/
def attend (w : RpicamWorker) : RpicamWorker :=
  { w with childPid := true, readResult := .complete, stage := .turning }

def turn (w : RpicamWorker) : RpicamWorker :=
  if w.stopRequested then { w with stage := .closing } else { w with stage := .reading }

/-- The frame gets its number and waits for its timestamp. -/
def frameRead (w : RpicamWorker) (yuv420 : List UInt8) (receivedAt : Int) : RpicamWorker :=
  { w with
    source := { w.source with nextSequence := w.source.nextSequence + 1 }
    frame := {
      sequence := w.source.nextSequence + 1
      width := w.source.config.width
      height := w.source.config.height
      receivedAt := receivedAt
      yuv420 := yuv420 }
    readResult := .complete
    stage := .waiting }

/-- The wait is over: the first timestamp goes to the frame, and without one the attempt is. -/
def stamp (w : RpicamWorker) : RpicamWorker :=
  match w.source.waitForMetadata with
  | (source, some capturedAt) =>
    { w with
      source := source
      frame := { w.frame with capturedAt := some capturedAt }
      stage := .publishing }
  | (source, none) =>
    { w with
      source :=
        if w.stopRequested then source
        else source.setFailure "camera frame arrived without FrameWallClock metadata"
      stage := .closing }

def hangUp (w : RpicamWorker) : RpicamWorker :=
  { w with child := if w.stopRequested then w.child else w.child.interrupt, stage := .reaping }

/-- The child is gone and both readers are joined. -/
def join (w : RpicamWorker) (status : ChildStatus) : RpicamWorker :=
  { w with
    source :=
      if w.stopRequested ∨ w.source.status.phase = .failed then w.source
      else w.source.setFailure (w.source.failureText w.readResult status)
    child := .absent
    childPid := false
    stage := .returned }

def stopChild (w : RpicamWorker) : RpicamWorker :=
  { w with child := if w.childPid then w.child.interrupt else w.child }

def reconnect (w : RpicamWorker) : RpicamWorker :=
  if w.stopRequested then w.stop
  else { w with source := w.source.reconnect, stage := .pausing }

def resume (w : RpicamWorker) : RpicamWorker :=
  if w.stopRequested then w.stop else { w with stage := .head }

/-- One action and the frame the application takes with it. -/
def step (w : RpicamWorker) : RpicamStep → RpicamWorker × Option CameraFrame
  | .enter => (w.enter, none)
  | .clearTimestamps => ({ w with source := w.source.clearTimestamps, stage := .opening }, none)
  | .open failure => (w.open failure, none)
  | .attend => (w.attend, none)
  | .turn => (w.turn, none)
  | .frameRead yuv420 receivedAt => (w.frameRead yuv420 receivedAt, none)
  | .readEnded result => ({ w with readResult := result, stage := .closing }, none)
  | .stamp => (w.stamp, none)
  | .publish =>
    ({ w with source := w.source.publish w.frame, stage := .turning }, none)
  | .hangUp => (w.hangUp, none)
  | .join status => (w.join status, none)
  | .reconnect => (w.reconnect, none)
  | .resume => (w.resume, none)
  | .metadataLine line => ({ w with source := w.source.noteMetadata line }, none)
  | .processMessage line => ({ w with source := w.source.noteProcessMessage line }, none)
  | .take => ({ w with source := w.source.takeLatestFrame.1 }, w.source.takeLatestFrame.2)
  | .childExits status => ({ w with child := .exited status }, none)
  | .requestStop => ({ w with stopRequested := true }, none)
  | .stopChild => (w.stopChild, none)

/-- The worker takes its actions in the order of its code and waits for its child to exit; the
readers run while it attends to a child, which can exit at any time. -/
def legal (w : RpicamWorker) : RpicamStep → Bool
  | .enter => w.stage = .head
  | .clearTimestamps => w.stage = .preparing
  | .open _ => w.stage = .opening
  | .attend => w.stage = .forked
  | .turn => w.stage = .turning
  | .frameRead yuv420 _ => w.stage = .reading ∧ yuv420.length = w.source.frameSize
  | .readEnded result => w.stage = .reading ∧ result ≠ .complete
  | .stamp => w.stage = .waiting
  | .publish => w.stage = .publishing
  | .hangUp => w.stage = .closing
  | .join status => w.stage = .reaping ∧ w.child = .exited status
  | .reconnect => w.stage = .returned
  | .resume => w.stage = .pausing
  | .metadataLine _ | .processMessage _ => w.stage.attended
  | .childExits _ => w.child.isRunning
  | .stopChild => w.stopRequested
  | .take | .requestStop => true

/-- The runs of the worker of a source that was built, with the actions of all threads in any
order. -/
def Ran (config : RpicamCameraConfig) (h : List RpicamEntry) (w : RpicamWorker) : Prop :=
  ∃ source, RpicamCameraSource.new config = .ok source ∧
    Run step (fun _ w i => w.legal i = true) { source := source } h w

end RpicamWorker

end OnboardAutonomy
