import OnboardAutonomy.CameraSource
import OnboardAutonomy.Histories

namespace OnboardAutonomy
open Histories
set_option autoImplicit true

abbrev CameraEntry := Entry Camera CameraStep (Option CameraFrame)

theorem CameraMonitor.poll_counts (m : CameraMonitor) (frame : CameraFrame)
    (batch : TargetDetectionBatch) (now : TimePoint) :
    (m.poll (some (frame, batch)) now).receivedFrames = m.receivedFrames + 1 ∧
      (m.poll (some (frame, batch)) now).lastSequence = some frame.sequence ∧
      (m.poll (some (frame, batch)) now).droppedBeforeProcessing =
        (m.countFrame frame now).droppedBeforeProcessing := by
  rw [poll, recordLatency]
  dsimp only
  split
  · exact ⟨rfl, rfl, rfl⟩
  · split
    · exact ⟨rfl, rfl, rfl⟩
    · exact ⟨rfl, rfl, rfl⟩

namespace Camera

/-- The runs of a source that was built and a new monitor, with the steps of the source and the
polls in any order. -/
def Ran (config : GStreamerCameraConfig) (vision : Option VisionMonitor) (h : List CameraEntry)
    (c : Camera) : Prop :=
  ∃ source : GStreamerCameraSource, GStreamerCameraSource.new config = .ok source ∧
    Run step (fun _ _ _ => True) ⟨source, { visionMonitor := vision }⟩ h c

/-- The frames the polls took, newest first. -/
def taken (h : List CameraEntry) : List CameraFrame := h.filterMap (·.output)

/-- The frame a step throws away. -/
def discards (e : CameraEntry) : Option CameraFrame :=
  match e.input with
  | .prepareAttempt | .reconnect => e.before.source.latestFrame
  | _ => none

/-- The complete frames thrown away between two attempts, newest first. -/
def discarded (h : List CameraEntry) : List CameraFrame := h.filterMap discards

/-- Where every frame of the source is, and what the counters know of it. -/
structure Counted (h : List CameraEntry) (c : Camera) : Prop where
  pending : ∀ frame, c.source.latestFrame = some frame → frame.sequence = c.source.nextSequence
  produced : c.source.status.overwrittenFrames + (taken h).length + (discarded h).length +
    c.source.latestFrame.toList.length = c.source.nextSequence
  received : c.monitor.receivedFrames = (taken h).length
  last : c.monitor.lastSequence = (taken h).head?.map (·.sequence)
  past : ∀ frame ∈ taken h, 1 ≤ frame.sequence ∧
    frame.sequence + c.source.latestFrame.toList.length ≤ c.source.nextSequence
  increasing : (taken h).Pairwise fun later earlier => earlier.sequence < later.sequence
  gaps : ∀ newest ∈ (taken h).head?, ∀ oldest ∈ (taken h).getLast?,
    c.monitor.droppedBeforeProcessing + (taken h).length + oldest.sequence = newest.sequence + 1
  none_yet : taken h = [] → c.monitor.droppedBeforeProcessing = 0

theorem taken_cons (e : CameraEntry) (h : List CameraEntry) :
    taken (e :: h) = e.output.toList ++ taken h := filterMap_cons_toList _ e h

theorem discarded_cons (e : CameraEntry) (h : List CameraEntry) :
    discarded (e :: h) = (discards e).toList ++ discarded h := filterMap_cons_toList _ e h

theorem Counted.start {source : GStreamerCameraSource}
    (hnew : GStreamerCameraSource.new config = .ok source)
    (vision : Option VisionMonitor) :
    Counted [] ⟨source, { visionMonitor := vision }⟩ := by
  rw [GStreamerCameraSource.new] at hnew
  split at hnew
  · cases hnew
  · cases hnew
    exact {
      pending := fun frame h => (by cases h)
      produced := rfl
      received := rfl
      last := rfl
      past := fun frame h => (by cases h)
      increasing := .nil
      gaps := fun newest h => (by cases h)
      none_yet := fun _ => rfl }

theorem taken_silent (houtput : e.output = none) : taken (e :: h) = taken h := by
  rw [taken_cons, houtput]
  rfl

theorem discarded_silent (hdiscards : discards e = none) :
    discarded (e :: h) = discarded h := by
  rw [discarded_cons, hdiscards]
  rfl

theorem Counted.untaken {source : GStreamerCameraSource} (hc : Counted h c)
    (houtput : e.output = none)
    (hpending : ∀ frame, source.latestFrame = some frame → frame.sequence = source.nextSequence)
    (hproduced : source.status.overwrittenFrames + (taken h).length +
      (discarded (e :: h)).length + source.latestFrame.toList.length = source.nextSequence)
    (hpast : c.source.nextSequence + source.latestFrame.toList.length ≤
      source.nextSequence + c.source.latestFrame.toList.length) :
    Counted (e :: h) { c with source := source } := by
  constructor
  · exact hpending
  · rw [taken_silent houtput]
    exact hproduced
  · rw [taken_silent houtput]
    exact hc.received
  · rw [taken_silent houtput]
    exact hc.last
  · intro frame hm
    rw [taken_silent houtput] at hm
    have hold := hc.past frame hm
    dsimp only
    exact ⟨hold.1, by omega⟩
  · rw [taken_silent houtput]
    exact hc.increasing
  · rw [taken_silent houtput]
    exact hc.gaps
  · rw [taken_silent houtput]
    exact hc.none_yet

theorem Counted.silent {source : GStreamerCameraSource} (hc : Counted h c)
    (houtput : e.output = none) (hdiscards : discards e = none)
    (hframe : source.latestFrame = c.source.latestFrame)
    (hnext : source.nextSequence = c.source.nextSequence)
    (hoverwritten : source.status.overwrittenFrames = c.source.status.overwrittenFrames) :
    Counted (e :: h) { c with source := source } := by
  apply hc.untaken houtput
  · rw [hframe, hnext]
    exact hc.pending
  · rw [discarded_silent hdiscards, hframe, hnext, hoverwritten]
    exact hc.produced
  · rw [hframe, hnext]

theorem Counted.discard {source : GStreamerCameraSource} (hc : Counted h c)
    (houtput : e.output = none) (hdiscards : discards e = c.source.latestFrame)
    (hframe : source.latestFrame = none) (hnext : source.nextSequence = c.source.nextSequence)
    (hoverwritten : source.status.overwrittenFrames = c.source.status.overwrittenFrames) :
    Counted (e :: h) { c with source := source } := by
  have hproduced := hc.produced
  apply hc.untaken houtput
  · intro frame h
    rw [hframe] at h
    cases h
  · rw [discarded_cons, hdiscards, hframe, hnext, hoverwritten, List.length_append,
      Option.toList_none, List.length_nil]
    omega
  · rw [hframe, hnext]
    exact Nat.le_add_right _ _

theorem Counted.publish (hc : Counted h c) (yuv420 : List UInt8) (receivedAt : Int) (houtput : e.output = none)
    (hdiscards : discards e = none) :
    Counted (e :: h) { c with source := c.source.frameRead yuv420 receivedAt } := by
  have hproduced := hc.produced
  apply hc.untaken houtput
  · intro frame h
    cases h
    rfl
  · rw [discarded_silent hdiscards]
    dsimp only [GStreamerCameraSource.frameRead, GStreamerCameraSource.publish, Option.toList_some, List.length_singleton]
    cases hpending : c.source.latestFrame with
    | none =>
      rw [hpending] at hproduced
      dsimp only [Option.isSome_none, Option.toList_none, List.length_nil] at hproduced ⊢
      rw [if_neg Bool.false_ne_true]
      omega
    | some frame =>
      rw [hpending] at hproduced
      dsimp only [Option.isSome_some, Option.toList_some, List.length_singleton] at hproduced ⊢
      rw [if_pos rfl]
      omega
  · exact Nat.le_add_right _ _

/-- The number missing before a taken frame closes the count from the oldest one on. -/
theorem Counted.gaps_take (hc : Counted h c) (now : TimePoint)
    (hpast : ∀ earlier ∈ taken h, earlier.sequence < frame.sequence) :
    ∀ oldest ∈ (frame :: taken h).getLast?,
      (c.monitor.countFrame frame now).droppedBeforeProcessing + (frame :: taken h).length +
        oldest.sequence = frame.sequence + 1 := by
  intro oldest holdest
  rw [CameraMonitor.countFrame, hc.last, List.length_cons]
  cases hprevious : taken h with
  | nil =>
    rw [hprevious, List.getLast?_singleton, Option.mem_some_iff] at holdest
    rw [← holdest]
    dsimp only [List.head?_nil, Option.map_none, List.length_nil]
    rw [hc.none_yet hprevious]
    omega
  | cons last earlier =>
    rw [hprevious, List.getLast?_cons_cons] at holdest
    have hgaps := hc.gaps last (by rw [hprevious]; rfl) oldest (by rw [hprevious]; exact holdest)
    have hlt := hpast last (by rw [hprevious]; exact List.mem_cons_self)
    rw [hprevious] at hgaps
    dsimp only [List.head?_cons, Option.map_some]
    split
    · omega
    · omega

theorem Counted.take (hc : Counted h c) (hframe : c.source.latestFrame = some frame)
    (batch : TargetDetectionBatch) (now : TimePoint) (houtput : e.output = some frame)
    (hdiscards : discards e = none) :
    Counted (e :: h) ⟨c.source.takeLatestFrame.1, c.monitor.poll (some (frame, batch)) now⟩ := by
  have htaken : taken (e :: h) = frame :: taken h := by rw [taken_cons, houtput]; rfl
  have hdiscarded : discarded (e :: h) = discarded h := discarded_silent hdiscards
  have hsequence := hc.pending frame hframe
  have hproduced := hc.produced
  rw [hframe, Option.toList_some, List.length_singleton] at hproduced
  have hpast : ∀ earlier ∈ taken h, 1 ≤ earlier.sequence ∧ earlier.sequence < frame.sequence := by
    intro earlier hm
    have hle := hc.past earlier hm
    rw [hframe, Option.toList_some, List.length_singleton] at hle
    exact ⟨hle.1, hsequence ▸ hle.2⟩
  obtain ⟨hreceived, hlast, hdropped⟩ := c.monitor.poll_counts frame batch now
  constructor
  · intro frame h
    cases h
  · rw [htaken, hdiscarded]
    dsimp only [GStreamerCameraSource.takeLatestFrame, Option.toList_none, List.length_nil,
      List.length_cons]
    omega
  · dsimp only
    rw [htaken, hreceived, hc.received]
    rfl
  · dsimp only
    rw [htaken, hlast]
    rfl
  · intro earlier hm
    rw [htaken] at hm
    dsimp only [GStreamerCameraSource.takeLatestFrame, Option.toList_none, List.length_nil]
    rcases List.mem_cons.1 hm with he | hm
    · rw [he]
      omega
    · have hlt := hpast earlier hm
      omega
  · rw [htaken]
    exact List.Pairwise.cons (fun earlier hm => (hpast earlier hm).2) hc.increasing
  · intro newest hnewest oldest holdest
    rw [htaken] at hnewest holdest ⊢
    cases hnewest
    dsimp only
    rw [hdropped]
    exact hc.gaps_take now (fun earlier hm => (hpast earlier hm).2) oldest holdest
  · intro h
    rw [htaken] at h
    cases h

theorem Counted.step (hc : Counted h c) (i : CameraStep) :
    Counted (⟨c, i, (c.step i).2⟩ :: h) (c.step i).1 := by
  cases i with
  | prepareAttempt => exact hc.discard rfl rfl rfl rfl rfl
  | processMessage line =>
    have hkept : (c.source.noteProcessMessage line).latestFrame = c.source.latestFrame ∧
        (c.source.noteProcessMessage line).nextSequence = c.source.nextSequence ∧
        (c.source.noteProcessMessage line).status = c.source.status := by
      rw [GStreamerCameraSource.noteProcessMessage]
      split
      · exact ⟨rfl, rfl, rfl⟩
      · exact ⟨rfl, rfl, rfl⟩
    exact hc.silent rfl rfl hkept.1 hkept.2.1 (congrArg _ hkept.2.2)
  | publish yuv420 receivedAt => exact hc.publish yuv420 receivedAt rfl rfl
  | fail streamEnd => exact hc.silent rfl rfl rfl rfl rfl
  | reconnect => exact hc.discard rfl rfl rfl rfl rfl
  | stop => exact hc.silent rfl rfl rfl rfl rfl
  | poll batch now =>
    rw [Camera.step, GStreamerCameraSource.takeLatestFrame]
    dsimp only
    cases hframe : c.source.latestFrame with
    | none => exact hc.silent rfl rfl hframe.symm rfl rfl
    | some frame => exact hc.take hframe batch now rfl rfl

theorem Ran.counted (hr : Ran config vision h c) : Counted h c := by
  obtain ⟨source, hnew, hr⟩ := hr
  exact hr.history_invariant Counted (.start hnew vision) fun _ _ i _ hc _ => hc.step i

/-- The call that takes a frame takes the pending one, which has the newest number. -/
theorem Ran.took {older : List CameraEntry} (hr : Ran config vision (e :: older) c)
    (houtput : e.output = some frame) :
    c.source.latestFrame = none ∧ frame.sequence = c.source.nextSequence := by
  obtain ⟨source, hnew, hr⟩ := hr
  cases hr with
  | @next _ s i hr _ =>
    have hc : Counted older s := Ran.counted ⟨source, hnew, hr⟩
    cases i with
    | poll batch now => exact ⟨rfl, hc.pending frame houtput⟩
    | _ => cases houtput

/-- The frames taken have increasing numbers, and right after a poll that took a frame its number
is the number of frames the snapshot accounts for if and only if the polls began with the first
frame or no frame was thrown away between two attempts. -/
theorem frames_accounted_iff (hr : Ran config vision h c) :
    (taken h).Pairwise (fun later earlier => earlier.sequence < later.sequence) ∧
      ∀ e older frame now, h = e :: older → e.output = some frame →
        ((c.snapshot now).receivedFrames + (c.snapshot now).droppedBeforeProcessing =
            frame.sequence ↔
          (∃ first ∈ (taken h).getLast?, first.sequence = 1) ∨ discarded h = []) := by
  have hc := hr.counted
  refine ⟨hc.increasing, fun e older frame now hsplit houtput => ?_⟩
  rw [hsplit] at hr hc ⊢
  obtain ⟨hpending, hsequence⟩ := hr.took houtput
  have htaken : taken (e :: older) = frame :: taken older := by rw [taken_cons, houtput]; rfl
  obtain ⟨first, hfirst⟩ : ∃ first, first ∈ (taken (e :: older)).getLast? := by
    rw [htaken]
    exact ⟨_, List.getLast?_eq_getLast_of_ne_nil (List.cons_ne_nil _ _)⟩
  have hgaps := hc.gaps frame (by rw [htaken]; rfl) first hfirst
  have hone := (hc.past first (List.mem_of_getLast? hfirst)).1
  have hproduced := hc.produced
  rw [hpending, Option.toList_none, List.length_nil] at hproduced
  have hfirst : (∃ x ∈ (taken (e :: older)).getLast?, x.sequence = 1) ↔ first.sequence = 1 := by
    rw [Option.mem_def] at hfirst
    rw [hfirst]
    simp only [Option.mem_some_iff, exists_eq_left']
  rw [hfirst, ← List.length_eq_zero_iff, snapshot, CameraMonitor.snapshot]
  dsimp only
  rw [hc.received]
  omega

/-- The source of the default configuration. -/
def defaultSource : GStreamerCameraSource where
  frameSize := 460800
  status := { description := "GStreamer RTP/H.264 UDP " ++ toString (5601 : UInt16) }

theorem new_default : GStreamerCameraSource.new {} = .ok defaultSource := by
  have hsize : checkedFrameSize {} = .ok 460800 := by
    rw [checkedFrameSize, if_neg (by decide)]
    rfl
  rw [GStreamerCameraSource.new, hsize]
  rfl

theorem Ran.played (is : List CameraStep) :
    Ran {} none (play step [] ⟨defaultSource, {}⟩ is).1 (play step [] ⟨defaultSource, {}⟩ is).2 :=
  ⟨defaultSource, new_default, Run.start.play_free (fun _ _ _ => trivial) is⟩

/-- The stream fails before the first frame is polled, and the polls begin with the second one. -/
def lostFrame : List CameraStep :=
  [.prepareAttempt, .publish [] 0, .fail (.exited 1), .reconnect, .prepareAttempt, .publish [] 0,
    .poll {} 0]

/-- The first frame is polled, the next ones are overwritten or lost in a restart. -/
def restartedStream : List CameraStep :=
  [.prepareAttempt, .publish [] 0, .poll {} 0, .publish [] 1, .publish [] 2, .fail (.exited 1),
    .reconnect, .prepareAttempt, .publish [] 3, .poll {} 4]

theorem frames_accounted_polled :
    let run := play step [] ⟨defaultSource, {}⟩ restartedStream
    (taken run.1).Pairwise (fun later earlier => earlier.sequence < later.sequence) ∧
      ∀ e older frame now, run.1 = e :: older → e.output = some frame →
        ((run.2.snapshot now).receivedFrames + (run.2.snapshot now).droppedBeforeProcessing =
            frame.sequence ↔
          (∃ first ∈ (taken run.1).getLast?, first.sequence = 1) ∨ discarded run.1 = []) :=
  frames_accounted_iff (Ran.played restartedStream)

theorem frame_lost_between_attempts :
    ¬∀ config vision h c, Ran config vision h c → ∀ e older frame now, h = e :: older →
      e.output = some frame → (c.snapshot now).receivedFrames +
        (c.snapshot now).droppedBeforeProcessing = frame.sequence := by
  intro hclaim
  have heq := hclaim _ _ _ _ (Ran.played lostFrame) _ _ _ 0 rfl rfl
  revert heq
  decide

end Camera

end OnboardAutonomy
