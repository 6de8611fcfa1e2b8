import OnboardAutonomy.Guidance
import OnboardAutonomy.Statistics

namespace OnboardAutonomy
open Histories Statistics
set_option autoImplicit true

/-- A frame the monitor was given, with the detector's answer for it and the time of the poll. -/
structure SeenFrame where
  frame : CameraFrame
  batch : TargetDetectionBatch
  time : TimePoint

namespace SeenFrame

/-- How long a frame was under way; a clock that was set back is not counted. -/
def latency (f : SeenFrame) : Option ℚ :=
  f.frame.capturedAt.bind fun capturedAt =>
    if 0 ≤ durationMs (f.frame.receivedAt - capturedAt) then
      some (durationMs (f.frame.receivedAt - capturedAt))
    else none

def processingMs (f : SeenFrame) : ℚ := (f.batch.processingTime : ℚ) / 1000

def showsTarget (f : SeenFrame) : Bool := !f.batch.targets.isEmpty

end SeenFrame

def captures (fs : List SeenFrame) : List Int := fs.filterMap (·.frame.capturedAt)

def latencies (fs : List SeenFrame) : List ℚ := fs.filterMap SeenFrame.latency

def processingTimes (fs : List SeenFrame) : List ℚ := fs.map SeenFrame.processingMs

/-- How far, in seconds, each captured frame is from the one captured before it. -/
def captureGaps (fs : List SeenFrame) : List ℚ :=
  (gaps (captures fs)).map fun gap : Int => (gap : ℚ) / 1000000000

def detections (fs : List SeenFrame) : List SeenFrame := fs.filter SeenFrame.showsTarget

/-- The processing times a vision monitor has summed up. -/
def VisionMonitor.processing (v : VisionMonitor) : Summary ℚ where
  count := v.processedFrames
  total := v.totalProcessingMs
  maximum := v.maximumProcessingMs
  latest := v.latestProcessingMs

/-- The latencies a camera monitor has summed up. -/
def CameraMonitor.latency (m : CameraMonitor) : Summary ℚ where
  count := m.validLatencySamples
  total := m.totalLatencyMs
  maximum := m.maximumLatencyMs
  latest := m.latestLatencyMs

/-- What the frames given to a vision monitor, newest first, have left in it. -/
structure VisionMonitor.Processed (fs : List SeenFrame) (v : VisionMonitor) : Prop where
  framesWithTargets : v.framesWithTargets = (detections fs).length
  totalTargets : v.totalTargets = (fs.map (·.batch.targets.length)).sum
  lastDetectionAt : v.lastDetectionAt = (detections fs).head?.map SeenFrame.time
  processing : v.processing = summary (processingTimes fs)

/-- What the frames given to a camera monitor, newest first, have left in it. -/
structure CameraMonitor.Observed (fs : List SeenFrame) (m : CameraMonitor) : Prop where
  receivedFrames : m.receivedFrames = fs.length
  framesWithCaptureTimestamp : m.framesWithCaptureTimestamp = (captures fs).length
  firstCaptureAt : m.firstCaptureAt = (captures fs).getLast?
  lastCaptureAt : m.lastCaptureAt = (captures fs).head?
  latency : m.latency = summary (latencies fs)
  lastFrameObservedAt : m.lastFrameObservedAt = fs.head?.map SeenFrame.time
  vision : ∀ v, m.visionMonitor = some v → v.Processed fs

namespace VisionMonitor

theorem Processed.idle : Processed [] {} := ⟨rfl, rfl, rfl, rfl⟩

theorem Processed.process (hv : Processed fs v) (f : SeenFrame) :
    Processed (f :: fs) (v.process f.batch f.time) := by
  have hshows : f.showsTarget = !f.batch.targets.isEmpty := rfl
  constructor
  · rw [detections, List.filter_cons, hshows]
    dsimp only [VisionMonitor.process]
    cases f.batch.targets with
    | nil => exact hv.framesWithTargets
    | cons target targets => exact congrArg (· + 1) hv.framesWithTargets
  · rw [List.map_cons, List.sum_cons, ← hv.totalTargets]
    exact Nat.add_comm _ _
  · rw [detections, List.filter_cons, hshows]
    dsimp only [VisionMonitor.process]
    cases f.batch.targets with
    | nil => exact hv.lastDetectionAt
    | cons target targets => rfl
  · rw [processingTimes, List.map_cons, summary_cons]
    exact congrArg (Summary.add · f.processingMs) hv.processing

end VisionMonitor

namespace CameraMonitor

/-- What a monitor makes of the times of a frame. -/
structure Timestamped (m : CameraMonitor) (f : SeenFrame) (after : CameraMonitor) : Prop where
  receivedFrames : after.receivedFrames = m.receivedFrames
  lastFrameObservedAt : after.lastFrameObservedAt = m.lastFrameObservedAt
  visionMonitor : after.visionMonitor = m.visionMonitor
  framesWithCaptureTimestamp : after.framesWithCaptureTimestamp =
    m.framesWithCaptureTimestamp + f.frame.capturedAt.toList.length
  firstCaptureAt : after.firstCaptureAt = m.firstCaptureAt.or f.frame.capturedAt
  lastCaptureAt : after.lastCaptureAt = f.frame.capturedAt.or m.lastCaptureAt
  latency : after.latency = f.latency.elim m.latency m.latency.add

theorem recordLatency_timestamped (m : CameraMonitor) (f : SeenFrame) :
    Timestamped m f (m.recordLatency f.frame) := by
  rw [recordLatency]
  have hlatency : f.latency = f.frame.capturedAt.bind fun capturedAt =>
      if 0 ≤ durationMs (f.frame.receivedAt - capturedAt) then
        some (durationMs (f.frame.receivedAt - capturedAt))
      else none := rfl
  cases hcaptured : f.frame.capturedAt with
  | none =>
    rw [hcaptured, Option.bind_none] at hlatency
    exact ⟨rfl, rfl, rfl, by rw [hcaptured]; rfl, by rw [hcaptured, Option.or_none],
      by rw [hcaptured, Option.none_or], by rw [hlatency]; rfl⟩
  | some capturedAt =>
    rw [hcaptured, Option.bind_some] at hlatency
    dsimp only
    split
    · rename_i hpositive
      rw [if_pos hpositive] at hlatency
      exact ⟨rfl, rfl, rfl, by rw [hcaptured]; rfl, by rw [hcaptured], by rw [hcaptured]; rfl,
        by rw [hlatency]; rfl⟩
    · rename_i hnegative
      rw [if_neg hnegative] at hlatency
      exact ⟨rfl, rfl, rfl, by rw [hcaptured]; rfl, by rw [hcaptured], by rw [hcaptured]; rfl,
        by rw [hlatency]; rfl⟩

theorem Observed.idle : Observed [] {} :=
  ⟨rfl, rfl, rfl, rfl, rfl, rfl, fun v hv => by cases hv⟩

theorem Observed.idle_vision : Observed [] { visionMonitor := some {} } := by
  refine ⟨rfl, rfl, rfl, rfl, rfl, rfl, fun v hv => ?_⟩
  cases hv
  exact .idle

theorem Observed.poll (hm : Observed fs m) (f : SeenFrame) :
    Observed (f :: fs) (m.poll (some (f.frame, f.batch)) f.time) := by
  have hcaptures : captures (f :: fs) = f.frame.capturedAt.toList ++ captures fs :=
    filterMap_cons_toList _ f fs
  have hlatencies : latencies (f :: fs) = f.latency.toList ++ latencies fs :=
    filterMap_cons_toList _ f fs
  have ht := recordLatency_timestamped { m.countFrame f.frame f.time with
    visionMonitor := m.visionMonitor.map (VisionMonitor.process · f.batch f.time) } f
  constructor
  · exact ht.receivedFrames.trans (congrArg (· + 1) hm.receivedFrames)
  · rw [hcaptures, List.length_append, Nat.add_comm, ← hm.framesWithCaptureTimestamp]
    exact ht.framesWithCaptureTimestamp
  · rw [hcaptures, List.getLast?_append, ← hm.firstCaptureAt]
    refine ht.firstCaptureAt.trans (congrArg m.firstCaptureAt.or ?_)
    cases f.frame.capturedAt <;> rfl
  · rw [hcaptures, List.head?_append, ← hm.lastCaptureAt, Option.head?_toList]
    exact ht.lastCaptureAt
  · have hlatency : (m.poll (some (f.frame, f.batch)) f.time).latency =
        f.latency.elim m.latency m.latency.add := ht.latency
    rw [hlatency, hlatencies, hm.latency]
    cases f.latency with
    | none => rfl
    | some latency => rfl
  · exact ht.lastFrameObservedAt
  · intro v hv
    obtain ⟨v, hold, rfl⟩ := Option.map_eq_some_iff.1 (ht.visionMonitor.symm.trans hv)
    exact (hm.vision v hold).process f

end CameraMonitor

/-- A camera snapshot that is exact for the frames the monitor was given. -/
structure CameraReport (fs : List SeenFrame) (now : TimePoint) (s : CameraSnapshot) : Prop where
  receivedFrames : s.receivedFrames = fs.length
  framesWithCaptureTimestamp : s.framesWithCaptureTimestamp = (captures fs).length
  latency : Summarises (latencies fs) s.latestLatencyMs s.averageLatencyMs s.maximumLatencyMs
  worst : ∀ most ∈ s.maximumLatencyMs, most ∈ latencies fs
  rate : Paced (captureGaps fs) s.measuredFps
  age : s.latestFrameAgeMs = fs.head?.map fun f => durationMs (now - f.time)

/-- A vision snapshot that is exact for the frames the monitor was given. -/
structure VisionReport (fs : List SeenFrame) (now : TimePoint) (s : VisionSnapshot) : Prop where
  processedFrames : s.processedFrames = fs.length
  framesWithTargets : s.framesWithTargets = (detections fs).length
  totalTargets : s.totalTargets = (fs.map (·.batch.targets.length)).sum
  processing : Summarises (processingTimes fs) s.latestProcessingMs s.averageProcessingMs
    s.maximumProcessingMs
  age : s.lastDetectionAgeMs = (detections fs).head?.map fun f => durationMs (now - f.time)

theorem latencies_nonneg {fs : List SeenFrame} (hx : x ∈ latencies fs) : 0 ≤ x := by
  obtain ⟨f, _, hf⟩ := List.mem_filterMap.1 hx
  obtain ⟨capturedAt, _, hlatency⟩ := Option.bind_eq_some_iff.1 hf
  split at hlatency
  · rename_i hpositive
    rw [← Option.some.inj hlatency]
    exact hpositive
  · cases hlatency

theorem captureGaps_length (fs : List SeenFrame) :
    (captureGaps fs).length = (captures fs).length - 1 := by
  rw [captureGaps, List.length_map, gaps_length]

theorem captureGaps_sum {fs : List SeenFrame} (hlast : last ∈ (captures fs).head?)
    (hfirst : first ∈ (captures fs).getLast?) :
    (captureGaps fs).sum = ((last - first : Int) : ℚ) / 1000000000 := by
  have hscale : (fun gap : Int => (gap : ℚ) / 1000000000) =
      fun gap : Int => (gap : ℚ) * (1000000000)⁻¹ := by
    funext gap
    exact div_eq_mul_inv _ _
  rw [captureGaps, ← gaps_sum hlast hfirst, Int.cast_list_sum, div_eq_mul_inv, hscale,
    List.sum_map_mul_right]

theorem age_exact {fs : List SeenFrame} (hpast : ∀ f ∈ fs, f.time ≤ now) :
    ((fs.head?.map SeenFrame.time).bind fun last =>
      if last ≤ now then some (durationMs (now - last)) else none) =
        fs.head?.map fun f => durationMs (now - f.time) := by
  cases fs with
  | nil => rfl
  | cons f fs => exact if_pos (hpast f List.mem_cons_self)

namespace CameraMonitor

theorem Observed.measuredFps (hm : Observed fs m) :
    m.measuredFps = if 0 < (captureGaps fs).sum then
      some ((captureGaps fs).length / (captureGaps fs).sum) else none := by
  rw [CameraMonitor.measuredFps, hm.firstCaptureAt, hm.lastCaptureAt,
    hm.framesWithCaptureTimestamp, captureGaps_length]
  cases hlast : (captures fs).head? with
  | none =>
    have hnil := List.head?_eq_none_iff.1 hlast
    rw [captureGaps, hnil]
    rfl
  | some last =>
    obtain ⟨first, hfirst⟩ : ∃ first, (captures fs).getLast? = some first :=
      ⟨_, List.getLast?_eq_some_getLast (List.ne_nil_of_mem (List.mem_of_mem_head? hlast))⟩
    have hsum := captureGaps_sum hlast hfirst
    have hpositive : 0 < (captureGaps fs).sum ↔ first < last := by
      rw [hsum, lt_div_iff₀ (by norm_num), zero_mul, Int.cast_pos, Int.sub_pos]
    have hseveral : first < last → 1 < (captures fs).length := by
      intro hlt
      by_contra hshort
      have hlength := captureGaps_length fs
      rw [Nat.sub_eq_zero_of_le (not_lt.1 hshort)] at hlength
      have hpos := hpositive.2 hlt
      rw [List.eq_nil_of_length_eq_zero hlength, List.sum_nil] at hpos
      exact lt_irrefl _ hpos
    rw [hfirst]
    dsimp only
    by_cases hlt : first < last
    · rw [if_pos ⟨hseveral hlt, hlt⟩, if_pos (hpositive.2 hlt), hsum]
    · rw [if_neg fun h => hlt h.2, if_neg fun h => hlt (hpositive.1 h)]

theorem Observed.report (hm : Observed fs m) (source : CameraSourceStatus)
    (hpast : ∀ f ∈ fs, f.time ≤ now) : CameraReport fs now (m.snapshot source now) := by
  have hsummary := summary_summarises (latencies fs)
  rw [← hm.latency] at hsummary
  constructor
  · exact hm.receivedFrames
  · exact hm.framesWithCaptureTimestamp
  · exact hsummary
  · exact fun most hmost => hsummary.maximum_mem (fun x hx => latencies_nonneg hx) hmost
  · rw [CameraMonitor.snapshot, hm.measuredFps]
    exact rate_paced (captureGaps fs)
  · rw [CameraMonitor.snapshot, hm.lastFrameObservedAt]
    exact age_exact hpast

end CameraMonitor

namespace VisionMonitor

theorem Processed.report (hv : Processed fs v) (detector : String)
    (hpast : ∀ f ∈ fs, f.time ≤ now) : VisionReport fs now (v.snapshot detector now) := by
  have hsummary := summary_summarises (processingTimes fs)
  have hcount : v.processing.count = fs.length := by
    rw [hv.processing, summary_count, processingTimes, List.length_map]
  rw [← hv.processing] at hsummary
  constructor
  · exact hcount
  · exact hv.framesWithTargets
  · exact hv.totalTargets
  · exact hsummary
  · rw [VisionMonitor.snapshot, hv.lastDetectionAt]
    exact age_exact fun f hf => hpast f (List.mem_of_mem_filter hf)

end VisionMonitor

/-- The frame a call gave to the camera monitor, if any. -/
def AppCall.seen : AppCall → Option SeenFrame
  | .poll input => input.camera.map fun frame => ⟨frame.1, frame.2, input.cameraNow⟩
  | .requestAutonomyStart _ => none
  | .snapshot _ _ _ => none

def seenFrames (h : List AppEntry) : List SeenFrame := h.filterMap (·.input.seen)

theorem seenFrames_past (hl : Timed AppCall.times h call) (ht : t ∈ call.times) :
    ∀ f ∈ seenFrames h, f.time ≤ t := by
  intro f hf
  obtain ⟨e, he, hf⟩ := List.mem_filterMap.1 hf
  refine hl.2 e he f.time ?_ t ht
  cases hinput : e.input with
  | poll input =>
    rw [hinput] at hf
    obtain ⟨frame, _, hframe⟩ := Option.map_eq_some_iff.1 hf
    rw [← hframe]
    exact List.mem_cons_self
  | requestAutonomyStart now =>
    rw [hinput] at hf
    cases hf
  | snapshot source detector now =>
    rw [hinput] at hf
    cases hf

namespace Components

/-- The camera is watched as it was configured, and the monitor has observed the frames. -/
structure Watching (options : CompanionApplicationOptions) (fs : List SeenFrame)
    (c : Components) : Prop where
  camera : c.cameraMonitor.isSome = options.cameraSource
  vision : (c.cameraMonitor.bind CameraMonitor.visionMonitor).isSome = options.targetDetector
  observed : ∀ m, c.cameraMonitor = some m → m.Observed fs

theorem beginPoll_cameraMonitor (c : Components) (input : PollInput) :
    (c.beginPoll input).cameraMonitor =
      c.cameraMonitor.map (CameraMonitor.poll · input.camera input.cameraNow) := by
  apply ingest_induction (P := fun after => after.cameraMonitor =
    c.cameraMonitor.map (CameraMonitor.poll · input.camera input.cameraNow))
  · intro after m hafter
    exact (after.receive_received m input.now).cameraMonitor.trans hafter
  · rfl

theorem Watching.of_eq {c after : Components} (hw : c.Watching options fs)
    (heq : after.cameraMonitor = c.cameraMonitor) : after.Watching options fs := by
  constructor
  · rw [heq]
    exact hw.camera
  · rw [heq]
    exact hw.vision
  · rw [heq]
    exact hw.observed

theorem Watching.beginPoll {c : Components} (hw : c.Watching options fs) (input : PollInput) :
    (c.beginPoll input).Watching options ((AppCall.poll input).seen.toList ++ fs) := by
  have hmonitor := c.beginPoll_cameraMonitor input
  rw [AppCall.seen]
  cases hframe : input.camera with
  | none =>
    rw [hframe] at hmonitor
    exact hw.of_eq (hmonitor.trans Option.map_id')
  | some frame =>
    rw [hframe] at hmonitor
    cases hbefore : c.cameraMonitor with
    | none =>
      rw [hbefore] at hmonitor
      have hcamera := hw.camera
      have hvision := hw.vision
      rw [hbefore] at hcamera hvision
      exact ⟨by rw [hmonitor]; exact hcamera, by rw [hmonitor]; exact hvision,
        fun m hm => by rw [hmonitor] at hm; cases hm⟩
    | some m =>
      rw [hbefore] at hmonitor
      have hcamera := hw.camera
      have hvision := hw.vision
      rw [hbefore] at hcamera hvision
      refine ⟨by rw [hmonitor]; exact hcamera, ?_, fun m' hm => ?_⟩
      · rw [hmonitor, Option.map_some, Option.bind_some, poll_visionMonitor, Option.isSome_map]
        exact hvision
      · rw [hmonitor] at hm
        cases hm
        exact (hw.observed m hbefore).poll ⟨frame.1, frame.2, input.cameraNow⟩

end Components

namespace CompanionApplication

theorem new_watching {app : CompanionApplication} (h : new options = .ok app) :
    app.toComponents.Watching options [] := by
  have hmonitor := (new_built h).cameraMonitor
  have hobserved : ∀ m, app.cameraMonitor = some m → m.Observed [] := by
    intro m hm
    rcases hmonitor m hm with rfl | rfl
    · exact .idle
    · exact .idle_vision
  rw [new] at h
  split at h
  · cases h
  · cases h
  dsimp only at h
  split at h
  · cases h
  split at h
  · cases h
  split at h
  · cases h
  rename_i hsource
  split at h
  · cases h
  split at h
  · cases h
  cases h
  refine ⟨?_, ?_, hobserved⟩
  · dsimp only
    cases options.cameraSource <;> rfl
  · dsimp only
    cases hcamera : options.cameraSource with
    | true => cases options.targetDetector <;> rfl
    | false =>
      cases hdetector : options.targetDetector with
      | true =>
        rw [hcamera, hdetector] at hsource
        exact absurd rfl hsource
      | false => rfl

/-- Along every run the camera monitor has observed the frames it was given. -/
theorem watching_frames {app : CompanionApplication} (hr : Ran options h app) :
    app.toComponents.Watching options (seenFrames h) := by
  obtain ⟨initial, hnew, hr⟩ := hr
  refine hr.history_invariant
    (fun h app => app.toComponents.Watching options (seenFrames h)) (new_watching hnew) ?_
  intro h app call _ hw _
  cases call with
  | poll input =>
    rw [seenFrames, filterMap_cons_toList]
    exact (hw.beginPoll input).of_eq (app.poll_steps input).cameraMonitor
  | requestAutonomyStart now =>
    have hsteps := app.requestAutonomyStart_steps now
    refine hw.of_eq ?_
    simp only [step]
    generalize (app.requestAutonomyStart now).1.toComponents = after at hsteps
    generalize (app.requestAutonomyStart now).2 = answer at hsteps
    cases hsteps with
    | refused _ _ => rfl
    | restarted _ _ _ _ _ _ => rfl
  | snapshot source detector now => exact hw.of_eq rfl

/-- In every snapshot of a run the camera's statistics are those of the frames taken so far. -/
theorem statistics_reported {s : AppSnapshot} (hr : Ran options h app)
    (he : ⟨before, .snapshot source detector now, .snapshot s⟩ :: older <:+ h) :
    s.camera.isSome = options.cameraSource ∧ s.vision.isSome = options.targetDetector ∧
      (∀ camera ∈ s.camera, CameraReport (seenFrames older) now camera) ∧
      ∀ vision ∈ s.vision, VisionReport (seenFrames older) now vision := by
  obtain ⟨initial, hnew, hrun⟩ := hr
  obtain ⟨hbefore, hlegal, hout⟩ := hrun.before he
  have hs : s = (before.snapshot source detector now).2 := AppReturn.snapshot.inj hout
  have hcamera : s.camera = before.cameraMonitor.map (CameraMonitor.snapshot · source now) := by
    rw [hs]
    rfl
  have hvision : s.vision =
      before.cameraMonitor.bind (CameraMonitor.visionSnapshot · detector now) := by
    rw [hs]
    rfl
  have hw := watching_frames ⟨initial, hnew, hbefore⟩
  have hpast := seenFrames_past hlegal List.mem_cons_self
  refine ⟨?_, ?_, fun camera hc => ?_, fun vision hv => ?_⟩
  · rw [hcamera, Option.isSome_map]
    exact hw.camera
  · rw [hvision, ← hw.vision]
    cases before.cameraMonitor with
    | none => rfl
    | some m => exact Option.isSome_map
  · obtain ⟨m, hm, rfl⟩ := Option.map_eq_some_iff.1 (hcamera.symm.trans hc)
    exact (hw.observed m hm).report source hpast
  · obtain ⟨m, hm, hsnapshot⟩ := Option.bind_eq_some_iff.1 (hvision.symm.trans hv)
    obtain ⟨v, hmonitor, rfl⟩ := Option.map_eq_some_iff.1 hsnapshot
    exact ((hw.observed m hm).vision v hmonitor).report detector hpast

/-- A poll with a frame that was captured and received at some nanoseconds. -/
def pollCapturing (now : TimePoint) (capturedAt receivedAt processingTime : Int) : AppCall :=
  .poll {
    cameraNow := now
    now := now
    camera := some ({ capturedAt := some capturedAt, receivedAt := receivedAt },
      { processingTime := processingTime })
    writes := List.replicate 6 true }

/-- The snapshot of the newest call, when it was one, and the calls before it. -/
def newestSnapshot : List AppEntry → Option (AppSnapshot × List AppEntry)
  | ⟨_, .snapshot _ _ _, .snapshot s⟩ :: older => some (s, older)
  | _ => none

theorem newestSnapshot_cons {s : AppSnapshot} (hn : newestSnapshot h = some (s, older)) :
    ∃ before source detector now,
      h = ⟨before, .snapshot source detector now, .snapshot s⟩ :: older := by
  unfold newestSnapshot at hn
  split at hn
  · cases hn
    exact ⟨_, _, _, _, rfl⟩
  · cases hn

/-- Three frames, of which the second one was received before it was captured. -/
theorem statistics_reported_frames :
    ∃ h app before source detector now older s, Ran flightOptions h app ∧
      ⟨before, .snapshot source detector now, .snapshot s⟩ :: older <:+ h ∧
      (seenFrames older).length = 3 ∧ (latencies (seenFrames older)).length = 2 ∧
      s.camera.isSome = flightOptions.cameraSource ∧
      s.vision.isSome = flightOptions.targetDetector ∧
      (∀ camera ∈ s.camera, CameraReport (seenFrames older) now camera) ∧
      ∀ vision ∈ s.vision, VisionReport (seenFrames older) now vision := by
  obtain ⟨h, app, hr, hcheck⟩ := ran_of_check flightOptions
    [pollCapturing (seconds 1) 1000000 3000000 40, pollCapturing (seconds 2) 9000000 8000000 50,
      pollCapturing (seconds 3) 17000000 18000000 60, .snapshot {} "" (seconds 4)]
    (by decide) (fun h _ => (newestSnapshot h).any fun newest =>
      (seenFrames newest.2).length == 3 && (latencies (seenFrames newest.2)).length == 2)
    (by decide +kernel)
  obtain ⟨⟨s, older⟩, hnewest, hlengths⟩ := (Option.any_eq_true _ _).1 hcheck
  rw [Bool.and_eq_true, beq_iff_eq, beq_iff_eq] at hlengths
  obtain ⟨before, source, detector, now, rfl⟩ := newestSnapshot_cons hnewest
  exact ⟨_, app, before, source, detector, now, older, s, hr, List.suffix_refl _, hlengths.1,
    hlengths.2, statistics_reported hr (List.suffix_refl _)⟩

end CompanionApplication

end OnboardAutonomy
