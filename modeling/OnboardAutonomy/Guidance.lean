import OnboardAutonomy.ApplicationRuns
import OnboardAutonomy.RigidTransform
import OnboardAutonomy.RuntimeSteps
import OnboardAutonomy.TargetTracks

namespace OnboardAutonomy
open ExactDouble Histories
set_option autoImplicit true

namespace AutonomyRuntime

theorem updateLandCommand_land (r : AutonomyRuntime) (now : TimePoint)
    (ha : a ∈ (r.updateLandCommand now).2.toList) : a.action = .land := by
  rcases r.updateLandCommand_cases now with ⟨_, hu⟩ | ⟨_, hu⟩ | ⟨_, _, hu⟩
  · rw [hu] at ha
    cases ha
  · rw [hu] at ha
    cases ha
  · rw [hu, Option.toList_some, List.mem_singleton] at ha
    rw [ha]
    rfl

theorem search_land (r : AutonomyRuntime) (now : TimePoint) (ha : a ∈ (r.search now).2) :
    a.action = .land := by
  simp only [search] at ha
  split at ha
  · cases ha
  split at ha
  · exact updateLandCommand_land _ now ha
  · cases ha

theorem guide_guidance (r : AutonomyRuntime) (intent : DesiredMotion) (now : TimePoint)
    (ha : a ∈ (r.guide intent now).2) (hk : a.action = .landingTarget) :
    a = landingTargetRequest intent now := by
  obtain ⟨_, _, _, _, hstream⟩ := r.streamTarget_warmup intent now
  rw [guide] at ha
  rcases List.mem_append.1 ha with ha | ha
  · rcases hstream with hs | hs
    · rw [hs] at ha
      cases ha
    · rw [hs, List.mem_singleton] at ha
      exact ha
  · split at ha
    · rw [updateLandCommand_land _ now ha] at hk
      cases hk
    · cases ha

theorem update_guidance
    (hu : update r vehicle startup failsafe now landingTarget = (r', actions)) (ha : a ∈ actions)
    (hk : a.action = .landingTarget) :
    ∃ target, landingTarget = some target ∧ validTarget target = true ∧
      a.xM = target.forwardM ∧ a.yM = target.rightM ∧ a.zM = target.downM := by
  cases update_updated hu with
  | rest _ | wait _ _ _ | refuse _ _ _ | abort _ _ _ | land _ _ _ _ | touchDown _ _ _ => cases ha
  | @act b _ _ _ _ _ hact =>
    rw [act] at hact
    dsimp only at hact
    split at hact
    · have hl := search_land (a := a) _ now (by rw [hact]; exact ha)
      rw [hk] at hl
      cases hl
    · rename_i intent hi
      obtain ⟨_, _, _, htarget, hvalid⟩ := supervised_approved hi
      have hg := guide_guidance (a := a) _ intent now (by rw [hact]; exact ha) hk
      rw [hg]
      exact ⟨intent.landingTarget, htarget, hvalid, rfl, rfl, rfl⟩

end AutonomyRuntime

/-- A landing target is the current track, not too old, in the body frame. -/
theorem Components.currentLandingTarget_tracked {c : Components}
    (h : c.currentLandingTarget now = .ok (some target)) :
    ∃ m v extrinsics position age, c.cameraMonitor = some m ∧ m.visionMonitor = some v ∧
      c.cameraExtrinsics = some extrinsics ∧ (v.targetTracker.snapshot now).phase = .tracking ∧
      (v.targetTracker.snapshot now).position = some position ∧
      (v.targetTracker.snapshot now).observationAgeMs = some age ∧
      age ≤ durationMs kMaximumLandingTargetAge ∧
      cameraToBodyFrd position extrinsics = .ok target := by
  rw [currentLandingTarget] at h
  split at h
  · rename_i vision extrinsics hvision hextrinsics
    dsimp only at h
    split at h
    · rename_i position age hphase hposition hage
      split at h
      · cases h
      rename_i hfresh
      obtain ⟨m, hm, hsnapshot⟩ := Option.bind_eq_some_iff.1 hvision
      obtain ⟨v, hv, rfl⟩ := Option.map_eq_some_iff.1 hsnapshot
      refine ⟨m, v, extrinsics, position, age, hm, hv, hextrinsics, hphase, hposition, hage,
        not_lt.1 hfresh, ?_⟩
      cases ht : cameraToBodyFrd position extrinsics with
      | error message =>
        rw [ht] at h
        cases h
      | ok body =>
        rw [ht] at h
        cases h
        rfl
    · cases h
  · cases h

/-- The frame a call has processed, if any. -/
def AppCall.frames : AppCall → List ProcessedFrame
  | .poll input =>
    (input.camera.map fun frame => ⟨input.cameraNow, frame.2.targets⟩).toList
  | .requestAutonomyStart _ => []
  | .snapshot _ _ _ => []

def processedFrames (h : List AppEntry) : List ProcessedFrame := h.flatMap (·.input.frames)

theorem AppCall.frames_time {call : AppCall} (hf : f ∈ call.frames) : f.time ∈ call.times := by
  cases call with
  | poll input =>
    obtain ⟨frame, _, hframe⟩ := Option.map_eq_some_iff.1 (Option.mem_toList.1 hf)
    rw [← hframe]
    exact List.mem_cons_self
  | requestAutonomyStart now => cases hf
  | snapshot source detector now => cases hf

theorem processedFrames_past (hl : Timed AppCall.times h call) (ht : t ∈ call.times) :
    ∀ f ∈ processedFrames h, f.time ≤ t := by
  intro f hf
  obtain ⟨e, he, hf⟩ := List.mem_flatMap.1 hf
  exact hl.2 e he _ (AppCall.frames_time hf) t ht

/-- What a guidance request rests on: a confirmed track of one tag that ends shortly before, seen
through the camera's rotation and origin. -/
structure Guided (rules : TrackRules) (fs : List ProcessedFrame) (extrinsics : CameraExtrinsics)
    (rotation : Matrix (Fin 3) (Fin 3) ℚ) (origin : Fin 3 → ℚ) (t : TargetTracker) (id : Int)
    (p : Fin 3 → ℚ) (last : Sighting) (earlier : List Sighting) (now : TimePoint)
    (a : FlightActionRequest) : Prop where
  extrinsics : extrinsics.Exact rotation origin
  target : t.targetId = some id
  position : t.position = some (.exact p)
  smoothed : p = smoothed rules.positionSmoothingFactor ((last :: earlier).map Sighting.measured)
  track : Tracked rules id fs (last :: earlier)
  confirmed : rules.requiredConsecutiveObservations ≤ (last :: earlier).length
  past : last.time ≤ now
  recent : now - last.time ≤ kMaximumLandingTargetAge
  carried : (⟨a.xM, a.yM, a.zM⟩ : BodyFramePosition) = .exact (rotation.mulVec p + origin)
  below : 0 < (rotation.mulVec p + origin) 2

/-- The configuration the application gives its tracker. -/
def trackerRules : TrackRules where
  requiredConsecutiveObservations := 3
  lossTimeout := milliseconds 500
  positionSmoothingFactor := 35 / 100
  minimumDecisionMargin := 20

namespace Components

/-- The tracker of the camera, if there is one, follows the processed frames. -/
def Follows (c : Components) (fs : List ProcessedFrame) : Prop :=
  ∀ m v, c.cameraMonitor = some m → m.visionMonitor = some v →
    v.targetTracker.Follows trackerRules fs

theorem Follows.ingest (hc : Follows c fs) (messages : List MavlinkMessage) (now : TimePoint) :
    Follows (c.ingest messages now) fs := by
  apply ingest_induction (P := fun c => Follows c fs)
  · intro c m hc
    rw [Follows, (c.receive_received m now).cameraMonitor]
    exact hc
  · exact hc

theorem poll_visionMonitor (m : CameraMonitor) (frame : CameraFrame × TargetDetectionBatch)
    (now : TimePoint) : (m.poll (some frame) now).visionMonitor =
      m.visionMonitor.map (VisionMonitor.process · frame.2 now) := by
  simp only [CameraMonitor.poll, CameraMonitor.recordLatency]
  cases frame.1.capturedAt with
  | none => rfl
  | some capturedAt => dsimp only; split <;> rfl

theorem Follows.beginPoll (hc : Follows c fs) (input : PollInput)
    (hpast : ∀ f ∈ fs, f.time ≤ input.cameraNow) :
    Follows (c.beginPoll input) ((AppCall.poll input).frames ++ fs) := by
  apply Follows.ingest
  intro m v hm hv
  obtain ⟨m, hbefore, rfl⟩ := Option.map_eq_some_iff.1 hm
  cases hframe : input.camera with
  | none =>
    rw [hframe] at hv
    rw [AppCall.frames, hframe]
    exact hc m v hbefore hv
  | some frame =>
    rw [hframe, poll_visionMonitor] at hv
    obtain ⟨v, hold, rfl⟩ := Option.map_eq_some_iff.1 hv
    rw [AppCall.frames, hframe]
    exact (hc m v hbefore hold).update hpast frame.2.targets

end Components

namespace CompanionApplication

theorem extrinsics_kept :
    Kept options fun c => c.cameraExtrinsics = options.cameraExtrinsics where
  built _ hb := hb.cameraExtrinsics
  camera _ _ _ hc := hc
  received _ _ _ _ hc hr := hr.cameraExtrinsics.trans hc
  polled _ _ _ _ hc hp := hp.cameraExtrinsics.trans hc
  started _ _ _ _ hc hs := by
    cases hs with
    | refused _ _ => exact hc
    | restarted _ _ _ _ _ _ => exact hc
  observed _ _ hc := hc

/-- Along every run the tracker follows the frames that were processed. -/
theorem follows_processed {app : CompanionApplication} (hr : Ran options h app) :
    app.toComponents.Follows (processedFrames h) := by
  obtain ⟨initial, hnew, hr⟩ := hr
  refine hr.history_invariant (fun h app => app.toComponents.Follows (processedFrames h)) ?_ ?_
  · intro m v hm hv
    rcases (new_built hnew).cameraMonitor m hm with rfl | rfl
    · cases hv
    · cases hv
      exact .idle rfl rfl
  · intro h app call _ hi hl
    cases call with
    | poll input =>
      have hp := app.poll_steps input
      have hb := hi.beginPoll input (processedFrames_past hl List.mem_cons_self)
      intro m v hm
      exact hb m v (hp.cameraMonitor.symm.trans hm)
    | requestAutonomyStart now =>
      have hsteps := app.requestAutonomyStart_steps now
      intro m v hm hv
      simp only [step] at hm
      generalize (app.requestAutonomyStart now).1.toComponents = after at hsteps hm
      generalize (app.requestAutonomyStart now).2 = answer at hsteps
      cases hsteps with
      | refused _ _ => exact hi m v hm hv
      | restarted _ _ _ _ _ _ => exact hi m v hm hv
    | snapshot source detector now => exact hi

/-- Every guidance request of a run rests on a confirmed and recent track. -/
theorem guidance_provenance {app : CompanionApplication} (hr : Ran options h app)
    (he : ⟨before, .poll input, .poll outcome⟩ :: older <:+ h) (ha : a ∈ outcome.autonomyActions)
    (hk : a.action = .landingTarget) :
    ∃ m v extrinsics rotation origin id p last earlier,
      options.cameraExtrinsics = some extrinsics ∧
      (before.toComponents.beginPoll input).cameraMonitor = some m ∧ m.visionMonitor = some v ∧
      Guided trackerRules (processedFrames (⟨before, .poll input, .poll outcome⟩ :: older))
        extrinsics rotation origin v.targetTracker id p last earlier input.now a := by
  obtain ⟨after, _, hextrinsics, hp⟩ := extrinsics_kept.poll hr (he.subset List.mem_cons_self)
  obtain ⟨initial, hnew, hrun⟩ := hr
  obtain ⟨hbefore, hlegal, _⟩ := hrun.before he
  have hfollows := (follows_processed ⟨initial, hnew, hbefore⟩).beginPoll input
    (processedFrames_past hlegal List.mem_cons_self)
  rcases hp.autonomy with ⟨hnone, _⟩ | ⟨target, runtime, htarget, hu, _⟩
  · rw [hnone] at ha
    cases ha
  obtain ⟨target, rfl, hvalid, hx, hy, hz⟩ := AutonomyRuntime.update_guidance hu ha hk
  obtain ⟨m, v, extrinsics, position, age, hm, hv, hext, hphase, hposition, hage, hfresh, hbody⟩ :=
    Components.currentLandingTarget_tracked htarget
  obtain ⟨id, last, earlier, hid, htrack, hconfirmed, hsmoothed, hshown, hshownAge⟩ :=
    (hfollows m v hm hv).snapshot hphase
  rw [hshown, hsmoothed] at hposition
  rw [hshownAge] at hage
  cases hposition
  cases hage
  obtain ⟨rotation, origin, hexact, htransform⟩ := cameraToBodyFrd_exact _ hbody
  have hpast : last.time ≤ input.now := by
    obtain ⟨f, hf, htime⟩ := htrack.time_mem List.mem_cons_self
    rw [htime]
    rcases List.mem_append.1 hf with hf | hf
    · obtain ⟨_, _, hframe⟩ := Option.map_eq_some_iff.1 (Option.mem_toList.1 hf)
      rw [← hframe]
      exact List.rel_of_pairwise_cons hlegal.1 List.mem_cons_self
    · exact processedFrames_past hlegal (List.mem_cons_of_mem _ List.mem_cons_self) f hf
  have hrecent : input.now - last.time ≤ kMaximumLandingTargetAge := by
    rw [if_pos hpast, durationMs, div_le_div_iff_of_pos_right (by decide)] at hfresh
    exact Int.cast_le.1 hfresh
  have hguided : Guided trackerRules
      (processedFrames (⟨before, .poll input, .poll outcome⟩ :: older)) extrinsics rotation origin
      v.targetTracker id _ last earlier input.now a := {
    extrinsics := hexact
    target := hid
    position := hsmoothed
    smoothed := rfl
    track := htrack
    confirmed := hconfirmed
    past := hpast
    recent := hrecent
    carried := by rw [hx, hy, hz, ← htransform]
    below := by
      rw [validTarget, htransform] at hvalid
      simpa only [BodyFramePosition.exact, Double.isFinite_finite, Bool.true_and,
        Double.blt_finite, decide_eq_true_eq] using hvalid }
  exact ⟨m, v, extrinsics, rotation, origin, id, _, last, earlier, hextrinsics.symm.trans hext, hm,
    hv, hguided⟩

/-- The vehicle takes off once it is ready, in three steps. -/
def takeoffCalls : List AppCall :=
  [pollAt 8 [heartbeatFrom 1 2 0 4, acknowledgedBy 1 MAV_CMD_DO_SET_MODE 0],
   pollAt 9 [heartbeatFrom 1 2 128 4, acknowledgedBy 1 MAV_CMD_COMPONENT_ARM_DISARM 0],
   pollAt 10 [heartbeatFrom 1 2 128 4, acknowledgedBy 1 MAV_CMD_NAV_TAKEOFF 0,
     ⟨1, 1, .globalPositionInt 20000⟩]]

/-- A poll in which the camera shows tag 7 five metres ahead of it. -/
def pollSeeingTag (now : TimePoint) : AppCall :=
  .poll {
    cameraNow := now
    now := now
    camera := some ({}, { targets := [{
      id := 7
      decisionMargin := .finite 50
      pose := some { position := { forwardM := .finite 5 } } }] })
    writes := List.replicate 6 true }

/-- Three frames with the tag after takeoff are enough for a guidance request. -/
theorem guidance_provenance_tag :
    ∃ h app before input outcome older a, Ran flightOptions h app ∧
      ⟨before, .poll input, .poll outcome⟩ :: older <:+ h ∧ a ∈ outcome.autonomyActions ∧
      a.action = .landingTarget ∧
      ∃ m v extrinsics rotation origin id p last earlier,
        flightOptions.cameraExtrinsics = some extrinsics ∧
        (before.toComponents.beginPoll input).cameraMonitor = some m ∧ m.visionMonitor = some v ∧
        Guided trackerRules (processedFrames (⟨before, .poll input, .poll outcome⟩ :: older))
          extrinsics rotation origin v.targetTracker id p last earlier input.now a := by
  obtain ⟨h, app, hr, hs⟩ := ran_of_check flightOptions
    (readyFlight 1 0 ++ takeoffCalls ++ [pollSeeingTag (milliseconds 10200),
      pollSeeingTag (milliseconds 10400), pollSeeingTag (milliseconds 10600)])
    (by decide) (fun h _ => (newestOutcome h).any fun outcome =>
      outcome.autonomyActions.any fun a => a.action == .landingTarget) (by decide +kernel)
  obtain ⟨outcome, ho, hany⟩ := (Option.any_eq_true _ _).1 hs
  obtain ⟨before, input, older, rfl⟩ := newestOutcome_cons ho
  obtain ⟨a, ha, hk⟩ := List.any_eq_true.1 hany
  rw [beq_iff_eq] at hk
  exact ⟨_, app, before, input, outcome, older, a, hr, List.suffix_refl _, ha, hk,
    guidance_provenance hr (List.suffix_refl _) ha hk⟩

end CompanionApplication

end OnboardAutonomy
