import OnboardAutonomy.RpicamAccounts

namespace OnboardAutonomy
open Histories
set_option autoImplicit true

/-- The worker is at the end of an attempt. -/
def RpicamStage.ending : RpicamStage → Bool
  | .closing | .reaping => true
  | _ => false

/-- The worker is neither at the end of an attempt nor past its last one. -/
def RpicamStage.passing : RpicamStage → Bool
  | .closing | .reaping | .returned | .stopped => false
  | _ => true

theorem RpicamStage.ne_of_passing {stage : RpicamStage} (h : stage.passing = true) :
    stage ≠ .stopped ∧ stage.ending = false ∧ stage ≠ .returned := by
  cases stage with
  | closing | reaping | returned | stopped => cases h
  | _ => exact ⟨(fun h => by cases h), rfl, fun h => by cases h⟩

namespace RpicamWorker

/-- The failure a call repeats when the worker goes on to the next attempt. -/
def restarts (e : RpicamEntry) : Option String :=
  match e.input with
  | .reconnect => if e.before.stopRequested then none else some e.before.source.status.error
  | _ => none

/-- A phase that tells of a failure says which, and one that tells of frames has seen one. -/
def Reported (s : CameraSourceStatus) : Prop :=
  ((s.phase = .failed ∨ s.phase = .reconnecting) → s.error ≠ "") ∧
    (s.phase = .streaming → s.error = "" ∧ 0 < s.producedFrames)

/-- What the status has to do with where the worker stands. -/
structure Truthful (h : List RpicamEntry) (w : RpicamWorker) : Prop where
  reported : Reported w.source.status
  ended : w.source.status.phase = .stopped ↔ w.stage = .stopped
  asked : w.stage = .stopped → w.stopRequested = true
  sound : w.stage.ending = false → w.stage ≠ .returned → w.source.status.phase ≠ .failed
  returned : w.stage = .returned → w.stopRequested = true ∨ w.source.status.phase = .failed
  counted : w.source.status.restartCount = (inOrder restarts h).length
  repeated : ∀ error ∈ inOrder restarts h, error ≠ ""

theorem append_ne_empty {s : String} (t : String) (hs : s ≠ "") : s ++ t ≠ "" :=
  fun h => hs (String.append_eq_empty_iff.1 h).1

theorem failureText_ne_empty (s : RpicamCameraSource) (result : ReadResult) (status : ChildStatus) :
    s.failureText result status ≠ "" := by
  unfold RpicamCameraSource.failureText
  split
  · exact append_ne_empty _ (append_ne_empty _ (by decide))
  · decide
  · exact append_ne_empty _ (append_ne_empty _ (by decide))
  · exact append_ne_empty _ (by decide)
  · decide

theorem openFailureText_ne_empty (failure : OpenFailure) :
    RpicamCameraSource.openFailureText failure ≠ "" := by
  cases failure with
  | noPipes reason => exact append_ne_empty reason (by decide)
  | noChild reason => exact append_ne_empty reason (by decide)

theorem Reported.setFailure (s : RpicamCameraSource) (herror : error ≠ "") :
    Reported (s.setFailure error).status := ⟨fun _ => herror, fun h => by cases h⟩

theorem Truthful.silent {e : RpicamEntry} {w' : RpicamWorker} (ht : Truthful h w)
    (hrestarts : restarts e = none) (hstatus : w'.source.status = w.source.status)
    (hended : w'.stage = .stopped ↔ w.stage = .stopped)
    (hasked : w.stopRequested = true → w'.stopRequested = true)
    (hsound : w'.stage.ending = false → w'.stage ≠ .returned → w.source.status.phase ≠ .failed)
    (hreturned : w'.stage = .returned → w'.stopRequested = true ∨
      w.source.status.phase = .failed) : Truthful (e :: h) w' := by
  constructor
  · rw [hstatus]
    exact ht.reported
  · rw [hstatus, hended]
    exact ht.ended
  · exact fun hstage => hasked (ht.asked (hended.1 hstage))
  · rw [hstatus]
    exact hsound
  · rw [hstatus]
    exact hreturned
  · rw [hstatus, inOrder_silent h hrestarts]
    exact ht.counted
  · rw [inOrder_silent h hrestarts]
    exact ht.repeated

theorem Truthful.move {stage : RpicamStage} {e : RpicamEntry} {w' : RpicamWorker}
    (ht : Truthful h w) (hrestarts : restarts e = none)
    (hstatus : w'.source.status = w.source.status)
    (hasked : w'.stopRequested = w.stopRequested) (hstage : w.stage = stage)
    (hfrom : stage.passing = true) (hto : w'.stage.passing = true ∨ w'.stage = .closing) :
    Truthful (e :: h) w' := by
  subst hstage
  obtain ⟨hrunning, hopen, hback⟩ := RpicamStage.ne_of_passing hfrom
  have hends : w'.stage ≠ .stopped ∧ w'.stage ≠ .returned := by
    rcases hto with hto | hto
    · exact ⟨(RpicamStage.ne_of_passing hto).1, (RpicamStage.ne_of_passing hto).2.2⟩
    · rw [hto]
      exact ⟨(fun h => by cases h), fun h => by cases h⟩
  apply ht.silent hrestarts hstatus
  · exact iff_of_false hends.1 hrunning
  · exact fun hstop => hasked.trans hstop
  · exact fun _ _ => ht.sound hopen hback
  · exact fun hs => absurd hs hends.2

theorem Truthful.stop {e : RpicamEntry} (ht : Truthful h w) (hrestarts : restarts e = none)
    (hstop : w.stopRequested = true) : Truthful (e :: h) w.stop := by
  constructor
  · exact ⟨fun h => h.elim (fun h => by cases h) (fun h => by cases h), fun h => by cases h⟩
  · exact ⟨fun _ => rfl, fun _ => rfl⟩
  · exact fun _ => hstop
  · exact fun _ _ h => by cases h
  · exact fun h => by cases h
  · rw [inOrder_silent h hrestarts]
    exact ht.counted
  · rw [inOrder_silent h hrestarts]
    exact ht.repeated

theorem Truthful.fail {e : RpicamEntry} {w' : RpicamWorker} (ht : Truthful h w)
    (hrestarts : restarts e = none) (herror : error ≠ "")
    (hsource : w'.source = w.source.setFailure error)
    (hstage : w'.stage = .closing ∨ w'.stage = .returned) : Truthful (e :: h) w' := by
  have hfailed : w'.source.status.phase = .failed := by rw [hsource]; rfl
  have hwhere : w'.stage ≠ .stopped := by
    rcases hstage with hs | hs <;> rw [hs] <;> exact fun h => by cases h
  constructor
  · rw [hsource]
    exact .setFailure w.source herror
  · rw [hfailed]
    exact iff_of_false (fun h => by cases h) hwhere
  · exact fun hs => absurd hs hwhere
  · rcases hstage with hs | hs
    · intro h
      rw [hs] at h
      cases h
    · exact fun _ h => absurd hs h
  · exact fun _ => .inr hfailed
  · rw [hsource, inOrder_silent h hrestarts]
    exact ht.counted
  · rw [inOrder_silent h hrestarts]
    exact ht.repeated

theorem Truthful.hangUp (ht : Truthful h w) (hstage : w.stage = .closing) :
    Truthful (⟨w, .hangUp, none⟩ :: h) w.hangUp := by
  have hended : w.hangUp.stage = .stopped ↔ w.stage = .stopped := by
    rw [hstage]
    exact iff_of_false (fun h => by cases h) (fun h => by cases h)
  exact ht.silent rfl rfl hended id (fun h => by cases h) fun h => by cases h

theorem Truthful.join (ht : Truthful h w) (hstage : w.stage = .reaping) (status : ChildStatus) :
    Truthful (⟨w, .join status, none⟩ :: h) (w.join status) := by
  by_cases hover : w.stopRequested ∨ w.source.status.phase = .failed
  · apply ht.silent rfl
    · rw [RpicamWorker.join]
      dsimp only
      rw [if_pos hover]
    · rw [hstage]
      exact iff_of_false (fun h => by cases h) (fun h => by cases h)
    · exact id
    · exact fun _ hs => absurd rfl hs
    · exact fun _ => hover
  · apply ht.fail rfl (failureText_ne_empty w.source w.readResult status) _ (.inr rfl)
    rw [RpicamWorker.join]
    dsimp only
    rw [if_neg hover]

theorem Truthful.reconnect (ht : Truthful h w) (hstage : w.stage = .returned) :
    Truthful (⟨w, .reconnect, none⟩ :: h) w.reconnect := by
  rw [RpicamWorker.reconnect]
  by_cases hstop : w.stopRequested = true
  · have hrestarts : restarts ⟨w, .reconnect, none⟩ = none := by
      dsimp only [restarts]
      rw [if_pos hstop]
    rw [if_pos hstop]
    exact ht.stop hrestarts hstop
  · have hrestarts : restarts ⟨w, .reconnect, none⟩ = some w.source.status.error := by
      dsimp only [restarts]
      rw [if_neg hstop]
    have hfailed := (ht.returned hstage).resolve_left hstop
    have herror : w.source.status.error ≠ "" := ht.reported.1 (.inl hfailed)
    have hrepeat : (w.source.reconnect).status.error = w.source.status.error := if_neg herror
    rw [if_neg hstop]
    constructor
    · exact ⟨fun _ => hrepeat ▸ herror, fun h => by cases h⟩
    · exact iff_of_false (fun h => by cases h) (fun h => by cases h)
    · exact fun h => by cases h
    · exact fun _ _ h => by cases h
    · exact fun h => by cases h
    · rw [inOrder_cons, hrestarts, List.length_append]
      exact congrArg (· + 1) ht.counted
    · rw [inOrder_cons, hrestarts, List.forall_mem_append]
      refine ⟨ht.repeated, fun error he => ?_⟩
      rw [List.mem_singleton.1 he]
      exact herror

theorem Truthful.publish (ht : Truthful h w) :
    Truthful (⟨w, .publish, none⟩ :: h)
      { w with source := w.source.publish w.frame, stage := .turning } := by
  constructor
  · exact ⟨fun h => h.elim (fun h => by cases h) (fun h => by cases h),
      fun _ => ⟨rfl, Nat.succ_pos _⟩⟩
  · exact iff_of_false (fun h => by cases h) (fun h => by cases h)
  · exact fun h => by cases h
  · exact fun _ _ h => by cases h
  · exact fun h => by cases h
  · rw [inOrder_silent h rfl]
    exact ht.counted
  · rw [inOrder_silent h rfl]
    exact ht.repeated

theorem Truthful.stamp (ht : Truthful h w) (hstage : w.stage = .waiting) :
    Truthful (⟨w, .stamp, none⟩ :: h) w.stamp := by
  rw [RpicamWorker.stamp, RpicamCameraSource.waitForMetadata]
  cases w.source.metadataTimestamps with
  | cons timestamp queue =>
    exact ht.move rfl rfl rfl hstage rfl (.inl rfl)
  | nil =>
    by_cases hstop : w.stopRequested = true
    · dsimp only
      rw [if_pos hstop]
      exact ht.move rfl rfl rfl hstage rfl (.inr rfl)
    · dsimp only
      rw [if_neg hstop]
      exact ht.fail rfl (by decide) rfl (.inl rfl)

theorem Truthful.step {h : List RpicamEntry} (ht : Truthful h w) (hl : w.legal i = true) :
    Truthful (⟨w, i, (w.step i).2⟩ :: h) (w.step i).1 := by
  cases i with
  | enter =>
    have hstage : w.stage = .head := of_decide_eq_true hl
    rw [RpicamWorker.step, RpicamWorker.enter]
    dsimp only
    split
    · rename_i hstop
      exact ht.stop rfl hstop
    · exact ht.move rfl rfl rfl hstage rfl (.inl rfl)
  | clearTimestamps =>
    exact ht.move rfl rfl rfl (of_decide_eq_true hl) rfl (.inl rfl)
  | «open» failure =>
    cases failure with
    | none => exact ht.move rfl rfl rfl (of_decide_eq_true hl) rfl (.inl rfl)
    | some failure => exact ht.fail rfl (openFailureText_ne_empty failure) rfl (.inr rfl)
  | attend => exact ht.move rfl rfl rfl (of_decide_eq_true hl) rfl (.inl rfl)
  | turn =>
    have hstage : w.stage = .turning := of_decide_eq_true hl
    rw [RpicamWorker.step, RpicamWorker.turn]
    dsimp only
    split
    · exact ht.move rfl rfl rfl hstage rfl (.inr rfl)
    · exact ht.move rfl rfl rfl hstage rfl (.inl rfl)
  | frameRead yuv420 receivedAt =>
    exact ht.move rfl rfl rfl (of_decide_eq_true hl).1 rfl (.inl rfl)
  | readEnded result =>
    exact ht.move rfl rfl rfl (of_decide_eq_true hl).1 rfl (.inr rfl)
  | stamp => exact ht.stamp (of_decide_eq_true hl)
  | publish => exact ht.publish
  | hangUp => exact ht.hangUp (of_decide_eq_true hl)
  | join status => exact ht.join (of_decide_eq_true hl).1 status
  | reconnect => exact ht.reconnect (of_decide_eq_true hl)
  | resume =>
    have hstage : w.stage = .pausing := of_decide_eq_true hl
    rw [RpicamWorker.step, RpicamWorker.resume]
    dsimp only
    split
    · rename_i hstop
      exact ht.stop rfl hstop
    · exact ht.move rfl rfl rfl hstage rfl (.inl rfl)
  | metadataLine line =>
    exact ht.silent rfl (noteMetadata_pending w.source line).2 Iff.rfl id ht.sound ht.returned
  | processMessage line =>
    exact ht.silent rfl (noteProcessMessage_pending w.source line).2 Iff.rfl id ht.sound
      ht.returned
  | take | childExits | stopChild => exact ht.silent rfl rfl Iff.rfl id ht.sound ht.returned
  | requestStop =>
    exact ht.silent rfl rfl Iff.rfl (fun _ => rfl) ht.sound fun _ => .inl rfl

/-- In every run a phase that tells of a failure comes with its text and one that tells of frames
without any, the source is stopped exactly when its worker has ended, which only a request can bring
about, and it has restarted as often as an attempt failed, each time with the failure's own text. -/
theorem status_truthful (hr : Ran config h w) :
    Reported w.source.status ∧
      (w.source.status.phase = .stopped ↔ w.stage = .stopped) ∧
      (w.source.status.phase = .stopped → w.stopRequested = true) ∧
      w.source.status.restartCount = (inOrder restarts h).length ∧
      ∀ error ∈ inOrder restarts h, error ≠ "" := by
  have ht : Truthful h w := by
    obtain ⟨source, hnew, hr⟩ := hr
    apply hr.history_invariant Truthful
    · rw [RpicamCameraSource.new] at hnew
      split at hnew
      · cases hnew
      · cases hnew
        exact {
          reported := ⟨fun h => h.elim (fun h => by cases h) (fun h => by cases h),
            fun h => by cases h⟩
          ended := iff_of_false (fun h => by cases h) (fun h => by cases h)
          asked := fun h => by cases h
          sound := fun _ _ h => by cases h
          returned := fun h => by cases h
          counted := rfl
          repeated := fun _ h => by cases h }
    · exact fun h w i _ ht hl => ht.step hl
  exact ⟨ht.reported, ht.ended, fun hp => ht.asked (ht.ended.1 hp), ht.counted, ht.repeated⟩

/-- The first frame finds no timestamp, and the source goes on to its second attempt. -/
def restartedSteps : List RpicamStep :=
  [.enter, .clearTimestamps, .open none, .attend, .turn, .frameRead (.replicate 6 1) 10, .stamp,
    .hangUp, .childExits (.signalled 2), .join (.signalled 2), .reconnect, .resume]

theorem status_truthful_played :
    let run := play step [] smallWorker restartedSteps
    Reported run.2.source.status ∧
      (run.2.source.status.phase = .stopped ↔ run.2.stage = .stopped) ∧
      (run.2.source.status.phase = .stopped → run.2.stopRequested = true) ∧
      run.2.source.status.restartCount = (inOrder restarts run.1).length ∧
      ∀ error ∈ inOrder restarts run.1, error ≠ "" :=
  status_truthful (Ran.played restartedSteps (by decide +kernel))

end RpicamWorker

end OnboardAutonomy
