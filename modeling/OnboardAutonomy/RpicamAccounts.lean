import OnboardAutonomy.FrameStamping

namespace OnboardAutonomy
open Histories
set_option autoImplicit true

namespace RpicamWorker

/-- The frame that is read and not yet published. -/
def inFlight (w : RpicamWorker) : List CameraFrame :=
  match w.stage with
  | .waiting | .publishing => [w.frame]
  | _ => []

/-- The pending frame that a new attempt throws away. -/
def discards (e : RpicamEntry) : Option CameraFrame :=
  match e.input with
  | .enter | .reconnect => if e.before.stopRequested then none else e.before.source.latestFrame
  | _ => none

def takes (e : RpicamEntry) : Option CameraFrame := e.output

/-- The frame for which no timestamp came in. -/
def loses (e : RpicamEntry) : Option CameraFrame :=
  match e.input, e.before.source.metadataTimestamps with
  | .stamp, [] => some e.before.frame
  | _, _ => none

/-- The numbers of the published frames, and of the one in flight. -/
def numbers (h : List RpicamEntry) (w : RpicamWorker) : List Nat :=
  (inOrder publishes h ++ w.inFlight).map (·.sequence)

/-- Where every frame is that was read. -/
structure Accounted (h : List RpicamEntry) (w : RpicamWorker) : Prop where
  read : w.source.nextSequence =
    (inOrder publishes h).length + (inOrder loses h).length + w.inFlight.length
  produced : w.source.status.producedFrames = (inOrder publishes h).length
  placed : w.source.status.producedFrames = w.source.status.overwrittenFrames +
    (inOrder takes h).length + (inOrder discards h).length +
    w.source.latestFrame.toList.length
  ascending : (numbers h w).Pairwise (· < ·)
  bounded : ∀ n ∈ numbers h w, n ≤ w.source.nextSequence
  stamped : (∀ image ∈ inOrder publishes h, image.capturedAt.isSome) ∧
    (w.stage = .publishing → w.frame.capturedAt.isSome)
  handed : (inOrder takes h ++ w.source.latestFrame.toList).Sublist (inOrder publishes h)

theorem inOrder_silent (h : List RpicamEntry) (hf : f e = none) :
    inOrder f (e :: h) = inOrder f h := by
  rw [inOrder_cons, hf, Option.toList_none, List.append_nil]

theorem Accounted.unread {e : RpicamEntry} {w' : RpicamWorker} (ha : Accounted h w)
    (hpublishes : publishes e = none) (hloses : loses e = none)
    (hnext : w'.source.nextSequence = w.source.nextSequence)
    (hproduced : w'.source.status.producedFrames = w.source.status.producedFrames)
    (hflight : w'.inFlight = w.inFlight) (hframe : w'.frame = w.frame)
    (hstage : w'.stage = .publishing → w.stage = .publishing)
    (hplaced : w.source.status.producedFrames = w'.source.status.overwrittenFrames +
      (inOrder takes (e :: h)).length + (inOrder discards (e :: h)).length +
      w'.source.latestFrame.toList.length)
    (hhanded : (inOrder takes (e :: h) ++ w'.source.latestFrame.toList).Sublist
      (inOrder publishes h)) : Accounted (e :: h) w' := by
  have hpublished : inOrder publishes (e :: h) = inOrder publishes h :=
    inOrder_silent h hpublishes
  have hnumbers : numbers (e :: h) w' = numbers h w := by
    rw [numbers, numbers, hpublished, hflight]
  constructor
  · rw [hpublished, inOrder_silent h hloses, hflight, hnext]
    exact ha.read
  · rw [hpublished, hproduced]
    exact ha.produced
  · rw [hproduced]
    exact hplaced
  · rw [hnumbers]
    exact ha.ascending
  · rw [hnumbers, hnext]
    exact ha.bounded
  · rw [hpublished, hframe]
    exact ⟨ha.stamped.1, fun hs => ha.stamped.2 (hstage hs)⟩
  · rw [hpublished]
    exact hhanded

theorem Accounted.silent {e : RpicamEntry} {w' : RpicamWorker} (ha : Accounted h w)
    (he : publishes e = none ∧ loses e = none ∧ takes e = none ∧ discards e = none)
    (hsource : w'.source.nextSequence = w.source.nextSequence ∧
      w'.source.latestFrame = w.source.latestFrame ∧
      w'.source.status.producedFrames = w.source.status.producedFrames ∧
      w'.source.status.overwrittenFrames = w.source.status.overwrittenFrames)
    (hflight : w'.inFlight = w.inFlight) (hframe : w'.frame = w.frame)
    (hstage : w'.stage = .publishing → w.stage = .publishing) : Accounted (e :: h) w' := by
  obtain ⟨hpublishes, hloses, htakes, hdiscards⟩ := he
  obtain ⟨hnext, hlatest, hproduced, hoverwritten⟩ := hsource
  apply ha.unread hpublishes hloses hnext hproduced hflight hframe hstage
  · rw [inOrder_silent h htakes, inOrder_silent h hdiscards, hoverwritten, hlatest]
    exact ha.placed
  · rw [inOrder_silent h htakes, hlatest]
    exact ha.handed

theorem not_publishing {w : RpicamWorker} (hflight : w.inFlight = []) : w.stage ≠ .publishing := by
  intro hs
  rw [inFlight, hs] at hflight
  cases hflight

theorem Accounted.discard {e : RpicamEntry} {w' : RpicamWorker} (ha : Accounted h w)
    (he : publishes e = none ∧ loses e = none ∧ takes e = none)
    (hdiscards : discards e = w.source.latestFrame)
    (hsource : w'.source.nextSequence = w.source.nextSequence ∧ w'.source.latestFrame = none ∧
      w'.source.status.producedFrames = w.source.status.producedFrames ∧
      w'.source.status.overwrittenFrames = w.source.status.overwrittenFrames)
    (hframe : w'.frame = w.frame) (hflight : w.inFlight = []) (hafter : w'.inFlight = []) :
    Accounted (e :: h) w' := by
  obtain ⟨hpublishes, hloses, htakes⟩ := he
  obtain ⟨hnext, hlatest, hproduced, hoverwritten⟩ := hsource
  apply ha.unread hpublishes hloses hnext hproduced (hafter.trans hflight.symm) hframe
    (fun hs => absurd hs (not_publishing hafter))
  · have hplaced := ha.placed
    rw [inOrder_silent h htakes, inOrder_cons, hdiscards, hoverwritten, hlatest,
      List.length_append, Option.toList_none, List.length_nil]
    omega
  · rw [inOrder_silent h htakes, hlatest, Option.toList_none, List.append_nil]
    exact (List.sublist_append_left _ _).trans ha.handed

theorem Accounted.idle {e : RpicamEntry} {w' : RpicamWorker} (ha : Accounted h w)
    (he : publishes e = none ∧ loses e = none ∧ takes e = none ∧ discards e = none)
    (hsource : w'.source.nextSequence = w.source.nextSequence ∧
      w'.source.latestFrame = w.source.latestFrame ∧
      w'.source.status.producedFrames = w.source.status.producedFrames ∧
      w'.source.status.overwrittenFrames = w.source.status.overwrittenFrames)
    (hframe : w'.frame = w.frame) (hflight : w.inFlight = []) (hafter : w'.inFlight = []) :
    Accounted (e :: h) w' :=
  ha.silent he hsource (hafter.trans hflight.symm) hframe
    fun hs => absurd hs (not_publishing hafter)

theorem Accounted.take (ha : Accounted h w) :
    Accounted (⟨w, .take, w.source.latestFrame⟩ :: h)
      { w with source := w.source.takeLatestFrame.1 } := by
  have htaken : inOrder takes (⟨w, .take, w.source.latestFrame⟩ :: h) =
      inOrder takes h ++ w.source.latestFrame.toList := inOrder_cons takes _ h
  refine ha.unread rfl rfl rfl rfl rfl rfl id ?_ ?_
  · have hplaced := ha.placed
    rw [htaken, inOrder_silent h rfl, List.length_append]
    dsimp only [RpicamCameraSource.takeLatestFrame, Option.toList_none, List.length_nil]
    omega
  · rw [htaken]
    dsimp only [RpicamCameraSource.takeLatestFrame, Option.toList_none]
    rw [List.append_nil]
    exact ha.handed

theorem Accounted.frameRead (ha : Accounted h w) (hstage : w.stage = .reading)
    (yuv420 : List UInt8) (receivedAt : Int) :
    Accounted (⟨w, .frameRead yuv420 receivedAt, none⟩ :: h) (w.frameRead yuv420 receivedAt) := by
  have hflight : w.inFlight = [] := by rw [inFlight, hstage]
  have hnumbers : numbers (⟨w, .frameRead yuv420 receivedAt, none⟩ :: h)
      (w.frameRead yuv420 receivedAt) = numbers h w ++ [w.source.nextSequence + 1] := by
    rw [numbers, numbers, inOrder_silent h rfl, hflight, List.append_nil, List.map_append]
    rfl
  constructor
  · have hread := ha.read
    rw [hflight, List.length_nil] at hread
    rw [inOrder_silent h rfl, inOrder_silent h rfl]
    exact congrArg (· + 1) hread
  · rw [inOrder_silent h rfl]
    exact ha.produced
  · rw [inOrder_silent h rfl, inOrder_silent h rfl]
    exact ha.placed
  · rw [hnumbers, List.pairwise_append]
    refine ⟨ha.ascending, List.pairwise_singleton _ _, fun n hn m hm => ?_⟩
    rw [List.mem_singleton.1 hm]
    exact Nat.lt_succ_of_le (ha.bounded n hn)
  · rw [hnumbers]
    intro n hn
    rcases List.mem_append.1 hn with hn | hn
    · exact Nat.le_succ_of_le (ha.bounded n hn)
    · rw [List.mem_singleton.1 hn]
      exact Nat.le_refl _
  · rw [inOrder_silent h rfl]
    exact ⟨ha.stamped.1, fun h => by cases h⟩
  · rw [inOrder_silent h rfl, inOrder_silent h rfl]
    exact ha.handed

/-- The frame in flight is stamped, or it is lost with its attempt. -/
theorem Accounted.stamp (ha : Accounted h w) (hstage : w.stage = .waiting) :
    Accounted (⟨w, .stamp, none⟩ :: h) w.stamp := by
  have hflight : w.inFlight = [w.frame] := by rw [inFlight, hstage]
  have hpublished : inOrder publishes (⟨w, .stamp, none⟩ :: h) = inOrder publishes h :=
    inOrder_silent h rfl
  have hread := ha.read
  have hascending := ha.ascending
  have hbounded := ha.bounded
  rw [hflight, List.length_singleton] at hread
  rw [numbers, hflight] at hascending hbounded
  rw [RpicamWorker.stamp, RpicamCameraSource.waitForMetadata]
  cases hqueue : w.source.metadataTimestamps with
  | nil =>
    have hlost : loses ⟨w, .stamp, none⟩ = some w.frame := by
      dsimp only [loses]
      rw [hqueue]
    have hsource : ∀ source : RpicamCameraSource, (if w.stopRequested then w.source
          else w.source.setFailure "camera frame arrived without FrameWallClock metadata") =
        source → source.nextSequence = w.source.nextSequence ∧
          source.status.producedFrames = w.source.status.producedFrames ∧
          source.status.overwrittenFrames = w.source.status.overwrittenFrames ∧
          source.latestFrame = w.source.latestFrame := by
      rintro source rfl
      split
      · exact ⟨rfl, rfl, rfl, rfl⟩
      · exact ⟨rfl, rfl, rfl, rfl⟩
    obtain ⟨hnext, hproduced, hoverwritten, hlatest⟩ := hsource _ rfl
    have hsub : ((inOrder publishes h ++ ([] : List CameraFrame)).map (·.sequence)).Sublist
        ((inOrder publishes h ++ [w.frame]).map (·.sequence)) :=
      ((List.nil_sublist _).append_left _).map _
    constructor
    · rw [hpublished, inOrder_cons, hlost, hnext, hread, List.length_append]
      rfl
    · rw [hpublished, hproduced]
      exact ha.produced
    · rw [inOrder_silent h rfl, inOrder_silent h rfl, hproduced, hoverwritten, hlatest]
      exact ha.placed
    · rw [numbers, hpublished]
      exact hascending.sublist hsub
    · rw [numbers, hpublished, hnext]
      exact fun n hn => hbounded n (hsub.subset hn)
    · rw [hpublished]
      exact ⟨ha.stamped.1, fun h => by cases h⟩
    · rw [inOrder_silent h rfl, hpublished, hlatest]
      exact ha.handed
  | cons timestamp queue =>
    have hlost : loses ⟨w, .stamp, none⟩ = none := by
      dsimp only [loses]
      rw [hqueue]
    constructor
    · rw [hpublished, inOrder_silent h hlost]
      exact hread
    · rw [hpublished]
      exact ha.produced
    · rw [inOrder_silent h rfl, inOrder_silent h rfl]
      exact ha.placed
    · rw [numbers, hpublished]
      rw [List.map_append] at hascending ⊢
      exact hascending
    · rw [numbers, hpublished]
      rw [List.map_append] at hbounded ⊢
      exact hbounded
    · rw [hpublished]
      exact ⟨ha.stamped.1, fun _ => rfl⟩
    · rw [inOrder_silent h rfl, hpublished]
      exact ha.handed

theorem Accounted.publish (ha : Accounted h w) (hstage : w.stage = .publishing) :
    Accounted (⟨w, .publish, none⟩ :: h)
      { w with source := w.source.publish w.frame, stage := .turning } := by
  have hflight : w.inFlight = [w.frame] := by rw [inFlight, hstage]
  have hpublished : inOrder publishes (⟨w, .publish, none⟩ :: h) =
      inOrder publishes h ++ [w.frame] := inOrder_cons publishes _ h
  have hnumbers : numbers (⟨w, .publish, none⟩ :: h)
      { w with source := w.source.publish w.frame, stage := .turning } =
        numbers h w := by
    rw [numbers, numbers, hpublished, hflight]
    exact congrArg _ (List.append_nil _)
  constructor
  · have hread := ha.read
    rw [hflight] at hread
    rw [hpublished, inOrder_silent h rfl, List.length_append]
    dsimp only [RpicamCameraSource.publish, inFlight, List.length_singleton, List.length_nil] at *
    omega
  · rw [hpublished, List.length_append]
    exact congrArg (· + 1) ha.produced
  · have hplaced := ha.placed
    rw [inOrder_silent h rfl, inOrder_silent h rfl]
    dsimp only [RpicamCameraSource.publish, Option.toList_some, List.length_singleton]
    cases hlatest : w.source.latestFrame with
    | none =>
      rw [hlatest] at hplaced
      dsimp only [Option.isSome_none, Option.toList_none, List.length_nil] at hplaced ⊢
      rw [if_neg Bool.false_ne_true]
      omega
    | some frame =>
      rw [hlatest] at hplaced
      dsimp only [Option.isSome_some, Option.toList_some, List.length_singleton] at hplaced ⊢
      rw [if_pos rfl]
      omega
  · rw [hnumbers]
    exact ha.ascending
  · rw [hnumbers]
    exact ha.bounded
  · refine ⟨?_, fun h => by cases h⟩
    rw [hpublished, List.forall_mem_append]
    refine ⟨ha.stamped.1, fun image himage => ?_⟩
    rw [List.mem_singleton.1 himage]
    exact ha.stamped.2 hstage
  · rw [inOrder_silent h rfl, hpublished]
    exact ((List.sublist_append_left _ _).trans ha.handed).append (List.Sublist.refl _)

theorem Accounted.enter (ha : Accounted h w) (hstage : w.stage = .head) :
    Accounted (⟨w, .enter, none⟩ :: h) w.enter := by
  have hflight : w.inFlight = [] := by rw [inFlight, hstage]
  rw [RpicamWorker.enter]
  split
  · rename_i hstop
    have hdiscards : discards ⟨w, .enter, none⟩ = none := by
      dsimp only [discards]
      rw [if_pos hstop]
    exact ha.idle ⟨rfl, rfl, rfl, hdiscards⟩ ⟨rfl, rfl, rfl, rfl⟩ rfl hflight rfl
  · rename_i hstop
    have hdiscards : discards ⟨w, .enter, none⟩ = w.source.latestFrame := by
      dsimp only [discards]
      rw [if_neg hstop]
    exact ha.discard ⟨rfl, rfl, rfl⟩ hdiscards ⟨rfl, rfl, rfl, rfl⟩ rfl hflight rfl

theorem Accounted.reconnect (ha : Accounted h w) (hstage : w.stage = .returned) :
    Accounted (⟨w, .reconnect, none⟩ :: h) w.reconnect := by
  have hflight : w.inFlight = [] := by rw [inFlight, hstage]
  rw [RpicamWorker.reconnect]
  split
  · rename_i hstop
    have hdiscards : discards ⟨w, .reconnect, none⟩ = none := by
      dsimp only [discards]
      rw [if_pos hstop]
    exact ha.idle ⟨rfl, rfl, rfl, hdiscards⟩ ⟨rfl, rfl, rfl, rfl⟩ rfl hflight rfl
  · rename_i hstop
    have hdiscards : discards ⟨w, .reconnect, none⟩ = w.source.latestFrame := by
      dsimp only [discards]
      rw [if_neg hstop]
    exact ha.discard ⟨rfl, rfl, rfl⟩ hdiscards ⟨rfl, rfl, rfl, rfl⟩ rfl hflight rfl

theorem Accounted.join (ha : Accounted h w) (hstage : w.stage = .reaping) (status : ChildStatus) :
    Accounted (⟨w, .join status, none⟩ :: h) (w.join status) := by
  have hflight : w.inFlight = [] := by rw [inFlight, hstage]
  refine ha.idle ⟨rfl, rfl, rfl, rfl⟩ ?_ rfl hflight rfl
  rw [RpicamWorker.join]
  dsimp only
  split
  · exact ⟨rfl, rfl, rfl, rfl⟩
  · exact ⟨rfl, rfl, rfl, rfl⟩

theorem noteMetadata_pending (s : RpicamCameraSource) (line : List Char) :
    (s.noteMetadata line).latestFrame = s.latestFrame ∧
      (s.noteMetadata line).status = s.status := by
  rw [RpicamCameraSource.noteMetadata]
  split
  · exact ⟨rfl, rfl⟩
  · exact ⟨rfl, rfl⟩

theorem noteProcessMessage_pending (s : RpicamCameraSource) (line : String) :
    (s.noteProcessMessage line).latestFrame = s.latestFrame ∧
      (s.noteProcessMessage line).status = s.status := by
  rw [RpicamCameraSource.noteProcessMessage]
  split
  · exact ⟨rfl, rfl⟩
  · exact ⟨rfl, rfl⟩

theorem Accounted.step {h : List RpicamEntry} (ha : Accounted h w) (hl : w.legal i = true) :
    Accounted (⟨w, i, (w.step i).2⟩ :: h) (w.step i).1 := by
  cases i with
  | enter => exact ha.enter (of_decide_eq_true hl)
  | clearTimestamps =>
    have hstage : w.stage = .preparing := of_decide_eq_true hl
    have hflight : w.inFlight = [] := by rw [inFlight, hstage]
    exact ha.idle ⟨rfl, rfl, rfl, rfl⟩ ⟨rfl, rfl, rfl, rfl⟩ rfl hflight rfl
  | «open» failure =>
    have hstage : w.stage = .opening := of_decide_eq_true hl
    have hflight : w.inFlight = [] := by rw [inFlight, hstage]
    cases failure with
    | none => exact ha.idle ⟨rfl, rfl, rfl, rfl⟩ ⟨rfl, rfl, rfl, rfl⟩ rfl hflight rfl
    | some failure =>
      exact ha.idle ⟨rfl, rfl, rfl, rfl⟩ ⟨rfl, rfl, rfl, rfl⟩ rfl hflight rfl
  | attend =>
    have hstage : w.stage = .forked := of_decide_eq_true hl
    have hflight : w.inFlight = [] := by rw [inFlight, hstage]
    exact ha.idle ⟨rfl, rfl, rfl, rfl⟩ ⟨rfl, rfl, rfl, rfl⟩ rfl hflight rfl
  | turn =>
    have hstage : w.stage = .turning := of_decide_eq_true hl
    have hflight : w.inFlight = [] := by rw [inFlight, hstage]
    rw [RpicamWorker.step, RpicamWorker.turn]
    dsimp only
    split
    · exact ha.idle ⟨rfl, rfl, rfl, rfl⟩ ⟨rfl, rfl, rfl, rfl⟩ rfl hflight rfl
    · exact ha.idle ⟨rfl, rfl, rfl, rfl⟩ ⟨rfl, rfl, rfl, rfl⟩ rfl hflight rfl
  | frameRead yuv420 receivedAt =>
    exact ha.frameRead (of_decide_eq_true hl).1 yuv420 receivedAt
  | readEnded result =>
    have hstage : w.stage = .reading := (of_decide_eq_true hl).1
    have hflight : w.inFlight = [] := by rw [inFlight, hstage]
    exact ha.idle ⟨rfl, rfl, rfl, rfl⟩ ⟨rfl, rfl, rfl, rfl⟩ rfl hflight rfl
  | stamp => exact ha.stamp (of_decide_eq_true hl)
  | publish => exact ha.publish (of_decide_eq_true hl)
  | hangUp =>
    have hstage : w.stage = .closing := of_decide_eq_true hl
    have hflight : w.inFlight = [] := by rw [inFlight, hstage]
    exact ha.idle ⟨rfl, rfl, rfl, rfl⟩ ⟨rfl, rfl, rfl, rfl⟩ rfl hflight rfl
  | join status => exact ha.join (of_decide_eq_true hl).1 status
  | reconnect => exact ha.reconnect (of_decide_eq_true hl)
  | resume =>
    have hstage : w.stage = .pausing := of_decide_eq_true hl
    have hflight : w.inFlight = [] := by rw [inFlight, hstage]
    rw [RpicamWorker.step, RpicamWorker.resume]
    dsimp only
    split
    · exact ha.idle ⟨rfl, rfl, rfl, rfl⟩ ⟨rfl, rfl, rfl, rfl⟩ rfl hflight rfl
    · exact ha.idle ⟨rfl, rfl, rfl, rfl⟩ ⟨rfl, rfl, rfl, rfl⟩ rfl hflight rfl
  | metadataLine line =>
    obtain ⟨hlatest, hstatus⟩ := noteMetadata_pending w.source line
    exact ha.silent ⟨rfl, rfl, rfl, rfl⟩ ⟨(w.source.noteMetadata_frame line).2.2, hlatest,
      congrArg _ hstatus, congrArg _ hstatus⟩ rfl rfl id
  | processMessage line =>
    obtain ⟨hlatest, hstatus⟩ := noteProcessMessage_pending w.source line
    exact ha.silent ⟨rfl, rfl, rfl, rfl⟩ ⟨(noteProcessMessage_kept w.source line).2.1, hlatest,
      congrArg _ hstatus, congrArg _ hstatus⟩ rfl rfl id
  | take => exact ha.take
  | childExits | requestStop | stopChild => exact ha.silent ⟨rfl, rfl, rfl, rfl⟩ ⟨rfl, rfl, rfl, rfl⟩ rfl rfl id

theorem Ran.accounted (hr : Ran config h w) : Accounted h w := by
  obtain ⟨source, hnew, hr⟩ := hr
  apply hr.history_invariant Accounted
  · rw [RpicamCameraSource.new] at hnew
    split at hnew
    · cases hnew
    · cases hnew
      exact {
        read := rfl
        produced := rfl
        placed := rfl
        ascending := .nil
        bounded := fun _ h => by cases h
        stamped := ⟨(fun _ h => by cases h), fun h => by cases h⟩
        handed := .slnil }
  · exact fun h w i _ ha hl => ha.step hl

/-- Every frame that was read is published, lost for want of a timestamp or in flight, and every
published one was taken, overwritten, thrown away with its attempt or is pending. The application
takes stamped frames with ascending numbers, in the order of their publication. -/
theorem frames_accounted (hr : Ran config h w) :
    w.source.nextSequence =
        w.source.status.producedFrames + (inOrder loses h).length + w.inFlight.length ∧
      w.source.status.producedFrames = w.source.status.overwrittenFrames +
        (inOrder takes h).length + (inOrder discards h).length +
        w.source.latestFrame.toList.length ∧
      (inOrder takes h).Sublist (inOrder publishes h) ∧
      ((inOrder takes h).map (·.sequence)).Pairwise (· < ·) ∧
      ∀ frame ∈ inOrder takes h,
        frame.capturedAt.isSome ∧ frame.sequence ≤ w.source.nextSequence := by
  have ha := hr.accounted
  have hsub : (inOrder takes h).Sublist (inOrder publishes h) :=
    (List.sublist_append_left _ _).trans ha.handed
  have hpublished : ((inOrder publishes h).map (·.sequence)).Sublist (numbers h w) :=
    (List.sublist_append_left _ _).map _
  refine ⟨ha.produced ▸ ha.read, ha.placed, hsub, ?_, fun frame hframe => ?_⟩
  · exact ha.ascending.sublist ((hsub.map (·.sequence)).trans hpublished)
  · have hmem := hsub.subset hframe
    exact ⟨ha.stamped.1 frame hmem, ha.bounded _ (hpublished.subset (List.mem_map_of_mem hmem))⟩

theorem frames_accounted_played :
    let run := play step [] smallWorker stampedSteps
    run.2.source.nextSequence = run.2.source.status.producedFrames +
        (inOrder loses run.1).length + run.2.inFlight.length ∧
      run.2.source.status.producedFrames = run.2.source.status.overwrittenFrames +
        (inOrder takes run.1).length + (inOrder discards run.1).length +
        run.2.source.latestFrame.toList.length ∧
      (inOrder takes run.1).Sublist (inOrder publishes run.1) ∧
      ((inOrder takes run.1).map (·.sequence)).Pairwise (· < ·) ∧
      ∀ frame ∈ inOrder takes run.1,
        frame.capturedAt.isSome ∧ frame.sequence ≤ run.2.source.nextSequence :=
  frames_accounted (Ran.played stampedSteps (by decide +kernel))

end RpicamWorker

end OnboardAutonomy
