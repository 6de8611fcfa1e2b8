import OnboardAutonomy.RpicamWorker

namespace OnboardAutonomy
open Histories
set_option autoImplicit true

/-- Within the loop over the frames, or right before it. -/
def RpicamStage.framed : RpicamStage → Bool
  | .opening | .forked | .turning | .reading | .waiting | .publishing => true
  | _ => false

namespace RpicamWorker

/-- The calls since the timestamps were cleared for the current attempt. -/
def attempt (h : List RpicamEntry) : List RpicamEntry :=
  since (fun _ e => e.input matches .clearTimestamps) h

def publishes (e : RpicamEntry) : Option CameraFrame :=
  match e.input with
  | .publish => some e.before.frame
  | _ => none

def reads (e : RpicamEntry) : Option (List UInt8 × Int) :=
  match e.input with
  | .frameRead yuv420 receivedAt => some (yuv420, receivedAt)
  | _ => none

def stamps (e : RpicamEntry) : Option Int :=
  match e.input with
  | .metadataLine line => parseRpicamFrameWallClockNs line
  | _ => none

/-- What some calls did, oldest first. -/
def inOrder (f : RpicamEntry → Option β) (h : List RpicamEntry) : List β := (h.filterMap f).reverse

theorem inOrder_cons (f : RpicamEntry → Option β) (e : RpicamEntry) (h : List RpicamEntry) :
    inOrder f (e :: h) = inOrder f h ++ (f e).toList := by
  rw [inOrder, filterMap_cons_toList, List.reverse_append]
  cases f e <;> rfl

def imageOf (config : RpicamCameraConfig) (number : Nat) (frame : List UInt8 × Int)
    (capturedAt : Option Int) : CameraFrame where
  sequence := number
  width := config.width
  height := config.height
  capturedAt := capturedAt
  receivedAt := frame.2
  yuv420 := frame.1

/-- The frames that are read with a timestamp each, in the order both came in, numbered on from
`last`. -/
def stampedFrames (config : RpicamCameraConfig) (last : Nat) (frames : List (List UInt8 × Int))
    (timestamps : List Int) : List CameraFrame :=
  ((frames.zip timestamps).zipIdx (last + 1)).map fun ((frame, timestamp), number) =>
    imageOf config number frame (some timestamp)

theorem zip_prefix {xs xs' : List α} {ys ys' : List β} (hx : xs <+: xs') (hy : ys <+: ys') :
    xs.zip ys <+: xs'.zip ys' := by
  induction xs generalizing xs' ys ys' with
  | nil => exact List.nil_prefix
  | cons x xs ih =>
    cases ys with
    | nil => exact List.nil_prefix
    | cons y ys =>
      obtain ⟨xs', rfl⟩ := hx
      obtain ⟨ys', rfl⟩ := hy
      apply (List.prefix_cons_inj _).2
      exact ih (List.prefix_append _ _) (List.prefix_append _ _)

theorem stampedFrames_prefix {frames frames' : List (List UInt8 × Int)}
    {timestamps timestamps' : List Int} (hf : frames <+: frames')
    (ht : timestamps <+: timestamps') :
    stampedFrames config last frames timestamps <+:
      stampedFrames config last frames' timestamps' := by
  obtain ⟨more, hmore⟩ := zip_prefix hf ht
  rw [stampedFrames, stampedFrames, ← hmore, List.zipIdx_append, List.map_append]
  exact List.prefix_append _ _

theorem stampedFrames_concat {earlier : List (List UInt8 × Int)} {used : List Int}
    (h : used.length = earlier.length) (frame : List UInt8 × Int) (timestamp : Int) :
    stampedFrames config last (earlier ++ [frame]) (used ++ [timestamp]) =
      stampedFrames config last earlier used ++
        [imageOf config (last + earlier.length + 1) frame (some timestamp)] := by
  rw [stampedFrames, stampedFrames, List.zip_append h.symm, List.zipIdx_append, List.map_append,
    List.length_zip, h, Nat.min_self, List.zip_cons_cons, List.zip_nil_left,
    List.zipIdx_singleton, List.map_singleton, Nat.add_right_comm]

/-- How far the worker is with the frame behind the published ones. -/
def Underway (w : RpicamWorker) (last : Nat) (earlier frames : List (List UInt8 × Int))
    (used timestamps : List Int) : Prop :=
  match w.stage with
  | .opening | .forked | .turning | .reading =>
    frames = earlier ∧ timestamps = used ++ w.source.metadataTimestamps
  | .waiting => ∃ frame, frames = earlier ++ [frame] ∧
    timestamps = used ++ w.source.metadataTimestamps ∧
    w.frame = imageOf w.source.config (last + earlier.length + 1) frame none
  | .publishing => ∃ frame timestamp, frames = earlier ++ [frame] ∧
    timestamps = used ++ timestamp :: w.source.metadataTimestamps ∧
    w.frame = imageOf w.source.config (last + earlier.length + 1) frame (some timestamp)
  | _ => ∃ rest, frames = earlier ++ rest ∧ rest.length ≤ 1 ∧ used <+: timestamps

/-- In an attempt some frames are read and some timestamps have come in; the published frames are
the earlier ones of both, in order. -/
structure Paired (config : RpicamCameraConfig) (frames : List (List UInt8 × Int))
    (timestamps : List Int) (images : List CameraFrame) (w : RpicamWorker)
    (last : Nat) (earlier : List (List UInt8 × Int)) (used : List Int) : Prop where
  kept : w.source.config = config
  number : w.source.nextSequence = last + frames.length
  level : used.length = earlier.length
  published : images = stampedFrames config last earlier used
  underway : w.Underway last earlier frames used timestamps

theorem Underway.loose {w : RpicamWorker} (h : w.Underway last earlier frames used timestamps) :
    ∃ rest, frames = earlier ++ rest ∧ rest.length ≤ 1 ∧ used <+: timestamps := by
  rw [Underway] at h
  split at h
  · exact ⟨[], by rw [h.1, List.append_nil], Nat.zero_le 1, h.2 ▸ List.prefix_append used _⟩
  · exact ⟨[], by rw [h.1, List.append_nil], Nat.zero_le 1, h.2 ▸ List.prefix_append used _⟩
  · exact ⟨[], by rw [h.1, List.append_nil], Nat.zero_le 1, h.2 ▸ List.prefix_append used _⟩
  · exact ⟨[], by rw [h.1, List.append_nil], Nat.zero_le 1, h.2 ▸ List.prefix_append used _⟩
  · obtain ⟨frame, hframes, htimestamps, -⟩ := h
    exact ⟨[frame], hframes, Nat.le_refl 1, htimestamps ▸ List.prefix_append used _⟩
  · obtain ⟨frame, timestamp, hframes, htimestamps, -⟩ := h
    exact ⟨[frame], hframes, Nat.le_refl 1, htimestamps ▸ List.prefix_append used _⟩
  · exact h

theorem Paired.fits (h : Paired config frames timestamps images w last earlier used) :
    images <+: stampedFrames config last frames timestamps := by
  obtain ⟨rest, hframes, -, hused⟩ := h.underway.loose
  rw [h.published]
  apply stampedFrames_prefix _ hused
  rw [hframes]
  exact List.prefix_append earlier rest

/-- Outside the loop over the frames nothing is left to say of the frame that was underway. -/
theorem Underway.settle {w w' : RpicamWorker} (h : w.Underway last earlier frames used timestamps)
    (hs : w'.stage.framed = false) : w'.Underway last earlier frames used timestamps := by
  have hloose := h.loose
  rw [Underway]
  cases hstage : w'.stage with
  | opening | forked | turning | reading | waiting | publishing =>
    rw [hstage] at hs
    cases hs
  | head | preparing | closing | reaping | returned | pausing | stopped => exact hloose

theorem Underway.keep {w w' : RpicamWorker} (h : w.Underway last earlier frames used timestamps)
    (hstage : w'.stage = w.stage) (hframe : w'.frame = w.frame)
    (hconfig : w'.source.config = w.source.config)
    (htimestamps : w'.source.metadataTimestamps = w.source.metadataTimestamps) :
    w'.Underway last earlier frames used timestamps := by
  rw [Underway, hstage, hframe, hconfig, htimestamps]
  exact h

theorem Paired.settle (h : Paired config frames timestamps images w last earlier used)
    (hs : w'.stage.framed = false)
    (hconfig : w'.source.config = w.source.config)
    (hnumber : w'.source.nextSequence = w.source.nextSequence) :
    Paired config frames timestamps images w' last earlier used :=
  ⟨hconfig.trans h.kept, hnumber.trans h.number, h.level, h.published, h.underway.settle hs⟩

theorem Paired.keep (h : Paired config frames timestamps images w last earlier used)
    (hstage : w'.stage = w.stage) (hframe : w'.frame = w.frame)
    (hconfig : w'.source.config = w.source.config)
    (hnumber : w'.source.nextSequence = w.source.nextSequence)
    (htimestamps : w'.source.metadataTimestamps = w.source.metadataTimestamps) :
    Paired config frames timestamps images w' last earlier used :=
  ⟨hconfig.trans h.kept, hnumber.trans h.number, h.level, h.published,
    h.underway.keep hstage hframe hconfig htimestamps⟩

theorem Underway.note {w : RpicamWorker} (h : w.Underway last earlier frames used timestamps)
    (line : List Char) :
    { w with source := w.source.noteMetadata line }.Underway last earlier frames used
      (timestamps ++ (parseRpicamFrameWallClockNs line).toList) := by
  have hqueue : (w.source.noteMetadata line).metadataTimestamps =
      w.source.metadataTimestamps ++ (parseRpicamFrameWallClockNs line).toList := by
    rw [RpicamCameraSource.noteMetadata]
    cases parseRpicamFrameWallClockNs line with
    | none => exact (List.append_nil _).symm
    | some timestamp => rfl
  have hconfig : (w.source.noteMetadata line).config = w.source.config :=
    (w.source.noteMetadata_frame line).2.1
  rw [Underway] at h ⊢
  dsimp only
  rw [hqueue, hconfig]
  split at h
  · exact ⟨h.1, by rw [h.2, List.append_assoc]⟩
  · exact ⟨h.1, by rw [h.2, List.append_assoc]⟩
  · exact ⟨h.1, by rw [h.2, List.append_assoc]⟩
  · exact ⟨h.1, by rw [h.2, List.append_assoc]⟩
  · obtain ⟨frame, hframes, htimestamps, hframe⟩ := h
    exact ⟨frame, hframes, by rw [htimestamps, List.append_assoc], hframe⟩
  · obtain ⟨frame, timestamp, hframes, htimestamps, hframe⟩ := h
    refine ⟨frame, timestamp, hframes, ?_, hframe⟩
    rw [htimestamps, List.append_assoc, List.cons_append]
  · obtain ⟨rest, hframes, hrest, hused⟩ := h
    exact ⟨rest, hframes, hrest, hused.trans (List.prefix_append timestamps _)⟩

theorem Paired.frameRead (h : Paired config frames timestamps images w last earlier used)
    (hstage : w.stage = .reading) (yuv420 : List UInt8) (receivedAt : Int) :
    Paired config (frames ++ [(yuv420, receivedAt)]) timestamps images
      (w.frameRead yuv420 receivedAt) last earlier used := by
  have hunderway := h.underway
  rw [Underway, hstage] at hunderway
  obtain ⟨hframes, htimestamps⟩ := hunderway
  constructor
  · exact h.kept
  · rw [List.length_append, List.length_singleton, ← Nat.add_assoc, ← h.number]
    rfl
  · exact h.level
  · exact h.published
  · refine ⟨(yuv420, receivedAt), by rw [hframes], htimestamps, ?_⟩
    rw [RpicamWorker.frameRead, h.number, hframes]
    rfl

theorem Paired.stamp (h : Paired config frames timestamps images w last earlier used)
    (hstage : w.stage = .waiting) :
    Paired config frames timestamps images w.stamp last earlier used := by
  have hunderway := h.underway
  rw [Underway, hstage] at hunderway
  obtain ⟨frame, hframes, htimestamps, hframe⟩ := hunderway
  rw [RpicamWorker.stamp, RpicamCameraSource.waitForMetadata]
  cases hqueue : w.source.metadataTimestamps with
  | nil =>
    apply h.settle rfl
    · dsimp only
      split <;> rfl
    · dsimp only
      split <;> rfl
  | cons timestamp queue =>
    rw [hqueue] at htimestamps
    refine ⟨h.kept, h.number, h.level, h.published, frame, timestamp, hframes, htimestamps, ?_⟩
    dsimp only
    rw [hframe]
    rfl

theorem Paired.publish (h : Paired config frames timestamps images w last earlier used)
    (hstage : w.stage = .publishing) : ∃ earlier' used',
    Paired config frames timestamps (images ++ [w.frame])
      { w with source := w.source.publish w.frame, stage := .turning } last
      earlier' used' := by
  have hunderway := h.underway
  rw [Underway, hstage] at hunderway
  obtain ⟨frame, timestamp, hframes, htimestamps, hframe⟩ := hunderway
  refine ⟨earlier ++ [frame], used ++ [timestamp], h.kept, h.number, ?_, ?_, hframes, ?_⟩
  · rw [List.length_append, List.length_append, h.level]
    rfl
  · rw [stampedFrames_concat h.level, h.published, hframe, h.kept]
  · rw [htimestamps, List.append_assoc]
    rfl

theorem Paired.begin {w : RpicamWorker} (hconfig : w.source.config = config) :
    Paired config [] [] []
      { w with source := w.source.clearTimestamps, stage := .opening } w.source.nextSequence []
      [] :=
  ⟨hconfig, rfl, rfl, rfl, rfl, rfl⟩

/-- The frames and timestamps of the current attempt, and the frames it has published. -/
def Attempted (config : RpicamCameraConfig) (h : List RpicamEntry) (w : RpicamWorker) : Prop :=
  ∃ last earlier used, Paired config (inOrder reads (attempt h)) (inOrder stamps (attempt h))
    (inOrder publishes (attempt h)) w last earlier used

theorem attempt_cons (h : List RpicamEntry) (hi : (i matches .clearTimestamps) = false) :
    attempt (⟨w, i, o⟩ :: h) = ⟨w, i, o⟩ :: attempt h :=
  since_keep h hi

theorem Attempted.next (hi : (i matches .clearTimestamps) = false)
    (hp : Paired config frames timestamps images w' last earlier used)
    (hframes : frames = inOrder reads (attempt h) ++ (reads ⟨w, i, o⟩).toList)
    (htimestamps : timestamps = inOrder stamps (attempt h) ++ (stamps ⟨w, i, o⟩).toList)
    (himages : images = inOrder publishes (attempt h) ++ (publishes ⟨w, i, o⟩).toList) :
    Attempted config (⟨w, i, o⟩ :: h) w' := by
  rw [Attempted, attempt_cons h hi, inOrder_cons, inOrder_cons, inOrder_cons, ← hframes,
    ← htimestamps, ← himages]
  exact ⟨last, earlier, used, hp⟩

theorem Attempted.silent (hi : (i matches .clearTimestamps) = false)
    (hreads : reads ⟨w, i, o⟩ = none)
    (hstamps : stamps ⟨w, i, o⟩ = none) (hpublishes : publishes ⟨w, i, o⟩ = none)
    (hp : Paired config (inOrder reads (attempt h)) (inOrder stamps (attempt h))
      (inOrder publishes (attempt h)) w' last earlier used) :
    Attempted config (⟨w, i, o⟩ :: h) w' := by
  apply Attempted.next hi hp
  · rw [hreads, Option.toList_none, List.append_nil]
  · rw [hstamps, Option.toList_none, List.append_nil]
  · rw [hpublishes, Option.toList_none, List.append_nil]

theorem Paired.outside (hp : Paired config frames timestamps images w last earlier used) :
    Paired config frames timestamps images w.enter last earlier used ∧
      (∀ status, Paired config frames timestamps images (w.join status) last earlier used) ∧
      Paired config frames timestamps images w.reconnect last earlier used ∧
      Paired config frames timestamps images w.resume last earlier used := by
  refine ⟨?_, fun status => ?_, ?_, ?_⟩
  · rw [RpicamWorker.enter]
    split
    · exact hp.settle rfl rfl rfl
    · exact hp.settle rfl rfl rfl
  · apply hp.settle rfl
    · rw [RpicamWorker.join]
      dsimp only
      split <;> rfl
    · rw [RpicamWorker.join]
      dsimp only
      split <;> rfl
  · rw [RpicamWorker.reconnect]
    split
    · exact hp.settle rfl rfl rfl
    · exact hp.settle rfl rfl rfl
  · rw [RpicamWorker.resume]
    split
    · exact hp.settle rfl rfl rfl
    · exact hp.settle rfl rfl rfl

theorem Paired.open (hp : Paired config frames timestamps images w last earlier used)
    (hstage : w.stage = .opening) (failure : Option OpenFailure) :
    Paired config frames timestamps images (w.open failure) last earlier used := by
  cases failure with
  | some failure => exact hp.settle rfl rfl rfl
  | none =>
    have hunderway := hp.underway
    rw [Underway, hstage] at hunderway
    exact ⟨hp.kept, hp.number, hp.level, hp.published, hunderway⟩

theorem Paired.attend (hp : Paired config frames timestamps images w last earlier used)
    (hstage : w.stage = .forked) :
    Paired config frames timestamps images w.attend last earlier used := by
  have hunderway := hp.underway
  rw [Underway, hstage] at hunderway
  exact ⟨hp.kept, hp.number, hp.level, hp.published, hunderway⟩

theorem Paired.turn (hp : Paired config frames timestamps images w last earlier used)
    (hstage : w.stage = .turning) :
    Paired config frames timestamps images w.turn last earlier used := by
  rw [RpicamWorker.turn]
  split
  · exact hp.settle rfl rfl rfl
  · have hunderway := hp.underway
    rw [Underway, hstage] at hunderway
    exact ⟨hp.kept, hp.number, hp.level, hp.published, hunderway⟩

theorem noteProcessMessage_kept (s : RpicamCameraSource) (line : String) :
    (s.noteProcessMessage line).config = s.config ∧
      (s.noteProcessMessage line).nextSequence = s.nextSequence ∧
      (s.noteProcessMessage line).metadataTimestamps = s.metadataTimestamps := by
  rw [RpicamCameraSource.noteProcessMessage]
  split
  · exact ⟨rfl, rfl, rfl⟩
  · exact ⟨rfl, rfl, rfl⟩

theorem Attempted.step {h : List RpicamEntry} (ha : Attempted config h w)
    (hl : w.legal i = true) : Attempted config (⟨w, i, (w.step i).2⟩ :: h) (w.step i).1 := by
  obtain ⟨last, earlier, used, hp⟩ := ha
  cases i with
  | enter => exact .silent rfl rfl rfl rfl hp.outside.1
  | clearTimestamps =>
    have hempty : attempt (⟨w, .clearTimestamps, none⟩ :: h) = [] := since_cut h rfl
    rw [Attempted, RpicamWorker.step, hempty]
    exact ⟨_, _, _, .begin hp.kept⟩
  | «open» failure =>
    exact .silent rfl rfl rfl rfl (hp.open (of_decide_eq_true hl) failure)
  | attend => exact .silent rfl rfl rfl rfl (hp.attend (of_decide_eq_true hl))
  | turn => exact .silent rfl rfl rfl rfl (hp.turn (of_decide_eq_true hl))
  | frameRead yuv420 receivedAt =>
    have hread := hp.frameRead (of_decide_eq_true hl).1 yuv420 receivedAt
    exact .next rfl hread rfl (List.append_nil _).symm (List.append_nil _).symm
  | readEnded result => exact .silent rfl rfl rfl rfl (hp.settle rfl rfl rfl)
  | stamp => exact .silent rfl rfl rfl rfl (hp.stamp (of_decide_eq_true hl))
  | publish =>
    obtain ⟨earlier', used', hpublished⟩ := hp.publish (of_decide_eq_true hl)
    exact .next rfl hpublished (List.append_nil _).symm (List.append_nil _).symm rfl
  | hangUp => exact .silent rfl rfl rfl rfl (hp.settle rfl rfl rfl)
  | join status => exact .silent rfl rfl rfl rfl (hp.outside.2.1 status)
  | reconnect => exact .silent rfl rfl rfl rfl hp.outside.2.2.1
  | resume => exact .silent rfl rfl rfl rfl hp.outside.2.2.2
  | metadataLine line =>
    have hnoted : Paired config (inOrder reads (attempt h))
        (inOrder stamps (attempt h) ++ (parseRpicamFrameWallClockNs line).toList)
        (inOrder publishes (attempt h)) { w with source := w.source.noteMetadata line } last
        earlier used :=
      ⟨(w.source.noteMetadata_frame line).2.1.trans hp.kept,
        (w.source.noteMetadata_frame line).2.2.trans hp.number, hp.level, hp.published,
        hp.underway.note line⟩
    exact .next rfl hnoted (List.append_nil _).symm rfl (List.append_nil _).symm
  | processMessage line =>
    obtain ⟨hconfig, hnumber, hqueue⟩ := noteProcessMessage_kept w.source line
    exact .silent rfl rfl rfl rfl (hp.keep rfl rfl hconfig hnumber hqueue)
  | take | childExits | requestStop | stopChild =>
    exact .silent rfl rfl rfl rfl (hp.keep rfl rfl rfl rfl rfl)

theorem new_config {source : RpicamCameraSource}
    (hnew : RpicamCameraSource.new config = .ok source) : source.config = config := by
  rw [RpicamCameraSource.new] at hnew
  split at hnew
  · cases hnew
  · cases hnew
    rfl

theorem Ran.attempted (hr : Ran config h w) : Attempted config h w := by
  obtain ⟨source, hnew, hr⟩ := hr
  apply hr.history_invariant (Attempted config)
  · exact ⟨source.nextSequence, [], [], new_config hnew, rfl, rfl, rfl, [], rfl, Nat.zero_le 1,
      List.nil_prefix⟩
  · exact fun h w i _ ha hl => ha.step hl

/-- In whatever order the threads act, the frames of an attempt are published in the order they were
read, each with the timestamp that came in at its place in the attempt, under successive numbers;
at most the last frame that was read is not published. -/
theorem frames_stamped_in_order (hr : Ran config h w) :
    ∃ last, last + (inOrder reads (attempt h)).length = w.source.nextSequence ∧
      inOrder publishes (attempt h) <+: stampedFrames config last (inOrder reads (attempt h))
        (inOrder stamps (attempt h)) ∧
      (inOrder reads (attempt h)).length ≤ (inOrder publishes (attempt h)).length + 1 := by
  obtain ⟨last, earlier, used, hp⟩ := hr.attempted
  refine ⟨last, hp.number.symm, hp.fits, ?_⟩
  obtain ⟨rest, hframes, hrest, -⟩ := hp.underway.loose
  have hlength : (inOrder publishes (attempt h)).length = earlier.length := by
    rw [hp.published, stampedFrames, List.length_map, List.length_zipIdx, List.length_zip,
      hp.level, Nat.min_self]
  rw [hframes, List.length_append, hlength]
  exact Nat.add_le_add_left hrest _

/-- Actions that can follow one another lead a worker to another state and publish some images. -/
def Leads (w : RpicamWorker) (is : List RpicamStep) (images : List CameraFrame)
    (w' : RpicamWorker) : Prop :=
  playable step (fun w i => w.legal i) w is = true ∧
    ∀ h, (play step h w is).2 = w' ∧
      inOrder publishes (play step h w is).1 = inOrder publishes h ++ images

theorem Leads.refl (w : RpicamWorker) : Leads w [] [] w :=
  ⟨rfl, fun _ => ⟨rfl, (List.append_nil _).symm⟩⟩

theorem Leads.cons (w : RpicamWorker) (i : RpicamStep) (hl : w.legal i = true)
    (h : Leads (w.step i).1 is images w') :
    Leads w (i :: is) ((publishes ⟨w, i, (w.step i).2⟩).toList ++ images) w' := by
  refine ⟨?_, fun older => ?_⟩
  · rw [playable, hl, Bool.true_and]
    exact h.1
  · obtain ⟨hstate, himages⟩ := h.2 (⟨w, i, (w.step i).2⟩ :: older)
    rw [inOrder_cons, List.append_assoc] at himages
    exact ⟨hstate, himages⟩

theorem Leads.notes {w w' : RpicamWorker} (lines : List (List Char))
    (h : Leads { w with source := lines.foldl RpicamCameraSource.noteMetadata w.source } is images
      w') (hstage : w.stage = .waiting) : Leads w (lines.map .metadataLine ++ is) images w' := by
  induction lines generalizing w with
  | nil => exact h
  | cons line lines ih =>
    have hl : w.legal (.metadataLine line) = true := by
      dsimp only [legal]
      rw [hstage]
      rfl
    have hrest := ih (w := { w with source := w.source.noteMetadata line }) h hstage
    exact .cons w (.metadataLine line) hl hrest

theorem image_eq (s : RpicamCameraSource) (lines : List (List Char)) (capturedAt receivedAt : Int)
    (yuv420 : List UInt8) :
    (s.received lines).waitForMetadata.1.image capturedAt receivedAt yuv420 =
      imageOf s.config (s.nextSequence + 1) (yuv420, receivedAt) (some capturedAt) := by
  obtain ⟨-, hconfig, hnumber⟩ := s.received_frame lines
  rw [RpicamCameraSource.image, hconfig, hnumber]
  rfl

/-- A frame that is read among some metadata lines is published when it finds its timestamp. -/
theorem Leads.framed {w : RpicamWorker} (hstage : w.stage = .turning)
    (hstop : w.stopRequested = false) (hlength : yuv420.length = w.source.frameSize)
    (hstamp : (w.source.received lines).waitForMetadata.2 = some capturedAt)
    (h : ∀ w₁ : RpicamWorker, w₁.stage = .turning → w₁.stopRequested = false →
      w₁.source = (w.source.received lines).waitForMetadata.1.publish
        ((w.source.received lines).waitForMetadata.1.image capturedAt receivedAt
          yuv420) → ∃ is w', Leads w₁ is images w') :
    ∃ is w', Leads w is
      ((w.source.received lines).waitForMetadata.1.image capturedAt receivedAt yuv420 :: images)
      w' := by
  let reading : RpicamWorker := { w with stage := .reading }
  let waiting := reading.frameRead yuv420 receivedAt
  let noted : RpicamWorker := { waiting with source := w.source.received lines }
  let publishing : RpicamWorker := { noted with
    source := (w.source.received lines).waitForMetadata.1
    frame := (w.source.received lines).waitForMetadata.1.image capturedAt receivedAt yuv420
    stage := .publishing }
  have hturn : (w.step .turn).1 = reading := by
    dsimp only [step]
    rw [turn, if_neg (by rw [hstop]; exact Bool.false_ne_true)]
  have hstamped : (noted.step .stamp).1 = publishing := by
    have hpair : noted.source.waitForMetadata =
        ((w.source.received lines).waitForMetadata.1, some capturedAt) := by
      rw [← hstamp]
    dsimp only [step]
    rw [stamp, hpair]
    dsimp only [publishing]
    rw [image_eq]
    rfl
  obtain ⟨is, w', hleads⟩ := h (publishing.step .publish).1 rfl hstop rfl
  have hpublished : Leads publishing (.publish :: is) (publishing.frame :: images) w' :=
    .cons publishing .publish rfl hleads
  have hnoted : Leads noted (.stamp :: .publish :: is) (publishing.frame :: images) w' := by
    apply Leads.cons noted .stamp rfl
    rw [hstamped]
    exact hpublished
  have hread : Leads reading (.frameRead yuv420 receivedAt :: (lines.map .metadataLine ++
      .stamp :: .publish :: is)) (publishing.frame :: images) w' := by
    have hlegal : reading.legal (.frameRead yuv420 receivedAt) = true :=
      decide_eq_true ⟨rfl, hlength⟩
    exact .cons reading (.frameRead yuv420 receivedAt) hlegal (.notes lines hnoted rfl)
  rw [← hturn] at hread
  have hlegal : w.legal .turn = true := decide_eq_true hstage
  exact ⟨_, w', .cons w .turn hlegal hread⟩

/-- The frames of an attempt read without the other threads are published by the worker in one of
its runs. -/
theorem frameLoop_led (s : RpicamCameraSource) (positive : 0 < s.frameSize) (clock : Nat → Int)
    (metadata : Nat → List (List Char)) (readResult : ReadResult) (turns : List PipeTurn)
    (w : RpicamWorker) (hstage : w.stage = .turning) (hstop : w.stopRequested = false)
    (hsource : w.source = s) :
    ∃ is w', Leads w is (s.frameLoop positive clock metadata readResult turns).1 w' := by
  subst hsource
  rw [RpicamCameraSource.frameLoop.eq_def]
  split
  · exact ⟨[], w, .refl w⟩
  · split
    · rename_i yuv420 rest hread
      have hwhole := readExact_outcome w.source.frameSize turns
      rw [hread] at hwhole
      obtain ⟨hlength, -, hheld⟩ := hwhole
      have hless : (rest.map PipeTurn.held).sum < (turns.map PipeTurn.held).sum := by omega
      dsimp only
      split
      · exact ⟨[], w, .refl w⟩
      · rename_i capturedAt hstamp
        apply Leads.framed hstage hstop hlength hstamp
        intro w₁ hstage₁ hstop₁ hsource₁
        exact frameLoop_led _ _ clock metadata .complete rest w₁ hstage₁ hstop₁ hsource₁
    · exact ⟨[], w, .refl w⟩
termination_by (turns.map PipeTurn.held).sum
decreasing_by exact hless

/-- The worker of the smallest camera. -/
def smallWorker : RpicamWorker where
  source := {
    config := { width := 2, height := 2 }
    frameSize := 6
    status := { description := "rpicam-vid camera " ++ toString (0 : UInt32) } }

theorem Ran.played (is : List RpicamStep)
    (hp : playable step (fun w i => w.legal i) smallWorker is = true) :
    Ran { width := 2, height := 2 } (play step [] smallWorker is).1
      (play step [] smallWorker is).2 := by
  have hnew : RpicamCameraSource.new { width := 2, height := 2 } = .ok smallWorker.source := by
    have hsize : RpicamCameraConfig.checkedFrameSize { width := 2, height := 2 } = .ok 6 := by
      rw [RpicamCameraConfig.checkedFrameSize, frameBytes, if_neg (by decide)]
      rfl
    rw [RpicamCameraSource.new, hsize]
    rfl
  exact ⟨smallWorker.source, hnew, Run.start.play_legal hp⟩

/-- The timestamps of two frames come in before the first frame is read. -/
def stampedSteps : List RpicamStep :=
  [.enter, .clearTimestamps, .open none, .attend, .turn,
    .metadataLine "\"FrameWallClock\": 5".toList, .metadataLine "\"FrameWallClock\": 9".toList,
    .frameRead (.replicate 6 1) 10, .stamp, .publish, .turn, .frameRead (.replicate 6 2) 20,
    .stamp, .take, .publish]

theorem frames_stamped_played :
    let run := play step [] smallWorker stampedSteps
    ∃ last, last + (inOrder reads (attempt run.1)).length = run.2.source.nextSequence ∧
      inOrder publishes (attempt run.1) <+: stampedFrames { width := 2, height := 2 } last
        (inOrder reads (attempt run.1)) (inOrder stamps (attempt run.1)) ∧
      (inOrder reads (attempt run.1)).length ≤ (inOrder publishes (attempt run.1)).length + 1 :=
  frames_stamped_in_order (Ran.played stampedSteps (by decide +kernel))

end RpicamWorker

end OnboardAutonomy
