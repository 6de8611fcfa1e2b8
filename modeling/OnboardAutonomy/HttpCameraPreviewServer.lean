import OnboardAutonomy.PreviewDocuments

namespace OnboardAutonomy
set_option autoImplicit true

/-- A picture for the page: the luma plane of one frame, whole, with what was seen on it. -/
structure PreviewFrame where
  sequence : Nat := 0
  width : UInt32 := 0
  height : UInt32 := 0
  luma : List UInt8
  targets : List TargetObservation
  targetTrack : Serialised.TargetTrackSnapshot
  complete : luma.length = width.toNat * height.toNat

structure HttpCameraPreviewConfig where
  bindAddress : String := "0.0.0.0"
  port : UInt16 := 8080
  maximumFramesPerSecond : UInt32 := 10
  pageFile : String := ""

/-- In microseconds. -/
def checkedFrameInterval (maximumFramesPerSecond : UInt32) : Except String Nat :=
  if maximumFramesPerSecond = 0 ∨ 60 < maximumFramesPerSecond then
    .error "preview frame rate must be between 1 and 60"
  else .ok (1000000 / maximumFramesPerSecond.toNat)

/-- What is asked to be shown, and when. -/
structure Publication where
  now : TimePoint
  frame : CameraFrame
  targets : List TargetObservation
  targetTrack : Serialised.TargetTrackSnapshot

namespace Publication

def lumaSize (p : Publication) : Nat := p.frame.width.toNat * p.frame.height.toNat

/-- A frame that has pixels, and a byte for each of them. -/
def Drawable (p : Publication) : Prop :=
  p.frame.width ≠ 0 ∧ p.frame.height ≠ 0 ∧ p.lumaSize ≤ p.frame.yuv420.length

instance (p : Publication) : Decidable p.Drawable := inferInstanceAs (Decidable (_ ∧ _ ∧ _))

def picture (p : Publication) (h : p.Drawable) : PreviewFrame where
  sequence := p.frame.sequence
  width := p.frame.width
  height := p.frame.height
  luma := p.frame.yuv420.take p.lumaSize
  targets := p.targets
  targetTrack := p.targetTrack
  complete := List.length_take_of_le h.2.2

def drawn (p : Publication) : Option PreviewFrame :=
  if h : p.Drawable then some (p.picture h) else none

end Publication

structure HttpResponse where
  status : Nat := 200
  headers : List (String × List Char) := []
  content : List UInt8 := []
  contentType : String := ""

/-- The state the server shares with its worker thread. The clock is steady and in nanoseconds. -/
structure HttpCameraPreviewServer where
  config : HttpCameraPreviewConfig
  page : List UInt8
  minimumFrameInterval : Duration
  latestFrame : Option PreviewFrame := none
  lastPublishedAt : Option TimePoint := none
  stopping : Bool := false
  failed : Bool := false

namespace HttpCameraPreviewServer

/-- The page file is read by the caller, when it can be opened. -/
def new (config : HttpCameraPreviewConfig) (pageFile : Option (List UInt8)) :
    Except String HttpCameraPreviewServer :=
  match pageFile with
  | none => .error ("unable to open camera preview page: " ++ config.pageFile)
  | some page =>
    match checkedFrameInterval config.maximumFramesPerSecond with
    | .error error => .error error
    | .ok microseconds =>
      if config.bindAddress = "" ∨ config.port = 0 then
        .error "invalid HTTP camera preview configuration"
      else .ok {
        config := config
        page := page
        minimumFrameInterval := microseconds * 1000 }

def getPage (s : HttpCameraPreviewServer) : HttpResponse where
  headers := [("Cache-Control", "no-store".toList)]
  content := s.page
  contentType := "text/html; charset=utf-8"

/-- No frame was published so far. -/
def noFrame : HttpResponse where
  status := 204
  headers := [("Cache-Control", "no-store".toList)]

def framed (frame : PreviewFrame) : HttpResponse where
  headers := [("Cache-Control", "no-store".toList),
    ("X-Frame-Width", (toString frame.width).toList),
    ("X-Frame-Height", (toString frame.height).toList),
    ("X-Frame-Sequence", (toString frame.sequence).toList),
    ("X-OnboardAutonomy-Targets", targetsJson frame.targets),
    ("X-OnboardAutonomy-Target-Track", targetTrackJson frame.targetTrack)]
  content := frame.luma
  contentType := "application/octet-stream"

/-- The frame is copied under the lock; the answer is made of the copy. -/
def getFrame (s : HttpCameraPreviewServer) : HttpResponse := s.latestFrame.elim noFrame framed

/-- Less than the interval has passed since the last frame that was shown. -/
def early (s : HttpCameraPreviewServer) (now : TimePoint) : Bool :=
  s.lastPublishedAt.any fun last => decide (now - last < s.minimumFrameInterval)

def publish (s : HttpCameraPreviewServer) (p : Publication) : HttpCameraPreviewServer :=
  if s.early p.now then s
  else
    match p.drawn with
    | none => s
    | some frame => { s with latestFrame := some frame, lastPublishedAt := some p.now }

/-- `listen` of the worker returned. -/
def listenEnded (s : HttpCameraPreviewServer) (listened : Bool) : HttpCameraPreviewServer :=
  if !listened && !s.stopping then { s with failed := true } else s

def description (s : HttpCameraPreviewServer) : String :=
  "http://" ++ s.config.bindAddress ++ ":" ++ toString s.config.port ++
    if s.failed then " (listen failed)" else ""

end HttpCameraPreviewServer

/-- What reaches the server, from the application and over the network. -/
inductive PreviewEvent where
  | publish (p : Publication)
  | getFrame
  | getPage
  | listenEnded (listened : Bool)

namespace HttpCameraPreviewServer

def step (s : HttpCameraPreviewServer) : PreviewEvent → HttpCameraPreviewServer
  | .publish p => s.publish p
  | .getFrame => s
  | .getPage => s
  | .listenEnded listened => s.listenEnded listened

def after (s : HttpCameraPreviewServer) (es : List PreviewEvent) : HttpCameraPreviewServer :=
  es.foldl step s

end HttpCameraPreviewServer

def published (es : List PreviewEvent) : List Publication :=
  es.filterMap fun
    | .publish p => some p
    | _ => none

/-- The frame may be shown behind the one that is shown. -/
def Publication.Due (interval : Duration) (shown : Option (Publication × Nat)) (p : Publication) :
    Prop :=
  p.Drawable ∧ ∀ q ∈ shown, q.1.now + interval ≤ p.now

instance (interval : Duration) (shown : Option (Publication × Nat)) (p : Publication) :
    Decidable (p.Due interval shown) := inferInstanceAs (Decidable (_ ∧ _))

/-- The publication on the page, with its place among all. -/
def onPage (interval : Duration) (ps : List Publication) : Option (Publication × Nat) :=
  ps.zipIdx.foldl (fun shown (p, k) => if p.Due interval shown then some (p, k) else shown) none

theorem onPage_append : onPage interval (ps ++ [p]) =
    if p.Due interval (onPage interval ps) then some (p, ps.length) else onPage interval ps := by
  rw [onPage, List.zipIdx_append, List.foldl_append, Nat.zero_add]
  rfl

theorem published_append : published (es ++ [e]) = published es ++ published [e] :=
  List.filterMap_append

theorem onPage_place (h : onPage interval ps = some (p, k)) : ps[k]? = some p := by
  induction ps using List.reverseRecOn with
  | nil => cases h
  | append_singleton ps q ih =>
    rw [onPage_append] at h
    split at h
    · cases h
      exact List.getElem?_concat_length
    · have hk := ih h
      rw [List.getElem?_append_left (List.getElem?_eq_some_iff.1 hk).1]
      exact hk

theorem onPage_drawable (h : onPage interval ps = some (p, k)) : p.Drawable := by
  induction ps using List.reverseRecOn with
  | nil => cases h
  | append_singleton ps q ih =>
    rw [onPage_append] at h
    split at h
    · rename_i hdue
      cases h
      exact hdue.1
    · exact ih h

/-- What came behind the publication on the page came too early, or cannot be drawn. -/
theorem onPage_fresh (h : onPage interval ps = some (p, k)) :
    ∀ q ∈ ps.drop (k + 1), q.Drawable → q.now < p.now + interval := by
  induction ps using List.reverseRecOn with
  | nil => cases h
  | append_singleton ps next ih =>
    rw [onPage_append] at h
    split at h
    · cases h
      rw [List.drop_of_length_le (by rw [List.length_append]; exact Nat.le_refl _)]
      exact fun q hq => absurd hq List.not_mem_nil
    · rename_i hdue
      have hlt := (List.getElem?_eq_some_iff.1 (onPage_place h)).1
      rw [List.drop_append_of_le_length hlt, List.forall_mem_append, List.forall_mem_singleton]
      refine ⟨ih h, fun hdrawable => ?_⟩
      rw [Publication.Due, h] at hdue
      by_contra hge
      exact hdue ⟨hdrawable, fun q hq => by
        rw [← Option.some.inj hq]
        exact not_lt.1 hge⟩

theorem onPage_none (h : onPage interval ps = none) : ∀ p ∈ ps, ¬p.Drawable := by
  induction ps using List.reverseRecOn with
  | nil => exact fun p hp => absurd hp List.not_mem_nil
  | append_singleton ps next ih =>
    rw [onPage_append] at h
    split at h
    · cases h
    · rename_i hdue
      rw [List.forall_mem_append, List.forall_mem_singleton]
      rw [Publication.Due, h] at hdue
      exact ⟨ih h, fun hdrawable => hdue ⟨hdrawable, fun q hq => absurd hq (Option.not_mem_none q)⟩⟩

/-- The page goes on to a later publication only, an interval later at least. -/
theorem onPage_onward (hinterval : 0 ≤ interval) (h : onPage interval ps = some (p, k))
    (more : List Publication) : ∃ q n, onPage interval (ps ++ more) = some (q, n) ∧
      ((q, n) = (p, k) ∨ k < n ∧ p.now + interval ≤ q.now) := by
  induction more using List.reverseRecOn with
  | nil => exact ⟨p, k, by rw [List.append_nil, h], .inl rfl⟩
  | append_singleton more next ih =>
    obtain ⟨q, n, hq, hon⟩ := ih
    rw [← List.append_assoc, onPage_append]
    split
    · rename_i hdue
      have hlater : q.now + interval ≤ next.now := hdue.2 _ hq
      have hplace := (List.getElem?_eq_some_iff.1 (onPage_place hq)).1
      refine ⟨next, (ps ++ more).length, rfl, .inr ?_⟩
      rcases hon with heq | ⟨hlt, hle⟩
      · cases heq
        exact ⟨hplace, hlater⟩
      · exact ⟨hlt.trans hplace, hle.trans ((le_add_of_nonneg_right hinterval).trans hlater)⟩
    · exact ⟨q, n, hq, hon⟩

namespace HttpCameraPreviewServer

theorem after_append : after s (es ++ [e]) = (after s es).step e := List.foldl_append

/-- The shared state is what the page shows of the publications. -/
structure Follows (interval : Duration) (shown : Option (Publication × Nat))
    (s : HttpCameraPreviewServer) : Prop where
  paced : s.minimumFrameInterval = interval
  time : s.lastPublishedAt = shown.map (·.1.now)
  frame : s.latestFrame = shown.bind (·.1.drawn)

theorem Follows.early {interval : Duration} (hf : Follows interval shown s) :
    s.early now = false ↔ ∀ q ∈ shown, q.1.now + interval ≤ now := by
  rw [HttpCameraPreviewServer.early, hf.time, hf.paced]
  cases shown with
  | none => exact iff_of_true rfl fun q hq => absurd hq (Option.not_mem_none q)
  | some q =>
    rw [Option.map_some, Option.any_some, decide_eq_false_iff_not, not_lt, le_sub_iff_add_le']
    exact ⟨fun h q' hq => Option.some.inj hq ▸ h, fun h => h q rfl⟩

theorem Follows.publish {interval : Duration} (hf : Follows interval shown s) (p : Publication)
    (k : Nat) :
    Follows interval (if p.Due interval shown then some (p, k) else shown) (s.publish p) := by
  rw [HttpCameraPreviewServer.publish]
  by_cases hdrawable : p.Drawable
  · have hdrawn : p.drawn = some (p.picture hdrawable) := dif_pos hdrawable
    cases hearly : s.early p.now with
    | false =>
      rw [if_neg Bool.false_ne_true, hdrawn, if_pos ⟨hdrawable, hf.early.1 hearly⟩]
      exact ⟨hf.paced, rfl, hdrawn.symm⟩
    | true =>
      have hdue : ¬p.Due interval shown := fun h => by
        rw [hf.early.2 h.2] at hearly
        cases hearly
      rw [if_pos rfl, if_neg hdue]
      exact hf
  · have hdrawn : p.drawn = none := dif_neg hdrawable
    have hdue : ¬p.Due interval shown := fun h => hdrawable h.1
    rw [hdrawn, ite_self, if_neg hdue]
    exact hf

theorem Follows.step {interval : Duration} {ps : List Publication}
    (hf : Follows interval (onPage interval ps) s) (e : PreviewEvent) :
    Follows interval (onPage interval (ps ++ published [e])) (s.step e) := by
  cases e with
  | publish p =>
    have hone : published [.publish p] = [p] := rfl
    rw [hone, onPage_append]
    exact hf.publish p ps.length
  | getFrame =>
    have hnone : published [.getFrame] = [] := rfl
    rw [hnone, List.append_nil]
    exact hf
  | getPage =>
    have hnone : published [.getPage] = [] := rfl
    rw [hnone, List.append_nil]
    exact hf
  | listenEnded listened =>
    have hnone : published [.listenEnded listened] = [] := rfl
    rw [hnone, List.append_nil, HttpCameraPreviewServer.step, listenEnded]
    split
    · exact ⟨hf.paced, hf.time, hf.frame⟩
    · exact hf

theorem new_cases {config : HttpCameraPreviewConfig} (h : new config pageFile = .ok s) :
    s.latestFrame = none ∧ s.lastPublishedAt = none ∧ 0 ≤ s.minimumFrameInterval := by
  unfold new at h
  split at h
  · cases h
  · split at h
    · cases h
    · split at h
      · cases h
      · cases h
        exact ⟨rfl, rfl, by positivity⟩

theorem follows_after {config : HttpCameraPreviewConfig} (h : new config pageFile = .ok s)
    (es : List PreviewEvent) :
    Follows s.minimumFrameInterval (onPage s.minimumFrameInterval (published es)) (s.after es) := by
  induction es using List.reverseRecOn with
  | nil =>
    obtain ⟨hframe, htime, -⟩ := new_cases h
    exact ⟨rfl, htime, hframe⟩
  | append_singleton es e ih =>
    rw [after_append, published_append]
    exact ih.step e

end HttpCameraPreviewServer

/-- An answer with one whole publication: its size, its place, its own targets and track. -/
structure Answers (p : Publication) (r : HttpResponse) : Prop where
  status : r.status = 200
  headers : r.headers = [("Cache-Control", "no-store".toList),
    ("X-Frame-Width", (toString p.frame.width).toList),
    ("X-Frame-Height", (toString p.frame.height).toList),
    ("X-Frame-Sequence", (toString p.frame.sequence).toList),
    ("X-OnboardAutonomy-Targets", targetsJson p.targets),
    ("X-OnboardAutonomy-Target-Track", targetTrackJson p.targetTrack)]
  pixels : r.content.length = p.frame.width.toNat * p.frame.height.toNat
  content : r.content <+: p.frame.yuv420

theorem answers_framed (h : p.Drawable) :
    Answers p (HttpCameraPreviewServer.framed (p.picture h)) where
  status := rfl
  headers := rfl
  pixels := (p.picture h).complete
  content := List.take_prefix _ _

/-- How the answers to `/api/frame` go with what was published, over any run of the server. -/
structure Serves (s : HttpCameraPreviewServer)
    (shown : List PreviewEvent → Option (Publication × Nat)) : Prop where
  waiting : ∀ es, shown es = none →
    (s.after es).getFrame = HttpCameraPreviewServer.noFrame ∧ ∀ p ∈ published es, ¬p.Drawable
  showing : ∀ es p k, shown es = some (p, k) → (published es)[k]? = some p ∧
    Answers p (s.after es).getFrame ∧
      ∀ q ∈ (published es).drop (k + 1), q.Drawable → q.now < p.now + s.minimumFrameInterval
  onward : ∀ es more p k, shown es = some (p, k) → ∃ q n, shown (es ++ more) = some (q, n) ∧
    ((q, n) = (p, k) ∨ k < n ∧ p.now + s.minimumFrameInterval ≤ q.now)

/-- Whatever the order of publications and requests, the page gets no picture until one can be
drawn and then a whole one with its own targets and track, behind the newest by less than the
interval. Pictures do not go back, and different ones are the interval apart. -/
theorem frames_served {config : HttpCameraPreviewConfig} {pageFile : Option (List UInt8)}
    {s : HttpCameraPreviewServer} (h : HttpCameraPreviewServer.new config pageFile = .ok s) :
    Serves s fun es => onPage s.minimumFrameInterval (published es) where
  waiting := by
    intro es hshown
    have hframe := (HttpCameraPreviewServer.follows_after h es).frame
    rw [hshown] at hframe
    rw [HttpCameraPreviewServer.getFrame, hframe]
    exact ⟨rfl, onPage_none hshown⟩
  showing := by
    intro es p k hshown
    have hframe := (HttpCameraPreviewServer.follows_after h es).frame
    have hdrawn : p.drawn = some (p.picture (onPage_drawable hshown)) := dif_pos _
    rw [hshown, Option.bind_some, hdrawn] at hframe
    rw [HttpCameraPreviewServer.getFrame, hframe]
    exact ⟨onPage_place hshown, answers_framed _, onPage_fresh hshown⟩
  onward := by
    intro es more p k hshown
    obtain ⟨-, -, hinterval⟩ := HttpCameraPreviewServer.new_cases h
    have hmore := onPage_onward hinterval hshown (published more)
    rwa [published, published, ← List.filterMap_append] at hmore

theorem frames_served_default :
    ∃ s, HttpCameraPreviewServer.new {} (some []) = .ok s ∧
      Serves s fun es => onPage s.minimumFrameInterval (published es) := by
  have h : HttpCameraPreviewServer.new {} (some []) =
      .ok { config := {}, page := [], minimumFrameInterval := 100000000 } := rfl
  exact ⟨_, h, frames_served h⟩

end OnboardAutonomy
