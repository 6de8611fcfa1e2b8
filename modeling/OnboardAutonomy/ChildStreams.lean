import OnboardAutonomy.FrameSizes
import OnboardAutonomy.Chunks

namespace OnboardAutonomy
open Chunks
set_option autoImplicit true

/-- What one read of a pipe returns; no bytes at all mean that its writer has closed it. -/
inductive PipeRead (α : Type) where
  | got (bytes : List α)
  | interrupted
  | failed

section Lines

/-- Hands every complete line over and keeps what stands behind the last one. -/
def drainLines (consume : σ → List Char → σ) (s : σ) (pending : List Char) : σ × List Char :=
  match _h : pending.idxOf? '\n' with
  | none => (s, pending)
  | some newline =>
    drainLines consume (consume s (pending.take newline)) (pending.drop (newline + 1))
termination_by pending.length
decreasing_by
  obtain ⟨hlt, -⟩ := List.idxOf?_eq_some_iff.1 _h
  rw [List.length_drop]
  omega

def readLines (consume : σ → List Char → σ) (s : σ) (pending : List Char) :
    List (PipeRead Char) → σ
  | .interrupted :: reads => readLines consume s pending reads
  | .got (c :: bytes) :: reads =>
    readLines consume (drainLines consume s (pending ++ c :: bytes)).1
      (drainLines consume s (pending ++ c :: bytes)).2 reads
  | [] | .got [] :: _ | .failed :: _ => if pending = [] then s else consume s pending

/-- The bytes that some reads bring, up to the end of the stream. -/
def delivered : List (PipeRead α) → List α
  | .interrupted :: reads => delivered reads
  | .got (c :: bytes) :: reads => c :: bytes ++ delivered reads
  | [] | .got [] :: _ | .failed :: _ => []

variable {consume : σ → List Char → σ}

theorem drainLines_of_not_mem (h : '\n' ∉ pending) :
    drainLines consume s pending = (s, pending) := by
  rw [drainLines]
  split
  · rfl
  · rename_i newline hn
    obtain ⟨hlt, hget, -⟩ := List.idxOf?_eq_some_iff.1 hn
    rw [← hget] at h
    exact absurd (List.getElem_mem hlt) h

theorem drainLines_append_cons (h : '\n' ∉ line) :
    drainLines consume s (line ++ '\n' :: rest) = drainLines consume (consume s line) rest := by
  have hindex : (line ++ '\n' :: rest).idxOf? '\n' = some line.length := by
    rw [List.idxOf?_eq_some_iff]
    refine ⟨by simp, by simp, fun j hj => ?_⟩
    rw [List.getElem_append_left hj]
    exact fun he => h (he ▸ List.getElem_mem hj)
  conv_lhs => rw [drainLines]
  split
  · rename_i hn
    rw [hindex] at hn
    cases hn
  · rename_i newline hn
    rw [hindex, Option.some.injEq] at hn
    rw [← hn, List.take_left, ← List.drop_drop, List.drop_left]
    rfl

/-- Draining hands over the pieces that a newline ends. -/
theorem drainLines_eq (s : σ) (pending : List Char) : drainLines consume s pending =
    ((Chunks.terminated '\n' pending).foldl consume s, remainder '\n' pending) := by
  induction pending using piece_induction '\n' generalizing s with
  | rest pending h =>
    rw [drainLines_of_not_mem h, terminated_of_not_mem h, remainder_of_not_mem h]
    rfl
  | piece line back h ih =>
    rw [drainLines_append_cons h, ih, terminated_append_cons h, remainder_append_cons h]
    rfl

theorem readLines_eq (s : σ) (h : '\n' ∉ pending) (reads : List (PipeRead Char)) :
    readLines consume s pending reads =
      (pieces '\n' (pending ++ delivered reads)).foldl consume s := by
  have hend (s : σ) {pending : List Char} (h : '\n' ∉ pending) :
      (if pending = [] then s else consume s pending) =
        (pieces '\n' (pending ++ [])).foldl consume s := by
    rw [List.append_nil, pieces_of_not_mem h]
    split <;> rfl
  induction reads generalizing s pending with
  | nil => exact hend s h
  | cons read reads ih =>
    match read with
    | .interrupted => exact ih s h
    | .failed | .got [] => exact hend s h
    | .got (c :: bytes) =>
      rw [readLines, delivered, ← List.append_assoc, pieces_append, List.foldl_append,
        drainLines_eq]
      exact ih _ (remainder_not_mem (pending ++ c :: bytes))

theorem delivered_chunks {chunks : List (List α)} (h : [] ∉ chunks) :
    delivered (chunks.map .got) = chunks.flatten := by
  induction chunks with
  | nil => rfl
  | cons chunk chunks ih =>
    rw [List.mem_cons, not_or] at h
    cases chunk with
    | nil => exact absurd rfl h.1
    | cons c bytes =>
      rw [List.map_cons, delivered, ih h.2]
      rfl

end Lines

/-- What one round of waiting for the video pipe comes to: a stop was asked for, nothing came and
the frame may have been waited for too long, or the wait or the read behind it has an outcome. -/
inductive PipeTurn where
  | stopRequested
  | quiet (expired : Bool)
  | pollInterrupted
  | pollFailed
  | readable (read : PipeRead UInt8)

inductive ReadResult where
  | complete
  | stopped
  | endOfFile
  | timedOut
  | failed
deriving DecidableEq

/-- Reads until nothing is missing; a read takes no more than is missing and leaves the rest in the
pipe. -/
def readExact : Nat → List PipeTurn → ReadResult × List UInt8 × List PipeTurn
  | 0, turns => (.complete, [], turns)
  | _ + 1, [] => (.endOfFile, [], [])
  | _ + 1, .stopRequested :: turns => (.stopped, [], turns)
  | missing + 1, .quiet expired :: turns =>
    if expired then (.timedOut, [], turns) else readExact (missing + 1) turns
  | missing + 1, .pollInterrupted :: turns => readExact (missing + 1) turns
  | _ + 1, .pollFailed :: turns => (.failed, [], turns)
  | missing + 1, .readable .interrupted :: turns => readExact (missing + 1) turns
  | _ + 1, .readable .failed :: turns => (.failed, [], turns)
  | missing + 1, .readable (.got bytes) :: turns =>
    if bytes = [] then (.endOfFile, [], turns)
    else if missing + 1 < bytes.length then
      (.complete, bytes.take (missing + 1), .readable (.got (bytes.drop (missing + 1))) :: turns)
    else
      let (result, more, rest) := readExact (missing + 1 - bytes.length) turns
      (result, bytes ++ more, rest)

/-- The bytes that some turns bring, up to the one that ends the stream. -/
def videoBytes : List PipeTurn → List UInt8
  | [] | .stopRequested :: _ | .pollFailed :: _ | .readable .failed :: _ => []
  | .quiet expired :: turns => if expired then [] else videoBytes turns
  | .pollInterrupted :: turns | .readable .interrupted :: turns => videoBytes turns
  | .readable (.got bytes) :: turns => if bytes = [] then [] else bytes ++ videoBytes turns

/-- What a turn holds: itself and the bytes it brings. -/
def PipeTurn.held : PipeTurn → Nat
  | .readable (.got bytes) => bytes.length + 1
  | _ => 1

/-- A read that is complete has taken the first bytes of the stream and as many as were missing;
any other has come to the end of the stream before. -/
def ReadOutcome (missing : Nat) (turns : List PipeTurn) :
    ReadResult × List UInt8 × List PipeTurn → Prop
  | (.complete, bytes, rest) =>
    bytes.length = missing ∧ videoBytes turns = bytes ++ videoBytes rest ∧
      (rest.map PipeTurn.held).sum + missing ≤ (turns.map PipeTurn.held).sum
  | (_, bytes, _) => videoBytes turns = bytes ∧ bytes.length < missing

theorem ReadOutcome.skip (h : ReadOutcome missing turns r)
    (hbytes : videoBytes (turn :: turns) = videoBytes turns) :
    ReadOutcome missing (turn :: turns) r := by
  obtain ⟨result, bytes, rest⟩ := r
  cases result with
  | complete =>
    obtain ⟨hlength, hvideo, hheld⟩ := h
    refine ⟨hlength, hbytes.trans hvideo, ?_⟩
    rw [List.map_cons, List.sum_cons]
    omega
  | stopped | endOfFile | timedOut | failed => exact ⟨hbytes.trans h.1, h.2⟩

/-- A read that takes all that a turn brings goes on with what is missing behind it. -/
theorem ReadOutcome.append (h : ReadOutcome (missing - bytes.length) turns (result, next, rest))
    (hne : bytes ≠ []) (hfits : bytes.length ≤ missing) :
    ReadOutcome missing (.readable (.got bytes) :: turns) (result, bytes ++ next, rest) := by
  have hvideo : videoBytes (.readable (.got bytes) :: turns) = bytes ++ videoBytes turns := by
    rw [videoBytes, if_neg hne]
  cases result with
  | complete =>
    obtain ⟨hlength, hnext, hheld⟩ := h
    refine ⟨?_, ?_, ?_⟩
    · rw [List.length_append]
      omega
    · rw [hvideo, hnext, List.append_assoc]
    · rw [List.map_cons, List.sum_cons, PipeTurn.held]
      omega
  | stopped | endOfFile | timedOut | failed =>
    refine ⟨by rw [hvideo, h.1], ?_⟩
    have hless := h.2
    rw [List.length_append]
    omega

theorem videoBytes_chunks {chunks : List (List UInt8)} (h : [] ∉ chunks) :
    videoBytes (chunks.map fun chunk => .readable (.got chunk)) = chunks.flatten := by
  induction chunks with
  | nil => rfl
  | cons chunk chunks ih =>
    rw [List.mem_cons, not_or] at h
    rw [List.map_cons, videoBytes, if_neg (Ne.symm h.1), ih h.2]
    rfl

theorem readExact_outcome (missing : Nat) (turns : List PipeTurn) :
    ReadOutcome missing turns (readExact missing turns) := by
  induction turns generalizing missing with
  | nil =>
    cases missing with
    | zero => exact ⟨rfl, rfl, Nat.le_refl _⟩
    | succ missing => exact ⟨rfl, Nat.succ_pos missing⟩
  | cons turn turns ih =>
    cases missing with
    | zero => exact ⟨rfl, rfl, Nat.le_refl _⟩
    | succ missing =>
      match turn with
      | .stopRequested | .pollFailed | .readable .failed => exact ⟨rfl, Nat.succ_pos missing⟩
      | .quiet true => exact ⟨rfl, Nat.succ_pos missing⟩
      | .quiet false | .pollInterrupted | .readable .interrupted =>
        exact (ih (missing + 1)).skip rfl
      | .readable (.got bytes) =>
        rw [readExact]
        by_cases hnil : bytes = []
        · rw [if_pos hnil]
          exact ⟨by rw [videoBytes, if_pos hnil], Nat.succ_pos missing⟩
        rw [if_neg hnil]
        split
        · rename_i hless
          have hrest : bytes.drop (missing + 1) ≠ [] := by
            rw [Ne, List.drop_eq_nil_iff]
            omega
          refine ⟨?_, ?_, ?_⟩
          · rw [List.length_take]
            omega
          · rw [videoBytes, if_neg hnil, videoBytes, if_neg hrest, ← List.append_assoc,
              List.take_append_drop]
          · rw [List.map_cons, List.map_cons, List.sum_cons, List.sum_cons, PipeTurn.held,
              PipeTurn.held, List.length_drop]
            omega
        · rename_i hfits
          exact (ih (missing + 1 - bytes.length)).append hnil (Nat.le_of_not_lt hfits)

namespace GStreamerCameraSource

/-- The frames that are read until a stop is asked for or the stream ends, and the source behind the
publication of each; the clock says when the one with a number was complete. -/
def frameLoop (s : GStreamerCameraSource) (positive : 0 < s.frameSize) (clock : Nat → Int)
    (readResult : ReadResult) (turns : List PipeTurn) :
    List CameraFrame × List GStreamerCameraSource × ReadResult :=
  match turns with
  | .stopRequested :: _ => ([], [], readResult)
  | turns =>
    match _h : readExact s.frameSize turns with
    | (.complete, yuv420, rest) =>
      let receivedAt := clock (s.nextSequence + 1)
      let next := s.frameRead yuv420 receivedAt
      let (frames, sources, result) := frameLoop next positive clock .complete rest
      (s.nextFrame yuv420 receivedAt :: frames, next :: sources, result)
    | (result, _, _) => ([], [], result)
termination_by (turns.map PipeTurn.held).sum
decreasing_by
  have hread := readExact_outcome s.frameSize turns
  rw [_h] at hread
  have hheld := hread.2.2
  omega

/-- The frames are the whole blocks of the stream, numbered from the next number on. -/
theorem frameLoop_images (s : GStreamerCameraSource) (positive : 0 < s.frameSize)
    (clock : Nat → Int) (readResult : ReadResult) (turns : List PipeTurn) :
    (s.frameLoop positive clock readResult turns).1.map
        (fun frame => (frame.yuv420, frame.sequence)) =
      (blocks s.frameSize (videoBytes turns)).zipIdx (s.nextSequence + 1) := by
  fun_induction frameLoop s positive clock readResult turns with
  | case1 s positive readResult turns =>
    rw [videoBytes, blocks_of_lt positive]
    rfl
  | case2 s positive readResult turns hgo yuv420 rest hread receivedAt next frames sources result
      hrest ih =>
    have hwhole := readExact_outcome s.frameSize turns
    rw [hread] at hwhole
    rw [hrest] at ih
    rw [hwhole.2.1, blocks_append positive hwhole.1, List.zipIdx_cons, List.map_cons]
    exact congrArg _ ih
  | case3 s positive readResult turns hgo result bytes rest hnot hread =>
    have hpart := readExact_outcome s.frameSize turns
    rw [hread] at hpart
    cases result with
    | complete => exact (hnot rfl).elim
    | stopped | endOfFile | timedOut | failed =>
      rw [hpart.1, blocks_of_lt hpart.2]
      rfl

/-- Each frame in turn is published: it is the latest one, and one more was produced. -/
theorem frameLoop_published (s : GStreamerCameraSource) (positive : 0 < s.frameSize)
    (clock : Nat → Int) (readResult : ReadResult) (turns : List PipeTurn) :
    (s.frameLoop positive clock readResult turns).2.1.map
        (fun next => (next.latestFrame, next.status.producedFrames)) =
      ((s.frameLoop positive clock readResult turns).1.map some).zipIdx
        (s.status.producedFrames + 1) := by
  fun_induction frameLoop s positive clock readResult turns with
  | case1 | case3 => rfl
  | case2 s positive readResult turns hgo yuv420 rest hread receivedAt next frames sources result
      hrest ih =>
    rw [hrest] at ih
    rw [List.map_cons, List.map_cons, List.zipIdx_cons]
    exact congrArg _ ih

theorem frameLoop_dimensions (s : GStreamerCameraSource) (positive : 0 < s.frameSize)
    (clock : Nat → Int) (readResult : ReadResult) (turns : List PipeTurn) :
    ∀ frame ∈ (s.frameLoop positive clock readResult turns).1,
      frame.width = s.config.width ∧ frame.height = s.config.height := by
  fun_induction frameLoop s positive clock readResult turns with
  | case1 | case3 => exact fun frame hframe => (by cases hframe)
  | case2 s positive readResult turns hgo yuv420 rest hread receivedAt next frames sources result
      hrest ih =>
    rw [hrest] at ih
    rw [List.forall_mem_cons]
    exact ⟨⟨rfl, rfl⟩, ih⟩

theorem new_frameSize {config : GStreamerCameraConfig} (h : new config = .ok s) :
    checkedFrameSize config = .ok s.frameSize ∧ s.config = config := by
  rw [new] at h
  split at h
  · cases h
  · rename_i frameSize hsize
    rw [Except.ok.injEq] at h
    rw [hsize, ← h]
    exact ⟨rfl, rfl⟩

theorem new_frameSize_pos {config : GStreamerCameraConfig} (h : new config = .ok s) :
    0 < s.frameSize := by
  have hsize := (new_frameSize h).1
  rw [checkedFrameSize_eq] at hsize
  exact frameBytes_pos config.accepted hsize

/-- The thread that keeps what the process writes to its error stream. -/
def errorReader (s : GStreamerCameraSource) (reads : List (PipeRead Char)) :
    GStreamerCameraSource :=
  readLines (fun s line => s.noteProcessMessage (String.ofList line)) s [] reads

theorem noteProcessMessage_lines (s : GStreamerCameraSource) (lines : List (List Char)) :
    (lines.foldl (fun s line => s.noteProcessMessage (String.ofList line)) s).lastProcessMessage =
      ((lines.filter (· ≠ [])).map String.ofList).getLastD s.lastProcessMessage := by
  induction lines generalizing s with
  | nil => rfl
  | cons line lines ih =>
    rw [List.foldl_cons, ih]
    by_cases h : line = []
    · rw [h]
      rfl
    · have hne : String.ofList line ≠ "" := fun he => h (String.ofList_eq_empty_iff.1 he)
      rw [noteProcessMessage, if_neg hne,
        List.filter_cons_of_pos (p := (· ≠ [])) (decide_eq_true h), List.map_cons,
        List.getLastD_cons]

/-- What is kept of the error stream is its last line that is not empty. -/
theorem errorReader_lastProcessMessage (s : GStreamerCameraSource)
    (reads : List (PipeRead Char)) :
    (s.errorReader reads).lastProcessMessage =
      (((pieces '\n' (delivered reads)).filter (· ≠ [])).map String.ofList).getLastD
        s.lastProcessMessage := by
  rw [errorReader, readLines_eq s List.not_mem_nil, noteProcessMessage_lines]
  rfl

end GStreamerCameraSource

/-- What the readers make of a stream does not depend on the pieces in which it comes in. Lines are
handed over as a newline ends them, and last what no newline ends; frames are the whole blocks of
the stream, published one after the other. -/
theorem streams_read_whole :
    (∀ {σ : Type} (consume : σ → List Char → σ) (s : σ) (reads : List (PipeRead Char)),
      readLines consume s [] reads = (pieces '\n' (delivered reads)).foldl consume s) ∧
    (∀ chunks : List (List Char), [] ∉ chunks →
      delivered (chunks.map .got) = chunks.flatten) ∧
    (∀ (config : GStreamerCameraConfig) (s : GStreamerCameraSource),
      GStreamerCameraSource.new config = .ok s → 0 < s.frameSize) ∧
    (∀ (s : GStreamerCameraSource) (positive : 0 < s.frameSize) (clock : Nat → Int)
        (readResult : ReadResult) (turns : List PipeTurn),
      (s.frameLoop positive clock readResult turns).1.map
          (fun frame => (frame.yuv420, frame.sequence)) =
        (blocks s.frameSize (videoBytes turns)).zipIdx (s.nextSequence + 1) ∧
      (s.frameLoop positive clock readResult turns).2.1.map
          (fun next => (next.latestFrame, next.status.producedFrames)) =
        ((s.frameLoop positive clock readResult turns).1.map some).zipIdx
          (s.status.producedFrames + 1)) ∧
    ∀ chunks : List (List UInt8), [] ∉ chunks →
      videoBytes (chunks.map fun chunk => .readable (.got chunk)) = chunks.flatten := by
  refine ⟨?_, ?_, ?_, ?_, ?_⟩
  · intro σ consume s reads
    exact readLines_eq s List.not_mem_nil reads
  · intro chunks h
    exact delivered_chunks h
  · intro config s h
    exact GStreamerCameraSource.new_frameSize_pos h
  · intro s positive clock readResult turns
    exact ⟨s.frameLoop_images positive clock readResult turns,
      s.frameLoop_published positive clock readResult turns⟩
  · intro chunks h
    exact videoBytes_chunks h

/-- Two by two pixels make frames of six bytes; the last byte that comes in begins a frame that is
never complete. -/
theorem streams_read_whole_small :
    readLines (fun lines line => lines ++ [line]) [] []
        [.got "ab".toList, .interrupted, .got "c\nd\n\nex".toList] =
      ["abc".toList, "d".toList, [], "ex".toList] ∧
    ∃ (s : GStreamerCameraSource) (positive : 0 < s.frameSize),
      GStreamerCameraSource.new { width := 2, height := 2 } = .ok s ∧
      (s.frameLoop positive (fun _ => 0) .complete
          ([[1, 2, 3, 4], [5, 6, 7], [8, 9, 10, 11, 12, 13]].map
            fun chunk => .readable (.got chunk))).2.1.map
          (fun next => (next.latestFrame.map fun frame => (frame.yuv420, frame.sequence),
            next.status.producedFrames)) =
        [(some ([1, 2, 3, 4, 5, 6], 1), 1), (some ([7, 8, 9, 10, 11, 12], 2), 2)] := by
  obtain ⟨hlines, -, hpositive, hframes, hchunks⟩ := streams_read_whole
  refine ⟨?_, ?_⟩
  · rw [hlines]
    decide
  · have hnew : ∃ s, GStreamerCameraSource.new { width := 2, height := 2 } = .ok s ∧
        s.frameSize = 6 ∧ s.nextSequence = 0 ∧ s.status.producedFrames = 0 :=
      ⟨_, rfl, rfl, rfl, rfl⟩
    obtain ⟨s, hs, hsize, hnext, hproduced⟩ := hnew
    refine ⟨s, hpositive _ s hs, hs, ?_⟩
    obtain ⟨hblocks, hpublished⟩ := hframes s (hpositive _ s hs) (fun _ => 0) .complete
      ([[1, 2, 3, 4], [5, 6, 7], [8, 9, 10, 11, 12, 13]].map fun chunk => .readable (.got chunk))
    have hshown := congrArg
      (List.map (Prod.map (Option.map fun frame => (frame.yuv420, frame.sequence)) id)) hpublished
    rw [List.map_map, ← List.zipIdx_map, List.map_map] at hshown
    refine hshown.trans ?_
    have hsome : (Option.map fun frame : CameraFrame => (frame.yuv420, frame.sequence)) ∘ some =
        some ∘ fun frame => (frame.yuv420, frame.sequence) := rfl
    rw [hsome, ← List.map_map, hblocks, hchunks _ (by decide), hsize, hnext, hproduced]
    decide

end OnboardAutonomy
