import OnboardAutonomy.LogRotation
import Mathlib.Data.List.Induction

namespace OnboardAutonomy
open Retention
set_option autoImplicit true

/-- What iterating over a text stream yields. -/
structure Line where
  text : String
  nonempty : text ≠ ""

/-- `line.encode("utf-8")`. -/
def Line.payload (line : Line) : Bytes := line.text.toList.flatMap String.utf8EncodeChar

/-- A line with the modification time that writing it leaves on its file. -/
structure Write where
  line : Line
  mtime : Int

/-- A file the stream has created, with what was written to it, still in the directory or not. -/
structure CreatedFile where
  name : String
  writes : List Bytes := []

def CreatedFile.data (file : CreatedFile) : Bytes := file.writes.flatten

structure StreamLimits where
  maxFiles : Nat
  maxTotalBytes : Nat
  maxFileBytes : Nat

structure LogStream where
  directory : Directory
  result : RotationResult
  sequence : Nat := 0
  closed : List CreatedFile := []
  activeFile : Option CreatedFile := none
  activeSize : Nat := 0
  mirror : String := ""

namespace LogStream

/-- The files created so far, in their order. -/
def created (s : LogStream) : List CreatedFile := s.closed ++ s.activeFile.toList

/-- The next line begins a file. -/
def needsFile (s : LogStream) (limits : StreamLimits) (payload : Bytes) : Bool :=
  s.activeFile.isNone ||
    (0 < s.activeSize && limits.maxFileBytes < s.activeSize + payload.length)

/-- The first number from the present one on whose file can be opened. -/
def nextSequence (s : LogStream) (stem : String) : Nat :=
  freeSequence s.directory stem s.directory.entries.length s.sequence

def openLog (s : LogStream) (stem : String) (mtime : Int) : LogStream :=
  { s with
    directory := s.directory.create (logName stem (s.nextSequence stem)) mtime freeSequence_free
    sequence := s.nextSequence stem + 1
    closed := s.closed ++ s.activeFile.toList
    activeFile := some { name := logName stem (s.nextSequence stem) }
    activeSize := 0 }

/-- A line goes to the active file and to the mirror. -/
def write (s : LogStream) (w : Write) : LogStream :=
  match s.activeFile with
  | none => s
  | some file =>
    { s with
      directory := s.directory.append file.name w.line.payload w.mtime
      activeFile := some { file with writes := file.writes ++ [w.line.payload] }
      activeSize := s.activeSize + w.line.payload.length
      mirror := s.mirror ++ w.line.text }

/-- The loop body up to the rotation. -/
def put (limits : StreamLimits) (stem : String) (s : LogStream) (w : Write) : LogStream :=
  (if s.needsFile limits w.line.payload then s.openLog stem w.mtime else s).write w

def step (limits : StreamLimits) (stem : String) (s : LogStream) (w : Write) :
    Except String LogStream := do
  let s := s.put limits stem w
  let (directory, result) ← rotateJsonlLogs s.directory limits.maxFiles limits.maxTotalBytes
  return { s with directory := directory, result := result }

end LogStream

def streamJsonlLogs (source : List Write) (directory : Directory) (stem : String)
    (limits : StreamLimits) : Except String LogStream :=
  if limits.maxFileBytes < 1 then .error "max_file_bytes must be at least 1"
  else do
    let (directory, result) ← rotateJsonlLogs directory limits.maxFiles limits.maxTotalBytes
    source.foldlM (LogStream.step limits stem) { directory := directory, result := result }

/-- No limit is below one. -/
structure StreamLimits.Valid (limits : StreamLimits) : Prop where
  maxFiles : 1 ≤ limits.maxFiles
  maxTotalBytes : 1 ≤ limits.maxTotalBytes
  maxFileBytes : 1 ≤ limits.maxFileBytes

namespace LogStream

/-- A loop body whose rotation does not throw. -/
def advance (limits : StreamLimits) (stem : String) (s : LogStream) (w : Write) : LogStream :=
  let s := s.put limits stem w
  { s with
    directory := rotated s.directory limits.maxFiles limits.maxTotalBytes
    result := rotation s.directory limits.maxFiles limits.maxTotalBytes }

/-- The stream before its first line. -/
def begin (limits : StreamLimits) (directory : Directory) : LogStream where
  directory := rotated directory limits.maxFiles limits.maxTotalBytes
  result := rotation directory limits.maxFiles limits.maxTotalBytes

end LogStream

theorem rotateJsonlLogs_ok (hfiles : 1 ≤ maxFiles) (hbytes : 1 ≤ maxTotalBytes) :
    rotateJsonlLogs d maxFiles maxTotalBytes =
      .ok (rotated d maxFiles maxTotalBytes, rotation d maxFiles maxTotalBytes) := by
  rw [rotateJsonlLogs, if_neg (Nat.not_lt.mpr hfiles), if_neg (Nat.not_lt.mpr hbytes)]

/-- With valid limits a stream takes all of its lines. -/
theorem streamJsonlLogs_ok {limits : StreamLimits} (hl : limits.Valid) :
    streamJsonlLogs source start stem limits =
      .ok (source.foldl (LogStream.advance limits stem) (LogStream.begin limits start)) := by
  have hstep : LogStream.step limits stem = fun s w =>
      (pure (LogStream.advance limits stem s w) : Except String LogStream) := by
    funext s w
    rw [LogStream.step, rotateJsonlLogs_ok hl.maxFiles hl.maxTotalBytes]
    rfl
  rw [streamJsonlLogs, if_neg (Nat.not_lt.mpr hl.maxFileBytes),
    rotateJsonlLogs_ok hl.maxFiles hl.maxTotalBytes, hstep]
  exact List.foldlM_pure

theorem Line.payload_pos (line : Line) : 0 < line.payload.length := by
  have hnonempty : line.text.toList ≠ [] := by
    simpa using line.nonempty
  obtain ⟨c, cs, hlist⟩ := List.exists_cons_of_ne_nil hnonempty
  rw [payload, hlist, List.flatMap_cons, List.length_append, String.length_utf8EncodeChar]
  have := c.utf8Size_pos
  omega

theorem freeSequence_next {s : LogStream} : s.sequence ≤ s.nextSequence stem := freeSequence_ge

/-- An entry is the file as it was written. -/
def CreatedFile.Holds (file : CreatedFile) (e : DirectoryEntry) : Prop :=
  e.name = file.name ∧ e.kind = .file ∧ e.data = file.data

/-- What a stream has done with the lines it has taken: the mirror and the files have them whole and
in order, a file is created once, and what was there before is untouched as long as it is there. -/
structure Recorded (start : Directory) (stem : String) (lines : List Line) (s : LogStream) :
    Prop where
  mirror : s.mirror = String.join (lines.map Line.text)
  writes : s.created.flatMap CreatedFile.writes = lines.map Line.payload
  named : ∀ file ∈ s.created, ∃ k < s.sequence, file.name = logName stem k
  nodup : (s.created.map CreatedFile.name).Nodup
  untouched : ∀ e ∈ s.directory.entries,
    (e ∈ start.entries ∧ e.name ∉ s.created.map CreatedFile.name) ∨
      ∃ file ∈ s.created, file.Holds e
  active : ∀ file, s.activeFile = some file → s.activeSize = file.data.length

/-- What a stream has been through: its states after the lines it has taken so far, each with the
rotation behind its last line. -/
def LogStream.Passed (limits : StreamLimits) (start : Directory) (stem : String)
    (source : List Write) (s : LogStream) : Prop :=
  ∃ done, done <+: source ∧ streamJsonlLogs done start stem limits = .ok s

/-- A rotation has removed the file of this name that the stream created. -/
def LogStream.RotatedAway (limits : StreamLimits) (start : Directory) (stem : String)
    (source : List Write) (name : String) : Prop :=
  ∃ s, Passed limits start stem source s ∧ name ∈ s.created.map CreatedFile.name ∧
    name ∈ s.result.removed

/-- A rotation has removed a name. -/
def LogStream.Unlinked (limits : StreamLimits) (start : Directory) (stem : String)
    (source : List Write) (name : String) : Prop :=
  ∃ s, Passed limits start stem source s ∧ name ∈ s.result.removed

/-- Files go only by a rotation: a created one is in the directory with exactly what was written to
it unless a rotation removed it, and so is what was there at the start. -/
structure Stored (start : Directory) (rotatedAway unlinked : String → Prop) (s : LogStream) :
    Prop where
  created : ∀ file ∈ s.created,
    (∃ e ∈ s.directory.entries, file.Holds e) ↔ ¬rotatedAway file.name
  old : ∀ e ∈ start.entries, ¬unlinked e.name → e ∈ s.directory.entries

/-- The bound on each file, between two lines. -/
structure FilesBounded (limits : StreamLimits) (s : LogStream) : Prop where
  size : ∀ file ∈ s.created,
    file.data.length ≤ limits.maxFileBytes ∨ file.writes.length = 1
  active : s.activeFile.isSome = true → 0 < s.activeSize

namespace LogStream

theorem openLog_created {s : LogStream} : (s.openLog stem mtime).created =
    s.created ++ [{ name := logName stem (s.nextSequence stem) }] := rfl

theorem write_created {s : LogStream} (h : s.activeFile = some file) : (s.write w).created =
    s.closed ++ [{ file with writes := file.writes ++ [w.line.payload] }] := by
  rw [write, h]
  rfl

theorem created_active {s : LogStream} (h : s.activeFile = some file) :
    s.created = s.closed ++ [file] := by
  rw [created, h]
  rfl

end LogStream

theorem CreatedFile.data_write {file : CreatedFile} :
    ({ file with writes := file.writes ++ [payload] } : CreatedFile).data =
      file.data ++ payload := by
  simp [CreatedFile.data]

theorem Recorded.openLog (h : Recorded start stem lines s) :
    Recorded start stem lines (s.openLog stem mtime) where
  mirror := h.mirror
  writes := by
    rw [LogStream.openLog_created, List.flatMap_append, h.writes]
    simp
  named := by
    rw [LogStream.openLog_created]
    intro file hfile
    rcases List.mem_append.mp hfile with hfile | hfile
    · obtain ⟨k, hk, hname⟩ := h.named file hfile
      exact ⟨k, Nat.lt_succ_of_lt (Nat.lt_of_lt_of_le hk freeSequence_next), hname⟩
    · obtain rfl := List.mem_singleton.mp hfile
      exact ⟨s.nextSequence stem, Nat.lt_succ_self _, rfl⟩
  nodup := by
    rw [LogStream.openLog_created, List.map_append, List.nodup_append]
    refine ⟨h.nodup, List.nodup_singleton _, ?_⟩
    intro name hname other hother heq
    obtain ⟨file, hfile, rfl⟩ := List.mem_map.mp hname
    obtain ⟨k, hk, hnamed⟩ := h.named file hfile
    have hnew := logName_injective (hnamed.symm.trans (heq.trans (List.mem_singleton.mp hother)))
    have hnext : s.sequence ≤ s.nextSequence stem := freeSequence_next
    omega
  untouched := by
    rw [LogStream.openLog_created]
    intro e he
    rcases List.mem_cons.mp he with rfl | he
    · exact .inr ⟨_, List.mem_append_right _ (List.mem_singleton_self _), rfl, rfl, rfl⟩
    · have hfresh : e.name ≠ logName stem (s.nextSequence stem) := fun hname =>
        freeSequence_free (hname ▸ (List.mem_map_of_mem he : e.name ∈ s.directory.names))
      rcases h.untouched e he with ⟨hstart, hold⟩ | ⟨file, hfile, hholds⟩
      · refine .inl ⟨hstart, fun hmem => ?_⟩
        rw [List.map_append, List.mem_append] at hmem
        exact hmem.elim hold fun hmem => hfresh (List.mem_singleton.mp hmem)
      · exact .inr ⟨file, List.mem_append_left _ hfile, hholds⟩
  active := by
    rintro file ⟨⟩
    rfl

theorem Recorded.write (h : Recorded start stem lines s) (hactive : s.activeFile = some file) :
    Recorded start stem (lines ++ [w.line]) (s.write w) where
  mirror := by
    rw [LogStream.write, hactive, List.map_append, String.join_append, ← h.mirror]
    simp
  writes := by
    have hwrites := h.writes
    rw [LogStream.created_active hactive] at hwrites
    rw [LogStream.write_created hactive, List.map_append, ← hwrites]
    simp
  named := by
    have hnamed := h.named
    rw [LogStream.created_active hactive] at hnamed
    rw [LogStream.write_created hactive, LogStream.write, hactive]
    intro f hf
    rcases List.mem_append.mp hf with hf | hf
    · exact hnamed f (List.mem_append_left _ hf)
    · obtain rfl := List.mem_singleton.mp hf
      exact hnamed file (List.mem_append_right _ (List.mem_singleton_self _))
  nodup := by
    have hnodup := h.nodup
    rw [LogStream.created_active hactive] at hnodup
    rw [LogStream.write_created hactive, List.map_append]
    simpa using hnodup
  untouched := by
    have huntouched := h.untouched
    have hnodup := h.nodup
    rw [LogStream.created_active hactive] at huntouched hnodup
    rw [LogStream.write_created hactive, LogStream.write, hactive]
    intro e he
    obtain ⟨e, hold, rfl⟩ := List.mem_map.mp he
    rcases huntouched e hold with ⟨hstart, hnew⟩ | ⟨f, hf, hname, hkind, hdata⟩
    · rw [if_neg fun hname => hnew (by simp [hname])]
      exact .inl ⟨hstart, by simpa using hnew⟩
    · rcases List.mem_append.mp hf with hf | hf
      · have hne : e.name ≠ file.name := by
          intro heq
          rw [List.map_append, List.nodup_append] at hnodup
          exact hnodup.2.2 _ (List.mem_map_of_mem hf) _ (List.mem_singleton_self _)
            (hname.symm.trans heq)
        rw [if_neg hne]
        exact .inr ⟨f, List.mem_append_left _ hf, hname, hkind, hdata⟩
      · obtain rfl := List.mem_singleton.mp hf
        rw [if_pos hname]
        exact .inr ⟨_, List.mem_append_right _ (List.mem_singleton_self _), hname, hkind, by
          rw [CreatedFile.data_write, hdata]⟩
  active := by
    rw [LogStream.write, hactive]
    rintro f ⟨⟩
    rw [CreatedFile.data_write, List.length_append, h.active file hactive]

theorem Recorded.shrink (h : Recorded start stem lines s)
    (hd : ∀ e ∈ d.entries, e ∈ s.directory.entries) :
    Recorded start stem lines { s with directory := d, result := result } :=
  { h with untouched := fun e he => h.untouched e (hd e he) }

theorem rotated_subset {d : Directory} :
    ∀ e ∈ (rotated d maxFiles maxTotalBytes).entries, e ∈ d.entries :=
  fun _ he => (mem_rotated.mp he).1

theorem Recorded.begin : Recorded start stem [] (LogStream.begin limits start) where
  mirror := rfl
  writes := rfl
  named := fun _ h => (by cases h)
  nodup := List.nodup_nil
  untouched := fun e he => .inl ⟨rotated_subset e he, by simp [LogStream.created, LogStream.begin]⟩
  active := fun _ h => (by cases h)

namespace LogStream

theorem put_new {s : LogStream} (h : s.needsFile limits w.line.payload = true) :
    s.put limits stem w = (s.openLog stem w.mtime).write w := by
  rw [put, if_pos h]

theorem put_more {s : LogStream} (h : s.needsFile limits w.line.payload = false) :
    s.put limits stem w = s.write w := by
  rw [put, h]
  rfl

theorem needsFile_false {s : LogStream} (h : s.needsFile limits payload = false) :
    ∃ file, s.activeFile = some file ∧
      (0 < s.activeSize → s.activeSize + payload.length ≤ limits.maxFileBytes) := by
  rw [needsFile, Bool.or_eq_false_iff] at h
  obtain ⟨file, hfile⟩ := Option.isSome_iff_exists.mp (Option.isNone_eq_false_iff.mp h.1)
  refine ⟨file, hfile, fun hpos => ?_⟩
  simpa [hpos] using h.2

end LogStream

theorem Recorded.put (h : Recorded start stem lines s) :
    Recorded start stem (lines ++ [w.line]) (s.put limits stem w) := by
  by_cases hneeds : s.needsFile limits w.line.payload = true
  · rw [LogStream.put_new hneeds]
    exact h.openLog.write rfl
  · have hmore := Bool.eq_false_iff.mpr hneeds
    rw [LogStream.put_more hmore]
    obtain ⟨file, hactive, -⟩ := LogStream.needsFile_false hmore
    exact h.write hactive

theorem Recorded.advance (h : Recorded start stem lines s) :
    Recorded start stem (lines ++ [w.line]) (LogStream.advance limits stem s w) :=
  h.put.shrink rotated_subset

theorem FilesBounded.put (h : FilesBounded limits s) (hr : Recorded start stem lines s) :
    FilesBounded limits (s.put limits stem w) := by
  by_cases hneeds : s.needsFile limits w.line.payload = true
  · rw [LogStream.put_new hneeds]
    constructor
    · rw [LogStream.write_created rfl]
      intro file hfile
      rcases List.mem_append.mp hfile with hfile | hfile
      · exact h.size file hfile
      · obtain rfl := List.mem_singleton.mp hfile
        exact .inr rfl
    · intro _
      rw [LogStream.write]
      exact Nat.lt_of_lt_of_le w.line.payload_pos (Nat.le_add_left _ _)
  · have hmore := Bool.eq_false_iff.mpr hneeds
    rw [LogStream.put_more hmore]
    obtain ⟨file, hactive, hroom⟩ := LogStream.needsFile_false hmore
    have hpos := h.active (by rw [hactive]; rfl)
    have hsize := h.size
    rw [LogStream.created_active hactive] at hsize
    constructor
    · rw [LogStream.write_created hactive]
      intro f hf
      rcases List.mem_append.mp hf with hf | hf
      · exact hsize f (List.mem_append_left _ hf)
      · obtain rfl := List.mem_singleton.mp hf
        left
        rw [CreatedFile.data_write, List.length_append, ← hr.active file hactive]
        exact hroom hpos
    · intro _
      rw [LogStream.write, hactive]
      exact Nat.lt_of_lt_of_le w.line.payload_pos (Nat.le_add_left _ _)

/-- `Stored` with what the next step needs of the names. -/
structure Keeps (start : Directory) (rotatedAway unlinked : String → Prop) (s : LogStream) : Prop
    extends Stored start rotatedAway unlinked s where
  known : ∀ name, rotatedAway name → name ∈ s.created.map CreatedFile.name
  apart : ∀ e ∈ start.entries, ¬unlinked e.name → e.name ∉ s.created.map CreatedFile.name

theorem Keeps.openLog (h : Keeps start rotatedAway unlinked s) (hr : Recorded start stem lines s) :
    Keeps start rotatedAway unlinked (s.openLog stem mtime) where
  created := by
    intro file hfile
    rw [LogStream.openLog_created] at hfile
    have hnew (name) (hname : name ∈ s.created.map CreatedFile.name) :
        name ≠ logName stem (s.nextSequence stem) := by
      rintro rfl
      obtain ⟨other, hother, hsame⟩ := List.mem_map.mp hname
      obtain ⟨k, hk, hnamed⟩ := hr.named other hother
      have hnumber := logName_injective (hsame.symm.trans hnamed)
      have hnext : s.sequence ≤ s.nextSequence stem := freeSequence_next
      omega
    rcases List.mem_append.mp hfile with hfile | hfile
    · rw [← h.created file hfile]
      constructor
      · rintro ⟨e, he, hholds⟩
        rcases List.mem_cons.mp he with rfl | he
        · exact absurd hholds.1.symm (hnew _ (List.mem_map_of_mem hfile))
        · exact ⟨e, he, hholds⟩
      · rintro ⟨e, he, hholds⟩
        exact ⟨e, List.mem_cons_of_mem _ he, hholds⟩
    · obtain rfl := List.mem_singleton.mp hfile
      exact ⟨fun _ haway => hnew _ (h.known _ haway) rfl,
        fun _ => ⟨_, List.mem_cons_self, rfl, rfl, rfl⟩⟩
  old := fun e he hkept => List.mem_cons_of_mem _ (h.old e he hkept)
  known := by
    intro name haway
    rw [LogStream.openLog_created, List.map_append]
    exact List.mem_append_left _ (h.known name haway)
  apart := by
    intro e he hkept hname
    rw [LogStream.openLog_created, List.map_append] at hname
    rcases List.mem_append.mp hname with hname | hname
    · exact h.apart e he hkept hname
    · have hthere : e.name ∈ s.directory.names := List.mem_map_of_mem (h.old e he hkept)
      rw [List.mem_singleton.mp hname] at hthere
      exact freeSequence_free hthere

/-- A written line is in the entry of its file exactly when the file was there. -/
theorem CreatedFile.holds_write {file : CreatedFile} {d : Directory} :
    (∃ e ∈ (d.append file.name payload mtime).entries,
      ({ file with writes := file.writes ++ [payload] } : CreatedFile).Holds e) ↔
      ∃ e ∈ d.entries, file.Holds e := by
  constructor
  · rintro ⟨e, he, hname, hkind, hdata⟩
    rcases Directory.mem_append.mp he with ⟨-, hother⟩ | ⟨old, hold, hsame, rfl⟩
    · exact absurd hname hother
    · rw [CreatedFile.data_write] at hdata
      exact ⟨old, hold, hsame, hkind, List.append_cancel_right hdata⟩
  · rintro ⟨e, he, hname, hkind, hdata⟩
    refine ⟨_, Directory.mem_append.mpr (.inr ⟨e, he, hname, rfl⟩), hname, hkind, ?_⟩
    rw [CreatedFile.data_write, hdata]

theorem CreatedFile.holds_write_other {file : CreatedFile} {d : Directory} {target : String}
    (hne : file.name ≠ target) :
    (∃ e ∈ (d.append target payload mtime).entries, file.Holds e) ↔
      ∃ e ∈ d.entries, file.Holds e := by
  constructor
  · rintro ⟨e, he, hholds⟩
    rcases Directory.mem_append.mp he with ⟨he, -⟩ | ⟨old, -, hsame, rfl⟩
    · exact ⟨e, he, hholds⟩
    · exact absurd (hholds.1.symm.trans hsame) hne
  · rintro ⟨e, he, hholds⟩
    exact ⟨e, Directory.mem_append.mpr (.inl ⟨he, fun hsame => hne (hholds.1.symm.trans hsame)⟩),
      hholds⟩

theorem Keeps.write (h : Keeps start rotatedAway unlinked s) (hr : Recorded start stem lines s)
    (hactive : s.activeFile = some file) : Keeps start rotatedAway unlinked (s.write w) := by
  have hnames : (s.write w).created.map CreatedFile.name = s.created.map CreatedFile.name := by
    rw [LogStream.write_created hactive, LogStream.created_active hactive, List.map_append,
      List.map_append]
    rfl
  have hdirectory : (s.write w).directory =
      s.directory.append file.name w.line.payload w.mtime := by
    rw [LogStream.write, hactive]
  have hcreated := h.created
  have hnodup := hr.nodup
  rw [LogStream.created_active hactive] at hcreated hnodup
  rw [List.map_append, List.nodup_append] at hnodup
  constructor
  · constructor
    · rw [LogStream.write_created hactive, hdirectory]
      intro f hf
      rcases List.mem_append.mp hf with hf | hf
      · have hne := hnodup.2.2 _ (List.mem_map_of_mem hf) _ (List.mem_singleton_self _)
        rw [CreatedFile.holds_write_other hne]
        exact hcreated f (List.mem_append_left _ hf)
      · obtain rfl := List.mem_singleton.mp hf
        rw [CreatedFile.holds_write]
        exact hcreated file (List.mem_append_right _ (List.mem_singleton_self _))
    · intro e he hkept
      rw [hdirectory]
      refine Directory.mem_append.mpr (.inl ⟨h.old e he hkept, fun hsame => ?_⟩)
      apply h.apart e he hkept
      rw [hsame, LogStream.created_active hactive]
      exact List.mem_map_of_mem (List.mem_append_right _ (List.mem_singleton_self _))
  · rw [hnames]
    exact h.known
  · rw [hnames]
    exact h.apart

theorem Keeps.put (h : Keeps start rotatedAway unlinked s) (hr : Recorded start stem lines s) :
    Keeps start rotatedAway unlinked (s.put limits stem w) := by
  by_cases hneeds : s.needsFile limits w.line.payload = true
  · rw [LogStream.put_new hneeds]
    exact (h.openLog hr).write hr.openLog rfl
  · have hmore := Bool.eq_false_iff.mpr hneeds
    rw [LogStream.put_more hmore]
    obtain ⟨file, hactive, -⟩ := LogStream.needsFile_false hmore
    exact h.write hr hactive

theorem Keeps.rotate (h : Keeps start rotatedAway unlinked s) :
    Keeps start
      (fun name => rotatedAway name ∨ (name ∈ s.created.map CreatedFile.name ∧
        name ∈ (rotation s.directory maxFiles maxTotalBytes).removed))
      (fun name => unlinked name ∨ name ∈ (rotation s.directory maxFiles maxTotalBytes).removed)
      { s with
        directory := rotated s.directory maxFiles maxTotalBytes
        result := rotation s.directory maxFiles maxTotalBytes } where
  created := by
    intro file hfile
    have hname : file.name ∈ s.created.map CreatedFile.name := List.mem_map_of_mem hfile
    rw [not_or, not_and, ← h.created file hfile]
    constructor
    · rintro ⟨e, he, hholds⟩
      obtain ⟨he, hkept⟩ := List.mem_filter.mp he
      rw [decide_eq_true_eq, hholds.1] at hkept
      exact ⟨⟨e, he, hholds⟩, fun _ => hkept⟩
    · rintro ⟨⟨e, he, hholds⟩, hkept⟩
      refine ⟨e, List.mem_filter.mpr ⟨he, ?_⟩, hholds⟩
      rw [decide_eq_true_eq, hholds.1]
      exact hkept hname
  old := by
    intro e he hkept
    obtain ⟨hbefore, hnow⟩ := not_or.mp hkept
    exact List.mem_filter.mpr ⟨h.old e he hbefore, decide_eq_true hnow⟩
  known := fun name haway => haway.elim (h.known name) And.left
  apart := fun e he hkept => h.apart e he (not_or.mp hkept).1

/-- The state of a stream that has taken some lines. -/
def LogStream.after (limits : StreamLimits) (stem : String) (start : Directory)
    (source : List Write) : LogStream :=
  source.foldl (LogStream.advance limits stem) (LogStream.begin limits start)

theorem LogStream.after_concat : LogStream.after limits stem start (source ++ [w]) =
    LogStream.advance limits stem (LogStream.after limits stem start source) w :=
  List.foldl_concat ..

/-- With valid limits a stream has passed through its states after each of the lines. -/
theorem LogStream.passed_iff {limits : StreamLimits} (hl : limits.Valid) :
    Passed limits start stem source s ↔ ∃ done, done <+: source ∧ after limits stem start done = s := by
  simp only [Passed, streamJsonlLogs_ok hl, Except.ok.injEq]
  rfl

theorem LogStream.passed_concat {limits : StreamLimits} (hl : limits.Valid) :
    Passed limits start stem (source ++ [w]) s ↔
      Passed limits start stem source s ∨ after limits stem start (source ++ [w]) = s := by
  simp only [passed_iff hl, List.prefix_concat_iff]
  constructor
  · rintro ⟨done, rfl | hdone, hs⟩
    · exact .inr hs
    · exact .inl ⟨done, hdone, hs⟩
  · rintro (⟨done, hdone, hs⟩ | hs)
    · exact ⟨done, .inr hdone, hs⟩
    · exact ⟨_, .inl rfl, hs⟩

theorem LogStream.rotatedAway_concat {limits : StreamLimits} (hl : limits.Valid) :
    RotatedAway limits start stem (source ++ [w]) name ↔
      RotatedAway limits start stem source name ∨
        (name ∈ (after limits stem start (source ++ [w])).created.map CreatedFile.name ∧
          name ∈ (after limits stem start (source ++ [w])).result.removed) := by
  simp only [RotatedAway, passed_concat hl, or_and_right, exists_or, exists_eq_left']

theorem LogStream.unlinked_concat {limits : StreamLimits} (hl : limits.Valid) :
    Unlinked limits start stem (source ++ [w]) name ↔
      Unlinked limits start stem source name ∨
        name ∈ (after limits stem start (source ++ [w])).result.removed := by
  simp only [Unlinked, passed_concat hl, or_and_right, exists_or, exists_eq_left']

theorem LogStream.passed_nil {limits : StreamLimits} (hl : limits.Valid) :
    Passed limits start stem [] s ↔ begin limits start = s := by
  simp only [passed_iff hl, List.prefix_nil, exists_eq_left]
  rfl

theorem recorded_after (limits : StreamLimits) (start : Directory) (stem : String)
    (source : List Write) :
    Recorded start stem (source.map Write.line) (LogStream.after limits stem start source) ∧
      FilesBounded limits (LogStream.after limits stem start source) := by
  induction source using List.reverseRecOn with
  | nil => exact ⟨.begin, fun _ h => (by cases h), fun h => (by cases h)⟩
  | append_singleton source w ih =>
    obtain ⟨hr, hb⟩ := ih
    rw [LogStream.after_concat, List.map_append]
    exact ⟨hr.advance, (hb.put hr).size, (hb.put hr).active⟩

theorem keeps_after {limits : StreamLimits} (hl : limits.Valid) (start : Directory)
    (stem : String) (source : List Write) :
    Keeps start (LogStream.RotatedAway limits start stem source)
      (LogStream.Unlinked limits start stem source) (LogStream.after limits stem start source) := by
  induction source using List.reverseRecOn with
  | nil =>
    have haway (name) : ¬LogStream.RotatedAway limits start stem [] name := by
      rintro ⟨s, hs, hname, -⟩
      rw [← (LogStream.passed_nil hl).mp hs] at hname
      cases hname
    refine ⟨⟨fun _ h => (by cases h), fun e he hkept => ?_⟩, fun name h => absurd h (haway name),
      fun _ _ _ h => (by cases h)⟩
    exact List.mem_filter.mpr ⟨he, decide_eq_true fun hremoved =>
      hkept ⟨_, (LogStream.passed_nil hl).mpr rfl, hremoved⟩⟩
  | append_singleton source w ih =>
    have haway : LogStream.RotatedAway limits start stem (source ++ [w]) = _ :=
      funext fun name => propext (LogStream.rotatedAway_concat hl)
    have hunlinked : LogStream.Unlinked limits start stem (source ++ [w]) = _ :=
      funext fun name => propext (LogStream.unlinked_concat hl)
    rw [haway, hunlinked, LogStream.after_concat]
    exact (ih.put (recorded_after limits start stem source).1).rotate

/-- The files a line opens were not there. -/
def LogStream.Opens (before after : LogStream) : Prop :=
  after.created.map CreatedFile.name = before.created.map CreatedFile.name ∨
    ∃ name, name ∉ before.directory.names ∧
      after.created.map CreatedFile.name = before.created.map CreatedFile.name ++ [name]

theorem LogStream.advance_opens {s : LogStream} : s.Opens (LogStream.advance limits stem s w) := by
  change s.Opens (s.put limits stem w)
  by_cases hneeds : s.needsFile limits w.line.payload = true
  · refine .inr ⟨logName stem (s.nextSequence stem), freeSequence_free, ?_⟩
    rw [put_new hneeds, write_created rfl, List.map_append]
    rfl
  · have hmore := Bool.eq_false_iff.mpr hneeds
    obtain ⟨file, hactive, -⟩ := needsFile_false hmore
    left
    rw [put_more hmore, write_created hactive, created_active hactive, List.map_append,
      List.map_append]
    rfl

/-- The regular files that match are within the limits, up to the most recent one. -/
structure WithinLimits (limits : StreamLimits) (d : Directory) : Prop where
  count : d.logs.length ≤ limits.maxFiles
  total : ∀ newest ∈ d.logs, (∀ e ∈ d.logs, e.key ≤ newest.key) →
    (d.logs.map DirectoryEntry.size).sum ≤ max limits.maxTotalBytes newest.size

theorem Directory.Bounded.within {d : Directory} {limits : StreamLimits}
    (h : d.Bounded limits.maxFiles limits.maxTotalBytes) : WithinLimits limits d where
  count := h.1
  total := by
    intro newest hmem _
    rcases h.2 with htotal | hone
    · exact le_max_of_le_left htotal
    · obtain ⟨e, hlogs⟩ := List.length_eq_one_iff.mp
        (Nat.le_antisymm hone (List.length_pos_of_mem hmem))
      rw [hlogs] at hmem ⊢
      obtain rfl := List.mem_singleton.mp hmem
      simp

/-- Nothing of the lines is lost, and nothing but new files is written. -/
structure Lossless (limits : StreamLimits) (start : Directory) (lines : List Line)
    (s : LogStream) : Prop where
  mirror : s.mirror = String.join (lines.map Line.text)
  whole : s.created.flatMap CreatedFile.writes = lines.map Line.payload
  concatenated : s.created.flatMap CreatedFile.data = lines.flatMap Line.payload
  once : (s.created.map CreatedFile.name).Nodup
  untouched : ∀ e ∈ s.directory.entries, e ∈ start.entries ∨ ∃ file ∈ s.created, file.Holds e
  fileBytes : ∀ file ∈ s.created,
    file.data.length ≤ limits.maxFileBytes ∨ file.writes.length = 1

theorem Recorded.lossless (h : Recorded start stem lines s) (hb : FilesBounded limits s) :
    Lossless limits start lines s where
  mirror := h.mirror
  whole := h.writes
  concatenated := by
    have hdata : CreatedFile.data = fun file => file.writes.flatMap id := by
      funext file
      rw [CreatedFile.data, List.flatMap_id]
    rw [hdata, ← List.flatMap_assoc, h.writes, List.flatMap_map]
    rfl
  once := h.nodup
  untouched := fun e he => (h.untouched e he).imp And.left fun hx => hx
  fileBytes := hb.size

/-- A stream keeps every line in files of its own, and after each line these are in the directory as
they were written unless a rotation removed them, and the directory is within the limits. -/
theorem stream_lossless_bounded {limits : StreamLimits} (hl : limits.Valid) (start : Directory)
    (stem : String) (source : List Write) (w : Write) :
    ∃ before after, streamJsonlLogs source start stem limits = .ok before ∧
      streamJsonlLogs (source ++ [w]) start stem limits = .ok after ∧
      Lossless limits start ((source ++ [w]).map Write.line) after ∧
      Stored start (LogStream.RotatedAway limits start stem (source ++ [w]))
        (LogStream.Unlinked limits start stem (source ++ [w])) after ∧
      before.Opens after ∧ WithinLimits limits after.directory := by
  refine ⟨_, _, streamJsonlLogs_ok hl, streamJsonlLogs_ok hl, ?_, ?_, ?_, ?_⟩
  · obtain ⟨hr, hb⟩ := recorded_after limits start stem (source ++ [w])
    exact hr.lossless hb
  · exact (keeps_after hl start stem (source ++ [w])).toStored
  · rw [List.foldl_concat]
    exact LogStream.advance_opens
  · rw [List.foldl_concat]
    exact (rotated_bounded hl.maxFiles).within

theorem stream_lossless_bounded_rolled :
    ∃ before after : LogStream,
      streamJsonlLogs [⟨⟨"one\n", by decide⟩, 0⟩, ⟨⟨"two\n", by decide⟩, 1⟩] ⟨[], by decide⟩
        "telemetry-test" ⟨2, 10, 5⟩ = .ok before ∧
      streamJsonlLogs ([⟨⟨"one\n", by decide⟩, 0⟩, ⟨⟨"two\n", by decide⟩, 1⟩] ++
        [⟨⟨"three\n", by decide⟩, 2⟩]) ⟨[], by decide⟩ "telemetry-test" ⟨2, 10, 5⟩ = .ok after ∧
      Lossless ⟨2, 10, 5⟩ ⟨[], by decide⟩
        (([⟨⟨"one\n", by decide⟩, 0⟩, ⟨⟨"two\n", by decide⟩, 1⟩] ++
          [⟨⟨"three\n", by decide⟩, 2⟩] : List Write).map Write.line) after ∧
      Stored ⟨[], by decide⟩
        (LogStream.RotatedAway ⟨2, 10, 5⟩ ⟨[], by decide⟩ "telemetry-test"
          ([⟨⟨"one\n", by decide⟩, 0⟩, ⟨⟨"two\n", by decide⟩, 1⟩] ++
            [⟨⟨"three\n", by decide⟩, 2⟩]))
        (LogStream.Unlinked ⟨2, 10, 5⟩ ⟨[], by decide⟩ "telemetry-test"
          ([⟨⟨"one\n", by decide⟩, 0⟩, ⟨⟨"two\n", by decide⟩, 1⟩] ++
            [⟨⟨"three\n", by decide⟩, 2⟩])) after ∧
      before.Opens after ∧ WithinLimits ⟨2, 10, 5⟩ after.directory :=
  stream_lossless_bounded ⟨by decide, by decide, by decide⟩ _ _ _ _

end OnboardAutonomy
