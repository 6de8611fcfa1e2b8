import OnboardAutonomy.LogStream

namespace OnboardAutonomy
open Retention
set_option autoImplicit true

namespace LogStream

/-- The file the next line goes to. -/
def nextName (limits : StreamLimits) (stem : String) (s : LogStream) (w : Write) : String :=
  if s.needsFile limits w.line.payload then logName stem (s.nextSequence stem)
  else (s.activeFile.map CreatedFile.name).getD ""

/-- Its size with the line. -/
def nextSize (limits : StreamLimits) (s : LogStream) (w : Write) : Nat :=
  (if s.needsFile limits w.line.payload then 0 else s.activeSize) + w.line.payload.length

/-- The logs written at the same time that the order of rotation puts first for their names. -/
def tied (s : LogStream) (name : String) (mtime : Int) : List DirectoryEntry :=
  s.directory.logs.filter fun e => e.mtime = mtime ∧ name < e.name

/-- Rotation reaches the file of the next line while there is room for it. -/
def LeavesRoom (limits : StreamLimits) (stem : String) (s : LogStream) (w : Write) : Prop :=
  matchesLog (nextName limits stem s w) = true →
    s.tied (nextName limits stem s w) w.mtime = [] ∨
      ((s.tied (nextName limits stem s w) w.mtime).length < limits.maxFiles ∧
        ((s.tied (nextName limits stem s w) w.mtime).map DirectoryEntry.size).sum +
          nextSize limits s w ≤ limits.maxTotalBytes)

/-- The file the last line was written to is in the directory as it was written. -/
def Survives (s : LogStream) : Prop :=
  ∃ file e, s.activeFile = some file ∧ e ∈ s.directory.entries ∧ file.Holds e

end LogStream

/-- A line was written: its file is there with the line, and every other entry is as it was. -/
structure Written (s : LogStream) (name : String) (size : Nat) (mtime : Int) (p : LogStream)
    (e : DirectoryEntry) : Prop where
  active : ∃ file, p.activeFile = some file ∧ file.Holds e
  named : e.name = name
  regular : e.kind = .file
  sized : e.size = size
  timed : e.mtime = mtime
  others : ∀ other, other ∈ p.directory.entries ↔
    other = e ∨ (other ∈ s.directory.entries ∧ other.name ≠ name)

namespace LogStream

theorem put_mem {s : LogStream} (h : e ∈ (s.put limits stem w).directory.entries) :
    e.mtime = w.mtime ∨ e ∈ s.directory.entries := by
  by_cases hneeds : s.needsFile limits w.line.payload = true
  · rw [put_new hneeds] at h
    rcases Directory.mem_append.mp h with ⟨hmem, -⟩ | ⟨old, -, -, rfl⟩
    · rcases List.mem_cons.mp hmem with rfl | hmem
      · exact .inl rfl
      · exact .inr hmem
    · exact .inl rfl
  · have hmore := Bool.eq_false_iff.mpr hneeds
    obtain ⟨file, hactive, -⟩ := needsFile_false hmore
    rw [put_more hmore, write, hactive] at h
    rcases Directory.mem_append.mp h with ⟨hmem, -⟩ | ⟨old, -, -, rfl⟩
    · exact .inr hmem
    · exact .inl rfl

theorem put_written {s : LogStream} (hr : Recorded start stem lines s)
    (hthere : s.needsFile limits w.line.payload = false → s.Survives) :
    ∃ e, Written s (nextName limits stem s w) (nextSize limits s w) w.mtime
      (s.put limits stem w) e := by
  by_cases hneeds : s.needsFile limits w.line.payload = true
  · rw [put_new hneeds, nextName, if_pos hneeds, nextSize, if_pos hneeds]
    refine ⟨⟨logName stem (s.nextSequence stem), .file, w.line.payload, w.mtime⟩,
      ⟨_, rfl, rfl, rfl, ?_⟩, rfl, rfl, (Nat.zero_add _).symm, rfl, ?_⟩
    · simp [CreatedFile.data]
    · intro other
      refine Directory.mem_append.trans ?_
      constructor
      · rintro (⟨hmem, hname⟩ | ⟨old, hold, hname, rfl⟩)
        · rcases List.mem_cons.mp hmem with rfl | hmem
          · exact absurd rfl hname
          · exact .inr ⟨hmem, hname⟩
        · rcases List.mem_cons.mp hold with rfl | hold
          · exact .inl rfl
          · exact absurd (hname ▸ (List.mem_map_of_mem hold : old.name ∈ s.directory.names))
              freeSequence_free
      · rintro (rfl | ⟨hmem, hname⟩)
        · exact .inr ⟨_, List.mem_cons_self, rfl, rfl⟩
        · exact .inl ⟨List.mem_cons_of_mem _ hmem, hname⟩
  · have hmore := Bool.eq_false_iff.mpr hneeds
    obtain ⟨file, e, hactive, hmem, hname, hkind, hdata⟩ := hthere hmore
    rw [put_more hmore, nextName, if_neg hneeds, nextSize, if_neg hneeds, write, hactive]
    refine ⟨{ e with data := e.data ++ w.line.payload, mtime := w.mtime },
      ⟨_, rfl, hname, hkind, ?_⟩, hname, hkind, ?_, rfl, ?_⟩
    · rw [CreatedFile.data_write, hdata]
    · rw [DirectoryEntry.size, List.length_append, hdata, hr.active file hactive]
    · intro other
      refine Directory.mem_append.trans ?_
      constructor
      · rintro (hother | ⟨old, hold, holdname, rfl⟩)
        · exact .inr hother
        · obtain rfl := Directory.entry_eq hold hmem (holdname.trans hname.symm)
          exact .inl rfl
      · rintro (rfl | hother)
        · exact .inr ⟨e, hmem, hname, rfl⟩
        · exact .inl hother

end LogStream

/-- In the order of rotation, what comes before the written file is what is tied with it. -/
theorem Written.before_perm {p : LogStream}
    (h : Written s name size mtime p e) (htimes : ∀ other ∈ s.directory.logs, other.mtime ≤ mtime)
    (hsplit : p.directory.candidates = xs ++ e :: ys) : xs.Perm (s.tied name mtime) := by
  have hnodup : (xs ++ e :: ys).Nodup := hsplit ▸ candidates_nodup
  have hsorted : (xs ++ e :: ys).Pairwise newer :=
    hsplit ▸ List.pairwise_insertionSort newer _
  obtain ⟨-, hbehind, hfront⟩ := List.pairwise_append.mp hsorted
  obtain ⟨hxs, heys, hdisjoint⟩ := List.nodup_append.mp hnodup
  have hkey : e.key = toLex (mtime, name) := by rw [DirectoryEntry.key, h.timed, h.named]
  refine (List.perm_ext_iff_of_nodup hxs (Directory.logs_nodup.filter _)).mpr fun other => ?_
  simp only [List.mem_filter, decide_eq_true_eq]
  constructor
  · intro hother
    have hne : other ≠ e := fun heq => hdisjoint _ hother _ List.mem_cons_self heq
    have hcandidate : other ∈ p.directory.candidates :=
      hsplit ▸ List.mem_append_left _ hother
    obtain ⟨hmem, hlog⟩ := mem_candidates.mp hcandidate
    obtain ⟨hmem, hname⟩ := ((h.others other).mp hmem).resolve_left hne
    have hlogs : other ∈ s.directory.logs := List.mem_filter.mpr ⟨hmem, hlog⟩
    have hle : e.key ≤ other.key := hfront other hother e List.mem_cons_self
    rw [hkey, DirectoryEntry.key, Prod.Lex.toLex_le_toLex] at hle
    rcases hle with hlater | ⟨hsame, hle⟩
    · exact absurd (htimes other hlogs) (not_le.mpr hlater)
    · exact ⟨hlogs, hsame.symm, lt_of_le_of_ne hle (Ne.symm hname)⟩
  · rintro ⟨hlogs, hsame, hlt⟩
    obtain ⟨hmem, hlog⟩ := List.mem_filter.mp hlogs
    have hcandidate : other ∈ p.directory.candidates :=
      mem_candidates.mpr ⟨(h.others other).mpr (.inr ⟨hmem, ne_of_gt hlt⟩), hlog⟩
    rw [hsplit] at hcandidate
    refine (List.mem_append.mp hcandidate).resolve_right fun hback => ?_
    rcases List.mem_cons.mp hback with rfl | hback
    · exact absurd h.named (ne_of_gt hlt)
    · have hle : other.key ≤ e.key := (List.pairwise_cons.mp hbehind).1 other hback
      rw [hkey, DirectoryEntry.key, Prod.Lex.toLex_le_toLex] at hle
      rcases hle with hearlier | ⟨-, hle⟩
      · exact absurd hsame (ne_of_lt hearlier)
      · exact absurd hlt (not_lt.mpr hle)

/-- A rotation keeps the written file exactly when the tied ones leave room for it. -/
theorem Written.kept_iff {p : LogStream} (h : Written s name size mtime p e)
    (hb : s.directory.Bounded maxFiles maxTotalBytes)
    (htimes : ∀ other ∈ s.directory.logs, other.mtime ≤ mtime) (hlog : matchesLog name = true) :
    e ∈ keptLogs p.directory maxFiles maxTotalBytes ↔
      s.tied name mtime = [] ∨ ((s.tied name mtime).length < maxFiles ∧
        ((s.tied name mtime).map DirectoryEntry.size).sum + size ≤ maxTotalBytes) := by
  have hislog : e.isLog = true := by
    rw [DirectoryEntry.isLog, h.regular, h.named, hlog]
    rfl
  have hmem : e ∈ p.directory.candidates :=
    mem_candidates.mpr ⟨(h.others e).mpr (.inl rfl), hislog⟩
  obtain ⟨xs, ys, hsplit⟩ := List.append_of_mem hmem
  have hperm := h.before_perm htimes hsplit
  have hnodup : (xs ++ e :: ys).Nodup := hsplit ▸ candidates_nodup
  obtain ⟨-, heys, hdisjoint⟩ := List.nodup_append.mp hnodup
  have hxs : Retention.Bounded DirectoryEntry.size maxFiles maxTotalBytes xs :=
    (hb.sublist List.filter_sublist).perm hperm
  rw [keptLogs, hsplit, mem_retained_iff hxs
      (fun hx => hdisjoint _ hx _ List.mem_cons_self rfl) (List.nodup_cons.mp heys).1,
    ← List.length_eq_zero_iff, ← List.length_eq_zero_iff, hperm.length_eq,
    (hperm.map DirectoryEntry.size).sum_eq, h.sized]

/-- One line: its file is there afterwards exactly when the tied logs leave room for it. -/
theorem LogStream.advance_survives_iff {s : LogStream} (hr : Recorded start stem lines s)
    (hb : s.directory.Bounded limits.maxFiles limits.maxTotalBytes)
    (htimes : ∀ e ∈ s.directory.logs, e.mtime ≤ w.mtime)
    (hthere : s.needsFile limits w.line.payload = false → s.Survives) :
    (LogStream.advance limits stem s w).Survives ↔ LeavesRoom limits stem s w := by
  obtain ⟨e, he⟩ := put_written (w := w) hr hthere
  obtain ⟨file, hactive, hholds⟩ := he.active
  have hmem : e ∈ (s.put limits stem w).directory.entries := (he.others e).mpr (.inl rfl)
  have hiff : (LogStream.advance limits stem s w).Survives ↔
      e ∈ (rotated (s.put limits stem w).directory limits.maxFiles
        limits.maxTotalBytes).entries := by
    constructor
    · rintro ⟨file', e', hactive', hmem', hholds'⟩
      obtain rfl : file = file' := Option.some.inj (hactive.symm.trans hactive')
      obtain rfl := Directory.entry_eq (rotated_subset e' hmem') hmem
        (hholds'.1.trans hholds.1.symm)
      exact hmem'
    · exact fun hkept => ⟨file, e, hactive, hkept, hholds⟩
  have hlog : e.isLog = matchesLog (nextName limits stem s w) := by
    rw [DirectoryEntry.isLog, he.regular, he.named]
    rfl
  rw [hiff, mem_rotated, hlog, LeavesRoom]
  constructor
  · exact fun ⟨_, hkept⟩ hmatches => (he.kept_iff hb htimes hmatches).mp (hkept hmatches)
  · exact fun hroom => ⟨hmem, fun hmatches => (he.kept_iff hb htimes hmatches).mpr (hroom hmatches)⟩

/-- No write leaves an earlier time than what was written before it. -/
structure Forward (start : Directory) (source : List Write) : Prop where
  writes : source.Pairwise fun w w' => w.mtime ≤ w'.mtime
  since : ∀ e ∈ start.entries, ∀ w ∈ source, e.mtime ≤ w.mtime

theorem bounded_after (h : 1 ≤ limits.maxFiles) :
    (LogStream.after limits stem start source).directory.Bounded limits.maxFiles
      limits.maxTotalBytes := by
  induction source using List.reverseRecOn with
  | nil => exact rotated_bounded h
  | append_singleton source w ih =>
    rw [LogStream.after_concat]
    exact rotated_bounded h

theorem mem_after (h : e ∈ (LogStream.after limits stem start source).directory.entries) :
    e ∈ start.entries ∨ ∃ w ∈ source, e.mtime = w.mtime := by
  induction source using List.reverseRecOn with
  | nil => exact .inl (rotated_subset e h)
  | append_singleton source w ih =>
    rw [LogStream.after_concat] at h
    rcases LogStream.put_mem (rotated_subset e h) with hnew | hold
    · exact .inr ⟨w, List.mem_append_right _ (List.mem_singleton_self w), hnew⟩
    · refine (ih hold).imp (fun hx => hx) fun ⟨w', hw', hmtime⟩ => ?_
      exact ⟨w', List.mem_append_left _ hw', hmtime⟩

theorem Forward.after_le (h : Forward start (done ++ w :: rest))
    (he : e ∈ (LogStream.after limits stem start done).directory.entries) :
    e.mtime ≤ w.mtime := by
  rcases mem_after he with hstart | ⟨w', hw', hmtime⟩
  · exact h.since e hstart w (List.mem_append_right _ List.mem_cons_self)
  · rw [hmtime]
    exact (List.pairwise_append.mp h.writes).2.2 w' hw' w List.mem_cons_self

theorem Forward.survives_iff (hf : Forward start (done ++ w :: rest)) (hl : 1 ≤ limits.maxFiles)
    (hthere : done ≠ [] → (LogStream.after limits stem start done).Survives) :
    (LogStream.after limits stem start (done ++ [w])).Survives ↔
      LogStream.LeavesRoom limits stem (LogStream.after limits stem start done) w := by
  rw [LogStream.after_concat]
  refine LogStream.advance_survives_iff (recorded_after limits start stem done).1
    (bounded_after hl) (fun e he => hf.after_le (List.mem_filter.mp he).1) fun hmore => ?_
  apply hthere
  rintro rfl
  cases hmore

/-- The file each line was written to is there after it, in a whole run, exactly when at each line
the tied logs leave room for its file. -/
theorem written_log_survives_exactly {limits : StreamLimits} (hl : limits.Valid)
    {start : Directory} {source : List Write} (hf : Forward start source) (stem : String) :
    (∀ done w rest, source = done ++ w :: rest → ∀ s,
      streamJsonlLogs (done ++ [w]) start stem limits = .ok s → s.Survives) ↔
    (∀ done w rest, source = done ++ w :: rest → ∀ s,
      streamJsonlLogs done start stem limits = .ok s → s.LeavesRoom limits stem w) := by
  simp only [streamJsonlLogs_ok hl, Except.ok.injEq, forall_eq']
  constructor
  · rintro hsurvives done w rest rfl
    refine (hf.survives_iff hl.maxFiles fun hne => ?_).mp (hsurvives done w rest rfl)
    obtain ⟨done, w', rfl⟩ := (List.eq_nil_or_concat done).resolve_left hne
    rw [List.concat_eq_append]
    exact hsurvives done w' (w :: rest) (by simp)
  · intro hroom done
    induction done using List.reverseRecOn with
    | nil =>
      rintro w rest rfl
      exact (hf.survives_iff hl.maxFiles fun hne => absurd rfl hne).mpr (hroom [] w rest rfl)
    | append_singleton done w' ih =>
      rintro w rest rfl
      refine (hf.survives_iff hl.maxFiles fun _ => ?_).mpr (hroom (done ++ [w']) w rest rfl)
      exact ih w' (w :: rest) (by simp)

/-- Two lines for two files, written at given times. -/
def twoLines (first second : Int) : List Write :=
  [⟨⟨"a\n", by decide⟩, first⟩, ⟨⟨"b\n", by decide⟩, second⟩]

theorem twoLines_forward (h : first ≤ second) :
    Forward ⟨[], by decide⟩ (twoLines first second) where
  writes := by simpa [twoLines] using h
  since := fun _ h => (by cases h)

theorem written_log_survives_exactly_later :
    (∀ done w rest, twoLines 0 1 = done ++ w :: rest → ∀ s,
      streamJsonlLogs (done ++ [w]) ⟨[], by decide⟩ "telemetry-a" ⟨1, 100, 1⟩ = .ok s →
        s.Survives) ↔
    (∀ done w rest, twoLines 0 1 = done ++ w :: rest → ∀ s,
      streamJsonlLogs done ⟨[], by decide⟩ "telemetry-a" ⟨1, 100, 1⟩ = .ok s →
        s.LeavesRoom ⟨1, 100, 1⟩ "telemetry-a" w) :=
  written_log_survives_exactly ⟨by decide, by decide, by decide⟩ (twoLines_forward (by decide)) _

/-- Two files written at one time, where the second name comes before the first: the second line is
removed with its file. -/
theorem tied_log_removed :
    Forward ⟨[], by decide⟩ (twoLines 0 0) ∧
      ∃ s, streamJsonlLogs (twoLines 0 0) ⟨[], by decide⟩ "telemetry-a" ⟨1, 100, 1⟩ = .ok s ∧
        ¬s.Survives := by
  refine ⟨twoLines_forward Int.le_rfl,
    LogStream.after ⟨1, 100, 1⟩ "telemetry-a" ⟨[], by decide⟩ (twoLines 0 0),
    streamJsonlLogs_ok ⟨by decide, by decide, by decide⟩, ?_⟩
  rintro ⟨file, e, hactive, hmem, hname, -, -⟩
  have hthere : (LogStream.after ⟨1, 100, 1⟩ "telemetry-a" ⟨[], by decide⟩
      (twoLines 0 0)).directory.names = ["telemetry-a.jsonl"] := by decide +kernel
  have hwritten : (LogStream.after ⟨1, 100, 1⟩ "telemetry-a" ⟨[], by decide⟩
      (twoLines 0 0)).activeFile.map CreatedFile.name = some "telemetry-a-001.jsonl" := by
    decide +kernel
  have hfile : e.name = "telemetry-a.jsonl" := by
    have hnames : e.name ∈ Directory.names _ := List.mem_map_of_mem hmem
    rw [hthere] at hnames
    exact List.mem_singleton.mp hnames
  rw [hactive, Option.map_some, ← hname, hfile] at hwritten
  exact absurd (Option.some.inj hwritten) (by decide)

end OnboardAutonomy
