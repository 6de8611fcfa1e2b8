import OnboardAutonomy.LogRotation

namespace OnboardAutonomy
open Retention
set_option autoImplicit true

/-- What rotation is for: the newest log stays, and the logs that go are the oldest. -/
structure OldestFirst (d d' : Directory) (r : RotationResult) : Prop where
  partition : ∀ name, name ∈ r.kept ∨ name ∈ r.removed ↔ ∃ e ∈ d.logs, e.name = name
  disjoint : ∀ name ∈ r.kept, name ∉ r.removed
  unlinked : ∀ e, e ∈ d'.entries ↔ e ∈ d.entries ∧ e.name ∉ r.removed
  newest : ∀ e ∈ d.logs, (∀ other ∈ d.logs, newer e other) → e.name ∈ r.kept
  ordered : ∀ e ∈ d.logs, ∀ other ∈ d.logs, e.name ∈ r.kept → other.name ∈ r.removed →
    newer e other
  bytes : r.retainedBytes =
    ((d.logs.filter fun e => e.name ∈ r.kept).map DirectoryEntry.size).sum

theorem mem_logs_candidates {d : Directory} : e ∈ d.candidates ↔ e ∈ d.logs :=
  List.mem_insertionSort newer

theorem key_injective {d : Directory} (ha : a ∈ d.entries) (hb : b ∈ d.entries)
    (hkey : a.key = b.key) : a = b :=
  Directory.entry_eq ha hb (congrArg (fun k => (ofLex k).2) hkey)

/-- No two logs are equally recent. -/
theorem candidates_pairwise (d : Directory) :
    d.candidates.Pairwise fun a b => b.key < a.key := by
  have hsorted : d.candidates.Pairwise newer := List.pairwise_insertionSort newer d.logs
  apply (hsorted.and candidates_nodup).imp_of_mem
  intro a b ha hb hab
  apply lt_of_le_of_ne hab.1
  intro hkey
  exact hab.2 (key_injective (mem_candidates.1 ha).1 (mem_candidates.1 hb).1 hkey.symm)

theorem consider_foldl_kept (paths : List DirectoryEntry) (r : RotationResult) :
    (paths.foldl (RotationResult.consider maxFiles maxTotalBytes) r).kept =
        r.kept ++ (retained DirectoryEntry.size maxFiles maxTotalBytes r.kept.length
          r.retainedBytes paths).map DirectoryEntry.name ∧
      (paths.foldl (RotationResult.consider maxFiles maxTotalBytes) r).retainedBytes =
        r.retainedBytes + ((retained DirectoryEntry.size maxFiles maxTotalBytes r.kept.length
          r.retainedBytes paths).map DirectoryEntry.size).sum := by
  induction paths generalizing r with
  | nil => exact ⟨(List.append_nil _).symm, rfl⟩
  | cons path paths ih =>
    rw [List.foldl_cons, consider_eq, retained]
    split
    · obtain ⟨hkept, hbytes⟩ := ih
        { r with kept := r.kept ++ [path.name], retainedBytes := r.retainedBytes + path.size }
      rw [hkept, hbytes, List.length_append, List.length_singleton, List.map_cons, List.map_cons,
        List.sum_cons, List.append_assoc, Nat.add_assoc]
      exact ⟨rfl, rfl⟩
    · exact ih { r with removed := r.removed ++ [path.name] }

theorem mem_rotation_kept {d : Directory} (he : e ∈ d.logs) :
    e.name ∈ (rotation d maxFiles maxTotalBytes).kept ↔ e ∈ keptLogs d maxFiles maxTotalBytes := by
  rw [rotation, (consider_foldl_kept d.candidates {}).1, List.nil_append, List.mem_map]
  constructor
  · rintro ⟨other, hother, hname⟩
    have hmem := mem_logs_candidates.1 (retained_sublist.subset hother)
    rw [← Directory.entry_eq (List.mem_filter.1 hmem).1 (List.mem_filter.1 he).1 hname]
    exact hother
  · exact fun hkept => ⟨e, hkept, rfl⟩

theorem mem_rotation_removed {d : Directory} (he : e ∈ d.logs) :
    e.name ∈ (rotation d maxFiles maxTotalBytes).removed ↔
      e ∉ keptLogs d maxFiles maxTotalBytes := by
  rw [rotation, mem_consider_foldl_removed _ _ candidates_nodup]
  constructor
  · rintro (hnone | ⟨other, hother, hname, hdropped⟩)
    · cases hnone
    · have hmem := mem_logs_candidates.1 hother
      rw [← Directory.entry_eq (List.mem_filter.1 hmem).1 (List.mem_filter.1 he).1 hname]
      exact hdropped
  · exact fun hdropped => .inr ⟨e, mem_logs_candidates.2 he, rfl, hdropped⟩

theorem mem_kept_or_removed {d : Directory} :
    name ∈ (rotation d maxFiles maxTotalBytes).kept ∨
        name ∈ (rotation d maxFiles maxTotalBytes).removed ↔ ∃ e ∈ d.logs, e.name = name := by
  constructor
  · rintro (hkept | hremoved)
    · rw [rotation, (consider_foldl_kept d.candidates {}).1, List.nil_append] at hkept
      obtain ⟨e, he, hname⟩ := List.mem_map.1 hkept
      exact ⟨e, mem_logs_candidates.1 (retained_sublist.subset he), hname⟩
    · rw [rotation, mem_consider_foldl_removed _ _ candidates_nodup] at hremoved
      rcases hremoved with hnone | ⟨e, he, hname, _⟩
      · cases hnone
      · exact ⟨e, mem_logs_candidates.1 he, hname⟩
  · rintro ⟨e, he, rfl⟩
    rw [mem_rotation_kept he, mem_rotation_removed he]
    exact Decidable.em _

/-- The logs that go are the oldest exactly when what stays is the front of the candidates. -/
theorem ordered_iff (d : Directory) :
    (∀ e ∈ d.logs, ∀ other ∈ d.logs, e.name ∈ (rotation d maxFiles maxTotalBytes).kept →
        other.name ∈ (rotation d maxFiles maxTotalBytes).removed → newer e other) ↔
      keptLogs d maxFiles maxTotalBytes <+: d.candidates := by
  rw [keptLogs, sublist_prefix_iff (fun a b hab => not_lt_of_gt hab) (candidates_pairwise d)
    retained_sublist]
  constructor
  · intro h e he other hother hdropped
    have hlog := mem_logs_candidates.1 (retained_sublist.subset he)
    have hotherLog := mem_logs_candidates.1 hother
    apply lt_of_le_of_ne
    · exact h e hlog other hotherLog ((mem_rotation_kept hlog).2 he)
        ((mem_rotation_removed hotherLog).2 hdropped)
    · intro hkey
      apply hdropped
      rw [key_injective (List.mem_filter.1 hotherLog).1 (List.mem_filter.1 hlog).1 hkey]
      exact he
  · intro h e he other hother hkept hremoved
    exact le_of_lt (h e ((mem_rotation_kept he).1 hkept) other (mem_logs_candidates.2 hother)
      ((mem_rotation_removed hother).1 hremoved))

theorem newest_kept {d : Directory} (he : e ∈ d.logs) (hnewest : ∀ other ∈ d.logs, newer e other) :
    e.name ∈ (rotation d maxFiles maxTotalBytes).kept := by
  rw [mem_rotation_kept he, keptLogs]
  have hp := candidates_pairwise d
  have hmem := mem_logs_candidates.2 he
  have hall : ∀ other ∈ d.candidates, newer e other :=
    fun other hother => hnewest other (mem_logs_candidates.1 hother)
  cases hc : d.candidates with
  | nil =>
    rw [hc] at hmem
    cases hmem
  | cons first rest =>
    rw [hc] at hmem hp hall
    rw [retained_cons]
    rcases List.mem_cons.1 hmem with hfirst | hrest
    · rw [hfirst]
      exact List.mem_cons_self
    · have hlt := (List.pairwise_cons.1 hp).1 e hrest
      exact absurd (hall first List.mem_cons_self) (not_le_of_gt hlt)

theorem retainedBytes_kept (d : Directory) :
    (rotation d maxFiles maxTotalBytes).retainedBytes = ((d.logs.filter fun e =>
      e.name ∈ (rotation d maxFiles maxTotalBytes).kept).map DirectoryEntry.size).sum := by
  have hperm : (d.logs.filter fun e => e.name ∈ (rotation d maxFiles maxTotalBytes).kept).Perm
      (keptLogs d maxFiles maxTotalBytes) := by
    apply (List.perm_ext_iff_of_nodup (Directory.logs_nodup.filter _)
      (candidates_nodup.sublist retained_sublist)).2
    intro e
    rw [List.mem_filter, decide_eq_true_eq]
    constructor
    · exact fun ⟨he, hkept⟩ => (mem_rotation_kept he).1 hkept
    · intro hkept
      have he := mem_logs_candidates.1 (retained_sublist.subset hkept)
      exact ⟨he, (mem_rotation_kept he).2 hkept⟩
  rw [(hperm.map DirectoryEntry.size).sum_eq, rotation, (consider_foldl_kept d.candidates {}).2]
  exact Nat.zero_add _

/-- A rotation with usable limits removes the oldest logs exactly when no log fits behind the most
recent one that does not. -/
theorem rotates_oldest_iff (d : Directory) (hfiles : 1 ≤ maxFiles) (hbytes : 1 ≤ maxTotalBytes) :
    ∃ d' r, rotateJsonlLogs d maxFiles maxTotalBytes = .ok (d', r) ∧
      (OldestFirst d d' r ↔
        NoLaterFits DirectoryEntry.size maxFiles maxTotalBytes d.candidates) := by
  refine ⟨_, _, by rw [rotateJsonlLogs, if_neg (Nat.not_lt.2 hfiles),
    if_neg (Nat.not_lt.2 hbytes)], ?_⟩
  rw [← retained_prefix_iff hfiles, ← keptLogs, ← ordered_iff]
  constructor
  · exact fun h => h.ordered
  · intro h
    exact {
      partition := fun name => mem_kept_or_removed
      disjoint := by
        intro name hkept hremoved
        obtain ⟨e, he, rfl⟩ := mem_kept_or_removed.1 (.inl hkept)
        exact (mem_rotation_removed he).1 hremoved ((mem_rotation_kept he).1 hkept)
      unlinked := fun e => by
        rw [rotated, Directory.unlink, List.mem_filter, decide_eq_true_eq]
      newest := fun e => newest_kept
      ordered := h
      bytes := retainedBytes_kept d }

/-- Three logs, of which the middle one is large. -/
def unevenLogs : Directory where
  entries := [⟨"telemetry-1.jsonl", .file, List.replicate 3 0, 1⟩,
    ⟨"telemetry-2.jsonl", .file, List.replicate 8 0, 2⟩,
    ⟨"telemetry-3.jsonl", .file, List.replicate 5 0, 3⟩]
  nodup := by decide

theorem rotates_oldest_iff_uneven : ∃ d' r, rotateJsonlLogs unevenLogs 2 100 = .ok (d', r) ∧
    (OldestFirst unevenLogs d' r ↔
      NoLaterFits DirectoryEntry.size 2 100 unevenLogs.candidates) :=
  rotates_oldest_iff unevenLogs (by decide) (by decide)

/-- With room for ten bytes the middle log goes and the oldest stays. -/
theorem newer_log_removed : ¬∀ d maxFiles maxTotalBytes, 1 ≤ maxFiles → 1 ≤ maxTotalBytes →
    ∃ d' r, rotateJsonlLogs d maxFiles maxTotalBytes = .ok (d', r) ∧ OldestFirst d d' r := by
  intro hclaim
  obtain ⟨d', r, hr, holdest⟩ := hclaim unevenLogs 5 10 (by decide) (by decide)
  have hresult : (rotateJsonlLogs unevenLogs 5 10).map Prod.snd =
      .ok ⟨["telemetry-3.jsonl", "telemetry-1.jsonl"], ["telemetry-2.jsonl"], 8⟩ := by
    decide +kernel
  rw [hr] at hresult
  cases hresult
  have hnewer := holdest.ordered ⟨"telemetry-1.jsonl", .file, List.replicate 3 0, 1⟩
    (by decide +kernel) ⟨"telemetry-2.jsonl", .file, List.replicate 8 0, 2⟩ (by decide +kernel)
    (by decide +kernel) (by decide +kernel)
  revert hnewer
  decide +kernel

end OnboardAutonomy
