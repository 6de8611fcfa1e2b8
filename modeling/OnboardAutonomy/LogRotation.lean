import OnboardAutonomy.Retention
import OnboardAutonomy.DecimalText
import Mathlib.Data.Prod.Lex
import Mathlib.Data.String.Basic
import Mathlib.Data.List.Sort

namespace OnboardAutonomy
open DecimalText Retention
set_option autoImplicit true

abbrev Bytes := List UInt8

inductive EntryKind where
  | file
  | symlink
  | other
deriving DecidableEq

structure DirectoryEntry where
  name : String
  kind : EntryKind := .file
  data : Bytes := []
  mtime : Int
deriving DecidableEq

def DirectoryEntry.size (e : DirectoryEntry) : Nat := e.data.length

/-- `glob("telemetry-*.jsonl")`. -/
def matchesLog (name : String) : Bool :=
  "telemetry-".toList.isPrefixOf name.toList && ".jsonl".toList.isSuffixOf name.toList

/-- A regular file that rotation looks at. -/
def DirectoryEntry.isLog (e : DirectoryEntry) : Bool := e.kind = .file && matchesLog e.name

def DirectoryEntry.key (e : DirectoryEntry) : ℤ ×ₗ String := toLex (e.mtime, e.name)

/-- The order of rotation, from the most recent entry. -/
def newer (a b : DirectoryEntry) : Prop := b.key ≤ a.key

instance : DecidableRel newer := fun a b => inferInstanceAs (Decidable (b.key ≤ a.key))

instance : Std.Total newer := ⟨fun a b => le_total b.key a.key⟩

instance : IsTrans DirectoryEntry newer := ⟨fun _ _ _ hab hbc => hbc.trans hab⟩

/-- The content of a directory, each name in it once. -/
structure Directory where
  entries : List DirectoryEntry
  nodup : (entries.map DirectoryEntry.name).Nodup

namespace Directory

def names (d : Directory) : List String := d.entries.map DirectoryEntry.name

def logs (d : Directory) : List DirectoryEntry := d.entries.filter DirectoryEntry.isLog

def candidates (d : Directory) : List DirectoryEntry := d.logs.insertionSort newer

/-- `path.unlink()` for several paths. -/
def unlink (d : Directory) (removed : List String) : Directory where
  entries := d.entries.filter fun e => e.name ∉ removed
  nodup := d.nodup.sublist (List.filter_sublist.map _)

/-- `path.open("xb")` for a name that is not there. -/
def create (d : Directory) (name : String) (mtime : Int) (fresh : name ∉ d.names) :
    Directory where
  entries := { name := name, mtime := mtime } :: d.entries
  nodup := List.nodup_cons.mpr ⟨fresh, d.nodup⟩

/-- What is written to an open file, seen in the directory while the file is still there. -/
def append (d : Directory) (name : String) (payload : Bytes) (mtime : Int) : Directory where
  entries := d.entries.map fun e =>
    if e.name = name then { e with data := e.data ++ payload, mtime := mtime } else e
  nodup := by
    have hname : (d.entries.map fun e =>
        if e.name = name then { e with data := e.data ++ payload, mtime := mtime } else e).map
          DirectoryEntry.name = d.names := by
      rw [List.map_map]
      refine List.map_congr_left fun e _ => ?_
      simp only [Function.comp_apply]
      split <;> rfl
    rw [hname]
    exact d.nodup

end Directory

structure RotationResult where
  kept : List String := []
  removed : List String := []
  retainedBytes : Nat := 0
deriving DecidableEq

/-- What is done with one candidate. -/
def RotationResult.consider (maxFiles maxTotalBytes : Nat) (r : RotationResult)
    (path : DirectoryEntry) : RotationResult :=
  let keepNewest := r.kept.isEmpty
  let withinCount := decide (r.kept.length < maxFiles)
  let withinBytes := decide (r.retainedBytes + path.size ≤ maxTotalBytes)
  if keepNewest || (withinCount && withinBytes) then
    { r with kept := r.kept ++ [path.name], retainedBytes := r.retainedBytes + path.size }
  else { r with removed := r.removed ++ [path.name] }

def rotation (d : Directory) (maxFiles maxTotalBytes : Nat) : RotationResult :=
  d.candidates.foldl (RotationResult.consider maxFiles maxTotalBytes) {}

/-- The directory after a rotation. -/
def rotated (d : Directory) (maxFiles maxTotalBytes : Nat) : Directory :=
  d.unlink (rotation d maxFiles maxTotalBytes).removed

def rotateJsonlLogs (d : Directory) (maxFiles maxTotalBytes : Nat) :
    Except String (Directory × RotationResult) :=
  if maxFiles < 1 then .error "max_files must be at least 1"
  else if maxTotalBytes < 1 then .error "max_total_bytes must be at least 1"
  else .ok (rotated d maxFiles maxTotalBytes, rotation d maxFiles maxTotalBytes)

/-- The name of the file a stream opens with a sequence number. -/
def logName (stem : String) (sequence : Nat) : String :=
  stem ++ (if sequence = 0 then "" else "-" ++ padLeft 3 (toString sequence)) ++ ".jsonl"

/-- The first number from one on whose name is not taken, within so many tries. -/
def freeSequence (d : Directory) (stem : String) : Nat → Nat → Nat
  | 0, sequence => sequence
  | tries + 1, sequence =>
    if logName stem sequence ∈ d.names then freeSequence d stem tries (sequence + 1) else sequence

theorem padLeft_injective {m n : Nat}
    (h : padLeft width (toString m) = padLeft width (toString n)) : m = n := by
  have hvalue (n : Nat) :
      Nat.ofDigitChars 10 (padLeft width (toString n)).toList 0 = n := by
    rw [padLeft, String.toList_append, String.toList_ofList, Nat.ofDigitChars_append,
      Nat.ofDigitChars_replicate_zero, Nat.mul_zero, Nat.toString_eq_repr, Nat.toList_repr,
      Nat.ofDigitChars_ten_toDigits]
  rw [← hvalue m, h, hvalue n]

theorem dash_ne (text : String) : "-" ++ text ≠ "" := by
  intro h
  have hlist := congrArg String.toList h
  rw [String.toList_append] at hlist
  cases hlist

theorem logName_injective (h : logName stem m = logName stem n) : m = n := by
  have h' := (String.append_right_inj _).mp ((String.append_left_inj _).mp h)
  by_cases hm : m = 0 <;> by_cases hn : n = 0
  · rw [hm, hn]
  · rw [if_pos hm, if_neg hn] at h'
    exact absurd h'.symm (dash_ne _)
  · rw [if_neg hm, if_pos hn] at h'
    exact absurd h' (dash_ne _)
  · rw [if_neg hm, if_neg hn] at h'
    exact padLeft_injective ((String.append_right_inj _).mp h')

theorem freeSequence_ge {sequence : Nat} : sequence ≤ freeSequence d stem tries sequence := by
  induction tries generalizing sequence with
  | zero => exact Nat.le.refl
  | succ tries ih =>
    rw [freeSequence]
    split
    · exact Nat.le_of_succ_le ih
    · exact Nat.le.refl

theorem freeSequence_taken {sequence : Nat}
    (h : logName stem (freeSequence d stem tries sequence) ∈ d.names) :
    ∀ i ≤ tries, logName stem (sequence + i) ∈ d.names := by
  induction tries generalizing sequence with
  | zero =>
    intro i hi
    obtain rfl : i = 0 := by omega
    exact h
  | succ tries ih =>
    rw [freeSequence] at h
    split at h
    · rename_i htaken
      intro i hi
      cases i with
      | zero => exact htaken
      | succ i =>
        rw [Nat.add_comm i, ← Nat.add_assoc]
        exact ih h i (by omega)
    · rename_i hfree
      exact absurd h hfree

/-- There are not as many entries as tries. -/
theorem freeSequence_free {sequence : Nat} :
    logName stem (freeSequence d stem d.entries.length sequence) ∉ d.names := by
  intro htaken
  have hall := freeSequence_taken htaken
  have hnodup : ((List.range (d.entries.length + 1)).map fun i =>
      logName stem (sequence + i)).Nodup :=
    List.nodup_range.map fun i j hij => by have := logName_injective hij; omega
  have hsubset : ((List.range (d.entries.length + 1)).map fun i =>
      logName stem (sequence + i)) ⊆ d.names := by
    intro name hname
    obtain ⟨i, hi, rfl⟩ := List.mem_map.mp hname
    exact hall i (Nat.le_of_lt_succ (List.mem_range.mp hi))
  have hlength := (List.subperm_of_subset hnodup hsubset).length_le
  rw [List.length_map, List.length_range, Directory.names, List.length_map] at hlength
  omega

/-- The logs a rotation keeps, from the most recent one. -/
def keptLogs (d : Directory) (maxFiles maxTotalBytes : Nat) : List DirectoryEntry :=
  retained DirectoryEntry.size maxFiles maxTotalBytes 0 0 d.candidates

theorem consider_eq : RotationResult.consider maxFiles maxTotalBytes r path =
    if r.kept.length = 0 ∨
        (r.kept.length < maxFiles ∧ r.retainedBytes + path.size ≤ maxTotalBytes) then
      { r with kept := r.kept ++ [path.name], retainedBytes := r.retainedBytes + path.size }
    else { r with removed := r.removed ++ [path.name] } := by
  simp only [RotationResult.consider, Bool.or_eq_true, Bool.and_eq_true, decide_eq_true_eq,
    List.isEmpty_iff_length_eq_zero]

theorem mem_consider_foldl_removed (paths : List DirectoryEntry) (r : RotationResult)
    (hnodup : paths.Nodup) :
    name ∈ (paths.foldl (RotationResult.consider maxFiles maxTotalBytes) r).removed ↔
      name ∈ r.removed ∨ ∃ path ∈ paths, path.name = name ∧
        path ∉ retained DirectoryEntry.size maxFiles maxTotalBytes r.kept.length
          r.retainedBytes paths := by
  induction paths generalizing r with
  | nil => simp
  | cons path paths ih =>
    obtain ⟨hpath, hnodup⟩ := List.nodup_cons.mp hnodup
    rw [List.foldl_cons, ih _ hnodup, retained, consider_eq]
    split
    · rename_i hroom
      have hother (other) (hother : other ∈ paths) : other ≠ path :=
        fun h => hpath (h ▸ hother)
      simp only [List.length_append, List.length_singleton, List.mem_cons]
      constructor
      · rintro (hremoved | ⟨other, hmem, hname, hdropped⟩)
        · exact .inl hremoved
        · exact .inr ⟨other, .inr hmem, hname, fun h =>
            hdropped (h.resolve_left (hother other hmem))⟩
      · rintro (hremoved | ⟨other, rfl | hmem, hname, hdropped⟩)
        · exact .inl hremoved
        · exact absurd (.inl rfl) hdropped
        · exact .inr ⟨other, hmem, hname, fun h => hdropped (.inr h)⟩
    · simp only [List.mem_append, List.mem_cons, List.not_mem_nil, or_false]
      constructor
      · rintro ((hremoved | rfl) | ⟨other, hmem, hname, hdropped⟩)
        · exact .inl hremoved
        · exact .inr ⟨path, .inl rfl, rfl, fun h => hpath (retained_sublist.subset h)⟩
        · exact .inr ⟨other, .inr hmem, hname, hdropped⟩
      · rintro (hremoved | ⟨other, rfl | hmem, rfl, hdropped⟩)
        · exact .inl (.inl hremoved)
        · exact .inl (.inr rfl)
        · exact .inr ⟨other, hmem, rfl, hdropped⟩

theorem Directory.entry_eq {d : Directory} (ha : a ∈ d.entries) (hb : b ∈ d.entries)
    (hname : a.name = b.name) : a = b :=
  List.inj_on_of_nodup_map d.nodup ha hb hname

theorem Directory.mem_append {d : Directory} : e ∈ (d.append name payload mtime).entries ↔
    (e ∈ d.entries ∧ e.name ≠ name) ∨ ∃ old ∈ d.entries, old.name = name ∧
      e = { old with data := old.data ++ payload, mtime := mtime } := by
  rw [append, List.mem_map]
  constructor
  · rintro ⟨old, hold, rfl⟩
    by_cases hname : old.name = name
    · rw [if_pos hname]
      exact .inr ⟨old, hold, hname, rfl⟩
    · rw [if_neg hname]
      exact .inl ⟨hold, hname⟩
  · rintro (⟨hmem, hname⟩ | ⟨old, hold, hname, rfl⟩)
    · exact ⟨e, hmem, if_neg hname⟩
    · exact ⟨old, hold, if_pos hname⟩

theorem mem_candidates {d : Directory} : e ∈ d.candidates ↔ e ∈ d.entries ∧ e.isLog = true := by
  rw [Directory.candidates, List.mem_insertionSort, Directory.logs, List.mem_filter]

theorem Directory.logs_nodup {d : Directory} : d.logs.Nodup :=
  (List.Nodup.of_map _ d.nodup).filter _

theorem candidates_nodup {d : Directory} : d.candidates.Nodup :=
  (List.perm_insertionSort newer d.logs).nodup_iff.mpr d.logs_nodup

/-- Rotation removes the logs it does not keep, and nothing else. -/
theorem mem_rotated {d : Directory} : e ∈ (rotated d maxFiles maxTotalBytes).entries ↔
    e ∈ d.entries ∧ (e.isLog = true → e ∈ keptLogs d maxFiles maxTotalBytes) := by
  rw [rotated, Directory.unlink, List.mem_filter, decide_eq_true_eq, rotation,
    mem_consider_foldl_removed _ _ candidates_nodup]
  refine and_congr_right fun hmem => ?_
  constructor
  · intro hkept hlog
    by_contra hdropped
    exact hkept (.inr ⟨e, mem_candidates.mpr ⟨hmem, hlog⟩, rfl, hdropped⟩)
  · rintro hkept (hremoved | ⟨path, hpath, hname, hdropped⟩)
    · cases hremoved
    · obtain ⟨hpath, hlog⟩ := mem_candidates.mp hpath
      obtain rfl := Directory.entry_eq hpath hmem hname
      exact hdropped (hkept hlog)

theorem rotated_logs_perm {d : Directory} :
    (rotated d maxFiles maxTotalBytes).logs.Perm (keptLogs d maxFiles maxTotalBytes) := by
  refine (List.perm_ext_iff_of_nodup Directory.logs_nodup
    (candidates_nodup.sublist retained_sublist)).mpr fun e => ?_
  rw [Directory.logs, List.mem_filter, mem_rotated]
  constructor
  · exact fun ⟨⟨_, hkept⟩, hlog⟩ => hkept hlog
  · intro hkept
    obtain ⟨hmem, hlog⟩ := mem_candidates.mp (retained_sublist.subset hkept)
    exact ⟨⟨hmem, fun _ => hkept⟩, hlog⟩

/-- The logs of a directory are within the limits, or there is one log only. -/
def Directory.Bounded (d : Directory) (maxFiles maxTotalBytes : Nat) : Prop :=
  Retention.Bounded DirectoryEntry.size maxFiles maxTotalBytes d.logs

theorem rotated_bounded {d : Directory} (h : 1 ≤ maxFiles) :
    (rotated d maxFiles maxTotalBytes).Bounded maxFiles maxTotalBytes :=
  (retained_bounded h).perm rotated_logs_perm

end OnboardAutonomy
