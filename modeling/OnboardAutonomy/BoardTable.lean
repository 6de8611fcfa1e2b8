import OnboardAutonomy.BoardTypeCatalog
import Mathlib.Tactic.Ring

namespace OnboardAutonomy
open Chunks Trimming
set_option autoImplicit true

section Lines

/-- Blanks between a name and a number, one of them a space or a tab. -/
def Separates (blanks : List Char) : Prop :=
  (∀ c ∈ blanks, isBlank c = true) ∧ ∃ c ∈ blanks, isSeparator c = true

/-- A line is a name, blanks and a decimal number of a board. -/
def Describes (separates : List Char → Prop) (line : List Char) (row : ParsedLine) : Prop :=
  ∃ text blanks digits value, lineContent line = text ++ (blanks ++ digits) ∧ separates blanks ∧
    digitsValue digits = some value ∧ value ≤ 65535 ∧ row.boardType = .ofNat value ∧
    normalizedName text = (row.name.toList, row.isReserved) ∧ row.name ≠ ""

theorem separator_blank (h : isSeparator c = true) : isBlank c = true := by
  rw [isSeparator, Bool.or_eq_true, decide_eq_true_iff, decide_eq_true_iff] at h
  rcases h with rfl | rfl <;> rfl

theorem digit_not_blank (h : c.isDigit = true) : isBlank c = false := by
  rw [Bool.eq_false_iff]
  intro hc
  simp only [isBlank, Bool.or_eq_true, decide_eq_true_iff] at hc
  rcases hc with ((rfl | rfl) | rfl) | rfl <;> cases h

theorem digit_not_separator (h : c.isDigit = true) : isSeparator c = false := by
  rw [Bool.eq_false_iff]
  intro hc
  have hblank := digit_not_blank h
  rw [separator_blank hc] at hblank
  cases hblank

theorem digits_trimmed (h : ∀ c ∈ digits, c.isDigit = true) : Trimmed isBlank digits := by
  constructor
  · exact fun c hc => digit_not_blank (h c (List.mem_of_mem_head? hc))
  · exact fun c hc => digit_not_blank (h c (List.mem_of_mem_getLast? hc))

theorem normalizedName_trim (text : List Char) :
    normalizedName (trim isBlank text) = normalizedName text := by
  simp only [normalizedName, trim_trim]

theorem normalizedName_append (h : ∀ c ∈ blanks, isBlank c = true) (text : List Char) :
    normalizedName (text ++ blanks) = normalizedName text := by
  simp only [normalizedName, trim_append h]

theorem trimmed_back (h : Trimmed isBlank (front ++ sep :: back)) :
    ∃ blanks, back = blanks ++ trim isBlank back ∧ ∀ c ∈ blanks, isBlank c = true := by
  obtain ⟨l, r, hback, hl, hr, -⟩ := trim_split isBlank back
  cases hlast : r.getLast? with
  | none =>
    rw [List.getLast?_eq_none_iff.1 hlast, List.append_nil] at hback
    exact ⟨l, hback, hl⟩
  | some c =>
    have hc : (front ++ sep :: back).getLast? = some c := by
      rw [hback, List.getLast?_append, List.getLast?_cons, List.getLast?_append,
        List.getLast?_append, hlast]
      rfl
    have hblank := hr c (List.mem_of_mem_getLast? hlast)
    rw [h.2 c hc] at hblank
    cases hblank

theorem parseUnsigned_eq_some_iff : parseUnsigned 32 (String.ofList digits) = some value ↔
    digitsValue digits = some value ∧ value < 2 ^ 32 := by
  rw [parseUnsigned, String.toList_ofList, Option.bind_eq_some_iff]
  constructor
  · rintro ⟨n, hn, hlt⟩
    split at hlt
    · rename_i hless
      cases hlt
      exact ⟨hn, hless⟩
    · cases hlt
  · rintro ⟨hn, hlt⟩
    exact ⟨value, hn, if_pos hlt⟩

theorem Separates.split (h : Separates blanks) :
    ∃ front sep back, blanks = front ++ sep :: back ∧ isSeparator sep = true ∧
      (∀ c ∈ front, isBlank c = true) ∧ (∀ c ∈ back, isBlank c = true) ∧
      ∀ c ∈ back, isSeparator c = false := by
  obtain ⟨hblanks, hsep⟩ := h
  rcases splitLast_cases isSeparator blanks with
    ⟨-, hnone⟩ | ⟨front, sep, back, rfl, hs, hback, -⟩
  · obtain ⟨c, hc, hcsep⟩ := hsep
    rw [hnone c hc] at hcsep
    cases hcsep
  · rw [List.forall_mem_append, List.forall_mem_cons] at hblanks
    obtain ⟨hfront, -, hmiddle⟩ := hblanks
    exact ⟨front, sep, back, rfl, hs, hfront, hmiddle, hback⟩

theorem describes_of_parseLine (h : parseLine line lineNumber = .ok (some row)) :
    Describes Separates line row := by
  rw [parseLine] at h
  dsimp only at h
  split at h
  · cases h
  rename_i hcontent
  rcases splitLast_cases isSeparator (lineContent line) with
    ⟨hsplit, -⟩ | ⟨front, sep, back, hline, hsep, -, hsplit⟩
  · rw [hsplit] at h
    cases h
  rw [hsplit] at h
  dsimp only at h
  split at h
  · cases h
  rename_i value hvalue
  split at h
  · cases h
  rename_i hsmall
  split at h
  · cases h
  rename_i hname
  rw [Except.ok.injEq, Option.some.injEq] at h
  have htrimmed : Trimmed isBlank (lineContent line) := trimmed_trim isBlank _
  rw [hline] at htrimmed
  obtain ⟨blanks, hback, hblanks⟩ := trimmed_back htrimmed
  refine ⟨front, sep :: blanks, trim isBlank back, value, ?_, ?_,
    (parseUnsigned_eq_some_iff.1 hvalue).1, Nat.le_of_not_lt hsmall, ?_, ?_, ?_⟩
  · rw [hline, List.cons_append, ← hback]
  · exact ⟨List.forall_mem_cons.2 ⟨separator_blank hsep, hblanks⟩, sep, List.mem_cons_self, hsep⟩
  · rw [← h]
  · rw [← h, String.toList_ofList, ← normalizedName_trim]
  · rw [← h]
    exact fun he => hname (String.ofList_eq_empty_iff.1 he)

theorem parseLine_of_describes (h : Describes Separates line row) :
    parseLine line lineNumber = .ok (some row) := by
  obtain ⟨text, blanks, digits, value, hline, hseparates, hdigits, hsmall, hid, hname, hne⟩ := h
  obtain ⟨hnil, hall⟩ := digitsValue_digits hdigits
  obtain ⟨front, sep, back, rfl, hs, hfront, hmiddle, hback⟩ := hseparates.split
  have hcontent : lineContent line = text ++ front ++ sep :: (back ++ digits) := by
    rw [hline, List.append_assoc, List.append_assoc, List.cons_append]
  have hlast : ∀ c ∈ back ++ digits, isSeparator c = false := by
    rw [List.forall_mem_append]
    exact ⟨hback, fun c hc => digit_not_separator (hall c hc)⟩
  have hfull : lineContent line ≠ [] := by
    rw [hcontent]
    exact List.append_ne_nil_of_right_ne_nil _ (List.cons_ne_nil _ _)
  have hempty : row.name.toList ≠ [] := fun he => hne (String.toList_eq_nil_iff.1 he)
  rw [parseLine]
  dsimp only
  rw [if_neg hfull, hcontent, splitLast_append hs hlast]
  dsimp only
  rw [trim_prepend hmiddle (digits_trimmed hall),
    parseUnsigned_eq_some_iff.2 ⟨hdigits, by omega⟩]
  dsimp only
  rw [if_neg (Nat.not_lt.2 hsmall), normalizedName_trim, normalizedName_append hfront, hname]
  dsimp only
  rw [if_neg hempty, String.ofList_toList, ← hid]

theorem parseLine_some_iff (line : List Char) (lineNumber : Nat) (row : ParsedLine) :
    parseLine line lineNumber = .ok (some row) ↔ Describes Separates line row :=
  ⟨describes_of_parseLine, parseLine_of_describes⟩

/-- A line gives no row exactly when nothing is left of it. -/
theorem parseLine_none_iff (line : List Char) (lineNumber : Nat) :
    parseLine line lineNumber = .ok none ↔ lineContent line = [] := by
  constructor
  · intro h
    by_contra hcontent
    rw [parseLine] at h
    dsimp only at h
    rw [if_neg hcontent] at h
    repeat' split at h
    all_goals cases h
  · intro h
    rw [parseLine]
    dsimp only
    rw [if_pos h]

end Lines

/-- The rows of some lines: none for a line of which nothing is left. -/
inductive TableRows : List (List Char) → List ParsedLine → Prop where
  | nil : TableRows [] []
  | skip : lineContent line = [] → TableRows lines rows → TableRows (line :: lines) rows
  | row : Describes Separates line row → TableRows lines rows →
    TableRows (line :: lines) (row :: rows)

/-- What the rows of a board say: the first reserved name, or else the first, and every name
once. -/
def matchOf : List ParsedLine → Option BoardTypeMatch
  | [] => none
  | first :: rows => some {
      preferredName := (((first :: rows).find? (·.isReserved)).getD first).name
      aliases := ((first :: rows).map (·.name)).eraseDups }

namespace BoardTypeCatalog

section Folds

/-- The entry that the rows of a board make. -/
def entryOf : List ParsedLine → Option BoardTypeEntry
  | [] => none
  | first :: rows => some {
      preferredName := (((first :: rows).find? (·.isReserved)).getD first).name
      aliases := ((first :: rows).map (·.name)).eraseDups
      preferredIsReserved := (first :: rows).any (·.isReserved) }

theorem eraseDups_concat (names : List String) (name : String) :
    (names ++ [name]).eraseDups =
      if name ∈ names.eraseDups then names.eraseDups else names.eraseDups ++ [name] := by
  rw [List.eraseDups_append, List.removeAll]
  split
  · rename_i h
    rw [List.filter_cons_of_neg (by simpa using List.mem_eraseDups.1 h)]
    exact List.append_nil _
  · rename_i h
    rw [List.mem_eraseDups] at h
    rw [List.filter_cons_of_pos (by simpa using h)]
    rfl

theorem preferred_mem (first : ParsedLine) (rows : List ParsedLine) :
    ((first :: rows).find? (·.isReserved)).getD first ∈ first :: rows := by
  cases hfind : (first :: rows).find? (·.isReserved) with
  | none => exact List.mem_cons_self
  | some r => exact List.mem_of_find?_eq_some hfind

theorem entryOf_concat (h : ∀ r ∈ rows, r.name ≠ "") (row : ParsedLine) :
    entryOf (rows ++ [row]) = some (((entryOf rows).getD {}).add row.name row.isReserved) := by
  cases rows with
  | nil => cases hr : row.isReserved <;> simp [entryOf, BoardTypeEntry.add, hr, List.eraseDups_cons]
  | cons first rows =>
    have hne : (((first :: rows).find? (·.isReserved)).getD first).name ≠ "" :=
      h _ (preferred_mem first rows)
    have hany : (first :: rows).any (·.isReserved) =
        ((first :: rows).find? (·.isReserved)).isSome := by
      rw [Bool.eq_iff_iff, List.find?_isSome, List.any_eq_true]
    have haliases := eraseDups_concat ((first :: rows).map (·.name)) row.name
    rw [List.cons_append, entryOf, entryOf, Option.getD_some, BoardTypeEntry.add, Option.some.injEq,
      BoardTypeEntry.mk.injEq, ← List.cons_append, List.find?_append, List.map_append,
      List.any_append, hany]
    refine ⟨?_, haliases, ?_⟩
    · cases hfind : (first :: rows).find? (·.isReserved) with
      | none =>
        have hfirst : first.name ≠ "" := by rwa [hfind] at hne
        cases hr : row.isReserved <;> simp [hr, hfirst]
      | some r =>
        have hname : r.name ≠ "" := by rwa [hfind] at hne
        simp [hname]
    · cases hfind : (first :: rows).find? (·.isReserved) with
      | none =>
        have hfirst : first.name ≠ "" := by rwa [hfind] at hne
        cases hr : row.isReserved <;> simp [hr, hfirst]
      | some r =>
        have hname : r.name ≠ "" := by rwa [hfind] at hne
        simp [hname]

/-- The entries of a catalog are those that some rows make, and its count is that of the aliases. -/
structure Holds (rows : List ParsedLine) (c : BoardTypeCatalog) : Prop where
  entries : ∀ id, c.entries.lookup id = entryOf (rows.filter (·.boardType = id))
  aliases : c.aliasCount = ∑ id ∈ Finset.range (2 ^ 16), (c.entry (.ofNat id)).aliases.length

theorem holds_empty : Holds [] {} := by
  constructor
  · intro id
    rfl
  · exact (Finset.sum_eq_zero fun id _ => rfl).symm

theorem add_aliases_length (entry : BoardTypeEntry) (name : String) (isReserved : Bool) :
    (entry.add name isReserved).aliases.length =
      entry.aliases.length + if name ∈ entry.aliases then 0 else 1 := by
  have haliases : (entry.add name isReserved).aliases =
      if name ∈ entry.aliases then entry.aliases else entry.aliases ++ [name] := rfl
  rw [haliases]
  split
  · rfl
  · exact List.length_append

theorem entry_add (c : BoardTypeCatalog) (row : ParsedLine) (id : UInt16) :
    (c.add row).entry id =
      if id = row.boardType then (c.entry row.boardType).add row.name row.isReserved
      else c.entry id := by
  rw [entry, BoardTypeCatalog.add]
  by_cases h : id = row.boardType
  · rw [if_pos h, h, AList.lookup_insert]
    rfl
  · rw [if_neg h, AList.lookup_insert_ne h]
    rfl

theorem ofNat_eq_iff (h : n < 2 ^ 16) (id : UInt16) : UInt16.ofNat n = id ↔ n = id.toNat := by
  rw [← UInt16.toNat_inj, UInt16.toNat_ofNat', Nat.mod_eq_of_lt h]

theorem Holds.add (h : Holds rows c) (hnames : ∀ r ∈ rows, r.name ≠ "") (row : ParsedLine) :
    Holds (rows ++ [row]) (c.add row) := by
  constructor
  · intro id
    rw [BoardTypeCatalog.add, List.filter_append]
    by_cases hid : row.boardType = id
    · have hmine : ∀ r ∈ rows.filter (·.boardType = id), r.name ≠ "" :=
        fun r hr => hnames r (List.mem_filter.1 hr).1
      rw [List.filter_cons_of_pos (by simpa using hid), List.filter_nil, entryOf_concat hmine,
        ← h.entries id, ← hid, AList.lookup_insert]
      rfl
    · rw [List.filter_cons_of_neg (by simpa using hid), List.filter_nil, List.append_nil,
        AList.lookup_insert_ne (Ne.symm hid)]
      exact h.entries id
  · have hlength : ∀ id ∈ Finset.range (2 ^ 16), ((c.add row).entry (.ofNat id)).aliases.length =
        (c.entry (.ofNat id)).aliases.length +
          if id = row.boardType.toNat then
            if row.name ∈ (c.entry row.boardType).aliases then 0 else 1
          else 0 := by
      intro id hid
      rw [entry_add]
      by_cases he : UInt16.ofNat id = row.boardType
      · rw [if_pos he, if_pos ((ofNat_eq_iff (Finset.mem_range.1 hid) _).1 he), add_aliases_length,
          he]
      · rw [if_neg he, if_neg (fun hn => he ((ofNat_eq_iff (Finset.mem_range.1 hid) _).2 hn))]
        rfl
    rw [Finset.sum_congr rfl hlength, Finset.sum_add_distrib, ← h.aliases, Finset.sum_ite_eq',
      if_pos (Finset.mem_range.2 row.boardType.toNat_lt), BoardTypeCatalog.add]
    split <;> rfl

theorem addLines_holds (hc : Holds rows c) (hnames : ∀ r ∈ rows, r.name ≠ "")
    (h : c.addLines lineNumber lines = .ok final) :
    ∃ more, TableRows lines more ∧ Holds (rows ++ more) final := by
  induction lines generalizing rows c lineNumber with
  | nil =>
    refine ⟨[], .nil, ?_⟩
    rw [List.append_nil, ← Except.ok.inj h]
    exact hc
  | cons line lines ih =>
    rw [addLines] at h
    split at h
    · cases h
    · rename_i hline
      obtain ⟨more, hmore, hfinal⟩ := ih hc hnames h
      exact ⟨more, .skip ((parseLine_none_iff line _).1 hline) hmore, hfinal⟩
    · rename_i row hline
      have hrow := (parseLine_some_iff line _ row).1 hline
      have hnew : ∀ r ∈ rows ++ [row], r.name ≠ "" := by
        obtain ⟨text, blanks, digits, value, -, -, -, -, -, -, hne⟩ := hrow
        rw [List.forall_mem_append, List.forall_mem_singleton]
        exact ⟨hnames, hne⟩
      obtain ⟨more, hmore, hfinal⟩ := ih (hc.add hnames row) hnew h
      rw [List.append_assoc] at hfinal
      exact ⟨row :: more, .row hrow hmore, hfinal⟩

/-- The lines are refused when one of them is, and only then. -/
theorem addLines_error_iff (c : BoardTypeCatalog) (lineNumber : Nat) (lines : List (List Char)) :
    (∃ what, c.addLines lineNumber lines = .error what) ↔
      ∃ line ∈ lines, lineContent line ≠ [] ∧ ∀ row, ¬Describes Separates line row := by
  induction lines generalizing c lineNumber with
  | nil => exact ⟨fun ⟨_, h⟩ => (by cases h), fun ⟨_, h, _⟩ => (by cases h)⟩
  | cons line lines ih =>
    rw [addLines, List.exists_mem_cons_iff]
    cases hline : parseLine line (lineNumber + 1) with
    | error what =>
      refine ⟨fun _ => .inl ⟨fun hnil => ?_, fun row hrow => ?_⟩, fun _ => ⟨what, rfl⟩⟩
      · rw [(parseLine_none_iff line _).2 hnil] at hline
        cases hline
      · rw [(parseLine_some_iff line _ row).2 hrow] at hline
        cases hline
    | ok parsed =>
      cases parsed with
      | none =>
        dsimp only
        rw [ih, or_iff_right]
        exact fun h => h.1 ((parseLine_none_iff line _).1 hline)
      | some row =>
        dsimp only
        rw [ih, or_iff_right]
        exact fun h => h.2 row ((parseLine_some_iff line _ row).1 hline)

end Folds

end BoardTypeCatalog

/-- A table is refused exactly when a line of it is no row, and otherwise every board has what its
rows say. -/
theorem board_table (text : List Char) :
    ((∃ what, BoardTypeCatalog.fromStream text = .error what) ↔
      ∃ line ∈ pieces '\n' text, lineContent line ≠ [] ∧ ∀ row, ¬Describes Separates line row) ∧
    ∀ catalog, BoardTypeCatalog.fromStream text = .ok catalog →
      ∃ rows, TableRows (pieces '\n' text) rows ∧
        (∀ id, catalog.resolve id = matchOf (rows.filter (·.boardType = id))) ∧
        catalog.aliasCount =
          ∑ id ∈ Finset.range (2 ^ 16),
            ((catalog.resolve (.ofNat id)).elim 0 (·.aliases.length)) := by
  constructor
  · exact BoardTypeCatalog.addLines_error_iff {} 0 (pieces '\n' text)
  · intro catalog h
    obtain ⟨rows, hrows, hholds⟩ :=
      BoardTypeCatalog.addLines_holds BoardTypeCatalog.holds_empty (List.forall_mem_nil _) h
    rw [List.nil_append] at hholds
    refine ⟨rows, hrows, fun id => ?_, ?_⟩
    · rw [BoardTypeCatalog.resolve, hholds.entries id]
      cases rows.filter (·.boardType = id) <;> rfl
    · rw [hholds.aliases]
      apply Finset.sum_congr rfl
      intro id _
      rw [BoardTypeCatalog.entry, BoardTypeCatalog.resolve]
      cases catalog.entries.lookup (.ofNat id) <;> rfl

/-- The table of a board with two names, the second of them reserved. -/
theorem board_table_reserved : ∃ catalog rows,
    BoardTypeCatalog.fromStream "FIRST 9\nReserved \"Friendly\" 9\n".toList = .ok catalog ∧
      TableRows (pieces '\n' "FIRST 9\nReserved \"Friendly\" 9\n".toList) rows ∧
      ∀ id, catalog.resolve id = matchOf (rows.filter (·.boardType = id)) := by
  have hok : (BoardTypeCatalog.fromStream
      "FIRST 9\nReserved \"Friendly\" 9\n".toList).toOption.isSome = true := by
    decide +kernel
  cases hread : BoardTypeCatalog.fromStream "FIRST 9\nReserved \"Friendly\" 9\n".toList with
  | error what =>
    rw [hread] at hok
    cases hok
  | ok catalog =>
    obtain ⟨rows, hrows, hresolve, -⟩ := (board_table _).2 catalog hread
    exact ⟨catalog, rows, rfl, hrows, hresolve⟩

/-- Any blanks, as they are trimmed. -/
def Blanks (blanks : List Char) : Prop := blanks ≠ [] ∧ ∀ c ∈ blanks, isBlank c = true

/-- A carriage return is a blank but does not separate. -/
theorem bare_return_refused :
    (∃ what, BoardTypeCatalog.fromStream "NAME\r9".toList = .error what) ∧
      ∀ line ∈ pieces '\n' "NAME\r9".toList, ∃ row, Describes Blanks line row := by
  constructor
  · have hbad : (BoardTypeCatalog.fromStream "NAME\r9".toList).toOption.isNone = true := by
      decide +kernel
    cases hread : BoardTypeCatalog.fromStream "NAME\r9".toList with
    | error what => exact ⟨what, rfl⟩
    | ok catalog =>
      rw [hread] at hbad
      cases hbad
  · intro line hline
    have hpieces : pieces '\n' "NAME\r9".toList = ["NAME\r9".toList] := by decide +kernel
    rw [hpieces, List.mem_singleton] at hline
    refine ⟨⟨9, "NAME", false⟩, "NAME".toList, ['\r'], ['9'], 9, ?_, ?_, ?_, ?_, ?_, ?_, ?_⟩
    · rw [hline]
      decide +kernel
    · exact ⟨List.cons_ne_nil _ _, List.forall_mem_singleton.2 rfl⟩
    all_goals decide +kernel

end OnboardAutonomy
