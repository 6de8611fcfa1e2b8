import OnboardAutonomy.CommandLine
import Mathlib.Data.List.TakeWhile
import Mathlib.Data.List.Infix

namespace OnboardAutonomy
set_option autoImplicit true

def kFrameWallClockKey : List Char := "\"FrameWallClock\"".toList

/-- The text behind the first place in a line where another text stands. -/
def textAfter (text : List Char) : List Char → Option (List Char)
  | [] => if text = [] then some [] else none
  | c :: line => if text <+: c :: line then some ((c :: line).drop text.length)
    else textAfter text line

/-- The first run of digits. -/
def firstNumber (text : List Char) : List Char :=
  (text.dropWhile fun c => !c.isDigit).takeWhile Char.isDigit

/-- `std::from_chars` for a signed 64-bit type, over a text without a sign. -/
def parseTimestamp (digits : List Char) : Option Int :=
  (digitsValue digits).bind fun value => if value < 2 ^ 63 then some (value : Int) else none

def parseRpicamFrameWallClockNs (line : List Char) : Option Int :=
  match textAfter kFrameWallClockKey line with
  | none => none
  | some afterKey =>
    match textAfter [':'] afterKey with
    | none => none
    | some afterColon => parseTimestamp (firstNumber afterColon)

example : parseRpicamFrameWallClockNs "    \"FrameWallClock\": 1785440325818936064,".toList =
    some 1785440325818936064 := by decide +kernel

def Blank (c : Char) : Prop := c = ' ' ∨ c = '\t'

/-- A number ends with the line, or in front of a blank, a comma or a brace. -/
def Delimited (rest : List Char) : Prop := ∀ c ∈ rest.head?, Blank c ∨ c = ',' ∨ c = '}'

/-- The key stands at a place of a line and at no place before. -/
def FirstKey (line before afterKey : List Char) : Prop :=
  line = before ++ kFrameWallClockKey ++ afterKey ∧
    ¬kFrameWallClockKey <:+: (before ++ kFrameWallClockKey).dropLast

/-- The value of the key is a decimal integer of 63 bits. -/
def FrameWallClock (line : List Char) (value : Nat) : Prop :=
  ∃ before gap blanks digits rest,
    FirstKey line before (gap ++ ':' :: (blanks ++ digits ++ rest)) ∧
    (∀ c ∈ gap ++ blanks, Blank c) ∧ digitsValue digits = some value ∧ value < 2 ^ 63 ∧
    Delimited rest

/-- The first number behind the first colon behind the key, if it has 63 bits, and the texts
around it. -/
def FirstNumber (line gap skipped rest : List Char) (value : Nat) : Prop :=
  ∃ before digits, FirstKey line before (gap ++ ':' :: (skipped ++ digits ++ rest)) ∧
    ':' ∉ gap ∧ (∀ c ∈ skipped, c.isDigit = false) ∧ (∀ c ∈ rest.head?, c.isDigit = false) ∧
    digitsValue digits = some value ∧ value < 2 ^ 63

/-- No number is found behind the key but its own value. -/
def NoForeignNumber (line : List Char) : Prop :=
  ∀ gap skipped rest value, FirstNumber line gap skipped rest value →
    (∀ c ∈ gap ++ skipped, Blank c) ∧ Delimited rest

theorem prefix_dropLast {text : List Char} (hp : text <+: before ++ text ++ rest)
    (hb : before ≠ []) : text <+: (before ++ text).dropLast := by
  have hlength := List.length_pos_of_ne_nil hb
  have hfront : text = (before ++ text ++ rest).take text.length := List.prefix_iff_eq_take.1 hp
  rw [List.prefix_iff_eq_take, List.dropLast_eq_take, List.take_take,
    Nat.min_eq_left (by rw [List.length_append]; omega)]
  rwa [List.append_assoc, ← List.append_assoc,
    List.take_append_of_le_length (by rw [List.length_append]; omega)] at hfront

theorem textAfter_eq_some_iff (hne : text ≠ []) : textAfter text line = some rest ↔
    ∃ before, line = before ++ text ++ rest ∧ ¬text <:+: (before ++ text).dropLast := by
  induction line with
  | nil =>
    rw [textAfter, if_neg hne]
    refine ⟨fun h => (by cases h), ?_⟩
    rintro ⟨before, hline, -⟩
    rw [List.nil_eq_append_iff, List.append_eq_nil_iff] at hline
    exact absurd hline.1.2 hne
  | cons c line ih =>
    rw [textAfter]
    split
    · rename_i hp
      rw [Option.some.injEq]
      constructor
      · rintro rfl
        refine ⟨[], (List.prefix_iff_eq_append.1 hp).symm, fun hi => ?_⟩
        have hlength := hi.length_le
        have hpos := List.length_pos_of_ne_nil hne
        rw [List.nil_append, List.length_dropLast] at hlength
        omega
      · rintro ⟨before, hline, hnot⟩
        by_cases hb : before = []
        · rw [hline, hb, List.nil_append, List.drop_left]
        · rw [hline] at hp
          exact absurd (prefix_dropLast hp hb).isInfix hnot
    · rename_i hp
      rw [ih]
      constructor
      · rintro ⟨before, rfl, hnot⟩
        refine ⟨c :: before, rfl, ?_⟩
        rw [List.cons_append, List.dropLast_cons_of_ne_nil (by simp [hne]), List.infix_cons_iff,
          not_or]
        refine ⟨fun hi => hp (hi.trans ?_), hnot⟩
        rw [List.cons_prefix_cons, List.append_assoc, ← List.append_assoc]
        exact ⟨rfl, (List.dropLast_prefix _).trans (List.prefix_append _ _)⟩
      · rintro ⟨before, hline, hnot⟩
        cases before with
        | nil =>
          rw [List.nil_append] at hline
          rw [hline] at hp
          exact absurd (List.prefix_append text rest) hp
        | cons b before =>
          obtain ⟨rfl, htail⟩ := List.cons.inj hline
          refine ⟨before, htail, fun hi => hnot ?_⟩
          rw [List.cons_append, List.dropLast_cons_of_ne_nil (by simp [hne]), List.infix_cons_iff]
          exact .inr hi

theorem textAfter_key_iff : textAfter kFrameWallClockKey line = some afterKey ↔
    ∃ before, FirstKey line before afterKey :=
  textAfter_eq_some_iff (by decide)

theorem textAfter_colon_iff : textAfter [':'] text = some rest ↔
    ∃ gap, text = gap ++ ':' :: rest ∧ ':' ∉ gap := by
  rw [textAfter_eq_some_iff (List.cons_ne_nil _ _)]
  simp only [List.append_assoc, List.singleton_append, List.dropLast_concat,
    List.singleton_infix_iff]

theorem textAfter_colon (h : ':' ∉ gap) (rest : List Char) :
    textAfter [':'] (gap ++ ':' :: rest) = some rest :=
  textAfter_colon_iff.2 ⟨gap, rfl, h⟩

theorem takeWhile_eq_of_head {p : Char → Bool} {front rest : List Char}
    (hfront : ∀ c ∈ front, p c = true)
    (hrest : ∀ c ∈ rest.head?, p c = false) :
    (front ++ rest).takeWhile p = front ∧ (front ++ rest).dropWhile p = rest := by
  rw [List.takeWhile_append_of_pos hfront, List.dropWhile_append_of_pos hfront]
  cases rest with
  | nil => exact ⟨List.append_nil front, rfl⟩
  | cons c rest =>
    have hc : ¬p c = true := by
      rw [hrest c rfl]
      exact Bool.false_ne_true
    rw [List.takeWhile_cons_of_neg hc, List.dropWhile_cons_of_neg hc]
    exact ⟨List.append_nil front, rfl⟩

theorem firstNumber_split (text : List Char) : ∃ skipped rest,
    text = skipped ++ firstNumber text ++ rest ∧ (∀ c ∈ skipped, c.isDigit = false) ∧
      ∀ c ∈ rest.head?, c.isDigit = false := by
  refine ⟨text.takeWhile fun c => !c.isDigit,
    (text.dropWhile fun c => !c.isDigit).dropWhile Char.isDigit, ?_, ?_, ?_⟩
  · rw [firstNumber, List.append_assoc, List.takeWhile_append_dropWhile,
      List.takeWhile_append_dropWhile]
  · intro c hc
    have hdigit := List.mem_takeWhile_imp hc
    rwa [Bool.not_eq_true'] at hdigit
  · intro c hc
    have hhead := List.head?_dropWhile_not Char.isDigit
      (text.dropWhile fun c => !c.isDigit)
    rw [Option.mem_def.1 hc] at hhead
    exact hhead

theorem firstNumber_eq (hskipped : ∀ c ∈ skipped, c.isDigit = false)
    (hrest : ∀ c ∈ rest.head?, c.isDigit = false) (hdigits : digitsValue digits = some value) :
    (skipped ++ (digits ++ rest)).takeWhile (fun c => !c.isDigit) = skipped ∧
      firstNumber (skipped ++ (digits ++ rest)) = digits := by
  obtain ⟨hne, hall⟩ := digitsValue_digits hdigits
  have hhead : ∀ c ∈ (digits ++ rest).head?, (!c.isDigit) = false := by
    intro c hc
    rw [List.head?_append_of_ne_nil _ hne] at hc
    rw [hall c (List.mem_of_mem_head? hc)]
    rfl
  have hfront : ∀ c ∈ skipped, (!c.isDigit) = true := by
    intro c hc
    rw [hskipped c hc]
    rfl
  obtain ⟨htake, hdrop⟩ := takeWhile_eq_of_head hfront hhead
  rw [firstNumber, htake, hdrop]
  exact ⟨rfl, (takeWhile_eq_of_head hall hrest).1⟩

theorem parseTimestamp_eq_some_iff : parseTimestamp digits = some n ↔
    ∃ value, digitsValue digits = some value ∧ value < 2 ^ 63 ∧ (value : Int) = n := by
  rw [parseTimestamp, Option.bind_eq_some_iff]
  refine exists_congr fun value => and_congr_right fun _ => ?_
  split
  · rename_i h
    rw [Option.some.injEq, and_iff_right h]
  · rename_i h
    exact ⟨fun hn => (by cases hn), fun hn => absurd hn.1 h⟩

/-- What is returned is the first number behind the first colon behind the key. -/
theorem parse_eq_some_iff (line : List Char) (n : Int) :
    parseRpicamFrameWallClockNs line = some n ↔
      ∃ gap skipped rest value, FirstNumber line gap skipped rest value ∧ (value : Int) = n := by
  constructor
  · intro h
    rw [parseRpicamFrameWallClockNs] at h
    split at h
    · cases h
    rename_i afterKey hkey
    split at h
    · cases h
    rename_i afterColon hcolon
    obtain ⟨before, hbefore⟩ := textAfter_key_iff.1 hkey
    obtain ⟨gap, hgap, hnot⟩ := textAfter_colon_iff.1 hcolon
    obtain ⟨value, hvalue, hlt, hn⟩ := parseTimestamp_eq_some_iff.1 h
    obtain ⟨skipped, rest, hsplit, hskipped, hrest⟩ := firstNumber_split afterColon
    rw [hgap] at hbefore
    rw [hsplit] at hbefore
    exact ⟨gap, skipped, rest, value,
      ⟨before, firstNumber afterColon, hbefore, hnot, hskipped, hrest, hvalue, hlt⟩, hn⟩
  · rintro ⟨gap, skipped, rest, value, ⟨before, digits, hkey, hgap, hskipped, hrest, hvalue, hlt⟩,
      hn⟩
    have hfirst := (firstNumber_eq hskipped hrest hvalue).2
    rw [parseRpicamFrameWallClockNs, textAfter_key_iff.2 ⟨before, hkey⟩]
    dsimp only
    rw [textAfter_colon hgap]
    dsimp only
    rw [List.append_assoc, hfirst]
    exact parseTimestamp_eq_some_iff.2 ⟨value, hvalue, hlt, hn⟩

theorem FirstNumber.unique (h : FirstNumber line gap skipped rest value)
    (h' : FirstNumber line gap' skipped' rest' value') :
    gap = gap' ∧ skipped = skipped' ∧ rest = rest' ∧ value = value' := by
  obtain ⟨before, digits, hkey, hgap, hskipped, hrest, hvalue, -⟩ := h
  obtain ⟨before', digits', hkey', hgap', hskipped', hrest', hvalue', -⟩ := h'
  have hafter := (textAfter_key_iff.2 ⟨before, hkey⟩).symm.trans
    (textAfter_key_iff.2 ⟨before', hkey'⟩)
  rw [Option.some.injEq] at hafter
  have hcolon := textAfter_colon hgap (skipped ++ digits ++ rest)
  rw [hafter, textAfter_colon hgap', Option.some.injEq, List.append_assoc,
    List.append_assoc] at hcolon
  obtain ⟨hs, hd⟩ := firstNumber_eq hskipped hrest hvalue
  obtain ⟨hs', hd'⟩ := firstNumber_eq hskipped' hrest' hvalue'
  rw [← hcolon] at hs hd
  have heqs := hs.symm.trans hs'
  have heqd := hd.symm.trans hd'
  rw [heqs, heqd, List.append_cancel_left_eq, List.append_cancel_left_eq] at hcolon
  rw [heqd, hvalue', Option.some.injEq] at hvalue
  refine ⟨?_, heqs, hcolon.symm, hvalue.symm⟩
  rw [heqs, heqd, hcolon] at hafter
  exact List.append_cancel_right hafter

theorem Blank.not_digit (h : Blank c) : c.isDigit = false := by
  rcases h with rfl | rfl <;> decide

theorem Delimited.not_digit (h : Delimited rest) : ∀ c ∈ rest.head?, c.isDigit = false := by
  intro c hc
  rcases h c hc with hblank | rfl | rfl
  · exact hblank.not_digit
  · decide
  · decide

/-- The value of the key is the first number behind it, with nothing but blanks in front of it. -/
theorem frameWallClock_iff (line : List Char) (value : Nat) : FrameWallClock line value ↔
    ∃ gap skipped rest, FirstNumber line gap skipped rest value ∧
      (∀ c ∈ gap ++ skipped, Blank c) ∧ Delimited rest := by
  constructor
  · rintro ⟨before, gap, blanks, digits, rest, hkey, hblank, hvalue, hlt, hrest⟩
    refine ⟨gap, blanks, rest, ⟨before, digits, hkey, fun hc => ?_, fun c hc => ?_, hrest.not_digit,
      hvalue, hlt⟩, hblank, hrest⟩
    · rcases hblank ':' (List.mem_append_left _ hc) with h | h <;> cases h
    · exact (hblank c (List.mem_append_right _ hc)).not_digit
  · rintro ⟨gap, skipped, rest, ⟨before, digits, hkey, -, -, -, hvalue, hlt⟩, hblank, hrest⟩
    exact ⟨before, gap, skipped, digits, rest, hkey, hblank, hvalue, hlt, hrest⟩

/-- A line gives the value of its key and no other number exactly when no foreign number is found
behind the key. -/
theorem parse_iff_value (line : List Char) :
    (∀ n, parseRpicamFrameWallClockNs line = some n ↔
      ∃ value : Nat, FrameWallClock line value ∧ (value : Int) = n) ↔ NoForeignNumber line := by
  constructor
  · intro h gap skipped rest value hfirst
    have hparse := (parse_eq_some_iff line value).2 ⟨gap, skipped, rest, value, hfirst, rfl⟩
    obtain ⟨value', hclock, -⟩ := (h value).1 hparse
    obtain ⟨gap', skipped', rest', hfirst', hblank, hrest⟩ :=
      (frameWallClock_iff line value').1 hclock
    obtain ⟨rfl, rfl, rfl, -⟩ := hfirst.unique hfirst'
    exact ⟨hblank, hrest⟩
  · intro h n
    rw [parse_eq_some_iff]
    constructor
    · rintro ⟨gap, skipped, rest, value, hfirst, hn⟩
      have hvalue := (frameWallClock_iff line value).2
        ⟨gap, skipped, rest, hfirst, h gap skipped rest value hfirst⟩
      exact ⟨value, hvalue, hn⟩
    · rintro ⟨value, hclock, hn⟩
      obtain ⟨gap, skipped, rest, hfirst, -⟩ := (frameWallClock_iff line value).1 hclock
      exact ⟨gap, skipped, rest, value, hfirst, hn⟩

/-- A line whose key has no value and that has a number of another key behind it. -/
def nullClockLine : List Char :=
  "\"FrameWallClock\": null, \"SensorTimestamp\": 413528965000".toList

theorem sensor_timestamp_taken :
    ¬∀ n, parseRpicamFrameWallClockNs nullClockLine = some n ↔
      ∃ value : Nat, FrameWallClock nullClockLine value ∧ (value : Int) = n := by
  intro h
  have hparse : parseRpicamFrameWallClockNs nullClockLine = some 413528965000 := by
    decide +kernel
  obtain ⟨value, hclock, -⟩ := (h 413528965000).1 hparse
  obtain ⟨gap, skipped, rest, hfirst, hblank, -⟩ := (frameWallClock_iff _ value).1 hclock
  have hread :
      FirstNumber nullClockLine [] " null, \"SensorTimestamp\": ".toList [] 413528965000 := by
    have hskipped : " null, \"SensorTimestamp\": ".toList.all (fun c => !c.isDigit) = true := by
      decide
    refine ⟨[], "413528965000".toList, ⟨rfl, by decide⟩, by decide, ?_, nofun, by decide,
      by decide⟩
    intro c hc
    have hdigit := List.all_eq_true.1 hskipped c hc
    rwa [Bool.not_eq_true'] at hdigit
  obtain ⟨rfl, rfl, rfl, -⟩ := hfirst.unique hread
  rcases hblank 'n' (by decide) with hc | hc <;> cases hc

end OnboardAutonomy
